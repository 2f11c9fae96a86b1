import Munch.Parser.Error
import Munch.Proofs.Parts

namespace Munch

namespace Stream

/-- The text `u` stands at `s`, and `t` is the place after it. -/
structure Reads (s : Stream) (u : Text) (t : Stream) : Prop where
  source : t.source = s.source
  rest : s.rest = u ++ t.rest
  offset : t.offset = s.offset + Text.byteLength u

variable {s t r : Stream} {u v : Text} {c : Char}

theorem Reads.refl (s : Stream) : s.Reads [] s := ⟨rfl, rfl, rfl⟩

theorem reads_nil_iff : s.Reads [] t ↔ t = s := by
  constructor
  · intro h
    exact ext h.source h.offset
  · intro h
    rw [h]
    exact .refl s

theorem reads_singleton_iff : s.Reads [c] t ↔ s.next? = some (c, t) := by
  rw [next?_eq_some_iff]
  exact ⟨fun h => ⟨h.rest, h.source, h.offset⟩, fun ⟨hr, hs, ho⟩ => ⟨hs, hr, ho⟩⟩

theorem map_fst_next? (s : Stream) : s.next?.map Prod.fst = s.rest.head? := by
  cases hn : s.next? with
  | none => rw [next?_eq_none_iff.1 hn, Option.map_none, List.head?_nil]
  | some next => rw [(next?_eq_some_iff.1 hn).1, Option.map_some, List.head?_cons]

theorem Reads.trans (h : s.Reads u r) (k : r.Reads v t) : s.Reads (u ++ v) t where
  source := k.source.trans h.source
  rest := by rw [h.rest, k.rest, List.append_assoc]
  offset := by rw [k.offset, h.offset, Text.byteLength_append, Nat.add_assoc]

theorem Reads.forall_head? (h : s.Reads (c :: u) t) {condition : Char → Bool}
    (hc : condition c = false) : ∀ d ∈ s.rest.head?, condition d = false := by
  rw [h.rest]
  intro d hd
  cases hd
  exact hc

theorem forall_head?_of_rest_eq_nil (h : s.rest = []) (condition : Char → Bool) :
    ∀ d ∈ s.rest.head?, condition d = false := by
  rw [h]
  intro d hd
  cases hd

theorem exists_reads (h : s.rest = u ++ v) : ∃ t, s.Reads u t ∧ t.rest = v := by
  induction u generalizing s with
  | nil => exact ⟨s, .refl s, h⟩
  | cons c u ih =>
    cases hn : s.next? with
    | none =>
      rw [next?_eq_none_iff.1 hn] at h
      cases h
    | some next =>
      obtain ⟨d, r⟩ := next
      have hd := reads_singleton_iff.2 hn
      obtain ⟨rfl, hr⟩ := List.cons.inj (hd.rest.symm.trans h)
      obtain ⟨t, ht, hv⟩ := ih hr
      exact ⟨t, hd.trans ht, hv⟩

theorem reads_append_iff : s.Reads (u ++ v) t ↔ ∃ r, s.Reads u r ∧ r.Reads v t := by
  constructor
  · intro h
    obtain ⟨r, hr, hrest⟩ := exists_reads (h.rest.trans (List.append_assoc u v t.rest))
    have hoffset : t.offset = r.offset + Text.byteLength v := by
      rw [h.offset, hr.offset, Text.byteLength_append, Nat.add_assoc]
    exact ⟨r, hr, h.source.trans hr.source.symm, hrest, hoffset⟩
  · intro h
    obtain ⟨r, hr, ht⟩ := h
    exact hr.trans ht

theorem reads_append_cons_iff :
    s.Reads (u ++ c :: v) t ↔ ∃ r q, s.Reads u r ∧ r.Reads [c] q ∧ q.Reads v t := by
  constructor
  · intro h
    obtain ⟨r, hr, hrest⟩ := reads_append_iff.1 h
    obtain ⟨q, hq, ht⟩ := reads_append_iff (u := [c]).1 hrest
    exact ⟨r, q, hr, hq, ht⟩
  · intro h
    obtain ⟨r, q, hr, hq, ht⟩ := h
    exact hr.trans (hq.trans ht)

theorem reads_ofText_iff :
    (ofText u).Reads v t ↔ t.source = u ∧ u = v ++ t.rest ∧ t.offset = Text.byteLength v := by
  constructor
  · intro h
    exact ⟨h.source, h.rest, h.offset.trans (Nat.zero_add _)⟩
  · intro h
    obtain ⟨hs, hr, ho⟩ := h
    exact ⟨hs, hr, ho.trans (Nat.zero_add _).symm⟩

theorem exists_reads_all (t : Text) :
    ∃ s, (ofText t).Reads t s ∧ s.isEmpty = true ∧ s.rest = [] := by
  obtain ⟨s, hs, hrest⟩ := exists_reads (s := ofText t) (List.append_nil t).symm
  obtain ⟨hsource, _, hoffset⟩ := reads_ofText_iff.1 hs
  refine ⟨s, hs, ?_, hrest⟩
  rw [isEmpty, hsource, hoffset, beq_self_eq_true]

/-- Reading some text leads from `s` to `t`. -/
structure LeadsTo (s t : Stream) : Prop where
  source : t.source = s.source
  consumed : ∃ u : Text, s.rest = u ++ t.rest ∧ t.offset = s.offset + Text.byteLength u

theorem leadsTo_iff_exists_reads : s.LeadsTo t ↔ ∃ u, s.Reads u t := by
  constructor
  · intro h
    obtain ⟨hs, u, hu, ho⟩ := h
    exact ⟨u, hs, hu, ho⟩
  · intro h
    obtain ⟨u, hs, hu, ho⟩ := h
    exact ⟨hs, u, hu, ho⟩

theorem LeadsTo.refl (s : Stream) : s.LeadsTo s :=
  leadsTo_iff_exists_reads.2 ⟨[], .refl s⟩

theorem LeadsTo.trans {s t u : Stream} (h : s.LeadsTo t) (k : t.LeadsTo u) : s.LeadsTo u := by
  obtain ⟨x, hx⟩ := leadsTo_iff_exists_reads.1 h
  obtain ⟨y, hy⟩ := leadsTo_iff_exists_reads.1 k
  exact leadsTo_iff_exists_reads.2 ⟨x ++ y, hx.trans hy⟩

theorem LeadsTo.of_next? {s t : Stream} {c : Char} (h : s.next? = some (c, t)) :
    s.LeadsTo t :=
  leadsTo_iff_exists_reads.2 ⟨[c], reads_singleton_iff.2 h⟩

theorem LeadsTo.wellFormed {s t : Stream} (h : s.LeadsTo t) (hs : s.WellFormed) :
    t.WellFormed := by
  obtain ⟨before, hb, hl⟩ := hs.split
  obtain ⟨ht, u, hu, ho⟩ := h
  refine ⟨before ++ u, t.rest, ?_, ?_⟩
  · rw [ht, hb, hu, List.append_assoc]
  · rw [Text.byteLength_append, hl, ho]

theorem Reads.wellFormed (h : s.Reads u t) (hs : s.WellFormed) : t.WellFormed :=
  (leadsTo_iff_exists_reads.2 ⟨u, h⟩).wellFormed hs

theorem LeadsTo.offset_le {s t : Stream} (h : s.LeadsTo t) : s.offset ≤ t.offset := by
  obtain ⟨u, _, ho⟩ := h.consumed
  rw [ho]
  exact Nat.le_add_right _ _

theorem LeadsTo.isSuffixOf {s t : Stream} (h : s.LeadsTo t) : t.isSuffixOf s = true := by
  simp [Stream.isSuffixOf, h.source, h.offset_le]

/-- A preorder in which a stream lies below the one that reading a character leads to. -/
structure ReadingOrder (R : Stream → Stream → Prop) : Prop where
  refl (s : Stream) : R s s
  trans {s t u : Stream} : R s t → R t u → R s u
  next {s t : Stream} {c : Char} : s.next? = some (c, t) → R s t

theorem ReadingOrder.drop {R : Stream → Stream → Prop} (hR : ReadingOrder R) (n : Nat)
    (s : Stream) : R s (s.drop n) := by
  fun_induction Stream.drop n s with
  | case1 s => exact hR.refl s
  | case2 n s c t ht ih => exact hR.trans (hR.next ht) ih
  | case3 n s => exact hR.refl s

theorem readingOrder_leadsTo : ReadingOrder LeadsTo := ⟨.refl, .trans, .of_next?⟩

/-- What reading a character preserves is preserved along a preorder of its own. -/
theorem readingOrder_of_invariant {I : Stream → Prop}
    (h : ∀ {s t c}, s.next? = some (c, t) → I s → I t) : ReadingOrder fun s t => I s → I t where
  refl _ hs := hs
  trans hst htu hs := htu (hst hs)
  next := h

theorem WellFormed.drop (h : s.WellFormed) (n : Nat) : (s.drop n).WellFormed :=
  (readingOrder_of_invariant fun h _ => (WellFormed.of_next? h).2).drop n s h

end Stream

namespace Parser

variable {α β : Type} {R : Stream → Stream → Prop}

/-- Every match leads from a stream to one that `R` relates it to. -/
structure Moves (R : Stream → Stream → Prop) (p : Parser α) : Prop where
  of_yields {s t : Stream} {a : α} : p.Yields s a t → R s t

theorem Moves.ofFunction {f : Stream → Option (α × Stream)}
    (h : ∀ {s a t}, f s = some (a, t) → R s t) : (ofFunction f).Moves R :=
  ⟨fun hf => h (yields_ofFunction_iff.1 hf)⟩

theorem Moves.repeats {p : Parser α} (hp : p.Moves R) (hR : Stream.ReadingOrder R) {s t : Stream}
    {as : List α} (h : p.Repeats s as t) : R s t := by
  induction h with
  | refused => exact hR.refl _
  | stuck => exact hR.refl _
  | step ha _ _ ih => exact hR.trans (hp.of_yields ha) ih

theorem closed_moves (hR : Stream.ReadingOrder R) : Closed fun _ p => p.Moves R where
  pure a := .ofFunction fun h => by
    cases h
    exact hR.refl _
  map f p hp := by
    refine ⟨fun h => ?_⟩
    obtain ⟨a, ha, _⟩ := yields_map_iff.1 h
    exact hp.of_yields ha
  filterMap f p hp := by
    refine ⟨fun h => ?_⟩
    obtain ⟨a, ha, _⟩ := yields_filterMap_iff.1 h
    exact hp.of_yields ha
  andThen hp hq := by
    refine ⟨fun h => ?_⟩
    obtain ⟨u, ha, hb⟩ := yields_andThen_iff.1 h
    exact hR.trans (hp.of_yields ha) (hq.of_yields hb)
  many hp := ⟨fun h => hp.repeats hR (yields_many_iff.1 h)⟩

theorem primitive_moves (hR : Stream.ReadingOrder R) {k : Grammar Empty} (hk : k.isLeap = false) :
    Primitive (fun _ p => p.Moves R) k := by
  cases k with
  | character k => exact .ofFunction fun h => hR.next (Option.filter_eq_some_iff.1 h).1
  | fail => exact .ofFunction fun h => by cases h
  | skip n =>
    refine .ofFunction fun h => ?_
    cases h
    exact hR.drop n _
  | peek =>
    refine .ofFunction fun h => ?_
    obtain ⟨_, _, h⟩ := Option.map_eq_some_iff.1 h
    cases h
    exact hR.refl _
  | atEnd =>
    refine .ofFunction fun h => ?_
    split at h
    · cases h
      exact hR.refl _
    · cases h
  | remaining | position =>
    refine .ofFunction fun h => ?_
    cases h
    exact hR.refl _
  | rewind | restart | jumpTo t => cases hk
  | _ => trivial

/-- A grammar moves along every order of reading that its leaps keep to. -/
theorem Moves.grammar (hR : Stream.ReadingOrder R) {g : Grammar Empty}
    (hleap : ∀ k ∈ g.parts, k.isLeap = true → Primitive (fun _ p => p.Moves R) k) :
    g.parser.Moves R := by
  refine (closed_moves hR).grammar fun k hk => ?_
  cases hl : k.isLeap with
  | false => exact primitive_moves hR hl
  | true => exact hleap k hk hl

/-- A grammar keeps what reading a character, going back, starting over and its jumps keep. -/
theorem Moves.invariant {I : Stream → Prop}
    (hnext : ∀ {s t c}, s.next? = some (c, t) → I s → I t) (hrewind : ∀ {s}, I s → I s.rewind)
    (hrestart : ∀ {s}, I s → I s.restart) {g : Grammar Empty}
    (hjump : ∀ t, .jumpTo t ∈ g.parts → I (.ofText t)) :
    g.parser.Moves fun s t => I s → I t := by
  refine .grammar (Stream.readingOrder_of_invariant hnext) fun k hk hl => ?_
  cases k with
  | rewind =>
    refine .ofFunction fun h hs => ?_
    cases h
    exact hrewind hs
  | restart =>
    refine .ofFunction fun h hs => ?_
    cases h
    exact hrestart hs
  | jumpTo t =>
    refine .ofFunction fun h _ => ?_
    cases h
    exact hjump t hk
  | _ => cases hl

theorem Moves.leadsTo {g : Grammar Empty} (hg : ∀ k ∈ g.parts, k.isLeap = false) :
    g.parser.Moves Stream.LeadsTo := by
  refine .grammar Stream.readingOrder_leadsTo fun k hk hl => ?_
  rw [hg k hk] at hl
  cases hl

theorem parseAll_eq_ok_iff {p : Parser α} [Bounded p] {t : Text} {a : α} :
    p.parseAll t = .ok a ↔ ∃ s, p.Yields (.ofText t) a s ∧ s.isEmpty = true := by
  simp only [← run_eq_some_iff, parseAll, parse]
  cases hp : p.run (.ofText t) with
  | none => simp
  | some r =>
    obtain ⟨b, s⟩ := r
    simp only [Option.some.injEq, Prod.mk.injEq]
    constructor
    · intro h
      split at h
      · rename_i hs
        cases h
        exact ⟨s, ⟨rfl, rfl⟩, hs⟩
      · cases h
    · intro h
      obtain ⟨_, ⟨rfl, rfl⟩, hs⟩ := h
      exact if_pos hs

theorem parseAll_eq_noMatch_iff {p : Parser α} [Bounded p] {t : Text} :
    p.parseAll t = .error .noMatch ↔ p.Refuses (.ofText t) := by
  rw [← run_eq_none_iff, parseAll, parse]
  cases p.run (.ofText t) with
  | none => simp
  | some r => cases hs : r.2.isEmpty <;> simp [hs]

theorem parseAll_eq_incomplete_iff {p : Parser α} [Bounded p] {t u : Text} {n : Nat} :
    p.parseAll t = .error (.incomplete n u) ↔
      ∃ a s, p.Yields (.ofText t) a s ∧ s.isEmpty = false ∧ s.offset = n ∧ s.rest = u := by
  simp only [← run_eq_some_iff, parseAll, parse]
  cases hp : p.run (.ofText t) with
  | none => simp
  | some r =>
    obtain ⟨a, s⟩ := r
    cases hs : s.isEmpty with
    | true => simp [hs]
    | false =>
      simp only [hs, Option.some.injEq, Prod.mk.injEq, Bool.false_eq_true, if_false,
        Except.error.injEq, ParseError.incomplete.injEq]
      refine ⟨fun h => ⟨a, s, ⟨rfl, rfl⟩, hs, h⟩, ?_⟩
      intro ⟨_, _, ⟨_, he⟩, _, h⟩
      rw [he]
      exact h

end Parser

namespace Grammar

/-- Without leaps, what is left of a stream is a suffix of it at a place between two characters,
and what an incomplete match of a text leaves is the non-empty end of that text. -/
theorem Script.remainder_is_suffix {script : Script} {g : Grammar Empty}
    (hg : script.expand? = some g) (hleap : ∀ k ∈ g.parts, k.isLeap = false) :
    ∃ p, script.parser? = some p ∧
      (∀ s v t, s.WellFormed → p.parser.run s = some (v, t) →
        t.source = s.source ∧ s.offset ≤ t.offset ∧ t.offset ≤ s.source.byteLength ∧
          t.WellFormed ∧ t.isSuffixOf s = true ∧ ∃ u, s.rest = u ++ t.rest) ∧
      ∀ t n u, p.parser.parseAll t = .error (.incomplete n u) →
        u ≠ [] ∧ ∃ before, t = before ++ u ∧ Text.byteLength before = n := by
  have hm := Parser.Moves.leadsTo hleap
  refine ⟨_, Script.parser?_of_expand? hg, ?_, ?_⟩
  · intro s v t hs hr
    have h := hm.of_yields (Parser.run_eq_some_iff.1 hr)
    have ht := h.wellFormed hs
    obtain ⟨u, hu, _⟩ := h.consumed
    refine ⟨h.source, h.offset_le, ?_, ht, h.isSuffixOf, u, hu⟩
    rw [← h.source]
    exact ht.offset_le
  · intro t n u he
    obtain ⟨v, r, hr, hne, hn, hu⟩ := Parser.parseAll_eq_incomplete_iff.1 he
    have h := hm.of_yields hr
    have hw := h.wellFormed (Stream.wellFormed_ofText t)
    obtain ⟨before, hb, ho⟩ := h.consumed
    rw [Stream.rest_ofText, hu] at hb
    rw [Stream.offset_ofText, Nat.zero_add, hn] at ho
    refine ⟨?_, before, hb, ho.symm⟩
    intro hnil
    rw [hw.isEmpty_iff.2 (hu.trans hnil)] at hne
    cases hne

theorem Script.remainder_is_suffix_of_word :
    ∃ p, Script.parser? ⟨[("word", .many (.character .identifierStart))],
        .andThen (.ref "word") .position⟩ = some p ∧
      p.parser.parseAll "aé1".toList = .error (.incomplete 3 ['1']) ∧
      ∃ before, "aé1".toList = before ++ ['1'] ∧ Text.byteLength before = 3 := by
  have hg : Script.expand? ⟨[("word", .many (.character .identifierStart))],
      .andThen (.ref "word") .position⟩ = some _ := rfl
  obtain ⟨p, hp, _, hincomplete⟩ := Script.remainder_is_suffix hg (by decide)
  have hr : p.parser.run (.ofText "aé1".toList) =
      some (.pair (.list [.char 'a', .char 'é']) (.int 3), .place "aé1".toList 3) := by
    cases hp
    decide +kernel
  have he : p.parser.parseAll "aé1".toList = .error (.incomplete 3 ['1']) :=
    Parser.parseAll_eq_incomplete_iff.2
      ⟨_, _, Parser.run_eq_some_iff.1 hr, by decide, rfl, by decide⟩
  exact ⟨p, hp, he, (hincomplete _ _ _ he).2⟩

end Grammar

end Munch
