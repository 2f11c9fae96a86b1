import Munch.Proofs.Parts

namespace Munch

namespace Stream

/-- The same place in a source and in that source with `t` after it. -/
structure ExtendsBy (s : Stream) (t : Text) (s' : Stream) : Prop where
  wellFormed : s.WellFormed
  source : s'.source = s.source ++ t
  offset : s'.offset = s.offset

theorem extendsBy_ofText (u t : Text) : (ofText u).ExtendsBy t (ofText (u ++ t)) :=
  ⟨wellFormed_ofText u, rfl, rfl⟩

theorem ExtendsBy.rest {s s' : Stream} {t : Text} (h : s.ExtendsBy t s') :
    s'.rest = s.rest ++ t := by
  obtain ⟨before, hb, hl⟩ := h.wellFormed.split
  have hs : s'.source = before ++ (s.rest ++ t) := by
    rw [h.source, hb, List.append_assoc]
  exact rest_eq_of_split hs (hl.trans h.offset.symm)

theorem ExtendsBy.rewind {s s' : Stream} {t : Text} (h : s.ExtendsBy t s') :
    s.rewind.ExtendsBy t s'.rewind := by
  rw [Stream.rewind, Stream.rewind, h.source]
  exact extendsBy_ofText _ t

theorem ExtendsBy.restart {s s' : Stream} {t : Text} (h : s.ExtendsBy t s') :
    s.restart.ExtendsBy t s'.restart := by
  rw [Stream.restart, Stream.restart, h.rest]
  exact extendsBy_ofText _ t

theorem ExtendsBy.next? {s s' r : Stream} {t : Text} {c : Char} (h : s.ExtendsBy t s')
    (hn : s.next? = some (c, r)) : ∃ r', s'.next? = some (c, r') ∧ r.ExtendsBy t r' := by
  obtain ⟨hr, hs, ho⟩ := next?_eq_some_iff.1 hn
  have hr' : s'.rest = c :: (r.rest ++ t) := by rw [h.rest, hr, List.cons_append]
  cases hn' : s'.next? with
  | none =>
    rw [next?_eq_none_iff.1 hn'] at hr'
    cases hr'
  | some d =>
    obtain ⟨d, r'⟩ := d
    obtain ⟨hd, hs', ho'⟩ := next?_eq_some_iff.1 hn'
    obtain ⟨rfl, _⟩ := List.cons.inj (hd.symm.trans hr')
    refine ⟨r', rfl, (WellFormed.of_next? hn).2, ?_, ?_⟩
    · rw [hs', h.source, hs]
    · rw [ho', h.offset, ho]

end Stream

namespace Parser

variable {α β : Type} {t : Text}

/-- The parser does the same on a source and on that source with `t` after it. -/
structure StopsBefore (t : Text) (p : Parser α) : Prop where
  yields {s s' r : Stream} {a : α} :
    s.ExtendsBy t s' → p.Yields s a r → ∃ r', p.Yields s' a r' ∧ r.ExtendsBy t r'
  refuses {s s' : Stream} : s.ExtendsBy t s' → p.Refuses s → p.Refuses s'

theorem StopsBefore.repeats {p : Parser α} (hp : p.StopsBefore t) {s s' r : Stream} {as : List α}
    (he : s.ExtendsBy t s') (h : p.Repeats s as r) :
    ∃ r', p.Repeats s' as r' ∧ r.ExtendsBy t r' := by
  induction h generalizing s' with
  | refused hn => exact ⟨s', .refused (hp.refuses he hn), he⟩
  | stuck ha hr =>
    obtain ⟨r', ha', hr'⟩ := hp.yields he ha
    refine ⟨s', .stuck ha' ?_, he⟩
    rw [hr'.offset, he.offset]
    exact hr
  | step ha hr _ ih =>
    obtain ⟨r', ha', hr'⟩ := hp.yields he ha
    obtain ⟨u', hu, hu'⟩ := ih hr'
    refine ⟨u', .step ha' ?_ hu, hu'⟩
    rw [hr'.offset, he.offset]
    exact hr

theorem StopsBefore.pure (a : α) : (Parser.pure a).StopsBefore t where
  yields {s s' r b} he hy := by
    obtain ⟨rfl, rfl⟩ := yields_pure_iff.1 hy
    exact ⟨s', yields_pure_iff.2 ⟨rfl, rfl⟩, he⟩
  refuses _ hr := (not_refuses_pure hr).elim

theorem StopsBefore.map {p : Parser α} (hp : p.StopsBefore t) (f : α → β) :
    (p.map f).StopsBefore t where
  yields he hy := by
    obtain ⟨a, ha, hb⟩ := yields_map_iff.1 hy
    obtain ⟨r', ha', hr'⟩ := hp.yields he ha
    exact ⟨r', yields_map_iff.2 ⟨a, ha', hb⟩, hr'⟩
  refuses he hr := refuses_map_iff.2 (hp.refuses he (refuses_map_iff.1 hr))

theorem StopsBefore.filterMap {p : Parser α} (hp : p.StopsBefore t) (f : α → Option β) :
    (p.filterMap f).StopsBefore t where
  yields he hy := by
    obtain ⟨a, ha, hb⟩ := yields_filterMap_iff.1 hy
    obtain ⟨r', ha', hr'⟩ := hp.yields he ha
    exact ⟨r', yields_filterMap_iff.2 ⟨a, ha', hb⟩, hr'⟩
  refuses he hr := by
    rcases refuses_filterMap_iff.1 hr with hn | ⟨a, r, ha, hb⟩
    · exact refuses_filterMap_iff.2 (.inl (hp.refuses he hn))
    · obtain ⟨r', ha', _⟩ := hp.yields he ha
      exact refuses_filterMap_iff.2 (.inr ⟨a, r', ha', hb⟩)

theorem StopsBefore.andThen {p : Parser α} {q : Parser β} (hp : p.StopsBefore t)
    (hq : q.StopsBefore t) : (p.andThen q).StopsBefore t where
  yields he hy := by
    obtain ⟨u, ha, hb⟩ := yields_andThen_iff.1 hy
    obtain ⟨u', ha', hu⟩ := hp.yields he ha
    obtain ⟨r', hb', hr⟩ := hq.yields hu hb
    exact ⟨r', yields_andThen_iff.2 ⟨u', ha', hb'⟩, hr⟩
  refuses he hr := by
    rcases refuses_andThen_iff.1 hr with hn | ⟨a, u, ha, hn⟩
    · exact refuses_andThen_iff.2 (.inl (hp.refuses he hn))
    · obtain ⟨u', ha', hu⟩ := hp.yields he ha
      exact refuses_andThen_iff.2 (.inr ⟨a, u', ha', hq.refuses hu hn⟩)

theorem StopsBefore.many {p : Parser α} (hp : p.StopsBefore t) : p.many.StopsBefore t where
  yields he hy := by
    obtain ⟨r', h, hr⟩ := hp.repeats he (yields_many_iff.1 hy)
    exact ⟨r', yields_many_iff.2 h, hr⟩
  refuses _ hr := (not_refuses_many hr).elim

theorem closed_stopsBefore (t : Text) : Closed fun _ p => p.StopsBefore t :=
  ⟨.pure, fun f _ hp => hp.map f, fun f _ hp => hp.filterMap f, .andThen, .many⟩

theorem StopsBefore.ofFunction {f : Stream → Option (α × Stream)}
    (hsome : ∀ {s s' r a}, s.ExtendsBy t s' → f s = some (a, r) →
      ∃ r', f s' = some (a, r') ∧ r.ExtendsBy t r')
    (hnone : ∀ {s s'}, s.ExtendsBy t s' → f s = none → f s' = none) :
    (ofFunction f).StopsBefore t where
  yields he hy := by
    obtain ⟨r', hf, hr⟩ := hsome he (yields_ofFunction_iff.1 hy)
    exact ⟨r', yields_ofFunction_iff.2 hf, hr⟩
  refuses he hr := refuses_ofFunction_iff.2 (hnone he (refuses_ofFunction_iff.1 hr))

theorem stopsBefore_ofClass {k : CharClass} {c : Char} (hk : k.contains c = false) (t : Text) :
    (ofClass k).StopsBefore (c :: t) := by
  refine .ofFunction (fun he hf => ?_) fun {s s'} he hf => ?_
  · obtain ⟨hn, hd⟩ := Option.filter_eq_some_iff.1 hf
    obtain ⟨r', hn', hr⟩ := he.next? hn
    exact ⟨r', Option.filter_eq_some_iff.2 ⟨hn', hd⟩, hr⟩
  · rw [Option.filter_eq_none_iff] at hf ⊢
    intro (d, r') hn'
    cases hn : s.next? with
    | none =>
      have hs' : s'.rest = c :: t := by
        rw [he.rest, Stream.next?_eq_none_iff.1 hn, List.nil_append]
      obtain ⟨rfl, _⟩ := List.cons.inj ((Stream.next?_eq_some_iff.1 hn').1.symm.trans hs')
      rw [hk]
      exact Bool.false_ne_true
    | some e =>
      obtain ⟨e, r⟩ := e
      obtain ⟨r₁, hn₁, _⟩ := he.next? hn
      cases hn'.symm.trans hn₁
      have hd := hf (d, r) hn
      exact hd

theorem stopsBefore_fail : (fail : Parser α).StopsBefore t :=
  .ofFunction (fun _ hf => by cases hf) fun _ _ => rfl

theorem stopsBefore_position : position.StopsBefore t := by
  refine .ofFunction (fun {s s' r n} he hf => ?_) fun _ hf => by cases hf
  cases hf
  rw [← he.offset]
  exact ⟨s', rfl, he⟩

theorem stopsBefore_rewind : rewind.StopsBefore t := by
  refine .ofFunction (fun he hf => ?_) fun _ hf => by cases hf
  cases hf
  exact ⟨_, rfl, he.rewind⟩

theorem stopsBefore_restart : restart.StopsBefore t := by
  refine .ofFunction (fun he hf => ?_) fun _ hf => by cases hf
  cases hf
  exact ⟨_, rfl, he.restart⟩

theorem StopsBefore.parse {p : Parser α} [Bounded p] (hp : p.StopsBefore t) (u : Text) :
    (p.parse (u ++ t)).map (fun (a, r) => (a, r.offset, r.rest)) =
      (p.parse u).map fun (a, r) => (a, r.offset, r.rest ++ t) := by
  have he := Stream.extendsBy_ofText u t
  simp only [Parser.parse]
  cases hr : p.run (.ofText u) with
  | none => rw [run_eq_none_iff.2 (hp.refuses he (run_eq_none_iff.1 hr))]; rfl
  | some r =>
    obtain ⟨a, r⟩ := r
    obtain ⟨r', ha, hr'⟩ := hp.yields he (run_eq_some_iff.1 hr)
    rw [run_eq_some_iff.2 ha, Option.map_some, Option.map_some, hr'.offset, hr'.rest]

end Parser

namespace Grammar

/-- The forms that look at the text only through conditions on its next character, and never move
to a text of their own. -/
def isConditional {ν : Type} : Grammar ν → Bool
  | ref _ | skip _ | peek | atEnd | remaining | jumpTo _ => false
  | _ => true

theorem stopsBefore {g : Grammar Empty} (hg : ∀ k ∈ g.parts, k.isConditional = true) {c : Char}
    (hc : ∀ k, character k ∈ g.parts → k.contains c = false) (t : Text) :
    g.parser.StopsBefore (c :: t) := by
  refine (Parser.closed_stopsBefore _).grammar fun k hk => ?_
  have hform := hg k hk
  cases k with
  | character k => exact Parser.stopsBefore_ofClass (hc k hk) t
  | fail => exact Parser.stopsBefore_fail
  | position => exact Parser.stopsBefore_position
  | rewind => exact Parser.stopsBefore_rewind
  | restart => exact Parser.stopsBefore_restart
  | skip n | peek | atEnd | remaining | jumpTo t => cases hform
  | _ => trivial

end Grammar

theorem Catalogue.stopsBefore {c : Char} (hx : Unicode.isIdentifierContinue c = false)
    (hstar : c ≠ '*') (hequal : c ≠ '=') (t : Text) (e : Catalogue.Entry) :
    e.parser.StopsBefore (c :: t) := by
  have hd : CharClass.asciiDigit.contains c = false := by
    rw [Bool.eq_false_iff]
    intro h
    rw [Unicode.isIdentifierContinue_of_isDigit h] at hx
    cases hx
  have hs : CharClass.identifierStart.contains c = false := by
    rw [Bool.eq_false_iff]
    intro h
    rw [Unicode.isIdentifierContinue_of_isIdentifierStart h] at hx
    cases hx
  have hc : CharClass.identifierContinue.contains c = false := hx
  have hstar' : (CharClass.exactly '*').contains c = false := beq_false_of_ne hstar
  have hequal' : (CharClass.exactly '=').contains c = false := beq_false_of_ne hequal
  exact (Parser.closed_stopsBefore _).entry (Parser.stopsBefore_ofClass hd t)
    (Parser.stopsBefore_ofClass hs t) (Parser.stopsBefore_ofClass hc t)
    (Parser.stopsBefore_ofClass hstar' t) (Parser.stopsBefore_ofClass hequal' t) e

/-- More text after a character that all conditions in a grammar reject changes neither whether the
grammar matches nor its value nor where it stops, and is left as it is. -/
theorem stop_character (c : Char) (t : Text) :
    (∀ g : Grammar Empty, (∀ k ∈ g.parts, k.isConditional = true) →
      (∀ k, .character k ∈ g.parts → k.contains c = false) → ∀ u,
        (g.parser.parse (u ++ c :: t)).map (fun (v, r) => (v, r.offset, r.rest)) =
          (g.parser.parse u).map fun (v, r) => (v, r.offset, r.rest ++ c :: t)) ∧
    (Unicode.isIdentifierContinue c = false → c ≠ '*' → c ≠ '=' →
      ∀ (e : Catalogue.Entry) (u : Text),
        (e.parser.parse (u ++ c :: t)).map (fun (v, r) => (v, r.offset, r.rest)) =
          (e.parser.parse u).map fun (v, r) => (v, r.offset, r.rest ++ c :: t)) := by
  refine ⟨fun g hg hc u => ?_, fun hx hstar hequal e u => ?_⟩
  · exact (Grammar.stopsBefore hg hc t).parse u
  · exact (Catalogue.stopsBefore hx hstar hequal t e).parse u

theorem stop_character_semicolon :
    ((Grammar.many (.andThen .rewind .identifier)).parser.parse "é1;é".toList).map
        (fun (v, r) => (v, r.offset, r.rest)) =
      some (.list [.pair .unit (.text "é1".toList)], 3, ";é".toList) ∧
    (Catalogue.Entry.assignment.parser.parse "é1=7;é".toList).map
        (fun (v, r) => (v, r.offset, r.rest)) =
      some (.text "é1=7".toList, 5, ";é".toList) := by
  have hsemi : Unicode.isIdentifierContinue ';' = false := by decide +kernel
  have hstart : Unicode.isIdentifierStart ';' = false := by decide +kernel
  have hc : ∀ k, Grammar.character k ∈
      (Grammar.many (.andThen .rewind .identifier) : Grammar Empty).parts →
        k.contains ';' = false := by
    intro k hk
    simp only [Grammar.parts, List.mem_cons, List.mem_append, reduceCtorEq, false_or,
      Grammar.character.injEq, List.not_mem_nil, or_false] at hk
    rcases hk with rfl | rfl
    · exact hstart
    · exact hsemi
  obtain ⟨hg, he⟩ := stop_character ';' "é".toList
  exact ⟨(hg _ (by decide) hc "é1".toList).trans (by decide +kernel),
    (he hsemi (by decide) (by decide) .assignment "é1=7".toList).trans (by decide +kernel)⟩

end Munch
