import Munch.Proofs.Movement

namespace Munch

def Transform.keepsText : Transform → Bool
  | identity | wrap | flatten => true
  | _ => false

theorem Transform.flatten_apply {f : Transform} (hf : f.keepsText = true) (v : Value) :
    (f.apply v).flatten = v.flatten := by
  cases f with
  | identity | wrap | flatten => rfl
  | _ => cases hf

theorem Value.flatten_ofLength_digit {c : Char} (h : c.isDigit = true) :
    (ofLength (c.toNat - '0'.toNat)).flatten = [c] := by
  have hc : c.toNat - '0'.toNat ≤ '9'.toNat :=
    Nat.le_trans (Nat.sub_le _ _) (Char.isDigit_iff_toNat.1 h).2
  rw [ofLength, flatten, Int64.toInt_ofNat_of_lt (Nat.lt_of_le_of_lt hc (by decide)),
    Text.ofInt_natCast, Text.ofNat_toNat_sub h]

/-- A filter rejects a value or keeps its text, even where it turns a digit into a number. -/
theorem Filter.flatten_apply {f : Filter} {v w : Value} (h : f.apply v = some w) :
    w.flatten = v.flatten := by
  cases f with
  | accept => cases h; rfl
  | reject => cases h
  | unwrap =>
    cases v with
    | some v => cases h; rfl
    | _ => cases h
  | nonempty =>
    cases v with
    | list vs | text t =>
      obtain ⟨_, h⟩ := Option.ite_none_left_eq_some.1 h
      cases h; rfl
    | _ => cases h
  | even =>
    cases v with
    | int n =>
      obtain ⟨_, h⟩ := Option.ite_none_right_eq_some.1 h
      cases h; rfl
    | char c =>
      obtain ⟨⟨hc, _⟩, h⟩ := Option.ite_none_right_eq_some.1 h
      cases h
      exact Value.flatten_ofLength_digit hc
    | _ => cases h
  | atMost k =>
    cases v with
    | int n =>
      obtain ⟨_, h⟩ := Option.ite_none_right_eq_some.1 h
      cases h; rfl
    | _ => cases h
  | equals u =>
    obtain ⟨_, h⟩ := Option.ite_none_right_eq_some.1 h
    cases h; rfl

namespace Parser

variable {α β : Type} {text : α → Text} {text' : β → Text}

/-- The text that a match consumes is what `text` makes of its value. -/
structure Spells (text : α → Text) (p : Parser α) : Prop where
  of_yields {s t : Stream} {a : α} : p.Yields s a t → s.rest = text a ++ t.rest

theorem Spells.map {p : Parser α} (hp : p.Spells text) {f : α → β}
    (hf : ∀ a, text' (f a) = text a) : (p.map f).Spells text' := by
  constructor
  intro s t b h
  obtain ⟨a, ha, rfl⟩ := yields_map_iff.1 h
  rw [hf]
  exact hp.of_yields ha

theorem Spells.filterMap {p : Parser α} (hp : p.Spells text) {f : α → Option β}
    (hf : ∀ a b, f a = some b → text' b = text a) : (p.filterMap f).Spells text' := by
  constructor
  intro s t b h
  obtain ⟨a, ha, hb⟩ := yields_filterMap_iff.1 h
  rw [hf a b hb]
  exact hp.of_yields ha

theorem Spells.andThen {p : Parser α} {q : Parser β} (hp : p.Spells text) (hq : q.Spells text') :
    (p.andThen q).Spells fun r => text r.1 ++ text' r.2 := by
  constructor
  intro s t r h
  obtain ⟨u, ha, hb⟩ := yields_andThen_iff.1 h
  rw [hp.of_yields ha, hq.of_yields hb, List.append_assoc]

theorem Spells.repeats {p : Parser α} (hp : p.Spells text) {s t : Stream} {as : List α}
    (h : p.Repeats s as t) : s.rest = as.flatMap text ++ t.rest := by
  induction h with
  | refused => rfl
  | stuck => rfl
  | step ha _ _ ih => rw [hp.of_yields ha, ih, List.flatMap_cons, List.append_assoc]

theorem Spells.many {p : Parser α} (hp : p.Spells text) :
    p.many.Spells fun as => as.flatMap text :=
  ⟨fun h => hp.repeats (yields_many_iff.1 h)⟩

theorem spells_ofClass (k : CharClass) : (ofClass k).Spells fun c => [c] := by
  constructor
  intro s t c h
  have hn := (Option.filter_eq_some_iff.1 (yields_ofFunction_iff.1 h)).1
  exact (Stream.next?_eq_some_iff.1 hn).1

theorem spells_identifier : Parser.identifier.Spells id := by
  refine ((spells_ofClass _).andThen (spells_ofClass _).many).map fun (c, more) => ?_
  exact congrArg (c :: ·) (List.flatMap_singleton' more).symm

theorem spells_atEnd : atEnd.Spells fun _ => [] := by
  constructor
  intro s t u h
  have hs := yields_ofFunction_iff.1 h
  split at hs
  · cases hs
    rfl
  · cases hs

end Parser

namespace Grammar

/-- The forms whose values hold the text that they consume, in its order. -/
def keepsText {ν : Type} : Grammar ν → Bool
  | character _ | identifier | filterMap _ _ | andThen _ _ | many _ | fail | atEnd => true
  | map f _ => f.keepsText
  | _ => false

theorem spells_flatten {g : Grammar Empty} (hg : ∀ k ∈ g.parts, k.keepsText = true) :
    g.parser.Spells Value.flatten := by
  induction g with
  | character k => exact (Parser.spells_ofClass k).map fun _ => rfl
  | identifier => exact Parser.spells_identifier.map fun _ => rfl
  | map f g ih =>
    obtain ⟨hf, hg⟩ := List.forall_mem_cons.1 hg
    exact (ih hg).map (Transform.flatten_apply hf)
  | filterMap f g ih =>
    exact (ih (List.forall_mem_cons.1 hg).2).filterMap fun _ _ h => Filter.flatten_apply h
  | many g ih =>
    exact (ih (List.forall_mem_cons.1 hg).2).many.map Value.flattenItems_eq_flatMap
  | andThen g k ihg ihk =>
    obtain ⟨hg, hk⟩ := List.forall_mem_append.1 (List.forall_mem_cons.1 hg).2
    exact ((ihg hg).andThen (ihk hk)).map fun _ => rfl
  | fail => exact ⟨fun h => by cases Parser.yields_ofFunction_iff.1 h⟩
  | atEnd => exact Parser.spells_atEnd.map fun _ => rfl
  | _ => cases hg _ (mem_parts_self _)

theorem isLeap_of_keepsText {g : Grammar Empty} (hg : g.keepsText = true) : g.isLeap = false := by
  cases g with
  | rewind | restart | jumpTo t => cases hg
  | _ => rfl

/-- What is still to be read before a match is the text of its value and what is left after it. -/
theorem Script.rest_eq_flatten_append {script : Script} {g : Grammar Empty}
    (hg : script.expand? = some g) (hk : ∀ k ∈ g.parts, k.keepsText = true) :
    ∃ p, script.parser? = some p ∧
      ∀ s v t, p.parser.run s = some (v, t) →
        s.rest = v.flatten ++ t.rest ∧ t.source = s.source ∧
          t.offset = s.offset + Text.byteLength v.flatten := by
  have hs := spells_flatten hk
  have hm := Parser.Moves.leadsTo fun k h => isLeap_of_keepsText (hk k h)
  refine ⟨_, Script.parser?_of_expand? hg, ?_⟩
  intro s v t hr
  have hy := Parser.run_eq_some_iff.1 hr
  have hrest := hs.of_yields hy
  obtain ⟨hsource, u, hu, ho⟩ := hm.of_yields hy
  obtain rfl : u = v.flatten := List.append_cancel_right (hu.symm.trans hrest)
  exact ⟨hrest, hsource, ho⟩

/-- The last word has no comma after it, so the round that reads it is dropped and the word stays to
be read. -/
theorem Script.rest_eq_flatten_append_of_words :
    ∃ p, Script.parser? ⟨[("word", .filterMap .nonempty (.many (.character .identifierStart)))],
        .map .wrap (.many (.andThen (.ref "word") (.char ',')))⟩ = some p ∧
      ∃ v t, p.parser.run (.place "xé,bc,d;".toList 1) = some (v, t) ∧ t.rest = "d;".toList ∧
        "é,bc,d;".toList = v.flatten ++ t.rest ∧ t.offset = 1 + Text.byteLength v.flatten := by
  have hg : Script.expand?
      ⟨[("word", .filterMap .nonempty (.many (.character .identifierStart)))],
        .map .wrap (.many (.andThen (.ref "word") (.char ',')))⟩ = some _ := rfl
  obtain ⟨p, hp, hspells⟩ := Script.rest_eq_flatten_append hg (by decide)
  have hr : p.parser.run (.place "xé,bc,d;".toList 1) =
      some (.some (.list [.pair (.list [.char 'é']) (.char ','),
        .pair (.list [.char 'b', .char 'c']) (.char ',')]), .place "xé,bc,d;".toList 7) := by
    cases hp
    decide +kernel
  obtain ⟨hrest, _, ho⟩ := hspells _ _ _ hr
  exact ⟨p, hp, _, _, hr, by decide, hrest, ho⟩

end Grammar

end Munch
