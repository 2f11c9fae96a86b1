import Munch.Text.Quoted

namespace Munch

/-- A place in a text: the text, and the number of its bytes that have been read. -/
structure Stream where
  source : Text
  offset : Nat
  /-- The text still to be read, which is empty if the offset is no place between two characters. -/
  rest : Text
  rest_eq : rest = (source.dropBytes? offset).getD []
  deriving DecidableEq, Repr

namespace Stream

def place (t : Text) (n : Nat) : Stream := ⟨t, n, _, rfl⟩

def ofText (t : Text) : Stream := ⟨t, 0, t, by simp⟩

/-- The offset is a place between two characters: the length of a leading part of the source. -/
def WellFormed (s : Stream) : Prop :=
  ∃ before after : Text, s.source = before ++ after ∧ Text.byteLength before = s.offset

def isEmpty (s : Stream) : Bool :=
  s.offset == s.source.byteLength

def head? (s : Stream) : Option Char :=
  s.rest.head?

theorem ext {s t : Stream} (h : s.source = t.source) (k : s.offset = t.offset) : s = t := by
  obtain ⟨_, _, _, hs⟩ := s
  obtain ⟨_, _, _, ht⟩ := t
  cases h
  cases k
  rw [mk.injEq]
  exact ⟨rfl, rfl, hs.trans ht.symm⟩

theorem wellFormed_iff_dropBytes? {s : Stream} :
    s.WellFormed ↔ s.source.dropBytes? s.offset = some s.rest := by
  constructor
  · intro h
    obtain ⟨before, after, h, hb⟩ := h
    have := Text.dropBytes?_eq_some_iff.2 ⟨before, h, hb⟩
    rw [s.rest_eq, this, Option.getD_some]
  · intro h
    obtain ⟨before, h, hb⟩ := Text.dropBytes?_eq_some_iff.1 h
    exact ⟨before, _, h, hb⟩

theorem rest_eq_of_split {s : Stream} {before after : Text} (h : s.source = before ++ after)
    (hb : Text.byteLength before = s.offset) : s.rest = after := by
  rw [s.rest_eq, Text.dropBytes?_eq_some_iff.2 ⟨before, h, hb⟩, Option.getD_some]

theorem WellFormed.split {s : Stream} (h : s.WellFormed) :
    ∃ before, s.source = before ++ s.rest ∧ Text.byteLength before = s.offset :=
  Text.dropBytes?_eq_some_iff.1 (wellFormed_iff_dropBytes?.1 h)

theorem WellFormed.of_rest_ne_nil {s : Stream} (h : s.rest ≠ []) : s.WellFormed := by
  rw [wellFormed_iff_dropBytes?]
  cases hr : s.source.dropBytes? s.offset with
  | none => exact absurd (by rw [s.rest_eq, hr, Option.getD_none]) h
  | some t => rw [s.rest_eq, hr, Option.getD_some]

theorem rest_eq_of_cons {s : Stream} {c : Char} {t : Text} (h : s.rest = c :: t) :
    t = (s.source.dropBytes? (s.offset + c.utf8Size)).getD [] := by
  obtain ⟨before, hs, hb⟩ := (WellFormed.of_rest_ne_nil (s := s) (by simp [h])).split
  have hs' : s.source = (before ++ [c]) ++ t := by simpa [h] using hs
  rw [Text.dropBytes?_eq_some_iff.2 ⟨_, hs', by simp [hb]⟩, Option.getD_some]

def next? (s : Stream) : Option (Char × Stream) :=
  match h : s.rest with
  | [] => none
  | c :: t => some (c, ⟨s.source, s.offset + c.utf8Size, t, rest_eq_of_cons h⟩)

/-- The stream after `n` more characters, or its end if there are fewer. -/
def drop : Nat → Stream → Stream
  | 0, s => s
  | n + 1, s =>
    match s.next? with
    | some (_, t) => drop n t
    | none => s

def rewind (s : Stream) : Stream := ofText s.source

/-- The start of a new source, which is the text still to be read. -/
def restart (s : Stream) : Stream := ofText s.rest

/-- Whether `s` is a place in the same source, at or after the place of `t`. -/
def isSuffixOf (s t : Stream) : Bool :=
  s.source == t.source && decide (t.offset ≤ s.offset)

/-- Whether two streams have the same text still to be read, wherever they stand. -/
def sameRest (s t : Stream) : Bool :=
  s.rest == t.rest

def describe (s : Stream) : Text :=
  "Stream \x7b offset: ".toList ++ Text.ofNat s.offset ++ ", rest: ".toList ++ Text.quote s.rest
    ++ " \x7d".toList

@[simp] theorem source_place (t : Text) (n : Nat) : (place t n).source = t := rfl

@[simp] theorem offset_place (t : Text) (n : Nat) : (place t n).offset = n := rfl

@[simp] theorem source_ofText (t : Text) : (ofText t).source = t := rfl

@[simp] theorem offset_ofText (t : Text) : (ofText t).offset = 0 := rfl

@[simp] theorem rest_ofText (t : Text) : (ofText t).rest = t := rfl

theorem wellFormed_ofText (t : Text) : (ofText t).WellFormed :=
  ⟨[], t, rfl, rfl⟩

theorem wellFormed_rewind (s : Stream) : s.rewind.WellFormed := wellFormed_ofText _

theorem wellFormed_restart (s : Stream) : s.restart.WellFormed := wellFormed_ofText _

theorem WellFormed.offset_add_byteLength {s : Stream} (h : s.WellFormed) :
    s.offset + Text.byteLength s.rest = s.source.byteLength := by
  obtain ⟨before, h, hb⟩ := h.split
  rw [h, Text.byteLength_append, hb]

theorem WellFormed.offset_le {s : Stream} (h : s.WellFormed) :
    s.offset ≤ s.source.byteLength := by
  have := h.offset_add_byteLength
  omega

theorem WellFormed.isEmpty_iff {s : Stream} (h : s.WellFormed) :
    s.isEmpty = true ↔ s.rest = [] := by
  have hn := h.offset_add_byteLength
  rw [isEmpty, beq_iff_eq, ← Text.byteLength_eq_zero_iff]
  omega

theorem next?_eq_none_iff {s : Stream} : s.next? = none ↔ s.rest = [] := by
  unfold next?
  split <;> simp_all

theorem next?_eq_some_iff {s t : Stream} {c : Char} :
    s.next? = some (c, t) ↔
      s.rest = c :: t.rest ∧ t.source = s.source ∧ t.offset = s.offset + c.utf8Size := by
  constructor
  · intro h
    unfold next? at h
    split at h
    · cases h
    · rename_i hr
      cases h
      exact ⟨hr, rfl, rfl⟩
  · intro h
    obtain ⟨hr, hs, ho⟩ := h
    unfold next?
    split
    · simp_all
    · rename_i d u hu
      obtain ⟨rfl, rfl⟩ := List.cons.inj (hu.symm.trans hr)
      rw [Option.some.injEq, Prod.mk.injEq]
      exact ⟨rfl, ext hs.symm ho.symm⟩

theorem WellFormed.of_next? {s t : Stream} {c : Char} (h : s.next? = some (c, t)) :
    s.WellFormed ∧ t.WellFormed := by
  obtain ⟨hr, hs, ho⟩ := next?_eq_some_iff.1 h
  have hw : s.WellFormed := .of_rest_ne_nil (by simp [hr])
  obtain ⟨before, hb, hl⟩ := hw.split
  exact ⟨hw, before ++ [c], t.rest, by simp [hs, hb, hr], by simp [ho, hl]⟩

theorem offset_le_of_next? {s t : Stream} {c : Char} (h : s.next? = some (c, t)) :
    t.offset ≤ t.source.byteLength := by
  have := (WellFormed.of_next? h).2.offset_add_byteLength
  omega

theorem byteLength_rest_le (s : Stream) : Text.byteLength s.rest ≤ s.source.byteLength := by
  by_cases h : s.rest = []
  · simp [h]
  · have := (WellFormed.of_rest_ne_nil h).offset_add_byteLength
    omega

@[simp] theorem source_drop (n : Nat) (s : Stream) : (s.drop n).source = s.source := by
  fun_induction drop n s with
  | case1 => rfl
  | case2 n s c t ht ih => rw [ih, (next?_eq_some_iff.1 ht).2.1]
  | case3 => rfl

@[simp] theorem rest_drop (n : Nat) (s : Stream) : (s.drop n).rest = s.rest.drop n := by
  fun_induction drop n s with
  | case1 => rfl
  | case2 n s c t ht ih => rw [ih, (next?_eq_some_iff.1 ht).1, List.drop_succ_cons]
  | case3 n s hs => rw [next?_eq_none_iff.1 hs, List.drop_nil]

theorem offset_drop_le (n : Nat) (s : Stream) :
    (s.drop n).offset ≤ max s.offset s.source.byteLength := by
  fun_induction drop n s with
  | case1 => omega
  | case2 n s c t ht ih =>
    have := offset_le_of_next? ht
    have := (next?_eq_some_iff.1 ht).2.1
    grind
  | case3 => omega

end Stream

end Munch
