import Munch.Proofs.Movement
import Munch.Proofs.Repetition

namespace Munch

namespace Text

/-- `u` is a longest run of characters that meet a condition, if `v` stands after it. -/
structure IsRun (condition : Char → Bool) (u v : Text) : Prop where
  all : ∀ c ∈ u, condition c = true
  stops : ∀ c ∈ v.head?, condition c = false

variable {condition : Char → Bool} {c : Char} {u v : Text}

theorem isRun_cons_iff :
    IsRun condition (c :: u) v ↔ condition c = true ∧ IsRun condition u v := by
  constructor
  · intro h
    obtain ⟨hc, hu⟩ := List.forall_mem_cons.1 h.all
    exact ⟨hc, hu, h.stops⟩
  · intro h
    obtain ⟨hc, hu⟩ := h
    exact ⟨List.forall_mem_cons.2 ⟨hc, hu.all⟩, hu.stops⟩

theorem isRun_takeWhile (condition : Char → Bool) (t : Text) :
    IsRun condition (t.takeWhile condition) (t.dropWhile condition) where
  all := List.all_eq_true.1 List.all_takeWhile
  stops := by
    intro c hc
    have h := List.head?_dropWhile_not condition t
    rw [Option.mem_def.1 hc] at h
    exact h

theorem IsRun.takeWhile_append (h : IsRun condition u v) : (u ++ v).takeWhile condition = u := by
  rw [List.takeWhile_append_of_pos h.all, List.append_right_eq_self]
  cases v with
  | nil => rfl
  | cons c v => rw [List.takeWhile_cons, h.stops c rfl, if_neg Bool.false_ne_true]

theorem IsRun.dropWhile_append (h : IsRun condition u v) : (u ++ v).dropWhile condition = v := by
  rw [List.dropWhile_append_of_pos h.all]
  cases v with
  | nil => rfl
  | cons c v => rw [List.dropWhile_cons, h.stops c rfl, if_neg Bool.false_ne_true]

theorem IsRun.prefix_iff (h : IsRun condition u v) {w : Text} :
    w <+: u ↔ w <+: u ++ v ∧ ∀ c ∈ w, condition c = true := by
  constructor
  · intro hw
    exact ⟨hw.trans (List.prefix_append u v), fun c hc => h.all c (hw.subset hc)⟩
  · intro hw
    obtain ⟨hbegins, hall⟩ := hw
    rcases List.prefix_or_prefix_of_prefix hbegins (List.prefix_append u v) with hwu | ⟨more, rfl⟩
    · exact hwu
    · cases more with
      | nil => exact ⟨[], by rw [List.append_nil, List.append_nil]⟩
      | cons c more =>
        -- The character after the run would be one of those that end it.
        obtain ⟨rest, rfl⟩ := (List.prefix_append_right_inj u).1 hbegins
        have hc := hall c (List.mem_append_right u List.mem_cons_self)
        rw [h.stops c rfl] at hc
        cases hc

/-- A character that starts an identifier, then any that may stand in one. -/
def IsIdentifier : Text → Prop
  | [] => False
  | c :: more =>
    Unicode.isIdentifierStart c = true ∧ ∀ d ∈ more, Unicode.isIdentifierContinue d = true

theorem isIdentifier_cons_iff : IsIdentifier (c :: u) ↔
    (Unicode.isIdentifierStart c && u.all Unicode.isIdentifierContinue) = true := by
  rw [IsIdentifier, Bool.and_eq_true, List.all_eq_true]

instance : (t : Text) → Decidable t.IsIdentifier
  | [] => inferInstanceAs (Decidable False)
  | _ :: _ => decidable_of_iff _ isIdentifier_cons_iff.symm

end Text

namespace Parser

variable {s t : Stream} {u : Text} {c : Char} {condition : Char → Bool}

theorem yields_satisfy_iff :
    (satisfy condition).Yields s c t ↔ s.Reads [c] t ∧ condition c = true := by
  rw [satisfy, yields_ofFunction_iff, Option.filter_eq_some_iff, Stream.reads_singleton_iff]

theorem refuses_satisfy_iff :
    (satisfy condition).Refuses s ↔ ∀ c ∈ s.rest.head?, condition c = false := by
  rw [satisfy, refuses_ofFunction_iff, ← Stream.map_fst_next?]
  cases s.next? <;> simp [Option.filter]

theorem offset_lt_of_yields_satisfy (h : (satisfy condition).Yields s c t) :
    s.offset < t.offset := by
  have ho := (yields_satisfy_iff.1 h).1.offset
  have hc := c.utf8Size_pos
  rw [Text.byteLength_cons] at ho
  omega

theorem stops_satisfy_iff :
    (satisfy condition).Stops s ↔ ∀ c ∈ s.rest.head?, condition c = false := by
  constructor
  · intro h
    rcases h with hn | ⟨c, t, hc, ht⟩
    · exact refuses_satisfy_iff.1 hn
    · exact absurd (offset_lt_of_yields_satisfy hc) (Nat.not_lt_of_le ht)
  · intro h
    exact .inl (refuses_satisfy_iff.2 h)

theorem yields_many_satisfy_iff :
    (satisfy condition).many.Yields s u t ↔ s.Reads u t ∧ Text.IsRun condition u t.rest := by
  rw [yields_many_iff]
  constructor
  · intro h
    induction h with
    | refused hn => exact ⟨.refl _, List.forall_mem_nil _, refuses_satisfy_iff.1 hn⟩
    | stuck hc ht => exact absurd (offset_lt_of_yields_satisfy hc) (Nat.not_lt_of_le ht)
    | step hc _ _ ih =>
      obtain ⟨hread, hcondition⟩ := yields_satisfy_iff.1 hc
      obtain ⟨hmore, hrun⟩ := ih
      exact ⟨hread.trans hmore, Text.isRun_cons_iff.2 ⟨hcondition, hrun⟩⟩
  · intro h
    obtain ⟨hread, hrun⟩ := h
    induction u generalizing s with
    | nil =>
      obtain rfl := Stream.reads_nil_iff.1 hread
      exact (stops_satisfy_iff.2 hrun.stops).repeats
    | cons c u ih =>
      obtain ⟨r, hr, ht⟩ := Stream.reads_append_iff (u := [c]).1 hread
      obtain ⟨hcondition, hu⟩ := Text.isRun_cons_iff.1 hrun
      have hc := yields_satisfy_iff.2 ⟨hr, hcondition⟩
      exact .step hc (offset_lt_of_yields_satisfy hc) (ih ht hu)

/-- Repeating the parser of one character reads the longest leading part of what is left whose
characters all meet its condition. -/
theorem many_satisfy_spans (condition : Char → Bool) :
    (∀ s, ∃ u t, (satisfy condition).many.run s = some (u, t) ∧
      (∀ v, v <+: u ↔ v <+: s.rest ∧ ∀ c ∈ v, condition c = true) ∧
      t.source = s.source ∧ s.rest = u ++ t.rest ∧ t.offset = s.offset + Text.byteLength u) ∧
    ∀ s, ((satisfy condition).many.andThen (satisfy condition)).run s = none := by
  constructor
  · intro s
    obtain ⟨u, t, h⟩ := exists_yields_many (Bounded.ends (satisfy condition).many s)
    obtain ⟨hread, hrun⟩ := yields_many_satisfy_iff.1 h
    refine ⟨u, t, run_eq_some_iff.2 h, ?_, hread.source, hread.rest, hread.offset⟩
    intro v
    rw [hread.rest]
    exact hrun.prefix_iff
  · intro s
    obtain ⟨u, t, h⟩ := exists_yields_many (Bounded.ends (satisfy condition).many s)
    have hstops := (yields_many_satisfy_iff.1 h).2.stops
    rw [run_eq_none_iff, refuses_andThen_iff]
    exact .inr ⟨u, t, h, refuses_satisfy_iff.2 hstops⟩

example : (satisfy fun c => c != '1').many.run (.place "-aé1é".toList 1) =
    some ("aé".toList, .place "-aé1é".toList 4) := by
  decide +kernel

theorem yields_char_iff {d : Char} : (char c).Yields s d t ↔ s.Reads [c] t ∧ d = c := by
  rw [char, ofClass, yields_satisfy_iff, CharClass.contains, beq_iff_eq]
  constructor
  · intro h
    obtain ⟨hr, rfl⟩ := h
    exact ⟨hr, rfl⟩
  · intro h
    obtain ⟨hr, rfl⟩ := h
    exact ⟨hr, rfl⟩

theorem yields_identifier_iff :
    identifier.Yields s u t ↔ s.Reads u t ∧ u.IsIdentifier ∧
      ∀ c ∈ t.rest.head?, Unicode.isIdentifierContinue c = false := by
  simp only [identifier, ofClass, yields_map_iff, Prod.exists, yields_andThen_iff,
    yields_satisfy_iff, yields_many_satisfy_iff]
  constructor
  · intro h
    obtain ⟨c, more, ⟨r, ⟨hc, hstart⟩, hmore, hrun⟩, rfl⟩ := h
    exact ⟨hc.trans hmore, ⟨hstart, hrun.all⟩, hrun.stops⟩
  · intro h
    obtain ⟨hread, hu, hstops⟩ := h
    cases u with
    | nil => exact hu.elim
    | cons c more =>
      obtain ⟨r, hc, hmore⟩ := Stream.reads_append_iff (u := [c]).1 hread
      exact ⟨c, more, ⟨r, ⟨hc, hu.1⟩, hmore, hu.2, hstops⟩, rfl⟩

end Parser

end Munch
