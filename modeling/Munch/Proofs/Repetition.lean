import Munch.Grammar.Basic
import Munch.Parser.Lemmas

namespace Munch

namespace Parser

variable {α β : Type}

/-- A repetition of the parser stops at once: it finds no match, or a match that does not move
forward. -/
def Stops (p : Parser α) (s : Stream) : Prop :=
  p.Refuses s ∨ ∃ a t, p.Yields s a t ∧ t.offset ≤ s.offset

/-- Asked on each of the streams `x 0`, `x 1` and so on, the parser yields the next of the values
and leaves the next stream, further on, until it stops. -/
structure Visits (p : Parser α) (x : Nat → Stream) (as : List α) : Prop where
  yields (i : Nat) (h : i < as.length) : p.Yields (x i) as[i] (x (i + 1))
  forward (i : Nat) (h : i < as.length) : (x i).offset < (x (i + 1)).offset
  stops : p.Stops (x as.length)

theorem Stops.repeats {p : Parser α} {s : Stream} (h : p.Stops s) : p.Repeats s [] s := by
  rcases h with h | ⟨a, t, ha, ht⟩
  · exact .refused h
  · exact .stuck ha ht

theorem Repeats.stops {p : Parser α} {s t : Stream} {as : List α} (h : p.Repeats s as t) :
    p.Stops t := by
  induction h with
  | refused h => exact .inl h
  | stuck ha ht => exact .inr ⟨_, _, ha, ht⟩
  | step _ _ _ ih => exact ih

theorem visits_nil_iff {p : Parser α} {x : Nat → Stream} : p.Visits x [] ↔ p.Stops (x 0) := by
  constructor
  · intro h
    exact h.stops
  · intro h
    exact ⟨fun i hi => absurd hi (Nat.not_lt_zero i), fun i hi => absurd hi (Nat.not_lt_zero i), h⟩

theorem visits_cons_iff {p : Parser α} {x : Nat → Stream} {a : α} {as : List α} :
    p.Visits x (a :: as) ↔
      p.Yields (x 0) a (x 1) ∧ (x 0).offset < (x 1).offset ∧ p.Visits (fun i => x (i + 1)) as := by
  constructor
  · intro h
    refine ⟨h.yields 0 (Nat.zero_lt_succ _), h.forward 0 (Nat.zero_lt_succ _), ?_, ?_, h.stops⟩
    · intro i hi
      exact h.yields (i + 1) (Nat.succ_lt_succ hi)
    · intro i hi
      exact h.forward (i + 1) (Nat.succ_lt_succ hi)
  · intro h
    obtain ⟨ha, hf, h⟩ := h
    refine ⟨?_, ?_, h.stops⟩
    · intro i hi
      cases i with
      | zero => exact ha
      | succ i => exact h.yields i (Nat.lt_of_succ_lt_succ hi)
    · intro i hi
      cases i with
      | zero => exact hf
      | succ i => exact h.forward i (Nat.lt_of_succ_lt_succ hi)

theorem Visits.repeats {p : Parser α} {x : Nat → Stream} {as : List α} (h : p.Visits x as) :
    p.Repeats (x 0) as (x as.length) := by
  induction as generalizing x with
  | nil => exact (visits_nil_iff.1 h).repeats
  | cons a as ih =>
    obtain ⟨ha, hf, hx⟩ := visits_cons_iff.1 h
    exact .step ha hf (ih hx)

theorem Repeats.exists_visits {p : Parser α} {s t : Stream} {as : List α}
    (h : p.Repeats s as t) : ∃ x, x 0 = s ∧ x as.length = t ∧ p.Visits x as := by
  induction h with
  | @refused s h => exact ⟨fun _ => s, rfl, rfl, visits_nil_iff.2 (.inl h)⟩
  | @stuck s t a ha ht => exact ⟨fun _ => s, rfl, rfl, visits_nil_iff.2 (.inr ⟨a, t, ha, ht⟩)⟩
  | @step s t u a as ha hf _ ih =>
    obtain ⟨x, rfl, rfl, hx⟩ := ih
    exact ⟨fun i => i.casesOn s x, rfl, rfl, visits_cons_iff.2 ⟨ha, hf, hx⟩⟩

/-- A repetition that ends matches, and its values and the stream that it leaves are the only ones
that the parser visits from there. -/
theorem many_visits_unique {p : Parser α} {s : Stream} (hs : p.many.Ends s) :
    ∃ as r, p.many.Yields s as r ∧
      (∀ bs t, (∃ x, x 0 = s ∧ x bs.length = t ∧ p.Visits x bs) ↔ bs = as ∧ t = r) ∧
      s.offset ≤ r.offset ∧ p.many.Yields r [] r := by
  rcases hs.yields_or_refuses with ⟨as, r, hy⟩ | hn
  · have hr := yields_many_iff.1 hy
    refine ⟨as, r, hy, ?_, hr.offset_le, yields_many_iff.2 hr.stops.repeats⟩
    intro bs t
    constructor
    · intro h
      obtain ⟨x, rfl, rfl, hx⟩ := h
      exact (yields_many_iff.2 hx.repeats).unique hy
    · intro h
      obtain ⟨rfl, rfl⟩ := h
      exact hr.exists_visits
  · exact (not_refuses_many hn).elim

/-- Each round jumps to `é` and reads it, so the second one is no further on than the first. -/
theorem many_visits_unique_of_jump :
    ((jumpTo ['é']).andThen (ofClass .identifierStart)).many.Ends (.place "xyz".toList 1) ∧
      (∃ x, x 0 = .place "xyz".toList 1 ∧ x 1 = .place ['é'] 2 ∧
        ((jumpTo ['é']).andThen (ofClass .identifierStart)).Visits x [((), 'é')]) ∧
      ((jumpTo ['é']).andThen (ofClass .identifierStart)).many.Yields (.place ['é'] 2) []
        (.place ['é'] 2) := by
  have hy : ((jumpTo ['é']).andThen (ofClass .identifierStart)).many.Yields
      (.place "xyz".toList 1) [((), 'é')] (.place ['é'] 2) :=
    run_eq_some_iff.1 (by decide +kernel)
  obtain ⟨as, r, hr, hunique, _, hagain⟩ := many_visits_unique hy.ends
  obtain ⟨rfl, rfl⟩ := hr.unique hy
  exact ⟨hy.ends, (hunique _ _).2 ⟨rfl, rfl⟩, hagain⟩

/-- What repetition of repetition gives, `n` levels deep. -/
def Nested (α : Type) : Nat → Type
  | 0 => α
  | n + 1 => List (Nested α n)

def manyTimes (p : Parser α) : (n : Nat) → Parser (Nested α n)
  | 0 => p
  | n + 1 => (manyTimes p n).many

/-- The list inside `n` more lists of one element each. -/
def enclose (as : List α) : (n : Nat) → List (Nested α n)
  | 0 => as
  | n + 1 => [enclose as n]

theorem yields_manyTimes_of_stops {p : Parser α} {r : Stream} (h : p.Stops r) (n : Nat) :
    (p.manyTimes (n + 1)).Yields r ([] : List (Nested α n)) r := by
  induction n with
  | zero => exact yields_many_iff.2 h.repeats
  | succ n ih => exact yields_many_iff.2 (.stuck ih (Nat.le_refl _))

/-- The first round of each level does all that the level below it does, and the second one does not
move. -/
theorem yields_manyTimes_of_forward {p : Parser α} {s r : Stream} {as : List α}
    (h : p.Repeats s as r) (hr : s.offset < r.offset) (n : Nat) :
    (p.manyTimes (n + 1)).Yields s (enclose as n) r := by
  induction n with
  | zero => exact yields_many_iff.2 h
  | succ n ih =>
    have hstop := yields_manyTimes_of_stops h.stops n
    exact yields_many_iff.2 (.step ih hr (.stuck hstop (Nat.le_refl _)))

theorem Repeats.yields_manyTimes {p : Parser α} {s r : Stream} {as : List α}
    (h : p.Repeats s as r) (n : Nat) :
    (p.manyTimes (n + 1)).Yields s (if as.isEmpty then [] else enclose as n) r := by
  cases h with
  | refused hn => exact yields_manyTimes_of_stops (.inl hn) n
  | stuck ha ht => exact yields_manyTimes_of_stops (.inr ⟨_, _, ha, ht⟩) n
  | step ha ht hr =>
    exact yields_manyTimes_of_forward (.step ha ht hr) (Nat.lt_of_lt_of_le ht hr.offset_le) n

/-- However deep a repetition is repeated, its values are those of the innermost one, in lists of
one element. -/
theorem many_many_collapses {p : Parser α} {s r : Stream} {as : List α}
    (h : p.many.Yields s as r) (n : Nat) :
    (p.manyTimes (n + 1)).Yields s (if as.isEmpty then [] else enclose as n) r ∧
      ∀ (bs : List (Nested α (n + 1))) t,
        (p.manyTimes (n + 2)).Yields s bs t → bs.length ≤ 1 := by
  have hr := yields_many_iff.1 h
  refine ⟨hr.yields_manyTimes n, ?_⟩
  intro bs t hbs
  obtain ⟨rfl, _⟩ := hbs.unique (hr.yields_manyTimes (n + 1))
  cases as with
  | nil => exact Nat.zero_le 1
  | cons a as => exact Nat.le_refl 1

theorem many_many_collapses_of_rewind :
    (rewind.andThen (skip 2)).many.Yields (.place "xyz".toList 1) [((), ())]
        (.place "xyz".toList 2) ∧
      ((rewind.andThen (skip 2)).manyTimes 3).Yields (.place "xyz".toList 1)
        ([[[((), ())]]] : List (List (List (Unit × Unit)))) (.place "xyz".toList 2) := by
  have hy : (rewind.andThen (skip 2)).many.Yields (.place "xyz".toList 1) [((), ())]
      (.place "xyz".toList 2) :=
    run_eq_some_iff.1 (by decide +kernel)
  exact ⟨hy, (many_many_collapses hy 2).1⟩

def Nested.toValue : (n : Nat) → Nested Value n → Value
  | 0, v => v
  | n + 1, vs => .list (List.map (toValue n) vs)

end Parser

namespace Grammar

theorem parser_manyTimes (n : Nat) (g : Grammar Empty) :
    (manyTimes n g).parser = (g.parser.manyTimes n).map (Parser.Nested.toValue n) := by
  induction n with
  | zero => exact (Parser.map_id _).symm
  | succ n ih =>
    calc
      (manyTimes (n + 1) g).parser = (manyTimes n g).parser.many.map .list := rfl
      _ = ((g.parser.manyTimes n).many.map (List.map (Parser.Nested.toValue n))).map .list := by
        rw [ih, Parser.map_many]
      _ = (g.parser.manyTimes (n + 1)).map (Parser.Nested.toValue (n + 1)) :=
        Parser.map_map _ _ _

end Grammar

end Munch
