import Munch.Parser.Basic

namespace Munch

variable {α β γ : Type}

/-- The reply is finished, and a match leaves a source of at most `B` bytes and an offset that is
beyond `B` only if the offset of `s` was. -/
def Reply.Within (B : Nat) (s : Stream) : Reply α → Prop
  | .noMatch => True
  | .matched _ t => t.source.byteLength ≤ B ∧ t.offset ≤ max s.offset B
  | .unfinished => False

namespace Reply

variable {B : Nat} {s : Stream}

theorem Within.ne_unfinished {r : Reply α} (h : r.Within B s) : r ≠ unfinished := by
  rintro rfl
  exact h

theorem Within.map {r : Reply α} (h : r.Within B s) (f : α → β) : (r.map f).Within B s := by
  cases r <;> exact h

theorem Within.bind {r : Reply α} (h : r.Within B s) {f : α → Stream → Reply β}
    (hf : ∀ a t, r = matched a t → (f a t).Within B s) : (r.bind f).Within B s := by
  cases r with
  | noMatch => exact h
  | matched a t => exact hf a t rfl
  | unfinished => exact h

theorem Within.of_le {r : Reply α} {t : Stream} (h : r.Within B t)
    (ht : t.offset ≤ max s.offset B) : r.Within B s := by
  cases r with
  | noMatch => exact h
  | matched a u => exact ⟨h.1, by have := h.2; omega⟩
  | unfinished => exact h

end Reply

namespace Parser

/-- A parser that stays within the longer of its reach and the source it is given. -/
class Bounded (p : Parser α) where
  reach : Nat
  within : ∀ {B n : Nat} {s : Stream}, reach ≤ B → B < n → s.source.byteLength ≤ B →
    (p.reply n s).Within B s

theorem repeatWhile_within {step : Stream → Reply α} {B : Nat}
    (hstep : ∀ s : Stream, s.source.byteLength ≤ B → (step s).Within B s) {n : Nat} {s : Stream}
    (hs : s.source.byteLength ≤ B) (hn : B - s.offset < n) :
    (repeatWhile step n s).Within B s := by
  induction n generalizing s with
  | zero => omega
  | succ n ih =>
    have h := hstep s hs
    simp only [repeatWhile]
    cases hr : step s with
    | noMatch => exact ⟨hs, by omega⟩
    | unfinished =>
      rw [hr] at h
      exact h
    | matched a t =>
      rw [hr] at h
      obtain ⟨hB, ht⟩ := h
      simp only []
      split
      · exact ⟨hs, by omega⟩
      · exact ((ih hB (by omega)).map _).of_le ht

abbrev Bounded.ofFunction {f : Stream → Option (α × Stream)} (reach : Nat)
    (h : ∀ {B : Nat} {s t : Stream} {a : α}, reach ≤ B → s.source.byteLength ≤ B →
      f s = some (a, t) → t.source.byteLength ≤ B ∧ t.offset ≤ max s.offset B) :
    Bounded (ofFunction f) where
  reach := reach
  within {B n s} hr _ hs := by
    simp only [Parser.ofFunction]
    cases hf : f s with
    | none => trivial
    | some r => exact h (a := r.1) (t := r.2) hr hs hf

instance (a : α) : Bounded (Parser.pure a) :=
  .ofFunction 0 fun _ hs h => by
    cases h
    exact ⟨hs, by omega⟩

instance (f : α → β) (p : Parser α) [b : Bounded p] : Bounded (p.map f) where
  reach := b.reach
  within hr hn hs := (b.within hr hn hs).map f

instance (f : α → Option β) (p : Parser α) [b : Bounded p] : Bounded (p.filterMap f) where
  reach := b.reach
  within {B n s} hr hn hs := by
    have h := b.within hr hn hs
    refine h.bind fun a t ht => ?_
    rw [ht] at h
    cases f a with
    | none => trivial
    | some _ => exact h

instance (p : Parser α) (q : Parser β) [b : Bounded p] [c : Bounded q] :
    Bounded (p.andThen q) where
  reach := max b.reach c.reach
  within {B n s} hr hn hs := by
    have h := b.within (s := s) (by omega) hn hs
    refine h.bind fun a t ht => ?_
    rw [ht] at h
    exact ((c.within (by omega) hn h.1).map _).of_le h.2

instance (p : Parser α) [b : Bounded p] : Bounded p.many where
  reach := b.reach
  within hr hn hs := repeatWhile_within (fun _ ht => b.within hr hn ht) hs (by omega)

instance (p : Parser (α → β)) (q : Parser α) [Bounded p] [Bounded q] : Bounded (p.apply q) :=
  inferInstanceAs (Bounded ((p.andThen q).map _))

instance (a : α) : Bounded (pure a : Parser α) := inferInstanceAs (Bounded (Parser.pure a))

instance (f : α → β) (p : Parser α) [Bounded p] : Bounded (f <$> p) :=
  inferInstanceAs (Bounded (p.map f))

instance (p : Parser (α → β)) (q : Parser α) [Bounded p] [Bounded q] : Bounded (p <*> q) :=
  inferInstanceAs (Bounded (p.apply q))

/-- A number of rounds that every repetition in `p` ends within, when it is asked on `s`. -/
def budget (p : Parser α) [b : Bounded p] (s : Stream) : Nat :=
  max b.reach s.source.byteLength + 1

theorem reply_budget_ne_unfinished (p : Parser α) [b : Bounded p] (s : Stream) :
    p.reply (p.budget s) s ≠ .unfinished :=
  (b.within (B := max b.reach s.source.byteLength) (by omega) (Nat.lt_succ_self _)
    (by omega)).ne_unfinished

/-- What a bounded parser makes of a stream: the value of its match and the stream that is left. -/
def run (p : Parser α) [Bounded p] (s : Stream) : Option (α × Stream) :=
  (p.reply (p.budget s) s).toOption (p.reply_budget_ne_unfinished s)

def parse (p : Parser α) [Bounded p] (t : Text) : Option (α × Stream) :=
  p.run (.ofText t)

theorem Bounded.ends (p : Parser α) [Bounded p] (s : Stream) : p.Ends s :=
  ⟨_, p.reply_budget_ne_unfinished s⟩

theorem run_eq_some_iff {p : Parser α} [Bounded p] {s t : Stream} {a : α} :
    p.run s = some (a, t) ↔ p.Yields s a t := by
  rw [run, Reply.toOption_eq_some_iff]
  constructor
  · exact fun h => ⟨_, h⟩
  · intro h
    obtain ⟨n, h⟩ := h
    rw [← h]
    exact p.reply_eq_of_finished (p.reply_budget_ne_unfinished s) (by simp [h])

theorem run_eq_none_iff {p : Parser α} [Bounded p] {s : Stream} :
    p.run s = none ↔ p.Refuses s := by
  rw [run, Reply.toOption_eq_none_iff]
  constructor
  · exact fun h => ⟨_, h⟩
  · intro h
    obtain ⟨n, h⟩ := h
    rw [← h]
    exact p.reply_eq_of_finished (p.reply_budget_ne_unfinished s) (by simp [h])

end Parser

structure BoundedParser (α : Type) where
  parser : Parser α
  bounded : parser.Bounded

namespace BoundedParser

instance (p : BoundedParser α) : p.parser.Bounded := p.bounded

def of (p : Parser α) [b : p.Bounded] : BoundedParser α := ⟨p, b⟩

protected def map (f : α → β) (p : BoundedParser α) : BoundedParser β :=
  of (p.parser.map f)

def filterMap (f : α → Option β) (p : BoundedParser α) : BoundedParser β :=
  of (p.parser.filterMap f)

def andThen (p : BoundedParser α) (q : BoundedParser β) : BoundedParser (α × β) :=
  of (p.parser.andThen q.parser)

def many (p : BoundedParser α) : BoundedParser (List α) :=
  of p.parser.many

protected def apply (p : BoundedParser (α → β)) (q : BoundedParser α) : BoundedParser β :=
  of (p.parser.apply q.parser)

end BoundedParser

end Munch
