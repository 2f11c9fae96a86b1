import Munch.Stream.Basic

namespace Munch

inductive Reply (α : Type) where
  | noMatch
  | matched (value : α) (rest : Stream)
  /-- Some repetition was still going on when its budget ran out. -/
  | unfinished
  deriving DecidableEq, Repr

namespace Reply

variable {α β : Type}

def bind : Reply α → (α → Stream → Reply β) → Reply β
  | noMatch, _ => noMatch
  | matched a t, f => f a t
  | unfinished, _ => unfinished

def map (f : α → β) (r : Reply α) : Reply β :=
  r.bind fun a t => matched (f a) t

def ofOption : Option (α × Stream) → Reply α
  | none => noMatch
  | some (a, t) => matched a t

/-- What a reply says when the budget was large enough. -/
def toOption : (r : Reply α) → r ≠ unfinished → Option (α × Stream)
  | noMatch, _ => none
  | matched a t, _ => some (a, t)
  | unfinished, h => absurd rfl h

@[simp] theorem bind_noMatch (f : α → Stream → Reply β) : noMatch.bind f = noMatch := rfl

@[simp] theorem bind_matched (a : α) (t : Stream) (f : α → Stream → Reply β) :
    (matched a t).bind f = f a t := rfl

@[simp] theorem bind_unfinished (f : α → Stream → Reply β) : unfinished.bind f = unfinished := rfl

@[simp] theorem map_noMatch (f : α → β) : (noMatch : Reply α).map f = noMatch := rfl

@[simp] theorem map_matched (f : α → β) (a : α) (t : Stream) :
    (matched a t).map f = matched (f a) t := rfl

@[simp] theorem map_unfinished (f : α → β) : (unfinished : Reply α).map f = unfinished := rfl

theorem toOption_eq_none_iff {r : Reply α} {h : r ≠ unfinished} :
    r.toOption h = none ↔ r = noMatch := by
  cases r with
  | noMatch => simp [toOption]
  | matched => simp [toOption]
  | unfinished => exact absurd rfl h

theorem toOption_eq_some_iff {r : Reply α} {h : r ≠ unfinished} {a : α} {t : Stream} :
    r.toOption h = some (a, t) ↔ r = matched a t := by
  cases r with
  | noMatch => simp [toOption]
  | matched => simp [toOption]
  | unfinished => exact absurd rfl h

end Reply

/-- A reply to every stream for every budget, which is the number of rounds that a repetition may
take; once a reply is finished, no larger budget changes it. -/
structure Parser (α : Type) where
  reply : Nat → Stream → Reply α
  settled : ∀ {n m : Nat} {s : Stream}, n ≤ m → reply n s ≠ .unfinished → reply m s = reply n s

namespace Parser

variable {α β γ : Type}

theorem ext {p q : Parser α} (h : ∀ n s, p.reply n s = q.reply n s) : p = q := by
  obtain ⟨f, _⟩ := p
  obtain ⟨g, _⟩ := q
  obtain rfl : f = g := funext fun n => funext fun s => h n s
  rfl

/-- The parser matches on `s` with the value `a` and leaves `t`. -/
def Yields (p : Parser α) (s : Stream) (a : α) (t : Stream) : Prop :=
  ∃ n, p.reply n s = .matched a t

def Refuses (p : Parser α) (s : Stream) : Prop :=
  ∃ n, p.reply n s = .noMatch

/-- Some budget is large enough. -/
def Ends (p : Parser α) (s : Stream) : Prop :=
  ∃ n, p.reply n s ≠ .unfinished

theorem Yields.ends {p : Parser α} {s t : Stream} {a : α} (h : p.Yields s a t) : p.Ends s := by
  obtain ⟨n, h⟩ := h
  exact ⟨n, by simp [h]⟩

theorem Refuses.ends {p : Parser α} {s : Stream} (h : p.Refuses s) : p.Ends s := by
  obtain ⟨n, h⟩ := h
  exact ⟨n, by simp [h]⟩

theorem reply_eq_of_le {p : Parser α} {n m : Nat} {s : Stream} {r : Reply α} (hnm : n ≤ m)
    (h : p.reply n s = r) (hr : r ≠ .unfinished) : p.reply m s = r := by
  rw [← h]
  exact p.settled hnm (by rwa [h])

theorem reply_eq_of_finished {p : Parser α} {n m : Nat} {s : Stream}
    (hn : p.reply n s ≠ .unfinished) (hm : p.reply m s ≠ .unfinished) :
    p.reply n s = p.reply m s := by
  rcases Nat.le_total n m with h | h
  · exact (p.settled h hn).symm
  · exact p.settled h hm

theorem Yields.unique {p : Parser α} {s t u : Stream} {a b : α} (h : p.Yields s a t)
    (k : p.Yields s b u) : a = b ∧ t = u := by
  obtain ⟨n, h⟩ := h
  obtain ⟨m, k⟩ := k
  have := p.reply_eq_of_finished (n := n) (m := m) (s := s) (by simp [h]) (by simp [k])
  rw [h, k] at this
  exact Reply.matched.inj this

theorem Yields.not_refuses {p : Parser α} {s t : Stream} {a : α} (h : p.Yields s a t) :
    ¬ p.Refuses s := by
  intro hr
  obtain ⟨n, h⟩ := h
  obtain ⟨m, k⟩ := hr
  have := p.reply_eq_of_finished (n := n) (m := m) (s := s) (by simp [h]) (by simp [k])
  rw [h, k] at this
  cases this

theorem Ends.yields_or_refuses {p : Parser α} {s : Stream} (h : p.Ends s) :
    (∃ a t, p.Yields s a t) ∨ p.Refuses s := by
  obtain ⟨n, h⟩ := h
  cases hr : p.reply n s with
  | noMatch => exact .inr ⟨n, hr⟩
  | matched a t => exact .inl ⟨a, t, n, hr⟩
  | unfinished => exact absurd hr h

def ofFunction (f : Stream → Option (α × Stream)) : Parser α where
  reply _ s := .ofOption (f s)
  settled _ _ := rfl

protected def pure (a : α) : Parser α :=
  ofFunction fun s => some (a, s)

protected def map (f : α → β) (p : Parser α) : Parser β where
  reply n s := (p.reply n s).map f
  settled {n m s} hnm h := by
    rw [p.settled hnm fun hp => h (by rw [hp]; rfl)]

/-- Changes the value of a match, or refuses it where `f` gives none. -/
def filterMap (f : α → Option β) (p : Parser α) : Parser β where
  reply n s := (p.reply n s).bind fun a t => .ofOption ((f a).map (·, t))
  settled {n m s} hnm h := by
    rw [p.settled hnm fun hp => h (by rw [hp]; rfl)]

/-- One parser, then another on what the first one left, giving both values. -/
def andThen (p : Parser α) (q : Parser β) : Parser (α × β) where
  reply n s := (p.reply n s).bind fun a t => (q.reply n t).map (a, ·)
  settled {n m s} hnm h := by
    rw [p.settled hnm fun hp => h (by rw [hp]; rfl)]
    cases hp : p.reply n s with
    | noMatch => rfl
    | unfinished => rfl
    | matched a t =>
      rw [hp, Reply.bind_matched] at h
      rw [Reply.bind_matched, Reply.bind_matched, q.settled hnm fun hq => h (by rw [hq]; rfl)]

/-- Asks for values as long as `step` gives them and moves forward, for at most `n` rounds; a round
that does not move forward leaves no trace. -/
def repeatWhile (step : Stream → Reply α) : Nat → Stream → Reply (List α)
  | 0, _ => .unfinished
  | n + 1, s =>
    match step s with
    | .noMatch => .matched [] s
    | .unfinished => .unfinished
    | .matched a t =>
      if t.offset ≤ s.offset then .matched [] s
      else (repeatWhile step n t).map (a :: ·)

theorem repeatWhile_settled {step step' : Stream → Reply α}
    (hstep : ∀ s, step s ≠ .unfinished → step' s = step s) {n m : Nat} (hnm : n ≤ m) {s : Stream}
    (h : repeatWhile step n s ≠ .unfinished) :
    repeatWhile step' m s = repeatWhile step n s := by
  induction n generalizing m s with
  | zero => exact absurd rfl h
  | succ n ih =>
    obtain ⟨m, rfl⟩ : ∃ k, m = k + 1 := ⟨m - 1, by omega⟩
    have hs : step s ≠ .unfinished := fun hs => h (by simp only [repeatWhile, hs])
    simp only [repeatWhile, hstep s hs] at h ⊢
    cases hp : step s with
    | noMatch => rfl
    | unfinished => exact absurd hp hs
    | matched a t =>
      simp only [hp] at h ⊢
      split
      · rfl
      · rename_i hoff
        rw [if_neg hoff] at h
        rw [ih (Nat.le_of_succ_le_succ hnm) fun hr => h (by rw [hr]; rfl)]

/-- Repeats a parser as often as it matches and moves forward, and gives all values in order. -/
def many (p : Parser α) : Parser (List α) where
  reply n := repeatWhile (p.reply n) n
  settled hnm h := repeatWhile_settled (fun _ hs => p.settled hnm hs) hnm h

protected def apply (p : Parser (α → β)) (q : Parser α) : Parser β :=
  (p.andThen q).map fun (f, a) => f a

instance : Applicative Parser where
  pure := Parser.pure
  map := Parser.map
  seq p q := p.apply (q ())

/-- The text of a parser, which says nothing about what it does. -/
def describe (_ : Parser α) : Text :=
  "Parser \x7b .. \x7d".toList

end Parser

end Munch
