namespace Munch

/-- A function that still waits for at least one argument of type `α`. -/
inductive Curried (α β : Type) where
  | last (f : α → β)
  | more (f : α → Curried α β)

namespace Curried

variable {α β : Type}

def binary (f : α → α → β) : Curried α β :=
  more fun a => last (f a)

def ternary (f : α → α → α → β) : Curried α β :=
  more fun a => binary (f a)

/-- The answer to a call: a value if the argument was the last one, else the number of the function
that waits for the others. -/
inductive Answer (β : Type) where
  | value (b : β)
  | function (id : Nat)
  | badHandle
  deriving DecidableEq, Repr

/-- Calls function number `h` of those made so far, and adds the function that the call leaves. -/
def call (made : List (Curried α β)) (h : Nat) (a : α) : Answer β × List (Curried α β) :=
  match made[h]? with
  | none => (.badHandle, made)
  | some (last f) => (.value (f a), made)
  | some (more f) => (.function made.length, made ++ [f a])

def session (made : List (Curried α β)) : List (Nat × α) → List (Answer β)
  | [] => []
  | (h, a) :: calls => (call made h a).1 :: session (call made h a).2 calls

end Curried

end Munch
