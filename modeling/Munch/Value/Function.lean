import Munch.Value.Basic

namespace Munch

namespace Value

def ofResult : Option Int64 → Value
  | Option.none => none
  | Option.some n => some (int n)

def ofLength (n : Nat) : Value := int (Int64.ofNat n)

end Value

/-- A function of one value that always has a result; it leaves a value of an unexpected kind alone.
-/
inductive Transform where
  | identity
  | wrap
  | flatten
  | length
  | reverse
  | first
  | second
  | swap
  | upper
  | codePoint
  | addWrapping (k : Int64)
  | mulWrapping (k : Int64)
  | const (v : Value)
  deriving DecidableEq, Repr

namespace Transform

def apply : Transform → Value → Value
  | identity, v => v
  | wrap, v => .some v
  | flatten, v => .text v.flatten
  | length, .list vs => .ofLength vs.length
  | length, .text t => .ofLength (List.length t)
  | reverse, .list vs => .list vs.reverse
  | reverse, .text t => .text (List.reverse t)
  | first, .pair a _ => a
  | second, .pair _ b => b
  | swap, .pair a b => .pair b a
  | upper, .char c => .char c.toUpper
  | upper, .text t => .text (List.map Char.toUpper t)
  | codePoint, .char c => .ofLength c.toNat
  | addWrapping k, .int n => .int (n + k)
  | mulWrapping k, .int n => .int (n * k)
  | const w, _ => w
  | _, v => v

/-- The transform that an operator stands for: `-` negates, `#` flattens, `?` wraps, and any other
value leaves its operand alone. -/
def ofOperator : Value → Transform
  | .char '-' => mulWrapping (-1)
  | .char '#' => flatten
  | .char '?' => wrap
  | _ => identity

end Transform

/-- A function of one value that may reject it, as it does a value of an unexpected kind. -/
inductive Filter where
  | accept
  | reject
  | unwrap
  | nonempty
  | even
  | atMost (k : Int64)
  | equals (v : Value)
  deriving DecidableEq, Repr

namespace Filter

def apply : Filter → Value → Option Value
  | accept, v => some v
  | reject, _ => none
  | unwrap, .some v => some v
  | nonempty, .list vs => if vs.isEmpty then none else some (.list vs)
  | nonempty, .text t => if t.isEmpty then none else some (.text t)
  | even, .int n => if n % 2 = 0 then some (.int n) else none
  | even, .char c =>
    if c.isDigit ∧ c.toNat % 2 = 0 then some (.ofLength (c.toNat - '0'.toNat)) else none
  | atMost k, .int n => if n ≤ k then some (.int n) else none
  | equals w, v => if v = w then some v else none
  | _, _ => none

end Filter

inductive Binary where
  | pair
  | first
  | second
  | concat
  | add
  | sub
  | mul
  deriving DecidableEq, Repr

namespace Binary

def apply : Binary → Value → Value → Value
  | pair, a, b => .pair a b
  | first, a, _ => a
  | second, _, b => b
  | concat, a, b => .text (a.flatten ++ b.flatten)
  | add, .int m, .int n => .ofResult (Word.add? m n)
  | sub, .int m, .int n => .ofResult (Word.sub? m n)
  | mul, .int m, .int n => .ofResult (Word.mul? m n)
  | _, _, _ => .none

end Binary

inductive Ternary where
  | list
  | middle
  /-- The texts of all three values, the last one first. -/
  | concatReversed
  /-- The product of the first and the third value. -/
  | multiply
  /-- The first and the third value joined by the operator between them. -/
  | calculate
  deriving DecidableEq, Repr

namespace Ternary

def apply : Ternary → Value → Value → Value → Value
  | list, a, b, c => .list [a, b, c]
  | middle, _, b, _ => b
  | concatReversed, a, b, c => .text (c.flatten ++ b.flatten ++ a.flatten)
  | multiply, a, _, c => Binary.mul.apply a c
  | calculate, a, .char '+', c => Binary.add.apply a c
  | calculate, a, .char '-', c => Binary.sub.apply a c
  | calculate, a, .char '*', c => Binary.mul.apply a c
  | calculate, _, _, _ => .none

end Ternary

end Munch
