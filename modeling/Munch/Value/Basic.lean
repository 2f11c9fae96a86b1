import Munch.Word
import Munch.Text.Decimal

namespace Munch

inductive Value where
  | unit
  | char (c : Char)
  | int (n : Int64)
  | text (t : Text)
  | list (items : List Value)
  | pair (first second : Value)
  | none
  | some (v : Value)
  deriving Repr

namespace Value

mutual

/-- Whether two values have the same kind and the same parts. -/
def same : Value → Value → Bool
  | unit, unit => true
  | char c, char d => c == d
  | int m, int n => m == n
  | text t, text u => t == u
  | list vs, list ws => sameItems vs ws
  | pair a b, pair c d => same a c && same b d
  | none, none => true
  | some v, some w => same v w
  | _, _ => false

def sameItems : List Value → List Value → Bool
  | [], [] => true
  | v :: vs, w :: ws => same v w && sameItems vs ws
  | _, _ => false

end

mutual

theorem same_eq_true_iff : (v w : Value) → (same v w = true ↔ v = w)
  | unit, w => by cases w <;> simp [same]
  | char c, w => by cases w <;> simp [same]
  | int n, w => by cases w <;> simp [same]
  | text t, w => by cases w <;> simp [same]
  | list vs, w => by
    cases w <;> simp [same]
    exact sameItems_eq_true_iff vs _
  | pair a b, w => by
    cases w <;> simp [same]
    rw [same_eq_true_iff a, same_eq_true_iff b]
  | none, w => by cases w <;> simp [same]
  | some v, w => by
    cases w <;> simp [same]
    exact same_eq_true_iff v _

theorem sameItems_eq_true_iff : (vs ws : List Value) → (sameItems vs ws = true ↔ vs = ws)
  | [], ws => by cases ws <;> simp [sameItems]
  | v :: vs, ws => by
    cases ws <;> simp [sameItems]
    rw [same_eq_true_iff v, sameItems_eq_true_iff vs]

end

instance : DecidableEq Value := fun v w => decidable_of_iff _ (same_eq_true_iff v w)

mutual

/-- All characters and numerals in a value, from left to right. -/
def flatten : Value → Text
  | unit => []
  | char c => [c]
  | int n => Text.ofInt n.toInt
  | text t => t
  | list vs => flattenItems vs
  | pair a b => flatten a ++ flatten b
  | none => []
  | some v => flatten v

def flattenItems : List Value → Text
  | [] => []
  | v :: vs => flatten v ++ flattenItems vs

end

theorem flattenItems_eq_flatMap (vs : List Value) : flattenItems vs = vs.flatMap flatten := by
  induction vs with
  | nil => rfl
  | cons v vs ih => simp [flattenItems, ih]

end Value

end Munch
