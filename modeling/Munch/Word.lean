namespace Munch.Word

/-- The word that holds the integer `n`, if one does. -/
def ofInt? (n : Int) : Option Int64 :=
  if Int64.minValue.toInt ≤ n ∧ n ≤ Int64.maxValue.toInt then some (Int64.ofInt n) else none

def add? (m n : Int64) : Option Int64 := ofInt? (m.toInt + n.toInt)

def sub? (m n : Int64) : Option Int64 := ofInt? (m.toInt - n.toInt)

def mul? (m n : Int64) : Option Int64 := ofInt? (m.toInt * n.toInt)

theorem ofInt?_eq_some_iff {n : Int} {w : Int64} : ofInt? n = some w ↔ w.toInt = n := by
  unfold ofInt?
  constructor
  · intro h
    split at h
    · rename_i hn
      rw [Int64.toInt_minValue, Int64.toInt_maxValue] at hn
      cases h
      exact Int64.toInt_ofInt_of_le hn.1 (Int.lt_of_le_sub_one hn.2)
    · cases h
  · intro h
    cases h
    rw [if_pos ⟨w.minValue_le_toInt, w.toInt_le⟩, Int64.ofInt_toInt]

def largest : Nat := 9223372036854775807

theorem toInt_maxValue_eq_largest : Int64.maxValue.toInt = largest := rfl

theorem ofInt?_natCast_eq_none_iff {n : Nat} : ofInt? n = none ↔ largest < n := by
  have hmin : Int64.minValue.toInt ≤ n :=
    Int.le_trans (by decide) (Int.natCast_nonneg n)
  rw [ofInt?, toInt_maxValue_eq_largest, ← Nat.not_le]
  by_cases hn : n ≤ largest
  · rw [if_pos ⟨hmin, Int.ofNat_le.2 hn⟩]
    exact iff_of_false nofun (not_not_intro hn)
  · rw [if_neg fun h => hn (Int.ofNat_le.1 h.2)]
    exact iff_of_true rfl hn

/-- A word holds each natural number up to the largest one. -/
theorem exists_toInt_eq_iff {n : Nat} : (∃ w : Int64, w.toInt = n) ↔ n ≤ largest := by
  simp only [← ofInt?_eq_some_iff]
  rw [← Option.isSome_iff_exists, ← Option.ne_none_iff_isSome, Ne, ofInt?_natCast_eq_none_iff,
    Nat.not_lt]

end Munch.Word
