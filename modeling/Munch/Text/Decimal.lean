import Munch.Text.Basic

namespace Munch.Text

/-- The number that a run of decimal digits stands for. -/
def decimalValue (digits : Text) : Nat :=
  Nat.ofDigitChars 10 digits 0

def ofNat (n : Nat) : Text :=
  Nat.toDigits 10 n

def ofInt (n : Int) : Text :=
  if n < 0 then '-' :: ofNat n.natAbs else ofNat n.natAbs

def hexOfNat (n : Nat) : Text :=
  Nat.toDigits 16 n

theorem decimalValue_ofNat (n : Nat) : decimalValue (ofNat n) = n :=
  Nat.ofDigitChars_toDigits (by decide) (by decide)

theorem ofInt_natCast (n : Nat) : ofInt n = ofNat n :=
  if_neg (Int.not_lt.2 (Int.natCast_nonneg n))

theorem toNat_sub_lt_ten {c : Char} (h : c.isDigit = true) : c.toNat - '0'.toNat < 10 := by
  obtain ⟨hzero, hnine⟩ := Char.isDigit_iff_toNat.1 h
  rw [Nat.sub_lt_iff_lt_add hzero]
  exact Nat.lt_succ_of_le hnine

theorem ofNat_toNat_sub {c : Char} (h : c.isDigit = true) :
    ofNat (c.toNat - '0'.toNat) = [c] := by
  have hlt := toNat_sub_lt_ten h
  have hc : (c.toNat - '0'.toNat).digitChar = c := by
    rw [← Char.toNat_inj, Nat.toNat_digitChar_of_lt_ten hlt]
    exact Nat.add_sub_cancel' (Char.isDigit_iff_toNat.1 h).1
  rw [ofNat, Nat.toDigits_of_lt_base hlt, hc]

theorem isDigit_of_mem_ofNat {n : Nat} {c : Char} (h : c ∈ ofNat n) : c.isDigit = true :=
  Nat.isDigit_of_mem_toDigits (by decide) (by decide) h

theorem exists_digitChar_of_mem_hexOfNat {n : Nat} {c : Char} (h : c ∈ hexOfNat n) :
    ∃ d < 16, c = Nat.digitChar d := by
  induction n using Nat.strongRecOn with
  | ind n ih =>
    rw [hexOfNat, Nat.toDigits_eq_if (by decide)] at h
    split at h
    · rename_i hn
      exact ⟨n, hn, List.mem_singleton.1 h⟩
    · rename_i hn
      rcases List.mem_append.1 h with hmore | hlast
      · exact ih (n / 16) (by omega) hmore
      · exact ⟨n % 16, by omega, List.mem_singleton.1 hlast⟩

/-- At least one digit, and nothing else. -/
structure IsNumeral (t : Text) : Prop where
  nonempty : t ≠ []
  digits : ∀ c ∈ t, c.isDigit = true

theorem isNumeral_ofNat (n : Nat) : (ofNat n).IsNumeral :=
  ⟨Nat.toDigits_ne_nil, fun _ hc => isDigit_of_mem_ofNat hc⟩

theorem byteLength_eq_length {t : Text} (h : ∀ c ∈ t, c.isDigit = true) :
    byteLength t = t.length := by
  induction t with
  | nil => rfl
  | cons c t ih =>
    obtain ⟨hc, ht⟩ := List.forall_mem_cons.1 h
    have hnine := (Char.isDigit_iff_toNat.1 hc).2
    have hsize : c.utf8Size = 1 :=
      Char.utf8Size_eq_one_iff.2 (Nat.le_trans hnine (by decide))
    rw [byteLength_cons, ih ht, hsize, List.length_cons, Nat.add_comm]

theorem le_ofDigitChars (t : Text) (n : Nat) : n ≤ Nat.ofDigitChars 10 t n := by
  rw [Nat.ofDigitChars_eq_ofDigitChars_zero]
  exact Nat.le_trans (Nat.le_mul_of_pos_left n (Nat.pow_pos (by decide))) (Nat.le_add_right _ _)

/-- Further digits after the numeral of a number that is not zero give the numeral of the number
that they lead to. -/
theorem ofNat_append_digits {t : Text} (ht : ∀ c ∈ t, c.isDigit = true) {n : Nat} (hn : 0 < n) :
    ofNat n ++ t = ofNat (Nat.ofDigitChars 10 t n) := by
  induction t generalizing n with
  | nil => rw [List.append_nil, Nat.ofDigitChars_nil]
  | cons c t ih =>
    obtain ⟨hc, ht⟩ := List.forall_mem_cons.1 ht
    have hnext : ofNat n ++ [c] = ofNat (10 * n + (c.toNat - '0'.toNat)) := by
      rw [← ofNat_toNat_sub hc]
      exact Nat.toDigits_append_toDigits (by decide) hn (toNat_sub_lt_ten hc)
    calc
      ofNat n ++ c :: t = (ofNat n ++ [c]) ++ t := List.append_cons _ _ _
      _ = ofNat (10 * n + (c.toNat - '0'.toNat)) ++ t := by rw [hnext]
      _ = ofNat (Nat.ofDigitChars 10 (c :: t) n) := by
        rw [ih ht (by omega), Nat.ofDigitChars_cons]

/-- A numeral is that of its value, with zeros before it. -/
theorem IsNumeral.exists_eq_replicate_append {t : Text} (h : t.IsNumeral) :
    ∃ z, t = List.replicate z '0' ++ ofNat t.decimalValue := by
  induction t with
  | nil => exact absurd rfl h.nonempty
  | cons c t ih =>
    obtain ⟨hc, ht⟩ := List.forall_mem_cons.1 h.digits
    have hvalue : decimalValue (c :: t) = Nat.ofDigitChars 10 t (c.toNat - '0'.toNat) := by
      rw [decimalValue, Nat.ofDigitChars_cons, Nat.mul_zero, Nat.zero_add]
    rw [hvalue]
    by_cases hzero : c.toNat - '0'.toNat = 0
    · have hle := (Char.isDigit_iff_toNat.1 hc).1
      obtain rfl := Char.toNat_inj.1 (Nat.le_antisymm (Nat.le_of_sub_eq_zero hzero) hle)
      by_cases hnil : t = []
      · exact ⟨0, by rw [hnil]; rfl⟩
      · obtain ⟨z, hz⟩ := ih ⟨hnil, ht⟩
        exact ⟨z + 1, congrArg ('0' :: ·) hz⟩
    · have hnumeral := ofNat_append_digits ht (Nat.pos_of_ne_zero hzero)
      rw [ofNat_toNat_sub hc] at hnumeral
      exact ⟨0, hnumeral⟩

/-- A numeral without leading zeros: only the numeral of zero starts with one. -/
structure IsCanonicalNumeral (t : Text) : Prop extends IsNumeral t where
  leading : t.head? = some '0' → t = ['0']

theorem head?_ofNat_ne_zero {n : Nat} (hn : 0 < n) : (ofNat n).head? ≠ some '0' := by
  induction n using Nat.strongRecOn with
  | ind n ih =>
    by_cases hlt : n < 10
    · have hdigit : ∀ d < 10, 0 < d → Nat.digitChar d ≠ '0' := by decide
      rw [ofNat, Nat.toDigits_of_lt_base hlt, List.head?_cons, Ne, Option.some.injEq]
      exact hdigit n hlt hn
    · rw [ofNat, Nat.toDigits_of_base_le (by decide) (Nat.le_of_not_lt hlt), List.head?_append]
      intro h
      rcases Option.or_eq_some_iff.1 h with h | ⟨h, _⟩
      · exact ih (n / 10) (by omega) (by omega) h
      · exact (isNumeral_ofNat (n / 10)).nonempty (List.head?_eq_none_iff.1 h)

theorem isCanonicalNumeral_ofNat (n : Nat) : (ofNat n).IsCanonicalNumeral where
  toIsNumeral := isNumeral_ofNat n
  leading h := by
    cases n with
    | zero => rfl
    | succ n => exact absurd h (head?_ofNat_ne_zero n.succ_pos)

theorem eq_ofNat_iff {t : Text} {n : Nat} :
    t = ofNat n ↔ t.IsCanonicalNumeral ∧ t.decimalValue = n := by
  constructor
  · intro h
    rw [h]
    exact ⟨isCanonicalNumeral_ofNat n, decimalValue_ofNat n⟩
  · intro h
    obtain ⟨ht, rfl⟩ := h
    obtain ⟨z, hz⟩ := ht.exists_eq_replicate_append
    cases z with
    | zero => exact hz
    | succ z =>
      rw [List.replicate_succ, List.cons_append] at hz
      have hzero : t = ['0'] := ht.leading (by rw [hz, List.head?_cons])
      rw [hzero]
      rfl

end Munch.Text
