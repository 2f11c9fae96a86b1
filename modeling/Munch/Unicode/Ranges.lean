namespace Munch.Unicode

/-- A set of code points: ascending closed ranges, each with its first and its last member. -/
abbrev Ranges := List (Nat × Nat)

namespace Ranges

def contains (r : Ranges) (c : Char) : Bool :=
  r.any fun range => decide (range.1 ≤ c.toNat) && decide (c.toNat ≤ range.2)

/-- Whether every range of `r` lies inside a single range of `q`. -/
def within (r q : Ranges) : Bool :=
  r.all fun inner => q.any fun outer => decide (outer.1 ≤ inner.1) && decide (inner.2 ≤ outer.2)

/-- The ranges that are left of `r` when each range of `q` in turn takes away the leading ones
inside it. -/
def outside (r q : Ranges) : Ranges :=
  q.foldl (fun r outer => r.dropWhile fun inner =>
    decide (outer.1 ≤ inner.1) && decide (inner.2 ≤ outer.2)) r

theorem contains_eq_true_iff {r : Ranges} {c : Char} :
    r.contains c = true ↔ ∃ range ∈ r, range.1 ≤ c.toNat ∧ c.toNat ≤ range.2 := by
  simp [contains]

theorem contains_eq_false_of_apart {r : Ranges} {c : Char} {first last : Nat}
    (hr : ∀ range ∈ r, range.2 < first ∨ last < range.1) (hfirst : first ≤ c.toNat)
    (hlast : c.toNat ≤ last) : r.contains c = false := by
  rw [← Bool.not_eq_true]
  intro hc
  obtain ⟨range, hrange, hmin, hmax⟩ := contains_eq_true_iff.1 hc
  have hapart := hr range hrange
  omega

theorem contains_eq_false_of_isDigit {r : Ranges} {c : Char}
    (hr : ∀ range ∈ r, range.2 < 0x30 ∨ 0x39 < range.1) (h : c.isDigit = true) :
    r.contains c = false := by
  obtain ⟨hzero, hnine⟩ := Char.isDigit_iff_toNat.1 h
  exact contains_eq_false_of_apart hr hzero hnine

theorem contains_of_within {r q : Ranges} (h : r.within q = true) {c : Char}
    (hc : r.contains c = true) : q.contains c = true := by
  obtain ⟨inner, hr, h₁, h₂⟩ := contains_eq_true_iff.1 hc
  obtain ⟨outer, hq, h⟩ := List.any_eq_true.1 (List.all_eq_true.1 h inner hr)
  simp only [Bool.and_eq_true, decide_eq_true_eq] at h
  exact contains_eq_true_iff.2 ⟨outer, hq, Nat.le_trans h.1 h₁, Nat.le_trans h₂ h.2⟩

/-- Inclusion is decided in one pass over both lists. -/
theorem within_of_outside {r q : Ranges} (h : r.outside q = []) : r.within q = true := by
  have hin (inner : Nat × Nat) (hi : inner ∈ r) :
      (q.any fun outer => decide (outer.1 ≤ inner.1) && decide (inner.2 ≤ outer.2)) = true := by
    induction q generalizing r with
    | nil =>
      rw [outside, List.foldl_nil] at h
      rw [h] at hi
      cases hi
    | cons outer q ih =>
      rw [List.any_cons, Bool.or_eq_true]
      rw [← List.takeWhile_append_dropWhile
        (p := fun inner => decide (outer.1 ≤ inner.1) && decide (inner.2 ≤ outer.2)) (l := r)] at hi
      rcases List.mem_append.1 hi with ht | hd
      · exact .inl (List.all_eq_true.1 List.all_takeWhile inner ht)
      · exact .inr (ih h hd)
  exact List.all_eq_true.2 hin

end Ranges

end Munch.Unicode
