namespace Munch

abbrev Text := List Char

namespace Text

def byteLength : Text → Nat
  | [] => 0
  | c :: t => c.utf8Size + byteLength t

@[simp] theorem byteLength_nil : byteLength [] = 0 := rfl

@[simp] theorem byteLength_cons (c : Char) (t : Text) :
    byteLength (c :: t) = c.utf8Size + byteLength t := rfl

@[simp] theorem byteLength_append (t u : Text) :
    byteLength (t ++ u) = byteLength t + byteLength u := by
  induction t with
  | nil => simp
  | cons c t ih => simp [ih, Nat.add_assoc]

theorem byteLength_eq_zero_iff {t : Text} : byteLength t = 0 ↔ t = [] := by
  cases t with
  | nil => simp
  | cons c t =>
    have := c.utf8Size_pos
    simp only [byteLength_cons, reduceCtorEq, iff_false]
    omega

/-- The text after its first `n` bytes, if a character ends there. -/
def dropBytes? : Nat → Text → Option Text
  | 0, t => some t
  | _ + 1, [] => none
  | n + 1, c :: t => if c.utf8Size ≤ n + 1 then dropBytes? (n + 1 - c.utf8Size) t else none

@[simp] theorem dropBytes?_zero (t : Text) : dropBytes? 0 t = some t := by
  cases t <;> rfl

theorem dropBytes?_add_byteLength_append (n : Nat) (t u : Text) :
    dropBytes? (byteLength t + n) (t ++ u) = dropBytes? n u := by
  induction t with
  | nil => simp
  | cons c t ih =>
    have hc := c.utf8Size_pos
    obtain ⟨k, hk⟩ : ∃ k, c.utf8Size + byteLength t + n = k + 1 :=
      ⟨c.utf8Size + byteLength t + n - 1, by omega⟩
    rw [byteLength_cons, List.cons_append, hk, dropBytes?, if_pos (by omega), ← ih]
    congr 1
    omega

theorem dropBytes?_byteLength_append (t u : Text) :
    dropBytes? (byteLength t) (t ++ u) = some u := by
  simpa using dropBytes?_add_byteLength_append 0 t u

theorem dropBytes?_eq_some_iff {n : Nat} {t u : Text} :
    dropBytes? n t = some u ↔ ∃ p : Text, t = p ++ u ∧ p.byteLength = n := by
  constructor
  · intro h
    fun_induction dropBytes? n t with
    | case1 t => exact ⟨[], by simpa using h, rfl⟩
    | case2 => simp at h
    | case3 n c t hc ih =>
      obtain ⟨p, rfl, hp⟩ := ih h
      refine ⟨c :: p, rfl, ?_⟩
      rw [byteLength_cons, hp]
      omega
    | case4 => simp at h
  · intro h
    obtain ⟨p, rfl, rfl⟩ := h
    exact dropBytes?_byteLength_append p u

/-- The text without the longest run of characters at its end for which `blank` holds. -/
def trimEnd (blank : Char → Bool) (t : Text) : Text :=
  (t.reverse.dropWhile blank).reverse

variable {blank : Char → Bool} {t u : Text}

theorem trimEnd_append (hu : ∀ c ∈ u, blank c = true) :
    trimEnd blank (t ++ u) = trimEnd blank t := by
  have hreverse : ∀ c ∈ u.reverse, blank c = true := fun c hc => hu c (List.mem_reverse.1 hc)
  rw [trimEnd, List.reverse_append, List.dropWhile_append_of_pos hreverse, trimEnd]

theorem trimEnd_eq_self (ht : ∀ c ∈ t, blank c = false) : trimEnd blank t = t := by
  rw [trimEnd]
  cases h : t.reverse with
  | nil => rw [List.dropWhile_nil, ← h, List.reverse_reverse]
  | cons c u =>
    have hc : blank c = false := ht c (List.mem_reverse.1 (h ▸ List.mem_cons_self))
    rw [List.dropWhile_cons, hc, if_neg Bool.false_ne_true, ← h, List.reverse_reverse]

theorem exists_eq_trimEnd_append (blank : Char → Bool) (t : Text) :
    ∃ u, t = trimEnd blank t ++ u ∧ ∀ c ∈ u, blank c = true := by
  refine ⟨(t.reverse.takeWhile blank).reverse, ?_, ?_⟩
  · rw [trimEnd, ← List.reverse_append, List.takeWhile_append_dropWhile, List.reverse_reverse]
  · intro c hc
    exact List.all_eq_true.1 List.all_takeWhile c (List.mem_reverse.1 hc)

end Text

end Munch
