import Mathlib.Data.List.Induction
import Munch.Curried

namespace Munch.Curried

variable {α β : Type}

def final (made : List (Curried α β)) : List (Nat × α) → List (Curried α β)
  | [] => made
  | (h, a) :: calls => final (call made h a).2 calls

/-- The answer to a call on function number `h` after the calls `calls`, in a session that starts
with the function `f`. -/
def answerAfter (f : Curried α β) (calls : List (Nat × α)) (h : Nat) (a : α) : Answer β :=
  (call (final [f] calls) h a).1

/-- In a session, function number `h` has been given the arguments `as`: it is the first function,
or the answer to a call with the last of them on one that had been given the others. -/
inductive Given (f : Curried α β) (calls : List (Nat × α)) : Nat → List α → Prop where
  | start : Given f calls 0 []
  | call {before : List (Nat × α)} {k h : Nat} {as : List α} {a : α} : Given f calls k as →
    before ++ [(k, a)] <+: calls → answerAfter f before k a = .function h →
    Given f calls h (as ++ [a])

/-- What some arguments leave of a function, if it still waits for one. -/
def supply? : Curried α β → List α → Option (Curried α β)
  | f, [] => some f
  | last _, _ :: _ => none
  | more f, a :: as => supply? (f a) as

section Supplied

variable {f : Curried α β} {as : List α}

theorem supply?_append_singleton {g : α → Curried α β} (hg : f.supply? as = some (.more g))
    (a : α) : f.supply? (as ++ [a]) = some (g a) := by
  fun_induction supply? f as with
  | case1 f =>
    obtain rfl := Option.some.inj hg
    rw [List.nil_append, supply?, supply?]
  | case2 => cases hg
  | case3 f x as ih => exact ih hg

theorem supply?_binary_eq_last_iff {g : α → α → β} {r : α → β} :
    (binary g).supply? as = some (last r) ↔ ∃ x, as = [x] ∧ g x = r := by
  match as with
  | [] => simp [supply?, binary]
  | [x] => simp [supply?, binary]
  | x :: y :: as => simp [supply?, binary]

theorem supply?_binary_eq_more_iff {g : α → α → β} :
    (∃ r, (binary g).supply? as = some (.more r)) ↔ as = [] := by
  match as with
  | [] => simp [supply?, binary]
  | [x] => simp [supply?, binary]
  | x :: y :: as => simp [supply?, binary]

theorem supply?_ternary_cons (g : α → α → α → β) (x : α) (as : List α) :
    (ternary g).supply? (x :: as) = (binary (g x)).supply? as := by
  rw [ternary, supply?]

theorem supply?_ternary_eq_last_iff {g : α → α → α → β} {r : α → β} :
    (ternary g).supply? as = some (last r) ↔ ∃ x y, as = [x, y] ∧ g x y = r := by
  cases as with
  | nil => simp [supply?, ternary]
  | cons x as => simp [supply?_ternary_cons, supply?_binary_eq_last_iff]

theorem supply?_ternary_eq_more_iff {g : α → α → α → β} :
    (∃ r, (ternary g).supply? as = some (.more r)) ↔ as = [] ∨ ∃ x, as = [x] := by
  cases as with
  | nil => simp [supply?, ternary]
  | cons x as => simp [supply?_ternary_cons, supply?_binary_eq_more_iff]

end Supplied

section Calls

variable {f k : Curried α β} {made : List (Curried α β)} {calls before more : List (Nat × α)}
  {h n : Nat} {a : α} {b : β} {as bs : List α}

/-- A call adds a function or none, and changes none that is there. -/
theorem call_cases (made : List (Curried α β)) (h : Nat) (a : α) :
    (made[h]? = none ∧ call made h a = (.badHandle, made)) ∨
    (∃ g, made[h]? = some (last g) ∧ call made h a = (.value (g a), made)) ∨
    ∃ g, made[h]? = some (.more g) ∧ call made h a = (.function made.length, made ++ [g a]) := by
  rw [call]
  cases made[h]? with
  | none => exact .inl ⟨rfl, rfl⟩
  | some g =>
    cases g with
    | last g => exact .inr (.inl ⟨g, rfl, rfl⟩)
    | more g => exact .inr (.inr ⟨g, rfl, rfl⟩)

theorem prefix_call (made : List (Curried α β)) (h : Nat) (a : α) : made <+: (call made h a).2 := by
  rcases call_cases made h a with ⟨_, hc⟩ | ⟨g, _, hc⟩ | ⟨g, _, hc⟩
  · exact ⟨[], by rw [hc, List.append_nil]⟩
  · exact ⟨[], by rw [hc, List.append_nil]⟩
  · exact ⟨[g a], by rw [hc]⟩

theorem prefix_final (made : List (Curried α β)) (calls : List (Nat × α)) :
    made <+: final made calls := by
  induction calls generalizing made with
  | nil => exact List.prefix_rfl
  | cons c calls ih => exact (prefix_call made c.1 c.2).trans (ih _)

theorem final_append (made : List (Curried α β)) (calls more : List (Nat × α)) :
    final made (calls ++ more) = final (final made calls) more := by
  induction calls generalizing made with
  | nil => rfl
  | cons c calls ih => exact ih _

theorem session_append_cons (made : List (Curried α β)) (calls more : List (Nat × α)) (h : Nat)
    (a : α) :
    (session made (calls ++ (h, a) :: more))[calls.length]? =
      some (call (final made calls) h a).1 := by
  induction calls generalizing made with
  | nil => rfl
  | cons c calls ih => exact ih _

theorem final_prefix_final (hp : before <+: calls) : final [f] before <+: final [f] calls := by
  obtain ⟨more, rfl⟩ := hp
  rw [final_append]
  exact prefix_final _ _

theorem getElem?_final_mono (hp : before <+: calls) (hk : (final [f] before)[h]? = some k) :
    (final [f] calls)[h]? = some k := by
  obtain ⟨more, hmore⟩ := final_prefix_final (f := f) hp
  obtain ⟨hlt, _⟩ := List.getElem?_eq_some_iff.1 hk
  rw [← hmore, List.getElem?_append_left hlt, hk]

theorem answerAfter_eq_value_iff :
    answerAfter f calls h a = .value b ↔ ∃ g, (final [f] calls)[h]? = some (last g) ∧ g a = b := by
  rw [answerAfter]
  rcases call_cases (final [f] calls) h a with ⟨hk, hc⟩ | ⟨g, hk, hc⟩ | ⟨g, hk, hc⟩
  · simp [hk, hc]
  · simp [hk, hc]
  · simp [hk, hc]

theorem answerAfter_eq_function_iff :
    answerAfter f calls h a = .function n ↔
      (∃ g, (final [f] calls)[h]? = some (.more g)) ∧ (final [f] calls).length = n := by
  rw [answerAfter]
  rcases call_cases (final [f] calls) h a with ⟨hk, hc⟩ | ⟨g, hk, hc⟩ | ⟨g, hk, hc⟩
  · simp [hk, hc]
  · simp [hk, hc]
  · simp [hk, hc]

theorem answerAfter_eq_badHandle_iff :
    answerAfter f calls h a = .badHandle ↔ (final [f] calls)[h]? = none := by
  rw [answerAfter]
  rcases call_cases (final [f] calls) h a with ⟨hk, hc⟩ | ⟨g, hk, hc⟩ | ⟨g, hk, hc⟩
  · simp [hk, hc]
  · simp [hk, hc]
  · simp [hk, hc]

theorem final_append_of_more {g : α → Curried α β} (hg : (final [f] calls)[h]? = some (.more g))
    (a : α) : final [f] (calls ++ [(h, a)]) = final [f] calls ++ [g a] := by
  rw [final_append, final, final, call, hg]

theorem Given.mono (hg : Given f calls h as) (hp : calls <+: more) : Given f more h as := by
  induction hg with
  | start => exact .start
  | call _ hb hn ih => exact .call ih (hb.trans hp) hn

/-- A function that has been given some arguments is what they leave of the first one. -/
theorem Given.exists_left (hg : Given f calls h as) :
    ∃ k, (final [f] calls)[h]? = some k ∧ f.supply? as = some k := by
  induction hg with
  | start => exact ⟨f, getElem?_final_mono List.nil_prefix rfl, by rw [supply?]⟩
  | @call before k h as a _ hb hn ih =>
    obtain ⟨⟨g, hk⟩, rfl⟩ := answerAfter_eq_function_iff.1 hn
    obtain ⟨k', hk', hleft⟩ := ih
    -- The function that was called is still there.
    have hbefore : before <+: calls := (List.prefix_append _ _).trans hb
    obtain rfl := Option.some.inj (hk'.symm.trans (getElem?_final_mono hbefore hk))
    refine ⟨g a, getElem?_final_mono hb ?_, supply?_append_singleton hleft a⟩
    rw [final_append_of_more hk, List.getElem?_concat_length]

theorem exists_given (hlt : h < (final [f] calls).length) : ∃ as, Given f calls h as := by
  induction calls using List.reverseRecOn generalizing h with
  | nil =>
    obtain rfl : h = 0 := Nat.lt_one_iff.1 hlt
    exact ⟨[], .start⟩
  | append_singleton calls c ih =>
    obtain ⟨k, a⟩ := c
    have hp : calls <+: calls ++ [(k, a)] := List.prefix_append _ _
    by_cases hold : h < (final [f] calls).length
    · obtain ⟨as, has⟩ := ih hold
      exact ⟨as, has.mono hp⟩
    · -- The function is new, so the last call has left it.
      rw [final_append, final, final] at hlt
      rcases call_cases (final [f] calls) k a with ⟨hk, hc⟩ | ⟨g, hk, hc⟩ | ⟨g, hk, hc⟩
      · rw [hc] at hlt
        exact absurd hlt hold
      · rw [hc] at hlt
        exact absurd hlt hold
      · rw [hc, List.length_append, List.length_singleton] at hlt
        obtain rfl : (final [f] calls).length = h := by omega
        obtain ⟨hlen, _⟩ := List.getElem?_eq_some_iff.1 hk
        obtain ⟨as, has⟩ := ih hlen
        have hn := answerAfter_eq_function_iff (a := a).2 ⟨⟨g, hk⟩, rfl⟩
        exact ⟨as ++ [a], .call (has.mono hp) List.prefix_rfl hn⟩

theorem exists_given_iff :
    (final [f] calls)[h]? = some k ↔ ∃ as, Given f calls h as ∧ f.supply? as = some k := by
  constructor
  · intro hk
    obtain ⟨hlt, _⟩ := List.getElem?_eq_some_iff.1 hk
    obtain ⟨as, has⟩ := exists_given hlt
    obtain ⟨k', hk', hleft⟩ := has.exists_left
    obtain rfl := Option.some.inj (hk.symm.trans hk')
    exact ⟨as, has, hleft⟩
  · intro hg
    obtain ⟨as, has, hleft⟩ := hg
    obtain ⟨k', hk', hleft'⟩ := has.exists_left
    obtain rfl := Option.some.inj (hleft.symm.trans hleft')
    exact hk'

theorem lt_length_final_of_function (hn : answerAfter f before h a = .function n)
    (hp : before ++ [(h, a)] <+: calls) : n < (final [f] calls).length := by
  obtain ⟨⟨g, hk⟩, rfl⟩ := answerAfter_eq_function_iff.1 hn
  have hle := (final_prefix_final (f := f) hp).length_le
  rwa [final_append_of_more hk, List.length_append, List.length_singleton] at hle

theorem answerAfter_ne_function_zero : answerAfter f calls h a ≠ .function 0 := by
  intro hn
  have hpos := (prefix_final [f] calls).length_le
  rw [(answerAfter_eq_function_iff.1 hn).2] at hpos
  exact absurd hpos (Nat.not_lt_zero 0)

theorem eq_of_function_of_le {c c' : Nat × α} {before' : List (Nat × α)}
    (hn : answerAfter f before c.1 c.2 = .function n)
    (hn' : answerAfter f before' c'.1 c'.2 = .function n)
    (hp : before ++ [c] <+: before' ++ [c']) : before ++ [c] = before' ++ [c'] := by
  rcases List.prefix_concat_iff.1 hp with heq | hp
  · exact heq
  · have hlt := lt_length_final_of_function hn hp
    rw [(answerAfter_eq_function_iff.1 hn').2] at hlt
    exact absurd hlt (Nat.lt_irrefl n)

theorem eq_of_function {c c' : Nat × α} {before' : List (Nat × α)}
    (hb : before ++ [c] <+: calls) (hb' : before' ++ [c'] <+: calls)
    (hn : answerAfter f before c.1 c.2 = .function n)
    (hn' : answerAfter f before' c'.1 c'.2 = .function n) : c = c' := by
  have heq : before ++ [c] = before' ++ [c'] := by
    rcases List.prefix_or_prefix_of_prefix hb hb' with hp | hp
    · exact eq_of_function_of_le hn hn' hp
    · exact (eq_of_function_of_le hn' hn hp).symm
  exact List.singleton_inj.1 (List.append_inj' heq rfl).2

theorem Given.unique (hg : Given f calls h as) (hg' : Given f calls h bs) : as = bs := by
  induction hg generalizing bs with
  | start =>
    cases hg' with
    | start => rfl
    | call _ _ hn => exact absurd hn answerAfter_ne_function_zero
  | call _ hb hn ih =>
    cases hg' with
    | start => exact absurd hn answerAfter_ne_function_zero
    | call hg' hb' hn' =>
      cases eq_of_function hb hb' hn hn'
      rw [ih hg']

theorem Given.given_append_iff (hg : Given f calls h as) (more : List (Nat × α)) :
    Given f (calls ++ more) h bs ↔ bs = as := by
  have hmore := hg.mono (List.prefix_append calls more)
  constructor
  · intro hbs
    exact hbs.unique hmore
  · intro heq
    rw [heq]
    exact hmore

theorem Given.value_append_iff (hg : Given f calls h as) (more : List (Nat × α)) :
    answerAfter f (calls ++ more) h a = .value b ↔ answerAfter f calls h a = .value b := by
  obtain ⟨k, hk, _⟩ := hg.exists_left
  have hmore := getElem?_final_mono (List.prefix_append calls more) hk
  rw [answerAfter_eq_value_iff, answerAfter_eq_value_iff, hk, hmore]

theorem answerAfter_eq_badHandle_iff_not_given :
    answerAfter f calls h a = .badHandle ↔ ∀ as, ¬ Given f calls h as := by
  rw [answerAfter_eq_badHandle_iff]
  constructor
  · intro hnone as has
    obtain ⟨k, hk, _⟩ := has.exists_left
    rw [hnone] at hk
    cases hk
  · intro hnone
    rw [List.getElem?_eq_none_iff, ← Nat.not_lt]
    intro hlt
    obtain ⟨as, has⟩ := exists_given hlt
    exact hnone as has

theorem given_of_function (hn : answerAfter f calls h a = .function n) :
    (∀ bs, ¬ Given f calls n bs) ∧
      ∀ as, Given f calls h as → Given f (calls ++ (h, a) :: more) n (as ++ [a]) := by
  constructor
  · intro bs hbs
    obtain ⟨k, hk, _⟩ := hbs.exists_left
    obtain ⟨hlt, _⟩ := List.getElem?_eq_some_iff.1 hk
    rw [(answerAfter_eq_function_iff.1 hn).2] at hlt
    exact Nat.lt_irrefl n hlt
  · intro as has
    rw [List.append_cons]
    have hlast : Given f (calls ++ [(h, a)]) n (as ++ [a]) :=
      .call (has.mono (List.prefix_append _ _)) List.prefix_rfl hn
    exact hlast.mono (List.prefix_append _ _)

theorem answerAfter_eq_value_iff_given : answerAfter f calls h a = .value b ↔
    ∃ as, Given f calls h as ∧ ∃ g, f.supply? as = some (last g) ∧ g a = b := by
  rw [answerAfter_eq_value_iff]
  constructor
  · intro hv
    obtain ⟨g, hk, hb⟩ := hv
    obtain ⟨as, has, hleft⟩ := exists_given_iff.1 hk
    exact ⟨as, has, g, hleft, hb⟩
  · intro hv
    obtain ⟨as, has, g, hleft, hb⟩ := hv
    exact ⟨g, exists_given_iff.2 ⟨as, has, hleft⟩, hb⟩

theorem exists_function_iff_given : (∃ n, answerAfter f calls h a = .function n) ↔
    ∃ as, Given f calls h as ∧ ∃ g, f.supply? as = some (.more g) := by
  simp only [answerAfter_eq_function_iff]
  constructor
  · intro hv
    obtain ⟨_, ⟨g, hk⟩, _⟩ := hv
    obtain ⟨as, has, hleft⟩ := exists_given_iff.1 hk
    exact ⟨as, has, g, hleft⟩
  · intro hv
    obtain ⟨as, has, g, hleft⟩ := hv
    exact ⟨_, ⟨g, exists_given_iff.2 ⟨as, has, hleft⟩⟩, rfl⟩

theorem answerAfter_binary_eq_value_iff {g : α → α → β} :
    answerAfter (binary g) calls h a = .value b ↔
      ∃ x, Given (binary g) calls h [x] ∧ g x a = b := by
  rw [answerAfter_eq_value_iff_given]
  constructor
  · intro hv
    obtain ⟨as, has, r, hleft, hb⟩ := hv
    obtain ⟨x, rfl, rfl⟩ := supply?_binary_eq_last_iff.1 hleft
    exact ⟨x, has, hb⟩
  · intro hv
    obtain ⟨x, hx, hb⟩ := hv
    exact ⟨[x], hx, g x, supply?_binary_eq_last_iff.2 ⟨x, rfl, rfl⟩, hb⟩

theorem exists_function_binary_iff {g : α → α → β} :
    (∃ n, answerAfter (binary g) calls h a = .function n) ↔ Given (binary g) calls h [] := by
  simp only [exists_function_iff_given, supply?_binary_eq_more_iff, exists_eq_right]

theorem answerAfter_ternary_eq_value_iff {g : α → α → α → β} :
    answerAfter (ternary g) calls h a = .value b ↔
      ∃ x y, Given (ternary g) calls h [x, y] ∧ g x y a = b := by
  rw [answerAfter_eq_value_iff_given]
  constructor
  · intro hv
    obtain ⟨as, has, r, hleft, hb⟩ := hv
    obtain ⟨x, y, rfl, rfl⟩ := supply?_ternary_eq_last_iff.1 hleft
    exact ⟨x, y, has, hb⟩
  · intro hv
    obtain ⟨x, y, hxy, hb⟩ := hv
    exact ⟨[x, y], hxy, g x y, supply?_ternary_eq_last_iff.2 ⟨x, y, rfl, rfl⟩, hb⟩

theorem exists_function_ternary_iff {g : α → α → α → β} :
    (∃ n, answerAfter (ternary g) calls h a = .function n) ↔
      Given (ternary g) calls h [] ∨ ∃ x, Given (ternary g) calls h [x] := by
  simp only [exists_function_iff_given, supply?_ternary_eq_more_iff]
  constructor
  · intro hg
    obtain ⟨as, has, rfl | ⟨x, rfl⟩⟩ := hg
    · exact .inl has
    · exact .inr ⟨x, has⟩
  · intro hg
    rcases hg with has | ⟨x, has⟩
    · exact ⟨[], has, .inl rfl⟩
    · exact ⟨[x], has, .inr ⟨x, rfl⟩⟩

end Calls

section Kinds

variable {α β γ δ : Type} {h : Nat}

/-- A function of pairs in a session, where arguments are of the sum of its types and one of the
wrong type leads to no value. -/
def ofPair (f : α × β → γ) : Curried (α ⊕ β) (Option γ) :=
  binary fun x y => do return Function.curry f (← x.getLeft?) (← y.getRight?)

def ofTriple (f : (α × β) × γ → δ) : Curried (α ⊕ β ⊕ γ) (Option δ) :=
  ternary fun x y z => do
    return Function.curry (Function.curry f) (← x.getLeft?) (← y.getRight? >>= Sum.getLeft?)
      (← z.getRight? >>= Sum.getRight?)

theorem answerAfter_ofPair_eq_value_iff {f : α × β → γ} {calls : List (Nat × (α ⊕ β))} {b : β}
    {c : γ} : answerAfter (ofPair f) calls h (.inr b) = .value (some c) ↔
      ∃ a, Given (ofPair f) calls h [.inl a] ∧ Function.curry f a b = c := by
  rw [ofPair, answerAfter_binary_eq_value_iff]
  constructor
  · intro hv
    obtain ⟨x, hx, hc⟩ := hv
    cases x with
    | inl a => exact ⟨a, hx, Option.some.inj hc⟩
    | inr _ => cases hc
  · intro hv
    obtain ⟨a, ha, hc⟩ := hv
    exact ⟨.inl a, ha, congrArg some hc⟩

theorem answerAfter_ofTriple_eq_value_iff {f : (α × β) × γ → δ}
    {calls : List (Nat × (α ⊕ β ⊕ γ))} {c : γ} {d : δ} :
    answerAfter (ofTriple f) calls h (.inr (.inr c)) = .value (some d) ↔
      ∃ a b, Given (ofTriple f) calls h [.inl a, .inr (.inl b)] ∧
        Function.curry (Function.curry f) a b c = d := by
  rw [ofTriple, answerAfter_ternary_eq_value_iff]
  constructor
  · intro hv
    obtain ⟨x, y, hxy, hd⟩ := hv
    cases x with
    | inr _ => cases hd
    | inl a =>
      cases y with
      | inl _ => cases hd
      | inr y =>
        cases y with
        | inl b => exact ⟨a, b, hxy, Option.some.inj hd⟩
        | inr _ => cases hd
  · intro hv
    obtain ⟨a, b, hab, hd⟩ := hv
    exact ⟨.inl a, .inr (.inl b), hab, congrArg some hd⟩

example : session [ofTriple fun x : (Nat × Char) × Nat => x.1.1 * x.2]
    [(0, .inl 6), (1, .inr (.inl '*')), (2, .inr (.inr 7)), (2, .inr (.inr 5))] =
      [.function 1, .function 2, .value (some 42), .value (some 30)] := by
  decide

end Kinds

/-- A function keeps the arguments that it has been given, and a call gives the value of these and
the new one, or leaves a new function that has been given that one as well. -/
theorem calls_never_interfere (calls more : List (Nat × α)) (h : Nat) (a : α) :
    (∀ f : Curried α β,
      (session [f] (calls ++ (h, a) :: more))[calls.length]? = some (answerAfter f calls h a) ∧
      (∀ as, Given f calls h as → (∀ bs, Given f (calls ++ more) h bs ↔ bs = as) ∧
        ∀ b, answerAfter f (calls ++ more) h a = .value b ↔ answerAfter f calls h a = .value b) ∧
      (answerAfter f calls h a = .badHandle ↔ ∀ as, ¬ Given f calls h as) ∧
      ∀ n, answerAfter f calls h a = .function n → (∀ bs, ¬ Given f calls n bs) ∧
        ∀ as, Given f calls h as → Given f (calls ++ (h, a) :: more) n (as ++ [a])) ∧
    (∀ f : α → α → β,
      (∀ b, answerAfter (binary f) calls h a = .value b ↔
        ∃ x, Given (binary f) calls h [x] ∧ f x a = b) ∧
      ((∃ n, answerAfter (binary f) calls h a = .function n) ↔ Given (binary f) calls h [])) ∧
    ∀ f : α → α → α → β,
      (∀ b, answerAfter (ternary f) calls h a = .value b ↔
        ∃ x y, Given (ternary f) calls h [x, y] ∧ f x y a = b) ∧
      ((∃ n, answerAfter (ternary f) calls h a = .function n) ↔
        Given (ternary f) calls h [] ∨ ∃ x, Given (ternary f) calls h [x]) := by
  refine ⟨?_, ?_, ?_⟩
  · intro f
    refine ⟨session_append_cons _ _ _ _ _, ?_, answerAfter_eq_badHandle_iff_not_given, ?_⟩
    · intro as has
      exact ⟨fun bs => has.given_append_iff more, fun b => has.value_append_iff more⟩
    · intro n hn
      exact given_of_function hn
  · intro f
    exact ⟨fun b => answerAfter_binary_eq_value_iff, exists_function_binary_iff⟩
  · intro f
    exact ⟨fun b => answerAfter_ternary_eq_value_iff, exists_function_ternary_iff⟩

/-- Two functions are left of one, one of them is called in between, and both are used again. -/
theorem calls_never_interfere_of_reuse : ∃ (f : Curried Nat Nat) (calls more : List (Nat × Nat)),
    f = ternary (fun x y z => 100 * x + 10 * y + z) ∧ calls = [(0, 1), (1, 2), (0, 3)] ∧
    more = [(3, 4), (1, 5), (2, 6)] ∧
    Given f calls 2 [1, 2] ∧ answerAfter f calls 2 7 = .value 127 ∧
    Given f (calls ++ more) 2 [1, 2] ∧ answerAfter f (calls ++ more) 2 7 = .value 127 ∧
    answerAfter f calls 1 7 = .function 4 ∧ Given f (calls ++ (1, 7) :: more) 4 [1, 7] := by
  have hone : Given (ternary fun x y z => 100 * x + 10 * y + z) [(0, 1), (1, 2), (0, 3)] 1 [1] :=
    .call .start (show [] ++ [(0, 1)] <+: _ by decide) (by decide)
  have htwo : Given (ternary fun x y z => 100 * x + 10 * y + z) [(0, 1), (1, 2), (0, 3)] 2 [1, 2] :=
    .call hone (show [(0, 1)] ++ [(1, 2)] <+: _ by decide) (by decide)
  obtain ⟨hcurried, _, hternary⟩ := @calls_never_interfere Nat Nat
    [(0, 1), (1, 2), (0, 3)] [(3, 4), (1, 5), (2, 6)] 2 7
  obtain ⟨_, hlater, _⟩ := hcurried (ternary fun x y z => 100 * x + 10 * y + z)
  obtain ⟨hstays, hsame⟩ := hlater _ htwo
  have hvalue := ((hternary fun x y z => 100 * x + 10 * y + z).1 127).2 ⟨1, 2, htwo, rfl⟩
  obtain ⟨hcurried, _⟩ := @calls_never_interfere Nat Nat
    [(0, 1), (1, 2), (0, 3)] [(3, 4), (1, 5), (2, 6)] 1 7
  obtain ⟨_, _, _, hnew⟩ := hcurried (ternary fun x y z => 100 * x + 10 * y + z)
  have hfunction : answerAfter (ternary fun x y z => 100 * x + 10 * y + z)
      [(0, 1), (1, 2), (0, 3)] 1 7 = .function 4 := by decide
  exact ⟨_, _, _, rfl, rfl, rfl, htwo, hvalue, (hstays _).2 rfl, (hsame _).2 hvalue, hfunction,
    (hnew _ hfunction).2 _ hone⟩

end Munch.Curried
