import Mathlib.Logic.Function.Iterate
import Munch.Proofs.Movement
import Munch.Stream.Script

namespace Munch.Stream

/-- The stream after the next character; at its end a stream stays as it is. -/
def dropFirst (s : Stream) : Stream :=
  (s.next?.map Prod.snd).getD s

def splitTimes : Nat → Stream → Text × Stream
  | 0, s => ([], s)
  | n + 1, s =>
    match s.next? with
    | some (c, t) => (c :: (t.splitTimes n).1, (t.splitTimes n).2)
    | none => ([], s)

section OneByOne

variable {s t : Stream} {c : Char} {u : Text}

theorem dropFirst_of_next? (h : s.next? = some (c, t)) : s.dropFirst = t := by
  rw [dropFirst, h, Option.map_some, Option.getD_some]

theorem dropFirst_of_rest_eq_nil (h : s.rest = []) : s.dropFirst = s := by
  rw [dropFirst, next?_eq_none_iff.2 h, Option.map_none, Option.getD_none]

theorem drop_eq_iterate (n : Nat) (s : Stream) : s.drop n = dropFirst^[n] s := by
  fun_induction Stream.drop n s with
  | case1 => rfl
  | case2 n s c t ht ih => rw [Function.iterate_succ_apply, dropFirst_of_next? ht, ih]
  | case3 n s hs =>
    rw [Function.iterate_fixed (dropFirst_of_rest_eq_nil (next?_eq_none_iff.1 hs))]

theorem splitTimes_eq (n : Nat) (s : Stream) :
    s.splitTimes n = (s.rest.take n, dropFirst^[n] s) := by
  induction n generalizing s with
  | zero => rfl
  | succ n ih =>
    rw [splitTimes]
    cases hs : s.next? with
    | none =>
      have hrest := next?_eq_none_iff.1 hs
      rw [hrest, List.take_nil, Function.iterate_fixed (dropFirst_of_rest_eq_nil hrest)]
    | some next =>
      obtain ⟨c, t⟩ := next
      rw [(next?_eq_some_iff.1 hs).1, Function.iterate_succ_apply, dropFirst_of_next? hs]
      simp only [ih, List.take_succ_cons]

theorem iterate_dropFirst_of_le {n m : Nat} (hn : s.rest.length ≤ n) (hm : n ≤ m) :
    (dropFirst^[n] s).rest = [] ∧ dropFirst^[m] s = dropFirst^[n] s := by
  have hrest : (dropFirst^[n] s).rest = [] := by
    rw [← drop_eq_iterate, rest_drop, List.drop_of_length_le hn]
  refine ⟨hrest, ?_⟩
  rw [← Nat.sub_add_cancel hm, Function.iterate_add_apply,
    Function.iterate_fixed (dropFirst_of_rest_eq_nil hrest)]

theorem exists_next?_of_rest_eq_cons (h : s.rest = c :: u) :
    ∃ t, s.next? = some (c, t) ∧ t.source = s.source ∧ t.rest = u ∧
      t.offset = s.offset + c.utf8Size := by
  obtain ⟨t, ht, hrest⟩ := exists_reads (u := [c]) h
  exact ⟨t, reads_singleton_iff.1 ht, ht.source, hrest, ht.offset⟩

end OneByOne

namespace Step

/-- The ways to make a stream while the streams `made` are there. -/
inductive Makes (made : List Stream) : Stream → Prop where
  | create (t : Text) : Makes made (ofText t)
  | copy {s : Stream} : s ∈ made → Makes made s
  | rewind {s : Stream} : s ∈ made → Makes made s.rewind
  | restart {s : Stream} : s ∈ made → Makes made s.restart
  | drop {s : Stream} (n : Nat) : s ∈ made → Makes made (s.drop n)
  | split {s t : Stream} {c : Char} : s ∈ made → s.next? = some (c, t) → Makes made t

def Extends (made : List Stream) (r : Answer × List Stream) : Prop :=
  r.2 = made ∨ ∃ s, Makes made s ∧ r.2 = made ++ [s]

variable {made : List Stream} {s : Stream} {i : Nat}

theorem Extends.withStream {f : Stream → Answer × List Stream}
    (h : ∀ s ∈ made, Extends made (f s)) : Extends made (withStream made i f) := by
  rw [Step.withStream]
  cases hi : made[i]? with
  | none => exact .inl rfl
  | some s => exact h s (List.mem_of_getElem? hi)

theorem run_cases (made : List Stream) (step : Step) : Extends made (run made step) := by
  cases step with
  | create t => exact .inr ⟨_, .create t, rfl⟩
  | copy i => exact .withStream fun s hs => .inr ⟨_, .copy hs, rfl⟩
  | rewind i => exact .withStream fun s hs => .inr ⟨_, .rewind hs, rfl⟩
  | restart i => exact .withStream fun s hs => .inr ⟨_, .restart hs, rfl⟩
  | drop i n => exact .withStream fun s hs => .inr ⟨_, .drop n hs, rfl⟩
  | split i =>
    refine .withStream fun s hs => ?_
    cases hn : s.next? with
    | none => exact .inl rfl
    | some next => exact .inr ⟨_, .split hs hn, rfl⟩
  | head i | view i | display i | describe i | restIs i t =>
    exact .withStream fun s _ => .inl rfl
  | sameRest i j | suffix i j =>
    exact .withStream fun s _ => .withStream fun t _ => .inl rfl

theorem prefix_run (made : List Stream) (step : Step) : made <+: (run made step).2 := by
  rcases run_cases made step with h | ⟨s, _, h⟩
  · exact ⟨[], by rw [h, List.append_nil]⟩
  · exact ⟨[s], h.symm⟩

theorem prefix_final (made : List Stream) (steps : List Step) : made <+: final made steps := by
  induction steps generalizing made with
  | nil => exact List.prefix_rfl
  | cons step steps ih => exact (prefix_run made step).trans (ih _)

theorem final_append (made : List Stream) (steps more : List Step) :
    final made (steps ++ more) = final (final made steps) more := by
  induction steps generalizing made with
  | nil => rfl
  | cons step steps ih => exact ih _

theorem answers_append (made : List Stream) (steps more : List Step) :
    answers made (steps ++ more) = answers made steps ++ answers (final made steps) more := by
  induction steps generalizing made with
  | nil => rfl
  | cons step steps ih => exact congrArg _ (ih _)

/-- What every way to make a stream keeps holds of all streams at the end of a script. -/
theorem final_invariant {I : Stream → Prop}
    (hmakes : ∀ {made s}, Makes made s → (∀ t ∈ made, I t) → I s) (hmade : ∀ t ∈ made, I t)
    (steps : List Step) : ∀ s ∈ final made steps, I s := by
  induction steps generalizing made with
  | nil => exact hmade
  | cons step steps ih =>
    apply ih
    rcases run_cases made step with h | ⟨s, hs, h⟩
    · rw [h]
      exact hmade
    · rw [h]
      exact List.forall_mem_append.2 ⟨hmade, List.forall_mem_singleton.2 (hmakes hs hmade)⟩

theorem Makes.wellFormed (h : Makes made s) (hmade : ∀ t ∈ made, t.WellFormed) : s.WellFormed := by
  cases h with
  | create t => exact wellFormed_ofText t
  | copy hs => exact hmade _ hs
  | rewind hs => exact wellFormed_rewind _
  | restart hs => exact wellFormed_restart _
  | drop n hs => exact (hmade _ hs).drop n
  | split hs hn => exact (WellFormed.of_next? hn).2

theorem wellFormed_of_mem_final {steps : List Step} (h : s ∈ final [] steps) : s.WellFormed :=
  final_invariant Makes.wellFormed (List.forall_mem_nil _) steps s h

theorem getElem?_final (h : made[i]? = some s) (steps : List Step) :
    (final made steps)[i]? = some s := by
  obtain ⟨more, hmore⟩ := prefix_final made steps
  obtain ⟨hi, _⟩ := List.getElem?_eq_some_iff.1 h
  rw [← hmore, List.getElem?_append_left hi, h]

theorem run_view (h : made[i]? = some s) : run made (.view i) = (.view i s, made) := by
  rw [run, withStream, h]

/-- Whatever script has made a stream, everything that can be asked about it fits together, and the
rest of the script changes nothing about it. -/
theorem views_consistent {steps : List Step} (h : (final [] steps)[i]? = some s) :
    (∃ before : Text, s.source = before ++ s.rest ∧ Text.byteLength before = s.offset) ∧
    (s.isEmpty = true ↔ s.rest = []) ∧
    (s.head? = none ↔ s.rest = []) ∧
    (s.next? = none ↔ s.rest = []) ∧
    (∀ c u, s.rest = c :: u → s.head? = some c ∧ ∃ t, s.next? = some (c, t) ∧
      t.source = s.source ∧ t.rest = u ∧ t.offset = s.offset + c.utf8Size) ∧
    (∀ n, s.splitTimes n = (s.rest.take n, dropFirst^[n] s) ∧ s.drop n = dropFirst^[n] s) ∧
    (∀ n m, s.rest.length ≤ n → n ≤ m →
      (dropFirst^[n] s).rest = [] ∧ dropFirst^[m] s = dropFirst^[n] s) ∧
    ∀ more, (final [] (steps ++ more))[i]? = some s ∧
      answers [] (steps ++ more ++ [.view i]) = answers [] (steps ++ more) ++ [.view i s] := by
  have hw := wellFormed_of_mem_final (List.mem_of_getElem? h)
  refine ⟨hw.split, hw.isEmpty_iff, List.head?_eq_none_iff, next?_eq_none_iff, ?_, ?_, ?_, ?_⟩
  · intro c u hrest
    refine ⟨?_, exists_next?_of_rest_eq_cons hrest⟩
    rw [head?, hrest, List.head?_cons]
  · intro n
    exact ⟨splitTimes_eq n s, drop_eq_iterate n s⟩
  · intro n m hn hm
    exact iterate_dropFirst_of_le hn hm
  · intro more
    have hi : (final [] (steps ++ more))[i]? = some s := by
      rw [final_append]
      exact getElem?_final h more
    refine ⟨hi, ?_⟩
    rw [answers_append, answers, run_view hi, answers]

theorem views_consistent_of_restart : ∃ steps more : List Step,
    steps = [.create "aé1".toList, .split 0, .restart 1] ∧
    more = [.drop 2 9, .split 3, .view 7, .split 2] ∧
    (final [] steps)[2]? = some (.place "é1".toList 0) ∧
    (∃ t, (place "é1".toList 0).next? = some ('é', t) ∧ t.source = "é1".toList ∧
      t.rest = ['1'] ∧ t.offset = 2) ∧
    answers [] (steps ++ more ++ [.view 2]) =
      answers [] (steps ++ more) ++ [.view 2 (.place "é1".toList 0)] := by
  have hi : (final [] [.create "aé1".toList, .split 0, .restart 1])[2]? =
      some (.place "é1".toList 0) := by decide +kernel
  obtain ⟨_, _, _, _, hnext, _, _, hlater⟩ := views_consistent hi
  exact ⟨_, _, rfl, rfl, hi, (hnext 'é' ['1'] (by decide +kernel)).2, (hlater _).2⟩

end Step

end Munch.Stream
