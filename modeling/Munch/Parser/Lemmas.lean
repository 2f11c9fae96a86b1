import Munch.Parser.Basic

namespace Munch.Parser

variable {α β γ δ : Type}

theorem yields_ofFunction_iff {f : Stream → Option (α × Stream)} {s t : Stream} {a : α} :
    (ofFunction f).Yields s a t ↔ f s = some (a, t) := by
  simp only [Yields, ofFunction]
  cases f s <;> simp [Reply.ofOption, Prod.ext_iff]

theorem refuses_ofFunction_iff {f : Stream → Option (α × Stream)} {s : Stream} :
    (ofFunction f).Refuses s ↔ f s = none := by
  simp only [Refuses, ofFunction]
  cases f s <;> simp [Reply.ofOption]

theorem yields_pure_iff {a b : α} {s t : Stream} :
    (Parser.pure a).Yields s b t ↔ a = b ∧ s = t := by
  rw [Parser.pure, yields_ofFunction_iff, Option.some.injEq, Prod.mk.injEq]

theorem not_refuses_pure {a : α} {s : Stream} : ¬ (Parser.pure a).Refuses s := by
  simp [Parser.pure, refuses_ofFunction_iff]

theorem Ends.exists_common {p : Parser α} {q : Parser β} {s t : Stream} (hp : p.Ends s)
    (hq : q.Ends t) : ∃ n, p.reply n s ≠ .unfinished ∧ q.reply n t ≠ .unfinished := by
  obtain ⟨n, hn⟩ := hp
  obtain ⟨m, hm⟩ := hq
  refine ⟨max n m, ?_, ?_⟩
  · rwa [p.settled (Nat.le_max_left n m) hn]
  · rwa [q.settled (Nat.le_max_right n m) hm]

theorem Yields.reply_eq {p : Parser α} {n : Nat} {s t : Stream} {a : α} (h : p.Yields s a t)
    (hn : p.reply n s ≠ .unfinished) : p.reply n s = .matched a t := by
  obtain ⟨m, hm⟩ := h
  rw [← hm]
  exact p.reply_eq_of_finished hn (by simp [hm])

theorem Refuses.reply_eq {p : Parser α} {n : Nat} {s : Stream} (h : p.Refuses s)
    (hn : p.reply n s ≠ .unfinished) : p.reply n s = .noMatch := by
  obtain ⟨m, hm⟩ := h
  rw [← hm]
  exact p.reply_eq_of_finished hn (by simp [hm])

theorem yields_map_iff {f : α → β} {p : Parser α} {s t : Stream} {b : β} :
    (p.map f).Yields s b t ↔ ∃ a, p.Yields s a t ∧ f a = b := by
  constructor
  · intro h
    obtain ⟨n, h⟩ := h
    cases hr : p.reply n s <;> simp [Parser.map, hr] at h
    obtain ⟨rfl, rfl⟩ := h
    exact ⟨_, ⟨n, hr⟩, rfl⟩
  · intro h
    obtain ⟨a, ⟨n, h⟩, rfl⟩ := h
    exact ⟨n, by simp [Parser.map, h]⟩

theorem refuses_map_iff {f : α → β} {p : Parser α} {s : Stream} :
    (p.map f).Refuses s ↔ p.Refuses s := by
  constructor
  · intro h
    obtain ⟨n, h⟩ := h
    cases hr : p.reply n s <;> simp [Parser.map, hr] at h
    exact ⟨n, hr⟩
  · intro h
    obtain ⟨n, h⟩ := h
    exact ⟨n, by simp [Parser.map, h]⟩

theorem yields_filterMap_iff {f : α → Option β} {p : Parser α} {s t : Stream} {b : β} :
    (p.filterMap f).Yields s b t ↔ ∃ a, p.Yields s a t ∧ f a = some b := by
  constructor
  · intro h
    obtain ⟨n, h⟩ := h
    cases hr : p.reply n s with
    | noMatch => simp [filterMap, hr] at h
    | unfinished => simp [filterMap, hr] at h
    | matched a u =>
      cases hf : f a <;> simp [filterMap, hr, hf, Reply.ofOption] at h
      obtain ⟨rfl, rfl⟩ := h
      exact ⟨a, ⟨n, hr⟩, hf⟩
  · intro h
    obtain ⟨a, ⟨n, h⟩, hf⟩ := h
    exact ⟨n, by simp [filterMap, h, hf, Reply.ofOption]⟩

theorem refuses_filterMap_iff {f : α → Option β} {p : Parser α} {s : Stream} :
    (p.filterMap f).Refuses s ↔ p.Refuses s ∨ ∃ a t, p.Yields s a t ∧ f a = none := by
  constructor
  · intro h
    obtain ⟨n, h⟩ := h
    cases hr : p.reply n s with
    | noMatch => exact .inl ⟨n, hr⟩
    | unfinished => simp [filterMap, hr] at h
    | matched a u =>
      cases hf : f a <;> simp [filterMap, hr, hf, Reply.ofOption] at h
      exact .inr ⟨a, u, ⟨n, hr⟩, hf⟩
  · intro h
    rcases h with ⟨n, h⟩ | ⟨a, t, ⟨n, h⟩, hf⟩
    · exact ⟨n, by simp [filterMap, h]⟩
    · exact ⟨n, by simp [filterMap, h, hf, Reply.ofOption]⟩

theorem yields_andThen_iff {p : Parser α} {q : Parser β} {s t : Stream} {a : α} {b : β} :
    (p.andThen q).Yields s (a, b) t ↔ ∃ u, p.Yields s a u ∧ q.Yields u b t := by
  constructor
  · intro h
    obtain ⟨n, h⟩ := h
    cases hp : p.reply n s with
    | noMatch => simp [andThen, hp] at h
    | unfinished => simp [andThen, hp] at h
    | matched c u =>
      cases hq : q.reply n u <;> simp [andThen, hp, hq] at h
      obtain ⟨⟨rfl, rfl⟩, rfl⟩ := h
      exact ⟨u, ⟨n, hp⟩, n, hq⟩
  · intro h
    obtain ⟨u, hp, hq⟩ := h
    obtain ⟨n, hp', hq'⟩ := hp.ends.exists_common hq.ends
    exact ⟨n, by simp [andThen, hp.reply_eq hp', hq.reply_eq hq']⟩

theorem refuses_andThen_iff {p : Parser α} {q : Parser β} {s : Stream} :
    (p.andThen q).Refuses s ↔ p.Refuses s ∨ ∃ a t, p.Yields s a t ∧ q.Refuses t := by
  constructor
  · intro h
    obtain ⟨n, h⟩ := h
    cases hp : p.reply n s with
    | noMatch => exact .inl ⟨n, hp⟩
    | unfinished => simp [andThen, hp] at h
    | matched c u =>
      cases hq : q.reply n u <;> simp [andThen, hp, hq] at h
      exact .inr ⟨c, u, ⟨n, hp⟩, n, hq⟩
  · intro h
    rcases h with ⟨n, h⟩ | ⟨a, t, hp, hq⟩
    · exact ⟨n, by simp [andThen, h]⟩
    · obtain ⟨n, hp', hq'⟩ := hp.ends.exists_common hq.ends
      exact ⟨n, by simp [andThen, hp.reply_eq hp', hq.reply_eq hq']⟩

theorem yields_apply_iff {p : Parser (α → β)} {q : Parser α} {s t : Stream} {b : β} :
    (p.apply q).Yields s b t ↔ ∃ f a u, p.Yields s f u ∧ q.Yields u a t ∧ f a = b := by
  simp only [Parser.apply, yields_map_iff, Prod.exists, yields_andThen_iff]
  constructor
  · intro h
    obtain ⟨f, a, ⟨u, hp, hq⟩, rfl⟩ := h
    exact ⟨f, a, u, hp, hq, rfl⟩
  · intro h
    obtain ⟨f, a, u, hp, hq, rfl⟩ := h
    exact ⟨f, a, ⟨u, hp, hq⟩, rfl⟩

theorem yields_map_apply_apply_iff {f : α → β → γ → δ} {p : Parser α} {q : Parser β}
    {r : Parser γ} {s t : Stream} {d : δ} :
    (((p.map f).apply q).apply r).Yields s d t ↔
      ∃ a b c u v, p.Yields s a u ∧ q.Yields u b v ∧ r.Yields v c t ∧ f a b c = d := by
  constructor
  · intro h
    obtain ⟨fab, c, v, hfab, hc, rfl⟩ := yields_apply_iff.1 h
    obtain ⟨fa, b, u, hfa, hb, rfl⟩ := yields_apply_iff.1 hfab
    obtain ⟨a, ha, rfl⟩ := yields_map_iff.1 hfa
    exact ⟨a, b, c, u, v, ha, hb, hc, rfl⟩
  · intro h
    obtain ⟨a, b, c, u, v, ha, hb, hc, rfl⟩ := h
    have hfirst : (p.map f).Yields s (f a) u := yields_map_iff.2 ⟨a, ha, rfl⟩
    have hsecond : ((p.map f).apply q).Yields s (f a b) v :=
      yields_apply_iff.2 ⟨f a, b, u, hfirst, hb, rfl⟩
    exact yields_apply_iff.2 ⟨f a b, c, v, hsecond, hc, rfl⟩

/-- Asked on `s` and then on each stream it leaves, the parser gives the values `as` and moves
forward each time until, on `t`, it finds no match or does not move forward. -/
inductive Repeats (p : Parser α) : Stream → List α → Stream → Prop where
  | refused {s : Stream} : p.Refuses s → Repeats p s [] s
  | stuck {s t : Stream} {a : α} : p.Yields s a t → t.offset ≤ s.offset → Repeats p s [] s
  | step {s t u : Stream} {a : α} {as : List α} :
    p.Yields s a t → s.offset < t.offset → Repeats p t as u → Repeats p s (a :: as) u

theorem repeats_of_repeatWhile {p : Parser α} {n m : Nat} {s t : Stream} {as : List α}
    (h : repeatWhile (p.reply m) n s = .matched as t) : p.Repeats s as t := by
  induction n generalizing s as with
  | zero => cases h
  | succ n ih =>
    rw [repeatWhile] at h
    cases hr : p.reply m s with
    | noMatch =>
      simp only [hr, Reply.matched.injEq] at h
      obtain ⟨rfl, rfl⟩ := h
      exact .refused ⟨m, hr⟩
    | unfinished => simp [hr] at h
    | matched a u =>
      simp only [hr] at h
      split at h
      · rename_i hu
        simp only [Reply.matched.injEq] at h
        obtain ⟨rfl, rfl⟩ := h
        exact .stuck ⟨m, hr⟩ hu
      · rename_i hu
        cases hw : repeatWhile (p.reply m) n u <;> simp [hw] at h
        obtain ⟨rfl, rfl⟩ := h
        exact .step ⟨m, hr⟩ (by omega) (ih hw)

theorem Repeats.exists_repeatWhile {p : Parser α} {s t : Stream} {as : List α}
    (h : p.Repeats s as t) : ∃ n, repeatWhile (p.reply n) n s = .matched as t := by
  induction h with
  | refused h =>
    obtain ⟨n, h⟩ := h
    have h' := reply_eq_of_le n.le_succ h (by simp)
    exact ⟨n + 1, by simp [repeatWhile, h']⟩
  | stuck h ht =>
    obtain ⟨n, h⟩ := h
    have h' := reply_eq_of_le n.le_succ h (by simp)
    exact ⟨n + 1, by simp [repeatWhile, h', ht]⟩
  | @step s t u a as h ht _ ih =>
    obtain ⟨n, hn⟩ := h
    obtain ⟨m, hm⟩ := ih
    have hn' : p.reply (max n m + 1) s = .matched a t := reply_eq_of_le (by omega) hn (by simp)
    have hm' : repeatWhile (p.reply (max n m + 1)) (max n m) t = .matched as u := by
      rw [← hm]
      exact repeatWhile_settled (fun _ hs => p.settled (by omega) hs) (by omega) (by simp [hm])
    refine ⟨max n m + 1, ?_⟩
    simp only [repeatWhile, hn', hm', Reply.map_matched]
    rw [if_neg (by omega)]

theorem yields_many_iff {p : Parser α} {s t : Stream} {as : List α} :
    p.many.Yields s as t ↔ p.Repeats s as t := by
  constructor
  · intro h
    obtain ⟨n, h⟩ := h
    exact repeats_of_repeatWhile h
  · exact fun h => h.exists_repeatWhile

theorem not_refuses_many {p : Parser α} {s : Stream} : ¬ p.many.Refuses s := by
  intro h
  obtain ⟨n, h⟩ := h
  simp only [many] at h
  generalize p.reply n = step at h
  induction n generalizing s with
  | zero => cases h
  | succ n ih =>
    rw [repeatWhile] at h
    split at h
    · cases h
    · cases h
    · rename_i t _
      split at h
      · cases h
      · cases hw : repeatWhile step n t with
        | noMatch => exact ih hw
        | matched => simp [hw] at h
        | unfinished => simp [hw] at h

theorem exists_yields_many {p : Parser α} {s : Stream} (h : p.many.Ends s) :
    ∃ as t, p.many.Yields s as t := by
  rcases h.yields_or_refuses with hy | hn
  · exact hy
  · exact (not_refuses_many hn).elim

theorem repeatWhile_map {step : Stream → Reply α} (f : α → β) (n : Nat) (s : Stream) :
    repeatWhile (fun t => (step t).map f) n s = (repeatWhile step n s).map (List.map f) := by
  induction n generalizing s with
  | zero => rfl
  | succ n ih =>
    rw [repeatWhile, repeatWhile]
    cases step s with
    | noMatch => rfl
    | unfinished => rfl
    | matched a t =>
      simp only [Reply.map_matched, ih]
      split
      · rfl
      · cases repeatWhile step n t <;> rfl

theorem map_id (p : Parser α) : p.map id = p := by
  refine ext fun n s => ?_
  simp only [Parser.map]
  cases p.reply n s <;> rfl

theorem map_map (f : α → β) (g : β → γ) (p : Parser α) :
    (p.map f).map g = p.map fun a => g (f a) := by
  refine ext fun n s => ?_
  simp only [Parser.map]
  cases p.reply n s <;> rfl

theorem andThen_map_map (f : α → γ) (g : β → δ) (p : Parser α) (q : Parser β) :
    (p.map f).andThen (q.map g) = (p.andThen q).map (Prod.map f g) := by
  refine ext fun n s => ?_
  simp only [Parser.andThen, Parser.map]
  cases p.reply n s with
  | noMatch => rfl
  | unfinished => rfl
  | matched a t =>
    simp only [Reply.map_matched, Reply.bind_matched]
    cases q.reply n t <;> rfl

theorem map_many (f : α → β) (p : Parser α) : (p.map f).many = p.many.map (List.map f) :=
  ext fun n s => repeatWhile_map f n s

theorem Repeats.offset_le {p : Parser α} {s t : Stream} {as : List α} (h : p.Repeats s as t) :
    s.offset ≤ t.offset := by
  induction h with
  | refused => exact Nat.le_refl _
  | stuck => exact Nat.le_refl _
  | step _ ht _ ih => omega

end Munch.Parser
