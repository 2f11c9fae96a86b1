import Munch.Proofs.Repetition

namespace Munch.Parser

variable {α β : Type}

theorem Stops.filterMap {p : Parser α} {s : Stream} (h : p.Stops s) (f : α → Option β) :
    (p.filterMap f).Stops s := by
  rcases h with hn | ⟨a, t, ha, ht⟩
  · exact .inl (refuses_filterMap_iff.2 (.inl hn))
  · cases hf : f a with
    | none => exact .inl (refuses_filterMap_iff.2 (.inr ⟨a, t, ha, hf⟩))
    | some b => exact .inr ⟨b, t, yields_filterMap_iff.2 ⟨a, ha, hf⟩, ht⟩

/-- With a filter the parser visits the same streams, up to the one that yields the first value that
is rejected. -/
theorem Visits.exists_filterMap {p : Parser α} {x : Nat → Stream} {as : List α}
    (h : p.Visits x as) (f : α → Option β) :
    ∃ bs, bs.map some = (as.take (as.findIdx fun a => (f a).isNone)).map f ∧
      (p.filterMap f).Visits x bs := by
  induction as generalizing x with
  | nil =>
    have hstop := visits_nil_iff.1 h
    exact ⟨[], rfl, visits_nil_iff.2 (hstop.filterMap f)⟩
  | cons a as ih =>
    obtain ⟨ha, hforward, hx⟩ := visits_cons_iff.1 h
    cases hf : f a with
    | none =>
      have hrefuses : (p.filterMap f).Refuses (x 0) :=
        refuses_filterMap_iff.2 (.inr ⟨a, x 1, ha, hf⟩)
      exact ⟨[], by simp [List.findIdx_cons, hf], visits_nil_iff.2 (.inl hrefuses)⟩
    | some b =>
      obtain ⟨bs, hbs, hvisits⟩ := ih hx
      have hb : (p.filterMap f).Yields (x 0) b (x 1) := yields_filterMap_iff.2 ⟨a, ha, hf⟩
      exact ⟨b :: bs, by simp [List.findIdx_cons, hf, hbs],
        visits_cons_iff.2 ⟨hb, hforward, hvisits⟩⟩

/-- A filtered repetition keeps the results before the first value that is rejected, and leaves the
stream on which the parser yields that value. -/
theorem many_filterMap_longest_accepted {p : Parser α} {s : Stream} (hs : p.many.Ends s) :
    ∃ x as, x 0 = s ∧ p.Visits x as ∧ p.many.Yields s as (x as.length) ∧
      (∀ f : α → Option β, ∃ bs,
        bs.map some = (as.take (as.findIdx fun a => (f a).isNone)).map f ∧
          (p.filterMap f).many.Yields s bs (x (as.findIdx fun a => (f a).isNone))) ∧
      ∀ g : α → β, (p.map g).many.Yields s (as.map g) (x as.length) ∧
        (p.many.map (List.map g)).Yields s (as.map g) (x as.length) := by
  rcases hs.yields_or_refuses with ⟨as, r, hy⟩ | hn
  · obtain ⟨x, rfl, rfl, hx⟩ := (yields_many_iff.1 hy).exists_visits
    refine ⟨x, as, rfl, hx, hy, ?_, ?_⟩
    · intro f
      obtain ⟨bs, hbs, hvisits⟩ := hx.exists_filterMap f
      have hlength : bs.length = as.findIdx fun a => (f a).isNone := by
        have := congrArg List.length hbs
        rwa [List.length_map, List.length_map, List.length_take,
          Nat.min_eq_left List.findIdx_le_length] at this
      rw [← hlength] at hbs ⊢
      exact ⟨bs, hbs, yields_many_iff.2 hvisits.repeats⟩
    · intro g
      have hmap : (p.many.map (List.map g)).Yields (x 0) (as.map g) (x as.length) :=
        yields_map_iff.2 ⟨as, hy, rfl⟩
      rw [map_many]
      exact ⟨hmap, hmap⟩
  · exact (not_refuses_many hn).elim

/-- The second round reads `é,` and is given back, although there are more rounds after it. -/
theorem many_filterMap_longest_accepted_of_letters :
    ((ofClass .identifierStart).andThen (char ',')).many.Ends (.ofText "a,é,b,c".toList) ∧
      (((ofClass .identifierStart).andThen (char ',')).filterMap fun r =>
        if r.1.isAlpha then some r.1 else none).many.Yields (.ofText "a,é,b,c".toList) ['a']
          (.place "a,é,b,c".toList 2) := by
  have hy : ((ofClass .identifierStart).andThen (char ',')).many.Yields
      (.ofText "a,é,b,c".toList) [('a', ','), ('é', ','), ('b', ',')]
      (.place "a,é,b,c".toList 7) :=
    run_eq_some_iff.1 (by decide +kernel)
  obtain ⟨x, as, hstart, hx, has, hfilter, _⟩ := many_filterMap_longest_accepted hy.ends
  obtain ⟨rfl, _⟩ := has.unique hy
  have hround : ((ofClass .identifierStart).andThen (char ',')).Yields (x 0) ('a', ',')
      (.place "a,é,b,c".toList 2) := by
    rw [hstart]
    exact run_eq_some_iff.1 (by decide +kernel)
  obtain ⟨_, hnext⟩ := (hx.yields 0 (by decide)).unique hround
  obtain ⟨bs, hbs, hyields⟩ := hfilter fun r => if r.1.isAlpha then some r.1 else none
  obtain rfl : bs = ['a'] := (List.map_inj_right fun _ _ => Option.some.inj).1 hbs
  rw [← hnext]
  exact ⟨hy.ends, hyields⟩

end Munch.Parser
