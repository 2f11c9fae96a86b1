import Munch.Proofs.MadeStreams

namespace Munch.Stream

/-- Some script makes the stream. -/
def Made (s : Stream) : Prop :=
  ∃ steps, s ∈ Step.final [] steps

variable {s t a b c : Stream} {u : Text}

theorem Reads.drop_eq (h : s.Reads u t) : s.drop u.length = t := by
  induction u generalizing s with
  | nil => exact (reads_nil_iff.1 h).symm
  | cons c u ih =>
    obtain ⟨r, hr, ht⟩ := reads_append_iff (u := [c]).1 h
    rw [List.length_cons, drop_eq_iterate, Function.iterate_succ_apply,
      dropFirst_of_next? (reads_singleton_iff.1 hr), ← drop_eq_iterate, ih ht]

theorem leadsTo_iff_exists_drop : s.LeadsTo t ↔ ∃ n, s.drop n = t := by
  constructor
  · intro h
    obtain ⟨u, hu⟩ := leadsTo_iff_exists_reads.1 h
    exact ⟨u.length, hu.drop_eq⟩
  · intro h
    obtain ⟨n, rfl⟩ := h
    exact readingOrder_leadsTo.drop n s

theorem made_iff_wellFormed : s.Made ↔ s.WellFormed := by
  constructor
  · intro h
    obtain ⟨steps, hs⟩ := h
    exact Step.wellFormed_of_mem_final hs
  · intro h
    obtain ⟨before, hsource, hoffset⟩ := h.split
    have hread : (ofText s.source).Reads before s :=
      reads_ofText_iff.2 ⟨rfl, hsource, hoffset.symm⟩
    refine ⟨[.create s.source, .drop 0 before.length], ?_⟩
    have hfinal : Step.final [] [.create s.source, .drop 0 before.length] =
        [ofText s.source, (ofText s.source).drop before.length] := rfl
    rw [hfinal, hread.drop_eq]
    exact List.mem_cons_of_mem _ List.mem_cons_self

theorem isSuffixOf_eq_true_iff :
    s.isSuffixOf t = true ↔ s.source = t.source ∧ t.offset ≤ s.offset := by
  rw [isSuffixOf, Bool.and_eq_true, beq_iff_eq, decide_eq_true_eq]

theorem WellFormed.leadsTo (hs : s.WellFormed) (ht : t.WellFormed) (hsource : s.source = t.source)
    (hoffset : s.offset ≤ t.offset) : s.LeadsTo t := by
  obtain ⟨before, hb, hl⟩ := hs.split
  obtain ⟨before', hb', hl'⟩ := ht.split
  have hsplit : before ++ s.rest = before' ++ t.rest := by rw [← hb, ← hb', hsource]
  rcases List.append_eq_append_iff.1 hsplit with ⟨u, hu, hrest⟩ | ⟨u, hu, _⟩
  · rw [hu, Text.byteLength_append, hl] at hl'
    exact ⟨hsource.symm, u, hrest, hl'.symm⟩
  · -- A text between the places would stand before `s`, so there is none.
    rw [hu, Text.byteLength_append, hl'] at hl
    have hst : t = s := ext hsource.symm (by omega)
    rw [hst]
    exact .refl s

theorem Made.isSuffixOf_iff_leadsTo (ha : a.Made) (hb : b.Made) :
    a.isSuffixOf b = true ↔ b.LeadsTo a := by
  rw [made_iff_wellFormed] at ha hb
  constructor
  · intro h
    obtain ⟨hsource, hoffset⟩ := isSuffixOf_eq_true_iff.1 h
    exact hb.leadsTo ha hsource.symm hoffset
  · exact LeadsTo.isSuffixOf

theorem isSuffixOf_trans (h : a.isSuffixOf b = true) (k : b.isSuffixOf c = true) :
    a.isSuffixOf c = true := by
  rw [isSuffixOf_eq_true_iff] at h k ⊢
  exact ⟨h.1.trans k.1, Nat.le_trans k.2 h.2⟩

theorem isSuffixOf_antisymm (h : a.isSuffixOf b = true) (k : b.isSuffixOf a = true) : a = b := by
  rw [isSuffixOf_eq_true_iff] at h k
  exact ext h.1 (Nat.le_antisymm k.2 h.2)

/-- A stream that a script has made is a suffix of another exactly if dropping one character after
the other leads to it, and this is a partial order. -/
theorem suffix_iff_dropped (ha : a.Made) (hb : b.Made) :
    (a.isSuffixOf b = true ↔ a.source = b.source ∧
      ∃ n, a.offset = (dropFirst^[n] b).offset ∧ a.rest = (dropFirst^[n] b).rest) ∧
    (a.isSuffixOf b = true → a.rest <:+ b.rest) ∧
    a.isSuffixOf a = true ∧
    (a.isSuffixOf b = true → b.isSuffixOf c = true → a.isSuffixOf c = true) ∧
    (a.isSuffixOf b = true → b.isSuffixOf a = true →
      a.source = b.source ∧ a.offset = b.offset ∧ a.rest = b.rest) := by
  refine ⟨⟨?_, ?_⟩, ?_, ?_, isSuffixOf_trans, ?_⟩
  · intro h
    obtain ⟨n, hn⟩ := leadsTo_iff_exists_drop.1 ((ha.isSuffixOf_iff_leadsTo hb).1 h)
    rw [drop_eq_iterate] at hn
    refine ⟨(isSuffixOf_eq_true_iff.1 h).1, n, ?_⟩
    rw [hn]
    exact ⟨rfl, rfl⟩
  · intro h
    obtain ⟨hsource, n, hoffset, _⟩ := h
    rw [← drop_eq_iterate] at hoffset
    have han : a = b.drop n := ext (by rw [source_drop, hsource]) hoffset
    rw [han]
    exact (readingOrder_leadsTo.drop n b).isSuffixOf
  · intro h
    obtain ⟨u, hu, _⟩ := ((ha.isSuffixOf_iff_leadsTo hb).1 h).consumed
    rw [hu]
    exact List.suffix_append u a.rest
  · exact (LeadsTo.refl a).isSuffixOf
  · intro h k
    rw [isSuffixOf_antisymm h k]
    exact ⟨rfl, rfl, rfl⟩

theorem suffix_iff_dropped_after_restart : ∃ steps : List Step,
    steps = [.create "xaé1".toList, .split 0, .restart 1, .split 2, .drop 2 2] ∧
    .place "aé1".toList 0 ∈ Step.final [] steps ∧ .place "aé1".toList 1 ∈ Step.final [] steps ∧
    .place "aé1".toList 3 ∈ Step.final [] steps ∧
    (∃ n, (place "aé1".toList 3).offset = (dropFirst^[n] (place "aé1".toList 1)).offset ∧
      (place "aé1".toList 3).rest = (dropFirst^[n] (place "aé1".toList 1)).rest) ∧
    (place "aé1".toList 3).isSuffixOf (.place "aé1".toList 0) = true := by
  have hfinal : Step.final []
      [.create "xaé1".toList, .split 0, .restart 1, .split 2, .drop 2 2] =
      [.place "xaé1".toList 0, .place "xaé1".toList 1, .place "aé1".toList 0,
        .place "aé1".toList 1, .place "aé1".toList 3] := by decide +kernel
  have ha : (place "aé1".toList 3).Made := ⟨_, by rw [hfinal]; decide +kernel⟩
  have hb : (place "aé1".toList 1).Made := ⟨_, by rw [hfinal]; decide +kernel⟩
  obtain ⟨hdropped, _, _, htrans, _⟩ := suffix_iff_dropped ha hb
  refine ⟨_, rfl, by decide +kernel, by decide +kernel, by decide +kernel, ?_, ?_⟩
  · exact (hdropped.1 (by decide)).2
  · exact htrans (by decide) (by decide)

end Munch.Stream
