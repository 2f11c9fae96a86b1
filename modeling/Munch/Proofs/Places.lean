import Munch.Proofs.Calls

namespace Munch

namespace Stream

def isPlace (s : Stream) : Bool :=
  (s.source.dropBytes? s.offset).isSome

/-- A place between two characters of a suffix of one of the texts. -/
structure LiesIn (texts : Text → Prop) (s : Stream) : Prop where
  wellFormed : s.WellFormed
  source : ∃ t, texts t ∧ s.source <:+ t

variable {texts : Text → Prop} {s t : Stream}

theorem WellFormed.isPlace (h : s.WellFormed) : s.isPlace = true := by
  rw [Stream.isPlace, wellFormed_iff_dropBytes?.1 h, Option.isSome_some]

theorem WellFormed.rest_suffix (h : s.WellFormed) : s.rest <:+ s.source := by
  obtain ⟨before, hb, _⟩ := h.split
  exact ⟨before, hb.symm⟩

theorem LiesIn.of_next? {c : Char} (h : s.next? = some (c, t)) (hs : s.LiesIn texts) :
    t.LiesIn texts := by
  refine ⟨(WellFormed.of_next? h).2, ?_⟩
  rw [(next?_eq_some_iff.1 h).2.1]
  exact hs.source

theorem LiesIn.rewind (hs : s.LiesIn texts) : s.rewind.LiesIn texts :=
  ⟨wellFormed_rewind s, hs.source⟩

theorem LiesIn.restart (hs : s.LiesIn texts) : s.restart.LiesIn texts := by
  obtain ⟨t, ht, hst⟩ := hs.source
  exact ⟨wellFormed_restart s, t, ht, hs.wellFormed.rest_suffix.trans hst⟩

theorem LiesIn.ofText {u : Text} (hu : texts u) : (ofText u).LiesIn texts :=
  ⟨wellFormed_ofText u, u, hu, List.suffix_refl u⟩

end Stream

namespace Grammar

theorem moves_liesIn {texts : Text → Prop} {g : Grammar Empty}
    (hg : ∀ t, jumpTo t ∈ g.parts → texts t) :
    g.parser.Moves fun s t => s.LiesIn texts → t.LiesIn texts := by
  refine .invariant .of_next? .rewind .restart ?_
  intro t ht
  exact .ofText (hg t ht)

theorem Asks.liesIn {texts : Text → Prop} {g h : Grammar Empty} {s t : Stream}
    (ha : g.Asks s h t) (hg : ∀ u, jumpTo u ∈ g.parts → texts u) (hs : s.LiesIn texts) :
    t.LiesIn texts ∧ ∀ v u, h.parser.Yields t v u → u.LiesIn texts := by
  have hparts (k : Grammar Empty) (hk : k ∈ g.parts) :
      k.parser.Moves fun s t => s.LiesIn texts → t.LiesIn texts := by
    apply moves_liesIn
    intro u hu
    exact hg u (parts_subset hk hu)
  have ht := ha.invariant hparts hs
  refine ⟨ht, ?_⟩
  intro v u hu
  exact (hparts h ha.mem_parts).of_yields hu ht

/-- Each stream that a part of a grammar is asked on or leaves is a place between two characters of
a suffix of the source at the start or of a text that is jumped to. -/
theorem Script.every_slice_valid {script : Script} {g : Grammar Empty}
    (hg : script.expand? = some g) {s : Stream} (hs : s.WellFormed) :
    ∃ p, script.parser? = some p ∧
      (∀ h t, g.Asks s h t → ∀ r, (r = t ∨ ∃ v, h.parser.Yields t v r) →
        r.offset ≤ r.source.byteLength ∧ r.WellFormed ∧ (∀ n, (r.drop n).WellFormed) ∧
          (r.source <:+ s.source ∨ ∃ u, jumpTo u ∈ g.parts ∧ r.source <:+ u) ∧
          r.source.dropBytes? r.offset = some r.rest ∧ (r.isEmpty = true ↔ r.rest = [])) ∧
      ∀ n, ((g.guardedInside Stream.isPlace).guarded Stream.isPlace).reply n s =
        p.parser.reply n s := by
  have hlies : ∀ h t, g.Asks s h t →
      t.LiesIn (fun u => u = s.source ∨ jumpTo u ∈ g.parts) ∧
        ∀ v u, h.parser.Yields t v u → u.LiesIn fun u => u = s.source ∨ jumpTo u ∈ g.parts := by
    intro h t ha
    exact ha.liesIn (fun u hu => .inr hu) ⟨hs, s.source, .inl rfl, List.suffix_refl _⟩
  refine ⟨_, Script.parser?_of_expand? hg, ?_, ?_⟩
  · intro h t ha r hr
    obtain ⟨ht, hleft⟩ := hlies h t ha
    have hlr : r.LiesIn fun u => u = s.source ∨ jumpTo u ∈ g.parts := by
      rcases hr with rfl | ⟨v, hv⟩
      · exact ht
      · exact hleft v r hv
    obtain ⟨hw, u, hu, hsuffix⟩ := hlr
    refine ⟨hw.offset_le, hw, hw.drop, ?_, Stream.wellFormed_iff_dropBytes?.1 hw, hw.isEmpty_iff⟩
    rcases hu with rfl | hu
    · exact .inl hsuffix
    · exact .inr ⟨u, hu, hsuffix⟩
  · have hstays : g.StaysIn Stream.isPlace s := by
      intro h t ha
      obtain ⟨ht, hleft⟩ := hlies h t ha
      exact ⟨ht.wellFormed.isPlace, fun v u hu => (hleft v u hu).wellFormed.isPlace⟩
    exact hstays.agreesOn_guard hstays.agreesOn_guardedInside

theorem Script.every_slice_valid_after_restart :
    ∃ (p : BoundedParser Value) (g : Grammar Empty),
      Script.parser? ⟨[("next", .andThen (.skip 1) .restart)],
        .many (.andThen (.ref "next") (.jumpTo ['é']))⟩ = some p ∧
      jumpTo ['é'] ∈ g.parts ∧ (Stream.ofText ['1']).WellFormed ∧
      (['1'] <:+ "aé1".toList ∨ ∃ u, jumpTo u ∈ g.parts ∧ ['1'] <:+ u) ∧
      ∀ n, ((g.guardedInside Stream.isPlace).guarded Stream.isPlace).reply n
          (.place "aé1".toList 1) = p.parser.reply n (.place "aé1".toList 1) := by
  have hs : (Stream.place "aé1".toList 1).WellFormed := ⟨['a'], ['é', '1'], rfl, rfl⟩
  have hg : Script.expand? ⟨[("next", .andThen (.skip 1) .restart)],
      .many (.andThen (.ref "next") (.jumpTo ['é']))⟩ = some _ := rfl
  obtain ⟨p, hp, hplaces, hguarded⟩ := Script.every_slice_valid hg hs
  have hskip : (skip 1).parser.Yields (.place "aé1".toList 1) .unit (.place "aé1".toList 3) :=
    Parser.run_eq_some_iff.1 (by decide +kernel)
  have hrestart : restart.parser.Yields (.place "aé1".toList 3) .unit (.ofText ['1']) :=
    Parser.run_eq_some_iff.1 (by decide +kernel)
  obtain ⟨_, hw, _, hsource, _⟩ := hplaces _ _
    (.call (.call (.call .self (.round (.refl _))) (.operand (List.nil_append _) (.nil _)))
      (.operand (by rfl) (.cons hskip (.nil _)))) _ (.inr ⟨_, hrestart⟩)
  exact ⟨p, _, hp, by decide, hw, hsource, hguarded⟩

end Grammar

end Munch
