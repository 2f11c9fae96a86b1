import Munch.Proofs.Calls

namespace Munch

namespace Grammar

variable {ν : Type}

theorem reach_meaning_le {names : ν → BoundedParser Value} {B : Nat}
    (hn : ∀ x, (names x).bounded.reach ≤ B) {g : Grammar ν}
    (hg : ∀ t, jumpTo t ∈ g.parts → Text.byteLength t ≤ B) :
    (g.meaning names).bounded.reach ≤ B := by
  induction g with
  | ref x => exact hn x
  | jumpTo t => exact hg t (mem_parts_self _)
  | map f g ih | filterMap f g ih | many g ih => exact ih fun t ht => hg t (.tail _ ht)
  | apply f g ih => exact Nat.max_le.2 ⟨Nat.zero_le _, ih fun t ht => hg t (.tail _ ht)⟩
  | andThen g k ihg ihk | applyOperator g k ihg ihk | applyBinary f g k ihg ihk =>
    have hgk (t : Text) (ht : jumpTo t ∈ g.parts ++ k.parts) := hg t (.tail _ ht)
    exact Nat.max_le.2 ⟨ihg fun t ht => hgk t (List.mem_append_left _ ht),
      ihk fun t ht => hgk t (List.mem_append_right _ ht)⟩
  | applyTernary f g k l ihg ihk ihl =>
    have hgkl (t : Text) (ht : jumpTo t ∈ g.parts ++ (k.parts ++ l.parts)) := hg t (.tail _ ht)
    have hkl (t : Text) (ht : jumpTo t ∈ k.parts ++ l.parts) :=
      hgkl t (List.mem_append_right _ ht)
    exact Nat.max_le.2 ⟨Nat.max_le.2 ⟨ihg fun t ht => hgkl t (List.mem_append_left _ ht),
      ihk fun t ht => hkl t (List.mem_append_left _ ht)⟩,
      ihl fun t ht => hkl t (List.mem_append_right _ ht)⟩
  | _ => exact Nat.zero_le _

end Grammar

/-- A place between two characters of a source of at most `B` bytes. -/
structure Stream.Fits (B : Nat) (s : Stream) : Prop where
  wellFormed : s.WellFormed
  source_le : s.source.byteLength ≤ B

theorem Stream.Fits.offset_le {B : Nat} {s : Stream} (h : s.Fits B) : s.offset ≤ B :=
  Nat.le_trans h.wellFormed.offset_le h.source_le

theorem Stream.Fits.ofText {B : Nat} {t : Text} (h : Text.byteLength t ≤ B) :
    (ofText t).Fits B :=
  ⟨wellFormed_ofText t, h⟩

theorem Stream.Fits.of_next? {B : Nat} {s t : Stream} {c : Char} (h : s.next? = some (c, t))
    (hs : s.Fits B) : t.Fits B := by
  refine ⟨(WellFormed.of_next? h).2, ?_⟩
  rw [(next?_eq_some_iff.1 h).2.1]
  exact hs.source_le

namespace Grammar

theorem moves_fits {B : Nat} {g : Grammar Empty}
    (hg : ∀ t, jumpTo t ∈ g.parts → Text.byteLength t ≤ B) :
    g.parser.Moves fun s t => s.Fits B → t.Fits B := by
  refine .invariant .of_next? ?_ ?_ ?_
  · intro s hs
    exact .ofText hs.source_le
  · intro s hs
    exact .ofText (Nat.le_trans (Stream.byteLength_rest_le s) hs.source_le)
  · intro t ht
    exact .ofText (hg t ht)

/-- Every grammar ends, and every repetition that it asks moves forward within the bound, so it has
no more values than bytes lie between its first stream and its last. -/
theorem Script.evaluation_ends {script : Script} {g : Grammar Empty}
    (hg : script.expand? = some g) {B : Nat}
    (hjump : ∀ t, jumpTo t ∈ g.parts → Text.byteLength t ≤ B) {s : Stream} (hs : s.WellFormed)
    (hsource : s.source.byteLength ≤ B) :
    ∃ p, script.parser? = some p ∧ (∀ n, B < n → p.parser.reply n s ≠ .unfinished) ∧
      ∀ h t, g.Asks s (many h) t → ∃ steps u,
        (many h).parser.Yields t (.list (steps.map Prod.fst)) u ∧ h.parser.Advances t steps u ∧
          ((t :: steps.map Prod.snd).Pairwise fun x y => x.offset < y.offset) ∧
          (∀ r ∈ t :: steps.map Prod.snd, r.offset ≤ B) ∧
          t.offset + steps.length ≤ u.offset ∧ u.offset ≤ max t.offset B := by
  refine ⟨_, Script.parser?_of_expand? hg, ?_, ?_⟩
  · intro n hn
    have hreach : (g.meaning Empty.elim).bounded.reach ≤ B := reach_meaning_le Empty.rec hjump
    exact ((g.meaning Empty.elim).bounded.within hreach hn hsource).ne_unfinished
  · intro h t ha
    have hparts : ∀ k ∈ g.parts, k.parser.Moves fun s t => s.Fits B → t.Fits B :=
      fun k hk => moves_fits fun t ht => hjump t (parts_subset hk ht)
    have ht : t.Fits B := ha.invariant hparts ⟨hs, hsource⟩
    rcases (Parser.Bounded.ends h.parser.many t).yields_or_refuses with ⟨vs, u, hy⟩ | hn
    · obtain ⟨steps, hsteps, hvs⟩ := (Parser.yields_many_iff.1 hy).exists_advances
      have hh := hparts h (parts_subset ha.mem_parts (List.mem_cons_of_mem _ (mem_parts_self h)))
      have hfits := hsteps.invariant hh ht
      refine ⟨steps, u, Parser.yields_map_iff.2 ⟨vs, hy, ?_⟩, hsteps, hsteps.pairwise, ?_,
        hsteps.offset_add_length_le, ?_⟩
      · rw [hvs]
      · exact fun r hr => (hfits r hr).offset_le
      · exact Nat.le_trans (hfits u hsteps.mem).offset_le (Nat.le_max_right _ _)
    · exact (Parser.not_refuses_many hn).elim

/-- Words with an equals sign after each, every one at the start of a source of its own, so a word
is kept only if it is longer than the one before it. -/
def longerWords : Grammar ν :=
  many (map .flatten (andThen (andThen restart identifier) (char '=')))

/-- After a jump, a repetition keeps two streams, and one inside it keeps three at first. -/
theorem Script.evaluation_ends_after_jump :
    ∃ (t : Text) (p : BoundedParser Value), t = "xa=bc=def=;ghijk=lmnopq=".toList ∧
      Script.parser? ⟨[("words", longerWords)],
        .andThen (.jumpTo t) (.many (.applyBinary .second (.character .any) (.ref "words")))⟩ =
          some p ∧
      (∀ n, 24 < n → p.parser.reply n (.place "aé1".toList 3) ≠ .unfinished) ∧
      (∃ (steps : List (Value × Stream)) (u : Stream),
        (many (.applyBinary .second (.character .any) longerWords)).parser.Yields (.ofText t)
          (.list (steps.map Prod.fst)) u ∧
        steps.map Prod.fst =
          [.list [.text "a=".toList, .text "bc=".toList, .text "def=".toList],
            .list [.text "ghijk=".toList, .text "lmnopq=".toList]] ∧
        ((.ofText t :: steps.map Prod.snd).Pairwise fun x y => x.offset < y.offset) ∧
        (∀ r ∈ .ofText t :: steps.map Prod.snd, r.offset ≤ 24) ∧
        steps.length ≤ u.offset ∧ u.offset ≤ 24) ∧
      ∃ (steps : List (Value × Stream)) (u : Stream),
        longerWords.parser.Yields (.place t 1) (.list (steps.map Prod.fst)) u ∧
        steps.map Prod.fst = [.text "a=".toList, .text "bc=".toList, .text "def=".toList] ∧
        ((.place t 1 :: steps.map Prod.snd).Pairwise fun x y => x.offset < y.offset) ∧
        (∀ r ∈ .place t 1 :: steps.map Prod.snd, r.offset ≤ 24) ∧
        1 + steps.length ≤ u.offset ∧ u.offset ≤ 24 := by
  let t : Text := "xa=bc=def=;ghijk=lmnopq=".toList
  have hs : (Stream.place "aé1".toList 3).WellFormed := ⟨['a', 'é'], ['1'], rfl, rfl⟩
  have hg : Script.expand? ⟨[("words", longerWords)],
      .andThen (.jumpTo t) (.many (.applyBinary .second (.character .any) (.ref "words")))⟩ =
        some _ := rfl
  have hlength : Text.byteLength t ≤ 24 := by decide
  have hjump : (jumpTo t : Grammar Empty).parser.Yields (.place "aé1".toList 3) .unit (.ofText t) :=
    Parser.run_eq_some_iff.1 (by decide +kernel)
  have hany : (character .any : Grammar Empty).parser.Yields (.ofText t) (.char 'x') (.place t 1) :=
    Parser.run_eq_some_iff.1 (by decide +kernel)
  have houter : (many (.applyBinary .second (.character .any) longerWords)).parser.Yields
      (.ofText t) (.list [.list [.text "a=".toList, .text "bc=".toList, .text "def=".toList],
        .list [.text "ghijk=".toList, .text "lmnopq=".toList]]) (.place "lmnopq=".toList 7) :=
    Parser.run_eq_some_iff.1 (by decide +kernel)
  have hinner : longerWords.parser.Yields (.place t 1)
      (.list [.text "a=".toList, .text "bc=".toList, .text "def=".toList])
      (.place "def=;ghijk=lmnopq=".toList 4) := Parser.run_eq_some_iff.1 (by decide +kernel)
  obtain ⟨p, hp, hends, hloops⟩ :=
    Script.evaluation_ends (B := 24) hg (by simpa [parts, longerWords] using hlength) hs (by decide)
  obtain ⟨steps, u, hy, _, hgrow, hbound, hlen, hle⟩ := hloops _ _
    (.call .self (.operand (by rfl) (.cons hjump (.nil _))))
  obtain ⟨steps', u', hy', _, hgrow', hbound', hlen', hle'⟩ := hloops _ _
    (.call (.call (.call .self (.operand (by rfl) (.cons hjump (.nil _)))) (.round (.refl _)))
      (.operand (by rfl) (.cons hany (.nil _))))
  rw [Stream.offset_ofText, Nat.zero_add] at hlen
  exact ⟨t, p, rfl, hp, hends,
    ⟨steps, u, hy, Value.list.inj (hy.unique houter).1, hgrow, hbound, hlen, hle⟩,
    steps', u', hy', Value.list.inj (hy'.unique hinner).1, hgrow', hbound', hlen', hle'⟩

end Grammar

end Munch
