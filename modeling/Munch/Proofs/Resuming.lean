import Munch.Proofs.PlainText

namespace Munch

/-- The error as it is in a text with `n` more bytes before it. -/
def ParseError.shift (n : Nat) : ParseError → ParseError
  | noMatch => noMatch
  | incomplete offset remainder => incomplete (n + offset) remainder

namespace Parser

variable {α β : Type} {s t r : Stream} {u : Text} {a : α}

/-- The result of parsing a text as a whole, for parsers that need not be bounded. -/
inductive Completes (p : Parser α) (u : Text) : Except ParseError α → Prop where
  | ok {a : α} {s : Stream} :
    p.Yields (.ofText u) a s → s.isEmpty = true → Completes p u (.ok a)
  | incomplete {a : α} {s : Stream} : p.Yields (.ofText u) a s → s.isEmpty = false →
    Completes p u (.error (.incomplete s.offset s.rest))
  | noMatch : p.Refuses (.ofText u) → Completes p u (.error .noMatch)

theorem completes_iff_parseAll_eq {p : Parser α} [Bounded p] {result : Except ParseError α} :
    p.Completes u result ↔ p.parseAll u = result := by
  constructor
  · intro h
    cases h with
    | ok ha hs => exact parseAll_eq_ok_iff.2 ⟨_, ha, hs⟩
    | incomplete ha hs => exact parseAll_eq_incomplete_iff.2 ⟨_, _, ha, hs, rfl, rfl⟩
    | noMatch h => exact parseAll_eq_noMatch_iff.2 h
  · intro h
    match result with
    | .ok a =>
      obtain ⟨s, ha, hs⟩ := parseAll_eq_ok_iff.1 h
      exact .ok ha hs
    | .error .noMatch => exact .noMatch (parseAll_eq_noMatch_iff.1 h)
    | .error (.incomplete n v) =>
      obtain ⟨a, s, ha, hs, rfl, rfl⟩ := parseAll_eq_incomplete_iff.1 h
      exact .incomplete ha hs

theorem Refines.yields_of_rest {p : Parser α} [Bounded p] {q : PlainParser α} (h : p.Refines q)
    (hs : s.WellFormed) (ha : p.Yields (.ofText s.rest) a t) :
    ∃ r, p.Yields s a r ∧ r.offset = s.offset + t.offset ∧ r.rest = t.rest ∧
      r.isEmpty = t.isEmpty := by
  have hstart := Stream.wellFormed_ofText s.rest
  have hplain := h.yields hstart ha
  rw [Stream.rest_ofText] at hplain
  rcases (Bounded.ends p s).yields_or_refuses with ⟨b, r, hb⟩ | hn
  · have hsame := h.yields hs hb
    rw [hplain, Option.some.injEq, Prod.mk.injEq] at hsame
    obtain ⟨rfl, hrest⟩ := hsame
    have hmoves := h.moves.of_yields ha
    have hmoves' := h.moves.of_yields hb
    obtain ⟨v, hv, ho⟩ := hmoves.consumed
    obtain ⟨w, hw, ho'⟩ := hmoves'.consumed
    rw [hw, ← hrest] at hv
    obtain rfl := List.append_cancel_right hv
    refine ⟨r, hb, ?_, hrest.symm, ?_⟩
    · rw [ho', ho, Stream.offset_ofText, Nat.zero_add]
    · rw [Bool.eq_iff_iff, (hmoves'.wellFormed hs).isEmpty_iff,
        (hmoves.wellFormed hstart).isEmpty_iff, hrest]
  · rw [h.refuses hs hn] at hplain
    cases hplain

theorem Refines.refuses_of_rest {p : Parser α} [Bounded p] {q : PlainParser α} (h : p.Refines q)
    (hs : s.WellFormed) (hn : p.Refuses (.ofText s.rest)) : p.Refuses s := by
  have hplain := h.refuses (Stream.wellFormed_ofText s.rest) hn
  rw [Stream.rest_ofText] at hplain
  rcases (Bounded.ends p s).yields_or_refuses with ⟨b, r, hb⟩ | hn
  · rw [h.yields hs hb] at hplain
    cases hplain
  · exact hn

theorem Yields.completes_andThen {p : Parser α} {q : Parser β} [Bounded q] {q' : PlainParser β}
    (ha : p.Yields (.ofText u) a r) (hr : r.WellFormed) (hq : q.Refines q') :
    (p.andThen q).Completes u
      (((q.parseAll r.rest).map (a, ·)).mapError (.shift r.offset)) := by
  have hresult : q.Completes r.rest (q.parseAll r.rest) := completes_iff_parseAll_eq.2 rfl
  generalize q.parseAll r.rest = result at hresult ⊢
  cases hresult with
  | ok hb hempty =>
    obtain ⟨s, hs, _, _, hsame⟩ := hq.yields_of_rest hr hb
    exact .ok (yields_andThen_iff.2 ⟨r, ha, hs⟩) (hsame.trans hempty)
  | incomplete hb hempty =>
    obtain ⟨s, hs, hoffset, hrest, hsame⟩ := hq.yields_of_rest hr hb
    have hc := Completes.incomplete (yields_andThen_iff.2 ⟨r, ha, hs⟩) (hsame.trans hempty)
    rw [hoffset, hrest] at hc
    exact hc
  | noMatch hn => exact .noMatch (refuses_andThen_iff.2 (.inr ⟨a, r, ha, hq.refuses_of_rest hr hn⟩))

end Parser

namespace Grammar

/-- A sequence whose second part is not placed has the result of that part on the text that the
first one leaves, with errors moved to where they are. -/
theorem Script.parseAll_resumes {script : Script} {g : Grammar Empty}
    (hg : script.expand? = some g) (hplaced : ∀ k ∈ g.parts, k.isPlaced = false) {α : Type}
    (p : Parser α) (u : Text) :
    ∃ q, script.parser? = some q ∧
      (p.Refuses (.ofText u) → (p.andThen q.parser).Completes u (.error .noMatch)) ∧
      (∀ a r, p.Yields (.ofText u) a r → r.WellFormed → (p.andThen q.parser).Completes u
        (((q.parser.parseAll r.rest).map (a, ·)).mapError (.shift r.offset))) ∧
      ∀ [p.Bounded] result, (p.andThen q.parser).Completes u result ↔
        (p.andThen q.parser).parseAll u = result := by
  refine ⟨_, Script.parser?_of_expand? hg, ?_, ?_, ?_⟩
  · intro hn
    exact .noMatch (Parser.refuses_andThen_iff.2 (.inl hn))
  · intro a r ha hr
    exact ha.completes_andThen hr (refines_plain hplaced)
  · intro _ result
    exact Parser.completes_iff_parseAll_eq

/-- The first part goes to another text, of which it reads a letter of two bytes. -/
theorem Script.parseAll_resumes_after_jump :
    ∃ q, Script.parser? ⟨[("number", .integer)], .map .wrap (.ref "number")⟩ = some q ∧
      q.parser.parseAll "12;".toList = .error (.incomplete 2 [';']) ∧
      (((Parser.jumpTo "é12;".toList).andThen
        (.ofClass .identifierStart)).andThen q.parser).parseAll "x".toList =
          .error (.incomplete 4 [';']) := by
  have hg : Script.expand? ⟨[("number", .integer)], .map .wrap (.ref "number")⟩ = some _ := rfl
  obtain ⟨q, hq, _, hresumes, hbounded⟩ := Script.parseAll_resumes hg (by decide)
    ((Parser.jumpTo "é12;".toList).andThen (.ofClass .identifierStart)) "x".toList
  have hfirst : ((Parser.jumpTo "é12;".toList).andThen (.ofClass .identifierStart)).Yields
      (.ofText "x".toList) ((), 'é') (.place "é12;".toList 2) :=
    Parser.run_eq_some_iff.1 (by decide +kernel)
  have hstop : (Stream.place "é12;".toList 2).WellFormed := ⟨['é'], "12;".toList, rfl, rfl⟩
  have hrun : q.parser.run (.ofText "12;".toList) =
      some (.some (.int 12), .place "12;".toList 2) := by
    cases hq
    decide +kernel
  have hrest : q.parser.parseAll "12;".toList = .error (.incomplete 2 [';']) :=
    Parser.parseAll_eq_incomplete_iff.2
      ⟨_, _, Parser.run_eq_some_iff.1 hrun, by decide, rfl, by decide⟩
  have hwhole := (hbounded _).1 (hresumes _ _ hfirst hstop)
  rw [show (Stream.place "é12;".toList 2).rest = "12;".toList from rfl, hrest] at hwhole
  exact ⟨q, hq, hrest, hwhole⟩

end Grammar

end Munch
