import Munch.Proofs.Runs

namespace Munch.Parser

variable {s t : Stream} {u : Text}

theorem refuses_identifier_iff :
    identifier.Refuses s ↔ ∀ c ∈ s.rest.head?, Unicode.isIdentifierStart c = false := by
  rw [identifier, refuses_map_iff, refuses_andThen_iff, ofClass, refuses_satisfy_iff]
  constructor
  · intro h
    rcases h with h | ⟨_, _, _, hmany⟩
    · exact h
    · exact (not_refuses_many hmany).elim
  · exact .inl

theorem Yields.refuses_identifier (h : identifier.Yields s u t) : identifier.Refuses t := by
  obtain ⟨_, _, hstops⟩ := yields_identifier_iff.1 h
  rw [refuses_identifier_iff]
  intro c hc
  rw [← Bool.not_eq_true]
  intro hstart
  have hcontinue := Unicode.isIdentifierContinue_of_isIdentifierStart hstart
  rw [hstops c hc] at hcontinue
  cases hcontinue

theorem offset_lt_of_yields_identifier (h : identifier.Yields s u t) : s.offset < t.offset := by
  obtain ⟨hread, hu, _⟩ := yields_identifier_iff.1 h
  cases u with
  | nil => exact hu.elim
  | cons c u =>
    have hc := c.utf8Size_pos
    have ho := hread.offset
    rw [Text.byteLength_cons] at ho
    omega

theorem parse_identifier_eq_some_iff {t : Text} : identifier.parse t = some (u, s) ↔
    ∃ c more, t = c :: more ∧ Unicode.isIdentifierStart c = true ∧
      u = c :: more.takeWhile Unicode.isIdentifierContinue ∧ s.source = t ∧
        s.offset = Text.byteLength u ∧ s.rest = more.dropWhile Unicode.isIdentifierContinue := by
  rw [parse, run_eq_some_iff, yields_identifier_iff, Stream.reads_ofText_iff]
  constructor
  · intro h
    obtain ⟨⟨hsource, htext, hoffset⟩, hu, hstops⟩ := h
    cases u with
    | nil => exact hu.elim
    | cons c more =>
      have hrun : Text.IsRun Unicode.isIdentifierContinue more s.rest := ⟨hu.2, hstops⟩
      refine ⟨c, more ++ s.rest, htext, hu.1, ?_, hsource, hoffset, hrun.dropWhile_append.symm⟩
      rw [hrun.takeWhile_append]
  · intro h
    obtain ⟨c, more, rfl, hstart, rfl, hsource, hoffset, hrest⟩ := h
    have hrun := Text.isRun_takeWhile Unicode.isIdentifierContinue more
    rw [hrest, List.cons_append, List.takeWhile_append_dropWhile]
    exact ⟨⟨hsource, rfl, hoffset⟩, ⟨hstart, hrun.all⟩, hrun.stops⟩

theorem parseAll_identifier (hu : u.IsIdentifier) : identifier.parseAll u = .ok u := by
  obtain ⟨s, hread, hempty, hrest⟩ := Stream.exists_reads_all u
  have hstops := Stream.forall_head?_of_rest_eq_nil hrest Unicode.isIdentifierContinue
  exact parseAll_eq_ok_iff.2 ⟨s, yields_identifier_iff.2 ⟨hread, hu, hstops⟩, hempty⟩

theorem refuses_identifier_andThen_identifier (s : Stream) :
    (identifier.andThen identifier).Refuses s := by
  rcases (Bounded.ends identifier s).yields_or_refuses with ⟨u, t, h⟩ | h
  · exact refuses_andThen_iff.2 (.inr ⟨u, t, h, h.refuses_identifier⟩)
  · exact refuses_andThen_iff.2 (.inl h)

theorem run_many_identifier (s : Stream) : identifier.many.run s =
    some ((identifier.run s).elim ([], s) fun (u, t) => ([u], t)) := by
  rw [run_eq_some_iff, yields_many_iff]
  cases h : identifier.run s with
  | none => exact .refused (run_eq_none_iff.1 h)
  | some r =>
    have hr := run_eq_some_iff.1 h
    exact .step hr (offset_lt_of_yields_identifier hr) (.refused hr.refuses_identifier)

/-- A text is matched exactly if its first character starts an identifier, and then that character
and the longest run after it are read. -/
theorem identifier_maximal_munch (t : Text) :
    (∀ u s, identifier.parse t = some (u, s) ↔
      ∃ c more, t = c :: more ∧ Unicode.isIdentifierStart c = true ∧
        u = c :: more.takeWhile Unicode.isIdentifierContinue ∧ s.source = t ∧
          s.offset = Text.byteLength u ∧ s.rest = more.dropWhile Unicode.isIdentifierContinue) ∧
    (identifier.parse t = none ↔ ∀ c ∈ t.head?, Unicode.isIdentifierStart c = false) ∧
    (∀ u s, identifier.parse t = some (u, s) → t = u ++ s.rest ∧
      (∀ c ∈ s.rest.head?, Unicode.isIdentifierContinue c = false) ∧
        identifier.parseAll u = .ok u) ∧
    ∀ s, (identifier.andThen identifier).run s = none ∧
      identifier.many.run s = some ((identifier.run s).elim ([], s) fun (u, r) => ([u], r)) := by
  refine ⟨fun u s => parse_identifier_eq_some_iff, ?_, ?_, ?_⟩
  · rw [parse, run_eq_none_iff, refuses_identifier_iff, Stream.rest_ofText]
  · intro u s h
    obtain ⟨hread, hu, hstops⟩ := yields_identifier_iff.1 (run_eq_some_iff.1 h)
    exact ⟨hread.rest, hstops, parseAll_identifier hu⟩
  · intro s
    exact ⟨run_eq_none_iff.2 (refuses_identifier_andThen_identifier s), run_many_identifier s⟩

theorem identifier_maximal_munch_of_letters :
    identifier.parse "é_1=x".toList = some ("é_1".toList, .place "é_1=x".toList 4) ∧
      identifier.parseAll "é_1".toList = .ok "é_1".toList ∧
      identifier.many.run (.ofText "é_1=x".toList) =
        some (["é_1".toList], .place "é_1=x".toList 4) := by
  obtain ⟨_, _, hwhole, honce⟩ := identifier_maximal_munch "é_1=x".toList
  have hparse : identifier.parse "é_1=x".toList =
      some ("é_1".toList, .place "é_1=x".toList 4) := by decide +kernel
  obtain ⟨_, _, hagain⟩ := hwhole _ _ hparse
  obtain ⟨_, hmany⟩ := honce (.ofText "é_1=x".toList)
  rw [show identifier.run _ = _ from hparse] at hmany
  exact ⟨hparse, hagain, hmany⟩

end Munch.Parser
