import Munch.Proofs.ErrorTexts
import Munch.Proofs.Identifiers
import Munch.Proofs.Lines
import Munch.Proofs.Numbers
import Munch.Report.Trace

namespace Munch

namespace Unicode

variable {c : Char}

theorem isIdentifierStart_of_isDigit (h : c.isDigit = true) : isIdentifierStart c = false :=
  Ranges.contains_eq_false_of_isDigit (by decide +kernel) h

theorem isIdentifierStart_equals : isIdentifierStart '=' = false := by
  decide +kernel

theorem isLineBreak_of_isIdentifierContinue (h : isIdentifierContinue c = true) :
    isLineBreak c = false := by
  rw [← Bool.not_eq_true]
  intro hbreak
  have hnot : isIdentifierContinue c = false := by
    rcases isLineBreak_eq_true_iff.1 hbreak with ⟨hmin, hmax⟩ | ⟨hmin, hmax⟩ | ⟨hmin, hmax⟩
    · exact Ranges.contains_eq_false_of_apart (by decide +kernel) hmin hmax
    · exact Ranges.contains_eq_false_of_apart (by decide +kernel) hmin hmax
    · exact Ranges.contains_eq_false_of_apart (by decide +kernel) hmin hmax
  rw [hnot] at h
  cases h

end Unicode

theorem Text.IsIdentifier.onOneLine {t : Text} (h : t.IsIdentifier) : t.OnOneLine := by
  cases t with
  | nil => exact h.elim
  | cons c more =>
    obtain ⟨hstart, hmore⟩ := h
    have hc := Unicode.isIdentifierContinue_of_isIdentifierStart hstart
    refine List.forall_mem_cons.2 ⟨Unicode.isLineBreak_of_isIdentifierContinue hc, ?_⟩
    intro d hd
    exact Unicode.isLineBreak_of_isIdentifierContinue (hmore d hd)

namespace Parser

variable {α β : Type} {t u : Text} {s : Stream} {c : Char}

theorem parse_map (f : α → β) (p : Parser α) [Bounded p] (t : Text) :
    (p.map f).parse t = (p.parse t).map (Prod.map f id) := by
  cases h : p.parse t with
  | none => exact run_eq_none_iff.2 (refuses_map_iff.2 (run_eq_none_iff.1 h))
  | some r => exact run_eq_some_iff.2 (yields_map_iff.2 ⟨r.1, run_eq_some_iff.1 h, rfl⟩)

theorem parse_char_eq_none_iff : (char c).parse t = none ↔ ∀ d ∈ t.head?, (d == c) = false := by
  rw [parse, run_eq_none_iff, char, ofClass, refuses_satisfy_iff, Stream.rest_ofText]
  rfl

theorem parse_identifier_eq_none_iff :
    identifier.parse t = none ↔ ∀ c ∈ t.head?, Unicode.isIdentifierStart c = false := by
  rw [parse, run_eq_none_iff, refuses_identifier_iff, Stream.rest_ofText]

theorem parse_integer_eq_none (h : ∀ c ∈ t.head?, c.isDigit = false) : integer.parse t = none := by
  obtain ⟨s, _, _, hparse⟩ := exists_parse_integer_eq t
  have hnone : t.takeWhile Char.isDigit = [] := by
    cases t with
    | nil => rfl
    | cons c t => rw [List.takeWhile_cons, h c rfl, if_neg Bool.false_ne_true]
  rw [hparse, wordOfDigits_eq_none_iff.2 (.inl hnone), Option.map_none]

/-- The first character decides which one of the three parsers may match. -/
theorem parse_exclusive (t : Text) :
    (identifier.parse t = none ∧ (char '=').parse t = none) ∨
    (integer.parse t = none ∧ (char '=').parse t = none) ∨
    (integer.parse t = none ∧ identifier.parse t = none) := by
  rw [parse_identifier_eq_none_iff, parse_char_eq_none_iff]
  cases t with
  | nil => exact .inl ⟨nofun, nofun⟩
  | cons c t =>
    simp only [List.head?_cons, Option.mem_some, forall_eq']
    by_cases hequals : c = '='
    · refine .inr (.inr ⟨parse_integer_eq_none ?_, ?_⟩)
      · intro d hd
        cases hd
        rw [hequals]
        decide
      · rw [hequals]
        exact Unicode.isIdentifierStart_equals
    · have hne : (c == '=') = false := beq_eq_false_iff_ne.2 hequals
      cases hdigit : c.isDigit with
      | true => exact .inl ⟨Unicode.isIdentifierStart_of_isDigit hdigit, hne⟩
      | false =>
        refine .inr (.inl ⟨parse_integer_eq_none ?_, hne⟩)
        intro d hd
        cases hd
        exact hdigit

end Parser

namespace Report.Trace

/-- How a line shows what a step has found: after `lead` stand the value, in a column of twelve
characters, and the stream that is left, or that there is no match. -/
inductive Shows (lead : Text) : Option (Text × Stream) → Text → Prop where
  | found (value : Text) (rest : Stream) : Shows lead (some (value, rest))
      (lead ++ value ++ List.replicate (12 - value.length) ' ' ++
        ' ' :: ("Stream \x7b offset: ".toList ++ Text.ofNat rest.offset ++ ", rest: ".toList ++
          Text.quote rest.rest ++ " \x7d".toList))
  | missing : Shows lead none (lead ++ "no match".toList)

variable {t lead lead' lead'' line : Text} {outcome : Option (Text × Stream)}

theorem Step.shows_render (step : Step) :
    Shows ("  ".toList ++ step.name.rightpad 10 ' ' ++ " => ".toList) step.outcome step.render := by
  obtain ⟨name, outcome⟩ := step
  cases outcome with
  | none => exact .missing
  | some r =>
    obtain ⟨value, rest⟩ := r
    have hline : Step.render ⟨name, some (value, rest)⟩ =
        "  ".toList ++ name.rightpad 10 ' ' ++ " => ".toList ++ value ++
          List.replicate (12 - value.length) ' ' ++ (' ' :: rest.describe) := by
      rw [Step.render, List.append_assoc (_ ++ _) value]
      rfl
    rw [hline]
    exact .found value rest

theorem Shows.suffix_of_some {r : Text × Stream} (h : Shows lead (some r) line) :
    " \x7d".toList <:+ line := by
  cases h with
  | found value rest =>
    exact (List.suffix_append _ _).trans ((List.suffix_cons _ _).trans (List.suffix_append _ _))

theorem Shows.isSuffixOf_eq (h : Shows lead outcome line) :
    "no match".toList.isSuffixOf line = outcome.isNone := by
  cases outcome with
  | none =>
    cases h
    rw [Option.isNone_none, List.isSuffixOf_iff_suffix]
    exact List.suffix_append _ _
  | some r =>
    rw [Option.isNone_some, ← Bool.not_eq_true, List.isSuffixOf_iff_suffix]
    intro hmissing
    rcases List.suffix_or_suffix_of_suffix hmissing h.suffix_of_some with hs | hs
    · exact absurd hs (by decide)
    · exact absurd hs (by decide)

theorem onOneLine_describeChars {cs : List Char} (h : Text.OnOneLine cs) :
    (describeChars cs).OnOneLine := by
  have hquoted : ∀ line ∈ cs.map fun c => ['\x27', c, '\x27'], Text.OnOneLine line := by
    intro line hline
    obtain ⟨c, hc, rfl⟩ := List.mem_map.1 hline
    have hmark : Text.OnOneLine ['\x27'] := by decide
    exact hmark.append (Text.OnOneLine.append (List.forall_mem_singleton.2 (h c hc)) hmark)
  have hlist := Text.OnOneLine.intercalate (t := ", ".toList) (by decide) hquoted
  exact Text.OnOneLine.append (t := ['[']) (by decide) (hlist.append (by decide))

theorem Shows.onOneLine (h : Shows lead outcome line) (hlead : lead.OnOneLine)
    (hvalue : ∀ r ∈ outcome, r.1.OnOneLine) : line.OnOneLine := by
  cases h with
  | found value rest =>
    have hcolumn := (hvalue _ rfl).rightpad 12
    have hspace : Text.OnOneLine [' '] := by decide
    rw [List.append_assoc lead value]
    exact (hlead.append hcolumn).append (hspace.append rest.onOneLine_describe)
  | missing => exact hlead.append (by decide)

theorem Step.onOneLine_render {name : Text} (hname : name.OnOneLine)
    (hvalue : ∀ r ∈ outcome, r.1.OnOneLine) : (Step.render ⟨name, outcome⟩).OnOneLine := by
  have hlead : Text.OnOneLine ("  ".toList ++ name.rightpad 10 ' ' ++ " => ".toList) :=
    (Text.OnOneLine.append (by decide) (hname.rightpad 10)).append (by decide)
  exact (Step.shows_render ⟨name, outcome⟩).onOneLine hlead hvalue

theorem onOneLine_render_of_mem {step : Step} (h : step ∈ steps t) : step.render.OnOneLine := by
  simp only [steps, List.mem_cons, List.not_mem_nil, or_false] at h
  rcases h with rfl | rfl | rfl | rfl
  · refine Step.onOneLine_render (by decide) fun r hr => ?_
    obtain ⟨ds, hds, hvalue⟩ := Parser.yields_map_iff.1 (Parser.run_eq_some_iff.1 hr)
    rw [← hvalue]
    have hdigits := (Parser.yields_many_satisfy_iff.1 hds).2.all
    exact onOneLine_describeChars fun c hc => Unicode.isLineBreak_of_isDigit (hdigits c hc)
  · refine Step.onOneLine_render (by decide) fun r hr => ?_
    obtain ⟨n, hn, hvalue⟩ := Parser.yields_map_iff.1 (Parser.run_eq_some_iff.1 hr)
    obtain ⟨ds, _, _, _, hds⟩ := Parser.yields_integer_iff.1 hn
    rw [← hvalue, hds, Text.ofInt_natCast]
    exact Text.onOneLine_ofNat _
  · refine Step.onOneLine_render (by decide) fun r hr => ?_
    obtain ⟨_, hr, _⟩ := Parser.yields_identifier_iff.1 (Parser.run_eq_some_iff.1 hr)
    exact hr.onOneLine
  · refine Step.onOneLine_render (by decide) fun r hr => ?_
    obtain ⟨c, hc, hvalue⟩ := Parser.yields_map_iff.1 (Parser.run_eq_some_iff.1 hr)
    obtain ⟨_, rfl⟩ := Parser.yields_char_iff.1 hc
    rw [← hvalue]
    decide

theorem onOneLine_of_mem_lines {line : Text} (h : line ∈ lines t) : line.OnOneLine := by
  rcases List.mem_cons.1 h with rfl | h
  · exact Text.OnOneLine.append (by decide) (Text.onOneLine_quote t)
  · rcases List.mem_cons.1 h with rfl | h
    · exact List.forall_mem_nil _
    · obtain ⟨step, hstep, rfl⟩ := List.mem_map.1 h
      exact onOneLine_render_of_mem hstep

theorem countP_matches_le_one {n k e : Text}
    (hn : Shows lead ((Parser.integer.map fun n => Text.ofInt n.toInt).parse t) n)
    (hk : Shows lead' (Parser.identifier.parse t) k)
    (he : Shows lead'' (((Parser.char '=').map fun c => [c]).parse t) e) :
    ([n, k, e].countP fun line => !"no match".toList.isSuffixOf line) ≤ 1 := by
  simp only [List.countP_cons, List.countP_nil, hn.isSuffixOf_eq, hk.isSuffixOf_eq,
    he.isSuffixOf_eq, Parser.parse_map, Option.isNone_map]
  rcases Parser.parse_exclusive t with ⟨h, h'⟩ | ⟨h, h'⟩ | ⟨h, h'⟩
  · rw [h, h']
    cases Parser.integer.parse t <;> simp
  · rw [h, h']
    cases Parser.identifier.parse t <;> simp
  · rw [h, h']
    cases (Parser.char '=').parse t <;> simp

section Digits

variable {digits : Text} {rest r : Stream} {value : Text}

theorem lines_eq (h : Parser.digit.many.Yields (.ofText t) digits rest) :
    lines t = ["Input: ".toList ++ Text.quote t, [],
      Step.render ⟨"digits".toList, some (describeChars digits, rest)⟩,
      Step.render ⟨"integer".toList, (Parser.integer.map fun n => Text.ofInt n.toInt).parse t⟩,
      Step.render ⟨"identifier".toList, Parser.identifier.parse t⟩,
      Step.render ⟨['\x27', '=', '\x27'], ((Parser.char '=').map fun c => [c]).parse t⟩] := by
  have hdigits : (Parser.digit.many.map describeChars).parse t =
      some (describeChars digits, rest) :=
    Parser.run_eq_some_iff.2 (Parser.yields_map_iff.2 ⟨digits, h, rfl⟩)
  rw [lines, steps, hdigits]
  rfl

theorem outcome_integer_eq (h : Parser.digit.many.Yields (.ofText t) digits rest) :
    (Parser.integer.map fun n => Text.ofInt n.toInt).parse t =
      (Parser.wordOfDigits digits).map fun n => (Text.ofInt n.toInt, rest) := by
  have hinteger : Parser.integer.parse t = (Parser.wordOfDigits digits).map (·, rest) :=
    Parser.run_filterMap_of_yields h Parser.wordOfDigits
  rw [Parser.parse_map, hinteger, Option.map_map]
  rfl

theorem outcome_integer_eq_some_iff (h : Parser.digit.many.Yields (.ofText t) digits rest) :
    (Parser.integer.map fun n => Text.ofInt n.toInt).parse t = some (value, r) ↔
      digits ≠ [] ∧ digits.decimalValue ≤ Word.largest ∧
        value = Text.ofNat digits.decimalValue ∧ r = rest := by
  rw [outcome_integer_eq h, Option.map_eq_some_iff]
  constructor
  · intro hv
    obtain ⟨n, hn, heq⟩ := hv
    cases heq
    obtain ⟨hne, hvalue⟩ := Parser.wordOfDigits_eq_some_iff.1 hn
    refine ⟨hne, Word.exists_toInt_eq_iff.1 ⟨n, hvalue⟩, ?_, rfl⟩
    rw [hvalue, Text.ofInt_natCast]
  · intro hv
    obtain ⟨hne, hle, rfl, rfl⟩ := hv
    obtain ⟨n, hn⟩ := Word.exists_toInt_eq_iff.2 hle
    refine ⟨n, Parser.wordOfDigits_eq_some_iff.2 ⟨hne, hn⟩, ?_⟩
    rw [hn, Text.ofInt_natCast]

theorem outcome_integer_eq_none_iff (h : Parser.digit.many.Yields (.ofText t) digits rest) :
    (Parser.integer.map fun n => Text.ofInt n.toInt).parse t = none ↔
      digits = [] ∨ Word.largest < digits.decimalValue := by
  rw [outcome_integer_eq h, Option.map_eq_none_iff, Parser.wordOfDigits_eq_none_iff]

end Digits

/-- The report has six lines, which show that the digits match, that at most one other step does,
and that the number is the value of the digits if a word can hold it. -/
theorem report_consistent (t : Text) :
    (report t).HasLines (lines t) ∧ (∀ line ∈ lines t, line.OnOneLine) ∧
    Text.unquote? (Text.quote t) = some t ∧
    ∃ (digits : Text) (rest : Stream) (integer : Option (Text × Stream))
        (digitsLine integerLine identifierLine equalsLine : Text),
      lines t = ["Input: ".toList ++ Text.quote t, [], digitsLine, integerLine, identifierLine,
        equalsLine] ∧
      Shows "  digits     => ".toList
        (some ('[' :: (", ".toList.intercalate (digits.map fun c => ['\x27', c, '\x27']) ++ [']']),
          rest)) digitsLine ∧
      Shows "  integer    => ".toList integer integerLine ∧
      Shows "  identifier => ".toList (Parser.identifier.parse t) identifierLine ∧
      Shows "  \x27=\x27        => ".toList (((Parser.char '=').map fun c => [c]).parse t)
        equalsLine ∧
      ([integerLine, identifierLine, equalsLine].countP fun line =>
        !"no match".toList.isSuffixOf line) ≤ 1 ∧
      (Stream.ofText t).Reads digits rest ∧ Text.IsRun Char.isDigit digits rest.rest ∧
      (∀ value r, integer = some (value, r) ↔ digits ≠ [] ∧
        digits.decimalValue ≤ Word.largest ∧ value.IsCanonicalNumeral ∧
          value.decimalValue = digits.decimalValue ∧ r = rest) ∧
      (integer = none ↔ digits = [] ∨ Word.largest < digits.decimalValue) := by
  obtain ⟨digits, rest, h⟩ :=
    Parser.exists_yields_many (Parser.Bounded.ends Parser.digit.many (.ofText t))
  obtain ⟨hread, hrun⟩ := Parser.yields_many_satisfy_iff.1 h
  have hlines : ∀ line ∈ lines t, line.OnOneLine := fun line => onOneLine_of_mem_lines
  have hdigits := Step.shows_render ⟨"digits".toList, some (describeChars digits, rest)⟩
  have hinteger := Step.shows_render
    ⟨"integer".toList, (Parser.integer.map fun n => Text.ofInt n.toInt).parse t⟩
  have hidentifier := Step.shows_render ⟨"identifier".toList, Parser.identifier.parse t⟩
  have hequals := Step.shows_render
    ⟨['\x27', '=', '\x27'], ((Parser.char '=').map fun c => [c]).parse t⟩
  refine ⟨Text.hasLines_flatMap hlines, hlines, Text.unquote?_quote t, digits, rest, _, _, _, _, _,
    lines_eq h, hdigits, hinteger, hidentifier, hequals,
    countP_matches_le_one hinteger hidentifier hequals, hread, hrun, ?_,
    outcome_integer_eq_none_iff h⟩
  intro value r
  rw [outcome_integer_eq_some_iff h, Text.eq_ofNat_iff, and_assoc]

theorem report_consistent_of_zeros :
    (report "007\n".toList).HasLines (lines "007\n".toList) ∧
    (lines "007\n".toList)[2]? =
      some ("  digits     => [\x270\x27, \x270\x27, \x277\x27] ".toList ++
        "Stream \x7b offset: 3, rest: \"\\n\" \x7d".toList) ∧
    (lines "007\n".toList)[3]? =
      some ("  integer    => 7            ".toList ++
        "Stream \x7b offset: 3, rest: \"\\n\" \x7d".toList) ∧
    Text.OnOneLine ("  integer    => 7            ".toList ++
      "Stream \x7b offset: 3, rest: \"\\n\" \x7d".toList) := by
  obtain ⟨hreport, hlines, _⟩ := report_consistent "007\n".toList
  have hdigits : (lines "007\n".toList)[2]? =
      some ("  digits     => [\x270\x27, \x270\x27, \x277\x27] ".toList ++
        "Stream \x7b offset: 3, rest: \"\\n\" \x7d".toList) := by
    decide +kernel
  have hinteger : (lines "007\n".toList)[3]? =
      some ("  integer    => 7            ".toList ++
        "Stream \x7b offset: 3, rest: \"\\n\" \x7d".toList) := by
    decide +kernel
  exact ⟨hreport, hdigits, hinteger, hlines _ (List.mem_of_getElem? hinteger)⟩

end Report.Trace

end Munch
