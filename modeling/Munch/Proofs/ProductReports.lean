import Munch.Proofs.Lines
import Munch.Proofs.Numbers
import Munch.Report.Products

namespace Munch

namespace Text.IsProduct

variable {t d e rest : Text} {c : Char}

theorem isDigit_or_eq (h : t.IsProduct d e rest) (hc : c ∈ d ++ '*' :: e) :
    c.isDigit = true ∨ c = '*' := by
  rcases List.mem_append.1 hc with hd | hc
  · exact .inl (h.left.digits c hd)
  · rcases List.mem_cons.1 hc with hstar | he
    · exact .inr hstar
    · exact .inl (h.right.digits c he)

theorem without_rest (h : t.IsProduct d e rest) : (d ++ '*' :: e).IsProduct d e [] :=
  { h with
    text := (List.append_nil _).symm
    stops := by
      intro c hc
      cases hc }

/-- A blank is no digit, so the second number ends where it did. -/
theorem append_blank (h : t.IsProduct d e []) (hrest : ∀ c ∈ rest, Unicode.isWhiteSpace c = true) :
    (t ++ rest).IsProduct d e rest :=
  { h with
    text := by rw [h.text, List.append_nil]
    stops := by
      intro c hc
      rw [← Bool.not_eq_true]
      intro hdigit
      have hblank := hrest c (List.mem_of_head? hc)
      rw [Unicode.isWhiteSpace_of_isDigit hdigit] at hblank
      cases hblank }

theorem trimEnd_eq (h : t.IsProduct d e rest) (hrest : ∀ c ∈ rest, Unicode.isWhiteSpace c = true) :
    t.trimEnd Unicode.isWhiteSpace = d ++ '*' :: e := by
  rw [h.text, trimEnd_append hrest, trimEnd_eq_self]
  intro c hc
  rcases h.isDigit_or_eq hc with hdigit | rfl
  · exact Unicode.isWhiteSpace_of_isDigit hdigit
  · decide

theorem onOneLine (h : t.IsProduct d e rest) : OnOneLine (d ++ '*' :: e) := by
  intro c hc
  rcases h.isDigit_or_eq hc with hdigit | rfl
  · exact Unicode.isLineBreak_of_isDigit hdigit
  · decide

end Text.IsProduct

/-- What is wrong with a text that is not a product as a whole. -/
inductive Text.ProductError (u : Text) : ParseError → Prop where
  | noMatch : (¬ ∃ d e rest, u.IsProduct d e rest) → ProductError u .noMatch
  | incomplete {d e rest : Text} : u.IsProduct d e rest → rest ≠ [] →
    ProductError u (.incomplete (d.length + 1 + e.length) rest)

namespace Parser

variable {u d e rest : Text} {n : Int64} {s : Stream}

theorem isEmpty_iff_of_yields_product (h : product.Yields (.ofText u) n s) :
    s.isEmpty = true ↔ s.rest = [] := by
  obtain ⟨_, _, _, _, hread, _⟩ := yields_product_iff.1 h
  exact (hread.wellFormed (Stream.wellFormed_ofText u)).isEmpty_iff

theorem exists_yields_of_isProduct (h : u.IsProduct d e rest) :
    ∃ n s, product.Yields (.ofText u) n s ∧ n.toInt = d.decimalValue * e.decimalValue ∧
      s.offset = d.length + 1 + e.length ∧ s.rest = rest := by
  obtain ⟨n, hn⟩ := Word.exists_toInt_eq_iff.2 h.product_le
  obtain ⟨s, hread, rfl⟩ := Stream.exists_reads (s := .ofText u) h.text
  obtain ⟨hsource, _, hoffset⟩ := Stream.reads_ofText_iff.1 hread
  rw [h.byteLength_eq] at hoffset
  have hparse := parse_product_eq_some_iff.2 ⟨d, e, h, hn, hsource, hoffset⟩
  exact ⟨n, s, run_eq_some_iff.1 hparse, hn, hoffset, rfl⟩

theorem parseAll_product_eq_ok_iff : product.parseAll u = .ok n ↔
    ∃ d e, u.IsProduct d e [] ∧ n.toInt = d.decimalValue * e.decimalValue := by
  rw [parseAll_eq_ok_iff]
  constructor
  · intro h
    obtain ⟨s, hs, hempty⟩ := h
    obtain ⟨d, e, hproduct, hn, _⟩ := parse_product_eq_some_iff.1 (run_eq_some_iff.2 hs)
    rw [(isEmpty_iff_of_yields_product hs).1 hempty] at hproduct
    exact ⟨d, e, hproduct, hn⟩
  · intro h
    obtain ⟨d, e, hproduct, hn⟩ := h
    obtain ⟨m, s, hs, hm, _, hrest⟩ := exists_yields_of_isProduct hproduct
    obtain rfl := Int64.toInt_inj.1 (hm.trans hn.symm)
    exact ⟨s, hs, (isEmpty_iff_of_yields_product hs).2 hrest⟩

theorem parseAll_product_eq_error_iff {err : ParseError} :
    product.parseAll u = .error err ↔ u.ProductError err := by
  constructor
  · intro h
    cases err with
    | noMatch =>
      refine .noMatch fun hproduct => ?_
      obtain ⟨d, e, rest, hproduct⟩ := hproduct
      obtain ⟨_, _, hs, _⟩ := exists_yields_of_isProduct hproduct
      exact hs.not_refuses (parseAll_eq_noMatch_iff.1 h)
    | incomplete offset rest =>
      obtain ⟨n, s, hs, hempty, rfl, rfl⟩ := parseAll_eq_incomplete_iff.1 h
      obtain ⟨d, e, hproduct, _, _, hoffset⟩ :=
        parse_product_eq_some_iff.1 (run_eq_some_iff.2 hs)
      rw [hoffset]
      refine .incomplete hproduct fun hrest => ?_
      rw [(isEmpty_iff_of_yields_product hs).2 hrest] at hempty
      cases hempty
  · intro h
    cases h with
    | noMatch h =>
      rcases (Bounded.ends product (.ofText u)).yields_or_refuses with ⟨n, s, hs⟩ | hs
      · obtain ⟨d, e, hproduct, _⟩ := parse_product_eq_some_iff.1 (run_eq_some_iff.2 hs)
        exact absurd ⟨d, e, _, hproduct⟩ h
      · exact parseAll_eq_noMatch_iff.2 hs
    | incomplete hproduct hne =>
      obtain ⟨n, s, hs, _, hoffset, rfl⟩ := exists_yields_of_isProduct hproduct
      have hempty : s.isEmpty = false := by
        rw [← Bool.not_eq_true, isEmpty_iff_of_yields_product hs]
        exact hne
      exact parseAll_eq_incomplete_iff.2 ⟨n, s, hs, hempty, hoffset, rfl⟩

end Parser

namespace Report

def Verdict.isEquation : Verdict → Bool
  | equation _ => true
  | complaint _ => false

def Verdict.report : Verdict → Text
  | equation line => line
  | complaint line => line

namespace Products

variable {line out : Text}

theorem verdict_of_ok {n : Int64}
    (h : Parser.product.parseAll (line.trimEnd Unicode.isWhiteSpace) = .ok n) : verdict line =
      .equation (line.trimEnd Unicode.isWhiteSpace ++ " = ".toList ++ Text.ofInt n.toInt) := by
  unfold verdict
  simp only [h]

theorem verdict_of_error {err : ParseError}
    (h : Parser.product.parseAll (line.trimEnd Unicode.isWhiteSpace) = .error err) :
    verdict line = .complaint (Text.quote line ++ ": ".toList ++ err.describe) := by
  unfold verdict
  simp only [h]

theorem verdict_eq_equation_iff : verdict line = .equation out ↔
    ∃ d e blank, line.IsProduct d e blank ∧ (∀ c ∈ blank, Unicode.isWhiteSpace c = true) ∧
      out = d ++ '*' :: e ++ " = ".toList ++ Text.ofNat (d.decimalValue * e.decimalValue) := by
  constructor
  · intro h
    -- What was trimmed is what stands after the product.
    obtain ⟨blank, hline, hblank⟩ := Text.exists_eq_trimEnd_append Unicode.isWhiteSpace line
    cases hparse : Parser.product.parseAll (line.trimEnd Unicode.isWhiteSpace) with
    | error err =>
      rw [verdict_of_error hparse] at h
      cases h
    | ok n =>
      rw [verdict_of_ok hparse] at h
      obtain rfl := Verdict.equation.inj h
      obtain ⟨d, e, hproduct, hn⟩ := Parser.parseAll_product_eq_ok_iff.1 hparse
      have hwhole := hproduct.append_blank hblank
      rw [← hline] at hwhole
      refine ⟨d, e, blank, hwhole, hblank, ?_⟩
      rw [hn, ← Int.natCast_mul, Text.ofInt_natCast, hproduct.text, List.append_nil]
  · intro h
    obtain ⟨d, e, blank, hproduct, hblank, rfl⟩ := h
    obtain ⟨n, hn⟩ := Word.exists_toInt_eq_iff.2 hproduct.product_le
    have htrim := hproduct.trimEnd_eq hblank
    have hparse := Parser.parseAll_product_eq_ok_iff.2 ⟨d, e, hproduct.without_rest, hn⟩
    rw [← htrim] at hparse
    rw [verdict_of_ok hparse, htrim, hn, Text.ofInt_natCast]

theorem verdict_eq_complaint_iff : verdict line = .complaint out ↔
    ∃ err, Text.ProductError (line.trimEnd Unicode.isWhiteSpace) err ∧
      out = Text.quote line ++ ": ".toList ++ err.describe := by
  constructor
  · intro h
    cases hparse : Parser.product.parseAll (line.trimEnd Unicode.isWhiteSpace) with
    | error err =>
      rw [verdict_of_error hparse] at h
      exact ⟨err, Parser.parseAll_product_eq_error_iff.1 hparse, (Verdict.complaint.inj h).symm⟩
    | ok n =>
      rw [verdict_of_ok hparse] at h
      cases h
  · intro h
    obtain ⟨err, herror, rfl⟩ := h
    exact verdict_of_error (Parser.parseAll_product_eq_error_iff.2 herror)

theorem onOneLine_report (line : Text) : (verdict line).report.OnOneLine := by
  cases h : verdict line with
  | equation out =>
    obtain ⟨d, e, _, hproduct, _, rfl⟩ := verdict_eq_equation_iff.1 h
    exact (hproduct.onOneLine.append (by decide)).append (Text.onOneLine_ofNat _)
  | complaint out =>
    obtain ⟨err, _, rfl⟩ := verdict_eq_complaint_iff.1 h
    exact ((Text.onOneLine_quote line).append (by decide)).append err.onOneLine_describe

theorem renderEquations_eq (vs : List Verdict) : renderEquations vs =
    ((vs.filter Verdict.isEquation).map Verdict.report).flatMap fun line => line ++ ['\n'] := by
  induction vs with
  | nil => rfl
  | cons v vs ih =>
    rw [renderEquations, List.flatMap_cons, ← renderEquations, ih]
    cases v <;> rfl

theorem renderComplaints_eq (vs : List Verdict) : renderComplaints vs =
    ((vs.filter fun v => !v.isEquation).map Verdict.report).flatMap fun line => line ++ ['\n'] := by
  induction vs with
  | nil => rfl
  | cons v vs ih =>
    rw [renderComplaints, List.flatMap_cons, ← renderComplaints, ih]
    cases v <;> rfl

theorem hasLines_reports (ls : List Text) (select : Verdict → Bool) :
    Text.HasLines
      ((((ls.map verdict).filter select).map Verdict.report).flatMap fun line => line ++ ['\n'])
      (((ls.map verdict).filter select).map Verdict.report) := by
  refine Text.hasLines_flatMap fun report hreport => ?_
  obtain ⟨v, hv, rfl⟩ := List.mem_map.1 hreport
  obtain ⟨line, _, rfl⟩ := List.mem_map.1 (List.mem_filter.1 hv).1
  exact onOneLine_report line

/-- Each line of a text has one report on one line of one output: an equation exactly if the line is
a product up to blanks at its end, else a complaint. -/
theorem every_line_reported (t : Text) :
    (∀ ls, t.HasLines ls ↔ t.lines = ls) ∧
    (renderEquations (verdicts t)).HasLines
      (((t.lines.map verdict).filter Verdict.isEquation).map Verdict.report) ∧
    (renderComplaints (verdicts t)).HasLines
      (((t.lines.map verdict).filter fun v => !v.isEquation).map Verdict.report) ∧
    (renderEquations (verdicts t)).lines.length + (renderComplaints (verdicts t)).lines.length =
      t.lines.length ∧
    ∀ line, (verdict line).report.OnOneLine ∧
      (∀ out, verdict line = .equation out ↔
        ∃ d e blank, line.IsProduct d e blank ∧ (∀ c ∈ blank, Unicode.isWhiteSpace c = true) ∧
          out = d ++ '*' :: e ++ " = ".toList ++
            Text.ofNat (d.decimalValue * e.decimalValue)) ∧
      ∀ out, verdict line = .complaint out ↔
        ∃ err, Text.ProductError (line.trimEnd Unicode.isWhiteSpace) err ∧
          out = Text.quote line ++ ": ".toList ++ err.describe := by
  have hequations := hasLines_reports t.lines Verdict.isEquation
  have hcomplaints := hasLines_reports t.lines fun v => !v.isEquation
  rw [← verdicts, ← renderEquations_eq] at hequations
  rw [← verdicts, ← renderComplaints_eq] at hcomplaints
  refine ⟨fun ls => Text.hasLines_iff_lines_eq, hequations, hcomplaints, ?_, ?_⟩
  · have hsplit := List.length_eq_countP_add_countP Verdict.isEquation (l := verdicts t)
    simp only [Bool.not_eq_true, Bool.decide_eq_false, List.countP_eq_length_filter] at hsplit
    rw [hequations.lines_eq, hcomplaints.lines_eq, List.length_map, List.length_map, ← hsplit,
      verdicts, List.length_map]
  · intro line
    exact ⟨onOneLine_report line, fun _ => verdict_eq_equation_iff,
      fun _ => verdict_eq_complaint_iff⟩

example : verdicts "12*34\u3000\r\n5*6\r7\n\"".toList =
    [.equation "12*34 = 408".toList,
      .complaint "\"5*6\\r7\": unconsumed input at 3: \"\\r7\"".toList,
      .complaint "\"\\\"\": no match".toList] := by
  decide +kernel

end Products

end Report

end Munch
