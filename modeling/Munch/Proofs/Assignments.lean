import Munch.Proofs.Numbers

namespace Munch

theorem Unicode.isIdentifierContinue_equals : isIdentifierContinue '=' = false := by
  decide +kernel

namespace Parser

variable {s t : Stream} {name : Text} {n : Int64}

theorem yields_assignment_iff :
    assignment.Yields s (name, n) t ↔ ∃ d : Text, s.Reads (name ++ '=' :: d) t ∧ name.IsIdentifier ∧
      d.IsNumeral ∧ (∀ c ∈ t.rest.head?, c.isDigit = false) ∧ n.toInt = d.decimalValue := by
  constructor
  · intro h
    obtain ⟨⟨⟨name', c⟩, n'⟩, hparts, heq⟩ := yields_map_iff.1 h
    cases heq
    obtain ⟨u, hleft, hnumber⟩ := yields_andThen_iff.1 hparts
    obtain ⟨r, hname, hequals⟩ := yields_andThen_iff.1 hleft
    obtain ⟨hread, hidentifier, _⟩ := yields_identifier_iff.1 hname
    obtain ⟨hread', _⟩ := yields_char_iff.1 hequals
    obtain ⟨d, hread'', hd, hstops, hn⟩ := yields_integer_iff.1 hnumber
    exact ⟨d, hread.trans (hread'.trans hread''), hidentifier, hd, hstops, hn⟩
  · intro h
    obtain ⟨d, hread, hidentifier, hd, hstops, hn⟩ := h
    obtain ⟨r, u, hr, hequals, hu⟩ := Stream.reads_append_cons_iff.1 hread
    have hstop : ∀ c ∈ r.rest.head?, Unicode.isIdentifierContinue c = false :=
      hequals.forall_head? Unicode.isIdentifierContinue_equals
    have hname := yields_identifier_iff.2 ⟨hr, hidentifier, hstop⟩
    have hequals' := yields_char_iff.2 ⟨hequals, rfl⟩
    have hnumber := yields_integer_iff.2 ⟨d, hu, hd, hstops, hn⟩
    have hleft := yields_andThen_iff.2 ⟨r, hname, hequals'⟩
    exact yields_map_iff.2 ⟨((name, '='), n), yields_andThen_iff.2 ⟨u, hleft, hnumber⟩, rfl⟩

theorem parseAll_assignment {d : Text} (hname : name.IsIdentifier) (hd : d.IsNumeral)
    (hn : n.toInt = d.decimalValue) :
    assignment.parseAll (name ++ '=' :: d) = .ok (name, n) := by
  obtain ⟨s, hread, hempty, hrest⟩ := Stream.exists_reads_all (name ++ '=' :: d)
  have hstops := Stream.forall_head?_of_rest_eq_nil hrest Char.isDigit
  exact parseAll_eq_ok_iff.2
    ⟨s, yields_assignment_iff.2 ⟨d, hread, hname, hd, hstops, hn⟩, hempty⟩

theorem parseAll_written_assignment (hname : name.IsIdentifier) (hn : 0 ≤ n.toInt) :
    assignment.parseAll (name ++ '=' :: Text.ofInt n.toInt) = .ok (name, n) := by
  obtain ⟨m, hm⟩ := Int.eq_ofNat_of_zero_le hn
  have hvalue : n.toInt = (Text.ofNat m).decimalValue := by rw [Text.decimalValue_ofNat, hm]
  rw [hm, Text.ofInt_natCast]
  exact parseAll_assignment hname (Text.isNumeral_ofNat m) hvalue

/-- What has been read is what would be written, except for zeros before the number. -/
theorem reads_of_yields_assignment (h : assignment.Yields s (name, n) t) :
    name.IsIdentifier ∧ 0 ≤ n.toInt ∧ n.toInt ≤ Word.largest ∧
      ∃ z, s.Reads (name ++ '=' :: (List.replicate z '0' ++ Text.ofInt n.toInt)) t := by
  obtain ⟨d, hread, hname, hd, _, hn⟩ := yields_assignment_iff.1 h
  obtain ⟨z, hz⟩ := hd.exists_eq_replicate_append
  have hle : d.decimalValue ≤ Word.largest := Word.exists_toInt_eq_iff.1 ⟨n, hn⟩
  rw [hz] at hread
  rw [hn, Text.ofInt_natCast]
  exact ⟨hname, Int.natCast_nonneg _, by omega, z, hread⟩

theorem yields_parser_assignment (h : assignment.Yields s (name, n) t) :
    Catalogue.Entry.assignment.parser.Yields s (.text (name ++ '=' :: Text.ofInt n.toInt)) t :=
  yields_map_iff.2 ⟨(name, n), h, rfl⟩

/-- Assignments are read as they were written, and written as they were read except for zeros before
the number. -/
theorem assignment_round_trip :
    (∀ k : Text, k.IsIdentifier → ∀ n : Nat, n ≤ Word.largest → ∃ w : Int64, w.toInt = n ∧
      assignment.parseAll (k ++ '=' :: Text.ofNat n) = .ok (k, w)) ∧
    ∀ (t k : Text) (w : Int64) (s : Stream), assignment.parse t = some ((k, w), s) →
      k.IsIdentifier ∧ 0 ≤ w.toInt ∧ w.toInt ≤ Word.largest ∧
      (∃ z, (Stream.ofText t).Reads
        (k ++ '=' :: (List.replicate z '0' ++ Text.ofInt w.toInt)) s) ∧
      Catalogue.Entry.assignment.parser.parse t =
        some (.text (k ++ '=' :: Text.ofInt w.toInt), s) ∧
      Catalogue.Entry.assignment.parser.parseAll (k ++ '=' :: Text.ofInt w.toInt) =
        .ok (.text (k ++ '=' :: Text.ofInt w.toInt)) := by
  constructor
  · intro k hk n hn
    obtain ⟨w, hw⟩ := Word.exists_toInt_eq_iff.2 hn
    have hvalue : w.toInt = (Text.ofNat n).decimalValue := by rw [Text.decimalValue_ofNat, hw]
    exact ⟨w, hw, parseAll_assignment hk (Text.isNumeral_ofNat n) hvalue⟩
  · intro t k w s h
    have hparts := run_eq_some_iff.1 h
    obtain ⟨hk, hnonneg, hle, hread⟩ := reads_of_yields_assignment hparts
    obtain ⟨r, hagain, hempty⟩ := parseAll_eq_ok_iff.1 (parseAll_written_assignment hk hnonneg)
    exact ⟨hk, hnonneg, hle, hread, run_eq_some_iff.2 (yields_parser_assignment hparts),
      parseAll_eq_ok_iff.2 ⟨r, yields_parser_assignment hagain, hempty⟩⟩

theorem assignment_round_trip_of_zeros :
    (∃ w : Int64, w.toInt = Word.largest ∧
      assignment.parseAll ("é_1".toList ++ '=' :: Text.ofNat Word.largest) =
        .ok ("é_1".toList, w)) ∧
    Catalogue.Entry.assignment.parser.parse "é_1=007;x".toList =
      some (.text "é_1=7".toList, .place "é_1=007;x".toList 8) ∧
    Catalogue.Entry.assignment.parser.parseAll "é_1=7".toList = .ok (.text "é_1=7".toList) := by
  have hname : Text.IsIdentifier "é_1".toList := by decide +kernel
  have hparse : assignment.parse "é_1=007;x".toList =
      some (("é_1".toList, 7), .place "é_1=007;x".toList 8) := by decide +kernel
  obtain ⟨hwritten, hread⟩ := assignment_round_trip
  obtain ⟨_, _, _, _, hshown, hagain⟩ := hread _ _ _ _ hparse
  exact ⟨hwritten _ hname _ (by decide), hshown, hagain⟩

end Parser

end Munch
