import Munch.Parser.Error
import Munch.Text.Lines

namespace Munch

namespace Unicode

/-- The characters after which a line always ends. -/
def lineBreaks : Ranges :=
  [(0xa, 0xd), (0x85, 0x85), (0x2028, 0x2029)]

def isLineBreak (c : Char) : Bool := lineBreaks.contains c

variable {c : Char}

theorem isLineBreak_eq_true_iff : isLineBreak c = true ↔ (0xa ≤ c.toNat ∧ c.toNat ≤ 0xd) ∨
    (0x85 ≤ c.toNat ∧ c.toNat ≤ 0x85) ∨ (0x2028 ≤ c.toNat ∧ c.toNat ≤ 0x2029) := by
  simp only [isLineBreak, lineBreaks, Ranges.contains, List.any_cons, List.any_nil, Bool.or_eq_true,
    Bool.and_eq_true, decide_eq_true_eq, Bool.false_eq_true, or_false]

theorem isUnprintable_of_isLineBreak (h : isLineBreak c = true) (hfeed : c ≠ '\n')
    (hreturn : c ≠ '\r') : isUnprintable c = true := by
  -- The line feed and the carriage return have escapes of their own and are not in the table.
  have hw : Ranges.outside [(0xb, 0xc), (0x85, 0x85), (0x2028, 0x2029)] unprintable = [] := by
    decide +kernel
  have hten : c.toNat ≠ 0xa := fun hc => hfeed (Char.toNat_inj.1 hc)
  have hthirteen : c.toNat ≠ 0xd := fun hc => hreturn (Char.toNat_inj.1 hc)
  refine Ranges.contains_of_within (Ranges.within_of_outside hw) (Ranges.contains_eq_true_iff.2 ?_)
  rcases isLineBreak_eq_true_iff.1 h with h | h | h
  · exact ⟨(0xb, 0xc), by decide, by omega, by omega⟩
  · exact ⟨(0x85, 0x85), by decide, h⟩
  · exact ⟨(0x2028, 0x2029), by decide, h⟩

theorem isLineBreak_of_isDigit (h : c.isDigit = true) : isLineBreak c = false :=
  Ranges.contains_eq_false_of_isDigit (by decide) h

end Unicode

namespace Text

def OnOneLine (t : Text) : Prop :=
  ∀ c ∈ t, Unicode.isLineBreak c = false

instance (t : Text) : Decidable t.OnOneLine :=
  List.decidableBAll _ t

variable {t u line : Text} {ls : List Text}

theorem OnOneLine.append (ht : t.OnOneLine) (hu : u.OnOneLine) : OnOneLine (t ++ u) :=
  List.forall_mem_append.2 ⟨ht, hu⟩

theorem OnOneLine.rightpad (ht : t.OnOneLine) (n : Nat) : OnOneLine (t.rightpad n ' ') := by
  refine ht.append fun c hc => ?_
  rw [List.eq_of_mem_replicate hc]
  decide

theorem OnOneLine.intercalate (ht : t.OnOneLine) (hls : ∀ line ∈ ls, OnOneLine line) :
    OnOneLine (t.intercalate ls) := by
  induction ls with
  | nil => exact List.forall_mem_nil _
  | cons line ls ih =>
    obtain ⟨hline, hmore⟩ := List.forall_mem_cons.1 hls
    cases ls with
    | nil =>
      rw [List.intercalate_singleton]
      exact hline
    | cons next ls =>
      rw [List.intercalate_cons_cons]
      exact (hline.append ht).append (ih hmore)

theorem onOneLine_ofNat (n : Nat) : (ofNat n).OnOneLine :=
  fun _ hc => Unicode.isLineBreak_of_isDigit (isDigit_of_mem_ofNat hc)

theorem onOneLine_hexOfNat (n : Nat) : (hexOfNat n).OnOneLine := by
  have hdigit : ∀ d < 16, Unicode.isLineBreak (Nat.digitChar d) = false := by decide
  intro c hc
  obtain ⟨d, hd, rfl⟩ := exists_digitChar_of_mem_hexOfNat hc
  exact hdigit d hd

theorem onOneLine_escape (c : Char) : (escape c).OnOneLine := by
  rcases escape_cases c with ⟨name, hname, h⟩ | h | ⟨hne, hprintable, h⟩
  · have hnames : ∀ p ∈ escapeNames, OnOneLine ['\\', p.1] := by decide
    rw [h]
    exact hnames _ hname
  · rw [h]
    exact (OnOneLine.append (by decide) (onOneLine_hexOfNat _)).append (by decide)
  · rw [h]
    intro d hd
    rw [List.mem_singleton.1 hd, ← Bool.not_eq_true]
    intro hbreak
    have hfeed : c ≠ '\n' := hne ('n', '\n') (by decide)
    have hreturn : c ≠ '\r' := hne ('r', '\r') (by decide)
    have hu := Unicode.isUnprintable_of_isLineBreak hbreak hfeed hreturn
    rw [hprintable] at hu
    cases hu

theorem onOneLine_quote (t : Text) : (quote t).OnOneLine := by
  have hescaped : OnOneLine (t.flatMap escape) := by
    intro d hd
    obtain ⟨c, _, hc⟩ := List.mem_flatMap.1 hd
    exact onOneLine_escape c d hc
  exact OnOneLine.append (t := ['\x22']) (by decide) (hescaped.append (by decide))

/-- Each of the lines ends with a line feed, before which a carriage return may stand, or it is the
last one and ends with the text. -/
inductive HasLines : Text → List Text → Prop where
  | nil : HasLines [] []
  | last {line : Text} : line ≠ [] → '\n' ∉ line → HasLines line [line]
  | feed {line t : Text} {ls : List Text} : '\n' ∉ line → line.getLast? ≠ some '\r' →
    HasLines t ls → HasLines (line ++ '\n' :: t) (line :: ls)
  | returnFeed {line t : Text} {ls : List Text} : '\n' ∉ line →
    HasLines t ls → HasLines (line ++ '\r' :: '\n' :: t) (line :: ls)

theorem splitAtFeeds_of_not_mem (h : '\n' ∉ line) : splitAtFeeds line = (line, []) := by
  induction line with
  | nil => rfl
  | cons c line ih =>
    rw [splitAtFeeds, ih (List.not_mem_of_not_mem_cons h)]
    exact if_neg (List.ne_of_not_mem_cons h).symm

theorem splitAtFeeds_append_feed (h : '\n' ∉ line) (t : Text) :
    splitAtFeeds (line ++ '\n' :: t) = (line, (splitAtFeeds t).1 :: (splitAtFeeds t).2) := by
  induction line with
  | nil => rfl
  | cons c line ih =>
    rw [List.cons_append, splitAtFeeds, ih (List.not_mem_of_not_mem_cons h)]
    exact if_neg (List.ne_of_not_mem_cons h).symm

theorem lines_append_feed (h : '\n' ∉ line) (t : Text) :
    lines (line ++ '\n' :: t) = dropReturn line :: lines t := by
  rw [lines, splitAtFeeds_append_feed h]
  rfl

theorem lines_of_not_mem (hne : line ≠ []) (h : '\n' ∉ line) : lines line = [line] := by
  rw [lines, splitAtFeeds_of_not_mem h]
  exact if_neg fun hnil => hne (List.isEmpty_iff.1 hnil)

theorem HasLines.lines_eq (h : t.HasLines ls) : t.lines = ls := by
  induction h with
  | nil => rfl
  | last hne h => exact lines_of_not_mem hne h
  | feed h hlast _ ih => rw [lines_append_feed h, dropReturn, if_neg hlast, ih]
  | @returnFeed line t ls h _ ih =>
    have hreturn : '\n' ∉ line ++ ['\r'] := by
      intro hm
      rcases List.mem_append.1 hm with hm | hm
      · exact h hm
      · cases List.mem_singleton.1 hm
    rw [List.append_cons, lines_append_feed hreturn, dropReturn, List.getLast?_concat, if_pos rfl,
      List.dropLast_concat, ih]

theorem hasLines_lines (t : Text) : t.HasLines t.lines := by
  by_cases hm : '\n' ∈ t
  · obtain ⟨line, u, ht, h⟩ := List.eq_append_cons_of_mem hm
    have ih := hasLines_lines u
    rw [ht, lines_append_feed h]
    by_cases hlast : line.getLast? = some '\r'
    · obtain ⟨line, rfl⟩ := List.getLast?_eq_some_iff.1 hlast
      rw [dropReturn, if_pos hlast, List.dropLast_concat, ← List.append_cons]
      exact .returnFeed (fun hm => h (List.mem_append_left _ hm)) ih
    · rw [dropReturn, if_neg hlast]
      exact .feed h hlast ih
  · by_cases hne : t = []
    · rw [hne]
      exact .nil
    · rw [lines_of_not_mem hne hm]
      exact .last hne hm
termination_by t.length
decreasing_by
  rw [ht, List.length_append, List.length_cons]
  omega

theorem hasLines_iff_lines_eq : t.HasLines ls ↔ t.lines = ls := by
  constructor
  · exact HasLines.lines_eq
  · intro h
    rw [← h]
    exact hasLines_lines t

theorem OnOneLine.feed_not_mem (h : t.OnOneLine) : '\n' ∉ t := by
  intro hm
  cases h _ hm

/-- Lines that are written one after the other are read as they were. -/
theorem hasLines_flatMap (h : ∀ line ∈ ls, OnOneLine line) :
    HasLines (ls.flatMap fun line => line ++ ['\n']) ls := by
  induction ls with
  | nil => exact .nil
  | cons line ls ih =>
    obtain ⟨hline, hls⟩ := List.forall_mem_cons.1 h
    have hlast : line.getLast? ≠ some '\r' := by
      intro hr
      cases hline _ (List.mem_of_getLast? hr)
    rw [List.flatMap_cons, ← List.append_cons]
    exact .feed hline.feed_not_mem hlast (ih hls)

end Text

theorem Stream.onOneLine_describe (s : Stream) : s.describe.OnOneLine := by
  have hoffset : Text.OnOneLine "Stream \x7b offset: ".toList := by decide
  have hrest : Text.OnOneLine ", rest: ".toList := by decide
  exact (((hoffset.append (Text.onOneLine_ofNat _)).append hrest).append
    (Text.onOneLine_quote _)).append (by decide)

theorem ParseError.onOneLine_describe (e : ParseError) : e.describe.OnOneLine := by
  cases e with
  | noMatch => decide
  | incomplete n t =>
    have hkind : Text.OnOneLine ("unconsumed input".toList ++ " at ".toList) := by decide
    have hcolon : Text.OnOneLine ": ".toList := by decide
    exact ((hkind.append (Text.onOneLine_ofNat n)).append hcolon).append (Text.onOneLine_quote t)

end Munch
