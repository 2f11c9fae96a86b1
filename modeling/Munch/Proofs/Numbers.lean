import Munch.Catalogue
import Munch.Proofs.Runs

namespace Munch

namespace Word

/-- Reads digits after those that have led to `n`, and gives up at the first one that leads to a
number that no word can hold. -/
def readDigits? (n : Int64) : Text → Option Int64
  | [] => some n
  | c :: t =>
    ((mul? 10 n).bind fun tens => add? tens (Int64.ofNat (c.toNat - '0'.toNat))).bind fun sum =>
      readDigits? sum t

theorem ofInt?_eq_none_of_le {m n : Nat} (h : m ≤ n) (hm : ofInt? m = none) :
    ofInt? n = none :=
  ofInt?_natCast_eq_none_iff.2 (Nat.lt_of_lt_of_le (ofInt?_natCast_eq_none_iff.1 hm) h)

theorem bind_mul?_add? {w : Int64} {n d : Nat} (hw : w.toInt = n) (hd : d < 10) :
    ((mul? 10 w).bind fun tens => add? tens (Int64.ofNat d)) = ofInt? (10 * n + d : Nat) := by
  have hten : (10 : Int64).toInt * w.toInt = (10 * n : Nat) := by
    rw [hw, Int.natCast_mul]
    rfl
  have hdigit : (Int64.ofNat d).toInt = d := Int64.toInt_ofNat_of_lt (by omega)
  rw [mul?, hten]
  cases htens : ofInt? (10 * n : Nat) with
  | none => exact (ofInt?_eq_none_of_le (Nat.le_add_right _ _) htens).symm
  | some tens => rw [Option.bind_some, add?, ofInt?_eq_some_iff.1 htens, hdigit, Int.natCast_add]

/-- Checking for each digit whether the number still fits is the same as checking in the end. -/
theorem readDigits?_eq {t : Text} (ht : ∀ c ∈ t, c.isDigit = true) {w : Int64} {n : Nat}
    (hw : w.toInt = n) : readDigits? w t = ofInt? (Nat.ofDigitChars 10 t n) := by
  induction t generalizing w n with
  | nil =>
    rw [readDigits?, Nat.ofDigitChars_nil]
    exact (ofInt?_eq_some_iff.2 hw).symm
  | cons c t ih =>
    obtain ⟨hc, ht⟩ := List.forall_mem_cons.1 ht
    rw [readDigits?, bind_mul?_add? hw (Text.toNat_sub_lt_ten hc), Nat.ofDigitChars_cons]
    cases hsum : ofInt? (10 * n + (c.toNat - '0'.toNat) : Nat) with
    | none => exact (ofInt?_eq_none_of_le (Text.le_ofDigitChars t _) hsum).symm
    | some sum => exact ih ht (ofInt?_eq_some_iff.1 hsum)

end Word

namespace Parser

variable {α β : Type} {s t : Stream} {n : Int64}

theorem run_filterMap_of_yields {p : Parser α} [Bounded p] {a : α} (h : p.Yields s a t)
    (f : α → Option β) : (p.filterMap f).run s = (f a).map (·, t) := by
  cases hf : f a with
  | none => exact run_eq_none_iff.2 (refuses_filterMap_iff.2 (.inr ⟨a, t, h, hf⟩))
  | some b => exact run_eq_some_iff.2 (yields_filterMap_iff.2 ⟨a, h, hf⟩)

theorem wordOfDigits_eq_some_iff {d : Text} :
    wordOfDigits d = some n ↔ d ≠ [] ∧ n.toInt = d.decimalValue := by
  rw [wordOfDigits, Option.ite_none_left_eq_some, Word.ofInt?_eq_some_iff, List.isEmpty_iff]

theorem wordOfDigits_eq_none_iff {d : Text} :
    wordOfDigits d = none ↔ d = [] ∨ Word.largest < d.decimalValue := by
  rw [wordOfDigits, ← Word.ofInt?_natCast_eq_none_iff, ← List.isEmpty_iff]
  cases d.isEmpty <;> simp

theorem wordOfDigits_eq_readDigits? {d : Text} (hd : ∀ c ∈ d, c.isDigit = true) :
    wordOfDigits d = if d.isEmpty then none else Word.readDigits? 0 d := by
  have hread : Word.readDigits? 0 d = Word.ofInt? d.decimalValue := Word.readDigits?_eq hd rfl
  rw [wordOfDigits, hread]

theorem yields_integer_iff :
    integer.Yields s n t ↔ ∃ d : Text, s.Reads d t ∧ d.IsNumeral ∧
      (∀ c ∈ t.rest.head?, c.isDigit = false) ∧ n.toInt = d.decimalValue := by
  simp only [integer, digit, ofClass, yields_filterMap_iff, yields_many_satisfy_iff,
    wordOfDigits_eq_some_iff]
  constructor
  · intro h
    obtain ⟨d, ⟨hread, hrun⟩, hd, hn⟩ := h
    exact ⟨d, hread, ⟨hd, hrun.all⟩, hrun.stops, hn⟩
  · intro h
    obtain ⟨d, hread, hd, hstops, hn⟩ := h
    exact ⟨d, ⟨hread, hd.digits, hstops⟩, hd.nonempty, hn⟩

theorem exists_parse_integer_eq (t : Text) :
    ∃ s, (Stream.ofText t).Reads (t.takeWhile Char.isDigit) s ∧ s.rest = t.dropWhile Char.isDigit ∧
      integer.parse t = (wordOfDigits (t.takeWhile Char.isDigit)).map (·, s) := by
  obtain ⟨s, hread, hrest⟩ := Stream.exists_reads (s := .ofText t)
    (List.takeWhile_append_dropWhile (p := Char.isDigit) (l := t)).symm
  have hrun := Text.isRun_takeWhile Char.isDigit t
  rw [← hrest] at hrun
  have hdigits : digit.many.Yields (.ofText t) (t.takeWhile Char.isDigit) s :=
    yields_many_satisfy_iff.2 ⟨hread, hrun⟩
  exact ⟨s, hread, hrest, run_filterMap_of_yields hdigits wordOfDigits⟩

/-- There is a number at the start of a text exactly if a word can hold the value of the longest run
of digits there, and then that run is read. -/
theorem integer_reads_longest_run (t : Text) :
    (∀ n s, integer.parse t = some (n, s) ↔
      t.takeWhile Char.isDigit ≠ [] ∧
        n.toInt = Text.decimalValue (t.takeWhile Char.isDigit) ∧ s.source = t ∧
          s.offset = (t.takeWhile Char.isDigit).length ∧ s.rest = t.dropWhile Char.isDigit) ∧
    (integer.parse t = none ↔ t.takeWhile Char.isDigit = [] ∨
      Word.largest < Text.decimalValue (t.takeWhile Char.isDigit)) ∧
    (integer.parse t).map Prod.fst = if (t.takeWhile Char.isDigit).isEmpty then none
      else Word.readDigits? 0 (t.takeWhile Char.isDigit) := by
  obtain ⟨s, hread, hrest, hparse⟩ := exists_parse_integer_eq t
  have hdigits := (Text.isRun_takeWhile Char.isDigit t).all
  obtain ⟨hsource, _, hoffset⟩ := Stream.reads_ofText_iff.1 hread
  rw [Text.byteLength_eq_length hdigits] at hoffset
  rw [hparse]
  refine ⟨?_, ?_, ?_⟩
  · intro n r
    rw [Option.map_eq_some_iff]
    constructor
    · intro h
      obtain ⟨m, hm, heq⟩ := h
      cases heq
      obtain ⟨hne, hn⟩ := wordOfDigits_eq_some_iff.1 hm
      exact ⟨hne, hn, hsource, hoffset, hrest⟩
    · intro h
      obtain ⟨hne, hn, hs, ho, _⟩ := h
      obtain rfl := Stream.ext (hsource.trans hs.symm) (hoffset.trans ho.symm)
      exact ⟨n, wordOfDigits_eq_some_iff.2 ⟨hne, hn⟩, rfl⟩
  · rw [Option.map_eq_none_iff, wordOfDigits_eq_none_iff]
  · rw [← wordOfDigits_eq_readDigits? hdigits]
    cases wordOfDigits (t.takeWhile Char.isDigit) <;> rfl

end Parser

/-- The text is `d`, an asterisk, `e` and `rest`, where `d` and `e` are all digits that stand there,
and both their values and the product of these are numbers that a word can hold. -/
structure Text.IsProduct (t d e rest : Text) : Prop where
  text : t = (d ++ '*' :: e) ++ rest
  left : d.IsNumeral
  right : e.IsNumeral
  stops : ∀ c ∈ rest.head?, c.isDigit = false
  left_le : d.decimalValue ≤ Word.largest
  right_le : e.decimalValue ≤ Word.largest
  product_le : d.decimalValue * e.decimalValue ≤ Word.largest

theorem Text.IsProduct.byteLength_eq {t d e rest : Text} (h : t.IsProduct d e rest) :
    Text.byteLength (d ++ '*' :: e) = d.length + 1 + e.length := by
  rw [Text.byteLength_append, Text.byteLength_cons, Text.byteLength_eq_length h.left.digits,
    Text.byteLength_eq_length h.right.digits, Nat.add_assoc]
  rfl

namespace Parser

variable {s t : Stream} {n : Int64}

theorem yields_product_iff :
    product.Yields s n t ↔ ∃ (d e : Text) (k m : Int64), s.Reads (d ++ '*' :: e) t ∧
      d.IsNumeral ∧ e.IsNumeral ∧ (∀ c ∈ t.rest.head?, c.isDigit = false) ∧
        k.toInt = d.decimalValue ∧ m.toInt = e.decimalValue ∧ n.toInt = k.toInt * m.toInt := by
  constructor
  · intro h
    obtain ⟨_, hresult, rfl⟩ := yields_filterMap_iff.1 h
    obtain ⟨k, c, m, r, u, hk, hc, hm, hn⟩ := yields_map_apply_apply_iff.1 hresult
    obtain ⟨d, hread, hd, _, hkd⟩ := yields_integer_iff.1 hk
    obtain ⟨hstar, _⟩ := yields_char_iff.1 hc
    obtain ⟨e, hread', he, hstops, hme⟩ := yields_integer_iff.1 hm
    exact ⟨d, e, k, m, hread.trans (hstar.trans hread'), hd, he, hstops, hkd, hme,
      Word.ofInt?_eq_some_iff.1 hn⟩
  · intro h
    obtain ⟨d, e, k, m, hread, hd, he, hstops, hkd, hme, hn⟩ := h
    obtain ⟨r, u, hr, hstar, hu⟩ := Stream.reads_append_cons_iff.1 hread
    -- The asterisk is what ends the first number.
    have hstop : ∀ c ∈ r.rest.head?, c.isDigit = false := hstar.forall_head? rfl
    have hk := yields_integer_iff.2 ⟨d, hr, hd, hstop, hkd⟩
    have hc := yields_char_iff.2 ⟨hstar, rfl⟩
    have hm := yields_integer_iff.2 ⟨e, hu, he, hstops, hme⟩
    have hresult := yields_map_apply_apply_iff (f := fun k (_ : Char) m => Word.mul? k m)
      |>.2 ⟨k, '*', m, r, u, hk, hc, hm, Word.ofInt?_eq_some_iff.2 hn⟩
    exact yields_filterMap_iff.2 ⟨some n, hresult, rfl⟩

theorem parse_product_eq_some_iff {u : Text} :
    product.parse u = some (n, s) ↔ ∃ d e, u.IsProduct d e s.rest ∧
      n.toInt = d.decimalValue * e.decimalValue ∧ s.source = u ∧
        s.offset = d.length + 1 + e.length := by
  rw [parse, run_eq_some_iff, yields_product_iff]
  constructor
  · intro h
    obtain ⟨d, e, k, m, hread, hd, he, hstops, hkd, hme, hn⟩ := h
    obtain ⟨hsource, htext, hoffset⟩ := Stream.reads_ofText_iff.1 hread
    rw [hkd, hme] at hn
    have hu : u.IsProduct d e s.rest :=
      { text := htext
        left := hd
        right := he
        stops := hstops
        left_le := Word.exists_toInt_eq_iff.1 ⟨k, hkd⟩
        right_le := Word.exists_toInt_eq_iff.1 ⟨m, hme⟩
        product_le := Word.exists_toInt_eq_iff.1 ⟨n, hn⟩ }
    exact ⟨d, e, hu, hn, hsource, hoffset.trans hu.byteLength_eq⟩
  · intro h
    obtain ⟨d, e, hu, hn, hsource, hoffset⟩ := h
    obtain ⟨k, hkd⟩ := Word.exists_toInt_eq_iff.2 hu.left_le
    obtain ⟨m, hme⟩ := Word.exists_toInt_eq_iff.2 hu.right_le
    rw [← hkd, ← hme] at hn
    rw [← hu.byteLength_eq] at hoffset
    have hread := Stream.reads_ofText_iff.2 ⟨hsource, hu.text, hoffset⟩
    exact ⟨d, e, k, m, hread, hu.left, hu.right, hu.stops, hkd, hme, hn⟩

/-- A text is matched exactly if it is a product with anything after it that does not start with a
digit. -/
theorem product_matches_exactly (t : Text) :
    (∀ n s, product.parse t = some (n, s) ↔ ∃ d e, t.IsProduct d e s.rest ∧
      n.toInt = d.decimalValue * e.decimalValue ∧ s.source = t ∧
        s.offset = d.length + 1 + e.length) ∧
    (product.parse t = none ↔ ¬ ∃ d e rest, t.IsProduct d e rest) := by
  refine ⟨fun n s => parse_product_eq_some_iff, ?_, ?_⟩
  · intro hnone hproduct
    obtain ⟨d, e, rest, h⟩ := hproduct
    obtain ⟨n, hn⟩ := Word.exists_toInt_eq_iff.2 h.product_le
    obtain ⟨s, hread, rfl⟩ := Stream.exists_reads (s := .ofText t) h.text
    obtain ⟨hsource, _, hoffset⟩ := Stream.reads_ofText_iff.1 hread
    rw [h.byteLength_eq] at hoffset
    cases hnone.symm.trans (parse_product_eq_some_iff.2 ⟨d, e, h, hn, hsource, hoffset⟩)
  · intro h
    cases hp : product.parse t with
    | none => rfl
    | some r =>
      obtain ⟨d, e, hproduct, _⟩ := parse_product_eq_some_iff.1 hp
      exact absurd ⟨d, e, _, hproduct⟩ h

/-- An operand that no word can hold is no match, although the product is zero. -/
example : product.parse "9223372036854775808*0".toList = none := by
  decide +kernel

end Parser

end Munch
