import Munch.Proofs.Movement

namespace Munch

/-- What a parser makes of a text: no match, or a value and the text that is left. -/
abbrev PlainParser (α : Type) := Text → Option (α × Text)

namespace PlainParser

variable {α β : Type}

protected def pure (a : α) : PlainParser α :=
  fun t => some (a, t)

def fail : PlainParser α :=
  fun _ => none

def satisfy (condition : Char → Bool) : PlainParser Char
  | [] => none
  | c :: t => if condition c then some (c, t) else none

protected def map (f : α → β) (p : PlainParser α) : PlainParser β :=
  fun t => (p t).map fun (a, u) => (f a, u)

def filterMap (f : α → Option β) (p : PlainParser α) : PlainParser β :=
  fun t => (p t).bind fun (a, u) => (f a).map (·, u)

def andThen (p : PlainParser α) (q : PlainParser β) : PlainParser (α × β) :=
  fun t => (p t).bind fun (a, u) => (q u).map fun (b, v) => ((a, b), v)

protected def apply (p : PlainParser (α → β)) (q : PlainParser α) : PlainParser β :=
  (p.andThen q).map fun (f, a) => f a

/-- The values of a parser that is asked again and again, as long as it matches and leaves less
text, and the text that is left in the end. -/
def collect (p : PlainParser α) (t : Text) : List α × Text :=
  match p t with
  | none => ([], t)
  | some (a, u) =>
    if u.length < t.length then
      let (as, v) := collect p u
      (a :: as, v)
    else ([], t)
termination_by t.length

def many (p : PlainParser α) : PlainParser (List α) :=
  fun t => some (p.collect t)

def ofClass (k : CharClass) : PlainParser Char := satisfy k.contains

def identifier : PlainParser Text :=
  ((ofClass .identifierStart).andThen (ofClass .identifierContinue).many).map
    fun (c, more) => c :: more

def integer : PlainParser Int64 :=
  (ofClass .asciiDigit).many.filterMap Parser.wordOfDigits

def skip (n : Nat) : PlainParser Unit :=
  fun t => some ((), t.drop n)

def peek : PlainParser Char :=
  fun t => t.head?.map (·, t)

def atEnd : PlainParser Unit :=
  fun t => if t.isEmpty then some ((), t) else none

def remaining : PlainParser Text :=
  fun t => some (t, t)

theorem collect_of_none {p : PlainParser α} {t : Text} (h : p t = none) :
    p.collect t = ([], t) := by
  rw [collect]
  simp only [h]

theorem collect_of_stuck {p : PlainParser α} {t u : Text} {a : α} (h : p t = some (a, u))
    (hu : t.length ≤ u.length) : p.collect t = ([], t) := by
  rw [collect]
  simp only [h, if_neg (Nat.not_lt_of_le hu)]

theorem collect_of_less {p : PlainParser α} {t u : Text} {a : α} (h : p t = some (a, u))
    (hu : u.length < t.length) : p.collect t = (a :: (p.collect u).1, (p.collect u).2) := by
  rw [collect]
  simp only [h, if_pos hu]

end PlainParser

namespace Grammar

/-- The grammar as a parser of plain text; the forms that depend on where the text stands in a
source never match. -/
def plain : Grammar Empty → PlainParser Value
  | character k => (PlainParser.ofClass k).map .char
  | identifier => PlainParser.identifier.map .text
  | integer => PlainParser.integer.map .int
  | pure v => .pure v
  | map f g => g.plain.map f.apply
  | filterMap f g => g.plain.filterMap f.apply
  | andThen g h => (g.plain.andThen h.plain).map fun (a, b) => .pair a b
  | many g => g.plain.many.map .list
  | apply f g => (PlainParser.pure f.apply).apply g.plain
  | applyOperator op g => (op.plain.map fun v => (Transform.ofOperator v).apply).apply g.plain
  | applyBinary f g h => (g.plain.map f.apply).apply h.plain
  | applyTernary f g h k => ((g.plain.map f.apply).apply h.plain).apply k.plain
  | skip n => (PlainParser.skip n).map fun _ => .unit
  | peek => PlainParser.peek.map .char
  | atEnd => PlainParser.atEnd.map fun _ => .unit
  | remaining => PlainParser.remaining.map .text
  | fail | position | rewind | restart | jumpTo _ => .fail

def isPlaced {ν : Type} : Grammar ν → Bool
  | position | rewind | restart | jumpTo _ => true
  | _ => false

end Grammar

theorem Stream.LeadsTo.offset_lt_iff {s t : Stream} (h : s.LeadsTo t) :
    s.offset < t.offset ↔ t.rest.length < s.rest.length := by
  obtain ⟨u, hu, ho⟩ := h.consumed
  rw [ho, hu, List.length_append]
  cases u with
  | nil => simp
  | cons c u =>
    have := c.utf8Size_pos
    rw [Text.byteLength_cons, List.length_cons]
    omega

namespace Parser

variable {α β : Type}

/-- On a place between two characters, the parser does with the stream what `q` does with the text
still to be read, and moves forward by what it consumes. -/
structure Refines (p : Parser α) (q : PlainParser α) : Prop where
  moves : p.Moves Stream.LeadsTo
  yields {s t : Stream} {a : α} : s.WellFormed → p.Yields s a t → q s.rest = some (a, t.rest)
  refuses {s : Stream} : s.WellFormed → p.Refuses s → q s.rest = none

theorem Refines.ofFunction {f : Stream → Option (α × Stream)} {q : PlainParser α}
    (hm : (ofFunction f).Moves Stream.LeadsTo)
    (h : ∀ s : Stream, s.WellFormed → q s.rest = (f s).map fun (a, t) => (a, t.rest)) :
    (ofFunction f).Refines q where
  moves := hm
  yields hs hy := by rw [h _ hs, yields_ofFunction_iff.1 hy, Option.map_some]
  refuses hs hr := by rw [h _ hs, refuses_ofFunction_iff.1 hr, Option.map_none]

theorem Refines.pure (a : α) : (Parser.pure a).Refines (.pure a) :=
  .ofFunction ((closed_moves Stream.readingOrder_leadsTo).pure a) fun _ _ => rfl

theorem Refines.map {p : Parser α} {q : PlainParser α} (h : p.Refines q) (f : α → β) :
    (p.map f).Refines (q.map f) where
  moves := (closed_moves Stream.readingOrder_leadsTo).map f h.moves
  yields hs hy := by
    obtain ⟨a, ha, rfl⟩ := yields_map_iff.1 hy
    simp only [PlainParser.map, h.yields hs ha, Option.map_some]
  refuses hs hr := by
    simp only [PlainParser.map, h.refuses hs (refuses_map_iff.1 hr), Option.map_none]

theorem Refines.filterMap {p : Parser α} {q : PlainParser α} (h : p.Refines q)
    (f : α → Option β) : (p.filterMap f).Refines (q.filterMap f) where
  moves := (closed_moves Stream.readingOrder_leadsTo).filterMap f h.moves
  yields hs hy := by
    obtain ⟨a, ha, hb⟩ := yields_filterMap_iff.1 hy
    simp only [PlainParser.filterMap, h.yields hs ha, Option.bind_some, hb, Option.map_some]
  refuses hs hr := by
    rcases refuses_filterMap_iff.1 hr with hn | ⟨a, t, ha, hb⟩
    · simp only [PlainParser.filterMap, h.refuses hs hn, Option.bind_none]
    · simp only [PlainParser.filterMap, h.yields hs ha, Option.bind_some, hb, Option.map_none]

theorem Refines.andThen {p : Parser α} {q : PlainParser α} {p' : Parser β} {q' : PlainParser β}
    (h : p.Refines q) (h' : p'.Refines q') : (p.andThen p').Refines (q.andThen q') where
  moves := (closed_moves Stream.readingOrder_leadsTo).andThen h.moves h'.moves
  yields hs hy := by
    obtain ⟨u, ha, hb⟩ := yields_andThen_iff.1 hy
    have hu := (h.moves.of_yields ha).wellFormed hs
    simp only [PlainParser.andThen, h.yields hs ha, Option.bind_some, h'.yields hu hb,
      Option.map_some]
  refuses hs hr := by
    rcases refuses_andThen_iff.1 hr with hn | ⟨a, u, ha, hn⟩
    · simp only [PlainParser.andThen, h.refuses hs hn, Option.bind_none]
    · have hu := (h.moves.of_yields ha).wellFormed hs
      simp only [PlainParser.andThen, h.yields hs ha, Option.bind_some, h'.refuses hu hn,
        Option.map_none]

theorem Refines.apply {p : Parser (α → β)} {q : PlainParser (α → β)} {p' : Parser α}
    {q' : PlainParser α} (h : p.Refines q) (h' : p'.Refines q') :
    (p.apply p').Refines (q.apply q') :=
  (h.andThen h').map _

theorem Refines.collect {p : Parser α} {q : PlainParser α} (h : p.Refines q) {s t : Stream}
    {as : List α} (hs : s.WellFormed) (hr : p.Repeats s as t) :
    q.collect s.rest = (as, t.rest) := by
  induction hr with
  | refused hn => exact PlainParser.collect_of_none (h.refuses hs hn)
  | stuck ha ht =>
    have hl := (h.moves.of_yields ha).offset_lt_iff
    exact PlainParser.collect_of_stuck (h.yields hs ha) (by omega)
  | step ha ht _ ih =>
    have hl := h.moves.of_yields ha
    rw [PlainParser.collect_of_less (h.yields hs ha) (hl.offset_lt_iff.1 ht),
      ih (hl.wellFormed hs)]

theorem Refines.many {p : Parser α} {q : PlainParser α} (h : p.Refines q) :
    p.many.Refines q.many where
  moves := (closed_moves Stream.readingOrder_leadsTo).many h.moves
  yields hs hy := by rw [PlainParser.many, h.collect hs (yields_many_iff.1 hy)]
  refuses _ hr := (not_refuses_many hr).elim

theorem Refines.run {p : Parser α} [Bounded p] {q : PlainParser α} (h : p.Refines q) {s : Stream}
    (hs : s.WellFormed) : (p.run s).map (fun (a, t) => (a, t.rest)) = q s.rest := by
  cases hr : p.run s with
  | none => rw [h.refuses hs (run_eq_none_iff.1 hr), Option.map_none]
  | some r => rw [h.yields hs (run_eq_some_iff.1 hr), Option.map_some]

theorem Refines.run_consumed {p : Parser α} [Bounded p] {q : PlainParser α} (h : p.Refines q)
    {s : Stream} (hs : s.WellFormed) :
    (p.run s).map (fun (a, t) => (a, t.rest, t.offset - s.offset)) =
      (q s.rest).map fun (a, u) => (a, u, Text.byteLength s.rest - Text.byteLength u) := by
  rw [← h.run hs, Option.map_map]
  cases hr : p.run s with
  | none => rfl
  | some r =>
    obtain ⟨a, t⟩ := r
    obtain ⟨u, hu, ho⟩ := (h.moves.of_yields (run_eq_some_iff.1 hr)).consumed
    have he : t.offset - s.offset = Text.byteLength s.rest - Text.byteLength t.rest := by
      rw [hu, ho, Text.byteLength_append]
      omega
    simp only [Option.map_some, Function.comp_apply, he]

theorem refines_ofClass (k : CharClass) : (ofClass k).Refines (.ofClass k) := by
  refine .ofFunction (primitive_moves (k := .character k) Stream.readingOrder_leadsTo rfl)
    fun s _ => ?_
  cases hn : s.next? with
  | none => rw [Stream.next?_eq_none_iff.1 hn]; rfl
  | some r =>
    obtain ⟨c, t⟩ := r
    rw [(Stream.next?_eq_some_iff.1 hn).1, PlainParser.ofClass, PlainParser.satisfy,
      Option.filter_some]
    cases k.contains c <;> rfl

theorem refines_identifier : Parser.identifier.Refines .identifier :=
  ((refines_ofClass _).andThen (refines_ofClass _).many).map _

theorem refines_integer : Parser.integer.Refines .integer :=
  (refines_ofClass _).many.filterMap _

theorem refines_fail : (fail : Parser α).Refines .fail :=
  .ofFunction (.ofFunction fun h => by cases h) fun _ _ => rfl

theorem refines_skip (n : Nat) : (skip n).Refines (.skip n) := by
  refine .ofFunction (primitive_moves (k := .skip n) Stream.readingOrder_leadsTo rfl) fun s _ => ?_
  rw [PlainParser.skip, ← Stream.rest_drop]
  rfl

theorem refines_peek : peek.Refines .peek := by
  refine .ofFunction (primitive_moves (k := .peek) Stream.readingOrder_leadsTo rfl) fun s _ => ?_
  rw [PlainParser.peek, Stream.head?, Option.map_map]
  rfl

theorem refines_atEnd : atEnd.Refines .atEnd := by
  refine .ofFunction (primitive_moves (k := .atEnd) Stream.readingOrder_leadsTo rfl)
    fun s hs => ?_
  have he : s.rest.isEmpty = s.isEmpty := by
    rw [Bool.eq_iff_iff, List.isEmpty_iff, hs.isEmpty_iff]
  rw [PlainParser.atEnd, he]
  cases s.isEmpty <;> rfl

theorem refines_remaining : remaining.Refines .remaining :=
  .ofFunction (primitive_moves (k := .remaining) Stream.readingOrder_leadsTo rfl) fun _ _ => rfl

end Parser

namespace Grammar

theorem refines_plain {g : Grammar Empty} (hg : ∀ k ∈ g.parts, k.isPlaced = false) :
    g.parser.Refines g.plain := by
  induction g with
  | ref x => exact x.elim
  | character k => exact (Parser.refines_ofClass k).map _
  | identifier => exact Parser.refines_identifier.map _
  | integer => exact Parser.refines_integer.map _
  | pure v => exact .pure v
  | map f g ih => exact (ih (List.forall_mem_cons.1 hg).2).map _
  | filterMap f g ih => exact (ih (List.forall_mem_cons.1 hg).2).filterMap _
  | many g ih => exact (ih (List.forall_mem_cons.1 hg).2).many.map _
  | apply f g ih => exact (Parser.Refines.pure _).apply (ih (List.forall_mem_cons.1 hg).2)
  | andThen g k ihg ihk =>
    obtain ⟨hg, hk⟩ := List.forall_mem_append.1 (List.forall_mem_cons.1 hg).2
    exact ((ihg hg).andThen (ihk hk)).map _
  | applyOperator op g ihop ihg =>
    obtain ⟨hop, hg⟩ := List.forall_mem_append.1 (List.forall_mem_cons.1 hg).2
    exact ((ihop hop).map _).apply (ihg hg)
  | applyBinary f g k ihg ihk =>
    obtain ⟨hg, hk⟩ := List.forall_mem_append.1 (List.forall_mem_cons.1 hg).2
    exact ((ihg hg).map _).apply (ihk hk)
  | applyTernary f g k l ihg ihk ihl =>
    obtain ⟨hg, hkl⟩ := List.forall_mem_append.1 (List.forall_mem_cons.1 hg).2
    obtain ⟨hk, hl⟩ := List.forall_mem_append.1 hkl
    exact (((ihg hg).map _).apply (ihk hk)).apply (ihl hl)
  | fail => exact Parser.refines_fail
  | skip n => exact (Parser.refines_skip n).map _
  | peek => exact Parser.refines_peek.map _
  | atEnd => exact Parser.refines_atEnd.map _
  | remaining => exact Parser.refines_remaining.map _
  | position | rewind | restart | jumpTo t => cases hg _ (mem_parts_self _)

/-- A grammar that is not placed matches a stream exactly when its plain meaning matches the text
still to be read, with the same value and the same text left. -/
theorem Script.refines_plain_text {script : Script} {g : Grammar Empty}
    (hg : script.expand? = some g) (hplaced : ∀ k ∈ g.parts, k.isPlaced = false) :
    ∃ p, script.parser? = some p ∧
      (∀ s, s.WellFormed →
        (p.parser.run s).map (fun (v, t) => (v, t.rest)) = g.plain s.rest ∧
          ∀ v t, p.parser.run s = some (v, t) → t.source = s.source ∧
            ∃ u, s.rest = u ++ t.rest ∧ t.offset = s.offset + Text.byteLength u) ∧
      ∀ s s', s.WellFormed → s'.WellFormed → s.sameRest s' = true →
        (p.parser.run s).map (fun (v, t) => (v, t.rest, t.offset - s.offset)) =
          (p.parser.run s').map fun (v, t) => (v, t.rest, t.offset - s'.offset) := by
  have h := refines_plain hplaced
  refine ⟨_, Script.parser?_of_expand? hg, fun s hs => ⟨h.run hs, fun v t hr => ?_⟩, ?_⟩
  · have hl := h.moves.of_yields (Parser.run_eq_some_iff.1 hr)
    exact ⟨hl.source, hl.consumed⟩
  · intro s s' hs hs' hsame
    have he : s.rest = s'.rest := eq_of_beq hsame
    have hc := h.run_consumed hs
    rw [he, ← h.run_consumed hs'] at hc
    exact hc

theorem Script.refines_plain_text_of_same_rest :
    ∃ p, Script.parser? ⟨[("letter", .character .identifierStart)],
        .andThen (.many (.ref "letter")) .remaining⟩ = some p ∧
      (p.parser.run (.place "aé1".toList 1)).map
          (fun (v, t) => (v, t.rest, t.offset - 1)) =
        (p.parser.run (.place "é1".toList 0)).map fun (v, t) => (v, t.rest, t.offset) := by
  have hs : (Stream.place "aé1".toList 1).WellFormed := ⟨['a'], ['é', '1'], rfl, rfl⟩
  have hg : Script.expand? ⟨[("letter", .character .identifierStart)],
      .andThen (.many (.ref "letter")) .remaining⟩ = some _ := rfl
  obtain ⟨p, hp, _, hsame⟩ := Script.refines_plain_text hg (by decide)
  exact ⟨p, hp, hsame _ (.place "é1".toList 0) hs ⟨[], ['é', '1'], rfl, rfl⟩ (by decide)⟩

end Grammar

end Munch
