import Munch.Grammar.Basic
import Munch.Parser.Lemmas

namespace Munch

/-- A way to put members together two at a time. -/
inductive Bracketing (ι : Type _) where
  | leaf (i : ι)
  | node (left right : Bracketing ι)

/-- A parser, whatever the type of its values. -/
structure SomeParser where
  {Result : Type}
  parser : Parser Result

def SomeParser.ofGrammar (g : Grammar Empty) : SomeParser := ⟨g.parser⟩

structure SomeValue where
  {Kind : Type}
  value : Kind

/-- Asked in turn, each on the stream that the one before it leaves, the parsers yield the values
and leave the last stream. -/
inductive InTurn : List SomeParser → Stream → List SomeValue → Stream → Prop where
  | nil {s : Stream} : InTurn [] s [] s
  | cons {p : SomeParser} {ps : List SomeParser} {s t u : Stream} {a : p.Result}
    {as : List SomeValue} :
    p.parser.Yields s a t → InTurn ps t as u → InTurn (p :: ps) s (⟨a⟩ :: as) u

inductive RefusedInTurn : List SomeParser → Stream → Prop where
  | here {p : SomeParser} {ps : List SomeParser} {s : Stream} :
    p.parser.Refuses s → RefusedInTurn (p :: ps) s
  | later {p : SomeParser} {ps : List SomeParser} {s t : Stream} {a : p.Result} :
    p.parser.Yields s a t → RefusedInTurn ps t → RefusedInTurn (p :: ps) s

section InTurn

variable {ps qs : List SomeParser} {s t u : Stream} {as bs cs : List SomeValue}

theorem InTurn.append (h : InTurn ps s as t) (k : InTurn qs t bs u) :
    InTurn (ps ++ qs) s (as ++ bs) u := by
  induction h with
  | nil => exact k
  | cons ha _ ih => exact .cons ha (ih k)

theorem inTurn_append_iff : InTurn (ps ++ qs) s cs u ↔
    ∃ as bs t, InTurn ps s as t ∧ InTurn qs t bs u ∧ as ++ bs = cs := by
  constructor
  · intro h
    induction ps generalizing s cs with
    | nil => exact ⟨[], cs, s, .nil, h, rfl⟩
    | cons p ps ih =>
      cases h with
      | cons ha h =>
        obtain ⟨as, bs, t, has, hbs, rfl⟩ := ih h
        exact ⟨_, bs, t, .cons ha has, hbs, rfl⟩
  · intro h
    obtain ⟨as, bs, t, has, hbs, rfl⟩ := h
    exact has.append hbs

theorem refusedInTurn_append_iff : RefusedInTurn (ps ++ qs) s ↔
    RefusedInTurn ps s ∨ ∃ as t, InTurn ps s as t ∧ RefusedInTurn qs t := by
  constructor
  · intro h
    induction ps generalizing s with
    | nil => exact .inr ⟨[], s, .nil, h⟩
    | cons p ps ih =>
      cases h with
      | here hp => exact .inl (.here hp)
      | later ha h =>
        rcases ih h with hps | ⟨as, t, has, hqs⟩
        · exact .inl (.later ha hps)
        · exact .inr ⟨_, t, .cons ha has, hqs⟩
  · intro h
    rcases h with h | ⟨as, t, has, h⟩
    · induction h with
      | here hp => exact .here hp
      | later ha _ ih => exact .later ha ih
    · induction has with
      | nil => exact h
      | cons ha _ ih => exact .later ha (ih h)

theorem exists_inTurn_or_refusedInTurn (hends : ∀ p ∈ ps, ∀ t, p.parser.Ends t) (s : Stream) :
    (∃ as t, InTurn ps s as t) ∨ RefusedInTurn ps s := by
  induction ps generalizing s with
  | nil => exact .inl ⟨[], s, .nil⟩
  | cons p ps ih =>
    obtain ⟨hp, hps⟩ := List.forall_mem_cons.1 hends
    rcases (hp s).yields_or_refuses with ⟨a, t, ha⟩ | hn
    · rcases ih hps t with ⟨as, u, has⟩ | hn
      · exact .inl ⟨_, u, .cons ha has⟩
      · exact .inr (.later ha hn)
    · exact .inr (.here hn)

end InTurn

namespace Bracketing

variable {ι κ : Type _}

def leaves : Bracketing ι → List ι
  | leaf i => [i]
  | node b c => b.leaves ++ c.leaves

def map (f : ι → κ) : Bracketing ι → Bracketing κ
  | leaf i => leaf (f i)
  | node b c => node (b.map f) (c.map f)

def fromLeft (i : ι) (is : List ι) : Bracketing ι :=
  is.foldl (fun b j => node b (leaf j)) (leaf i)

theorem leaves_foldl (b : Bracketing ι) (is : List ι) :
    (is.foldl (fun b j => node b (leaf j)) b).leaves = b.leaves ++ is := by
  induction is generalizing b with
  | nil => exact (List.append_nil _).symm
  | cons i is ih =>
    rw [List.foldl_cons, ih, leaves, leaves, List.append_assoc, List.singleton_append]

theorem leaves_fromLeft (i : ι) (is : List ι) : (fromLeft i is).leaves = i :: is :=
  leaves_foldl (leaf i) is

theorem leaves_map (f : ι → κ) (b : Bracketing ι) : (b.map f).leaves = b.leaves.map f := by
  induction b with
  | leaf i => rfl
  | node b c ihb ihc => rw [map, leaves, leaves, ihb, ihc, List.map_append]

def Result : Bracketing SomeParser → Type
  | leaf p => p.Result
  | node b c => b.Result × c.Result

def parser : (b : Bracketing SomeParser) → Parser b.Result
  | leaf p => p.parser
  | node b c => b.parser.andThen c.parser

/-- The values in nested pairs, from left to right. -/
def values : (b : Bracketing SomeParser) → b.Result → List SomeValue
  | leaf _, a => [⟨a⟩]
  | node b c, (x, y) => b.values x ++ c.values y

variable {b c : Bracketing SomeParser} {s t : Stream} {as : List SomeValue}

theorem exists_yields_iff_inTurn :
    (∃ x, b.parser.Yields s x t ∧ b.values x = as) ↔ InTurn b.leaves s as t := by
  induction b generalizing s t as with
  | leaf p =>
    constructor
    · intro h
      obtain ⟨a, ha, rfl⟩ := h
      exact .cons ha .nil
    · intro h
      cases h with
      | cons ha h =>
        cases h
        exact ⟨_, ha, rfl⟩
  | node b c ihb ihc =>
    rw [leaves, inTurn_append_iff]
    constructor
    · intro h
      obtain ⟨⟨x, y⟩, hxy, rfl⟩ := h
      obtain ⟨u, hx, hy⟩ := Parser.yields_andThen_iff.1 hxy
      exact ⟨_, _, u, ihb.1 ⟨x, hx, rfl⟩, ihc.1 ⟨y, hy, rfl⟩, rfl⟩
    · intro h
      obtain ⟨_, _, u, hb, hc, rfl⟩ := h
      obtain ⟨x, hx, rfl⟩ := ihb.2 hb
      obtain ⟨y, hy, rfl⟩ := ihc.2 hc
      exact ⟨(x, y), Parser.yields_andThen_iff.2 ⟨u, hx, hy⟩, rfl⟩

theorem refuses_iff_refusedInTurn : b.parser.Refuses s ↔ RefusedInTurn b.leaves s := by
  induction b generalizing s with
  | leaf p =>
    constructor
    · exact .here
    · intro h
      cases h with
      | here hp => exact hp
      | later _ h => cases h
  | node b c ihb ihc =>
    rw [leaves, refusedInTurn_append_iff, ← ihb]
    constructor
    · intro h
      rcases Parser.refuses_andThen_iff.1 h with hn | ⟨x, t, hx, hn⟩
      · exact .inl hn
      · exact .inr ⟨_, t, exists_yields_iff_inTurn.1 ⟨x, hx, rfl⟩, ihc.1 hn⟩
    · intro h
      rcases h with hn | ⟨_, t, has, hn⟩
      · exact Parser.refuses_andThen_iff.2 (.inl hn)
      · obtain ⟨x, hx, _⟩ := exists_yields_iff_inTurn.2 has
        exact Parser.refuses_andThen_iff.2 (.inr ⟨x, t, hx, ihc.2 hn⟩)

def toValue : (b : Bracketing (Grammar Empty)) → (b.map .ofGrammar).Result → Value
  | leaf _, v => v
  | node b c, (x, y) => .pair (b.toValue x) (c.toValue y)

def grammar : Bracketing (Grammar Empty) → Grammar Empty
  | leaf g => g
  | node b c => .andThen b.grammar c.grammar

theorem parser_grammar (b : Bracketing (Grammar Empty)) :
    b.grammar.parser = (b.map .ofGrammar).parser.map b.toValue := by
  induction b with
  | leaf g => exact (Parser.map_id _).symm
  | node b c ihb ihc =>
    calc
      (node b c).grammar.parser =
          (b.grammar.parser.andThen c.grammar.parser).map fun vs => .pair vs.1 vs.2 := rfl
      _ = (((b.map .ofGrammar).parser.andThen (c.map .ofGrammar).parser).map
          (Prod.map b.toValue c.toValue)).map fun vs => .pair vs.1 vs.2 := by
        rw [ihb, ihc, Parser.andThen_map_map]
      _ = ((node b c).map .ofGrammar).parser.map (node b c).toValue :=
        Parser.map_map _ _ _

theorem grammar_foldl (b : Bracketing (Grammar Empty)) (gs : List (Grammar Empty)) :
    (gs.foldl (fun b g => node b (leaf g)) b).grammar = gs.foldl .andThen b.grammar := by
  induction gs generalizing b with
  | nil => rfl
  | cons g gs ih => exact ih (node b (leaf g))

/-- Two ways to put the same parsers together in the same order match the same streams, leave the
same, and have the same values from left to right. -/
theorem brackets_immaterial {b c : Bracketing SomeParser} (h : b.leaves = c.leaves) (s : Stream) :
    (∀ as t, (∃ x, b.parser.Yields s x t ∧ b.values x = as) ↔ InTurn b.leaves s as t) ∧
    (∀ as t, (∃ y, c.parser.Yields s y t ∧ c.values y = as) ↔ InTurn b.leaves s as t) ∧
    (b.parser.Refuses s ↔ RefusedInTurn b.leaves s) ∧
    (c.parser.Refuses s ↔ RefusedInTurn b.leaves s) ∧
    ((∀ p ∈ b.leaves, ∀ t, p.parser.Ends t) →
      (∃ as t, InTurn b.leaves s as t) ∨ RefusedInTurn b.leaves s) ∧
    ∀ g gs, ((fromLeft g gs).map SomeParser.ofGrammar).leaves = (g :: gs).map .ofGrammar ∧
      (Grammar.sequence g gs).parser =
        ((fromLeft g gs).map .ofGrammar).parser.map (fromLeft g gs).toValue := by
  refine ⟨fun as t => exists_yields_iff_inTurn, ?_, refuses_iff_refusedInTurn, ?_, ?_, ?_⟩
  · intro as t
    rw [h]
    exact exists_yields_iff_inTurn
  · rw [h]
    exact refuses_iff_refusedInTurn
  · intro hends
    exact exists_inTurn_or_refusedInTurn hends s
  · intro g gs
    constructor
    · rw [leaves_map, leaves_fromLeft]
    · rw [← parser_grammar, fromLeft, grammar_foldl]
      rfl

theorem brackets_immaterial_of_assignment : ∃ b c : Bracketing SomeParser,
    b = node (node (leaf ⟨Parser.identifier⟩) (leaf ⟨Parser.char '='⟩)) (leaf ⟨Parser.integer⟩) ∧
    c = node (leaf ⟨Parser.identifier⟩) (node (leaf ⟨Parser.char '='⟩) (leaf ⟨Parser.integer⟩)) ∧
    b.leaves = c.leaves ∧ ∃ y, c.parser.Yields (.ofText "é=1;".toList) y (.place "é=1;".toList 4) ∧
      c.values y = [⟨"é".toList⟩, ⟨'='⟩, ⟨(1 : Int64)⟩] := by
  have hleft : ((Parser.identifier.andThen (.char '=')).andThen .integer).Yields
      (.ofText "é=1;".toList) (("é".toList, '='), 1) (.place "é=1;".toList 4) :=
    Parser.run_eq_some_iff.1 (by decide +kernel)
  refine ⟨_, _, rfl, rfl, rfl, ?_⟩
  obtain ⟨hb, hc, _⟩ := brackets_immaterial
    (b := node (node (leaf ⟨Parser.identifier⟩) (leaf ⟨Parser.char '='⟩)) (leaf ⟨Parser.integer⟩))
    (c := node (leaf ⟨Parser.identifier⟩) (node (leaf ⟨Parser.char '='⟩) (leaf ⟨Parser.integer⟩)))
    rfl (.ofText "é=1;".toList)
  have hturn := (hb _ _).1 ⟨_, hleft, rfl⟩
  exact (hc _ _).2 hturn

end Bracketing

end Munch
