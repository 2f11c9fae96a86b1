import Munch.Parser.Character
import Munch.Parser.Position
import Munch.Value.Function

namespace Munch

/-- A parser of values, written down as data; it may refer to others by name. -/
inductive Grammar (ν : Type) where
  | ref (name : ν)
  | character (k : CharClass)
  | identifier
  | integer
  | pure (v : Value)
  | map (f : Transform) (g : Grammar ν)
  | filterMap (f : Filter) (g : Grammar ν)
  | andThen (g h : Grammar ν)
  | many (g : Grammar ν)
  /-- A function that is there from the start, applied to one argument. -/
  | apply (f : Transform) (g : Grammar ν)
  /-- An operator that is matched first, applied to one argument. -/
  | applyOperator (op g : Grammar ν)
  | applyBinary (f : Binary) (g h : Grammar ν)
  | applyTernary (f : Ternary) (g h k : Grammar ν)
  | fail
  | skip (n : Nat)
  | peek
  | atEnd
  | remaining
  | position
  | rewind
  | restart
  | jumpTo (t : Text)
  deriving DecidableEq, Repr

namespace Grammar

variable {ν μ : Type}

def digit : Grammar ν := character .asciiDigit

def char (c : Char) : Grammar ν := character (.exactly c)

def sequence (g : Grammar ν) (gs : List (Grammar ν)) : Grammar ν :=
  gs.foldl andThen g

def manyTimes : Nat → Grammar ν → Grammar ν
  | 0, g => g
  | n + 1, g => many (manyTimes n g)

/-- Replaces references by grammars, if all of them are known. -/
def link (find : ν → Option (Grammar μ)) : Grammar ν → Option (Grammar μ)
  | ref x => find x
  | character k => some (character k)
  | identifier => some identifier
  | integer => some integer
  | pure v => some (pure v)
  | map f g => return map f (← link find g)
  | filterMap f g => return filterMap f (← link find g)
  | andThen g h => return andThen (← link find g) (← link find h)
  | many g => return many (← link find g)
  | apply f g => return apply f (← link find g)
  | applyOperator op g => return applyOperator (← link find op) (← link find g)
  | applyBinary f g h => return applyBinary f (← link find g) (← link find h)
  | applyTernary f g h k =>
    return applyTernary f (← link find g) (← link find h) (← link find k)
  | fail => some fail
  | skip n => some (skip n)
  | peek => some peek
  | atEnd => some atEnd
  | remaining => some remaining
  | position => some position
  | rewind => some rewind
  | restart => some restart
  | jumpTo t => some (jumpTo t)

/-- What a grammar stands for when its references stand for the parsers `names`. -/
def meaning (names : ν → BoundedParser Value) : Grammar ν → BoundedParser Value
  | ref x => names x
  | character k => .of ((Parser.ofClass k).map .char)
  | identifier => .of (Parser.identifier.map .text)
  | integer => .of (Parser.integer.map .int)
  | pure v => .of (.pure v)
  | map f g => (g.meaning names).map f.apply
  | filterMap f g => (g.meaning names).filterMap f.apply
  | andThen g h => ((g.meaning names).andThen (h.meaning names)).map fun (a, b) => .pair a b
  | many g => (g.meaning names).many.map .list
  | apply f g => (BoundedParser.of (.pure f.apply)).apply (g.meaning names)
  | applyOperator op g =>
    ((op.meaning names).map fun v => (Transform.ofOperator v).apply).apply (g.meaning names)
  | applyBinary f g h => ((g.meaning names).map f.apply).apply (h.meaning names)
  | applyTernary f g h k =>
    (((g.meaning names).map f.apply).apply (h.meaning names)).apply (k.meaning names)
  | fail => .of Parser.fail
  | skip n => .of ((Parser.skip n).map fun _ => .unit)
  | peek => .of (Parser.peek.map .char)
  | atEnd => .of (Parser.atEnd.map fun _ => .unit)
  | remaining => .of (Parser.remaining.map .text)
  | position => .of (Parser.position.map .ofLength)
  | rewind => .of (Parser.rewind.map fun _ => .unit)
  | restart => .of (Parser.restart.map fun _ => .unit)
  | jumpTo t => .of ((Parser.jumpTo t).map fun _ => .unit)

def parser (g : Grammar Empty) : Parser Value :=
  (g.meaning Empty.elim).parser

instance (g : Grammar Empty) : g.parser.Bounded :=
  inferInstanceAs (Parser.Bounded (BoundedParser.parser _))

/-- Replacing references by grammars gives the same as taking what those grammars stand for. -/
theorem map_meaning_link (find : ν → Option (Grammar μ)) (names : μ → BoundedParser Value)
    (g : Grammar ν) :
    (g.link find).map (meaning names) =
      (g.link fun x => (find x).map fun h => ref (h.meaning names)).map (meaning id) := by
  generalize hf : (fun x => (find x).map fun h => ref (h.meaning names)) = found
  induction g with
  | ref x => cases h : find x <;> simp [link, ← hf, h, meaning]
  | map f g ih | filterMap f g ih | apply f g ih | many g ih =>
    cases hg : g.link find <;> cases hg' : g.link found <;> simp_all [link, meaning]
  | andThen g h ihg ihh | applyOperator g h ihg ihh | applyBinary f g h ihg ihh =>
    cases hg : g.link find <;> cases hg' : g.link found <;>
    cases hh : h.link find <;> cases hh' : h.link found <;> simp_all [link, meaning]
  | applyTernary f g h k ihg ihh ihk =>
    cases hg : g.link find <;> cases hg' : g.link found <;>
    cases hh : h.link find <;> cases hh' : h.link found <;>
    cases hk : k.link find <;> cases hk' : k.link found <;> simp_all [link, meaning]
  | _ => rfl

end Grammar

end Munch
