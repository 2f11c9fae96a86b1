import Munch.Parser.Bounded

namespace Munch

/-- Why a text is not matched as a whole. -/
inductive ParseError where
  | noMatch
  /-- The match stopped at `offset` and left `remainder`. -/
  | incomplete (offset : Nat) (remainder : Text)
  deriving DecidableEq, Repr

namespace ParseError

def message : ParseError → Text
  | noMatch => "no match".toList
  | incomplete _ _ => "unconsumed input".toList

def describe : ParseError → Text
  | noMatch => noMatch.message
  | incomplete n t =>
    (incomplete n t).message ++ " at ".toList ++ Text.ofNat n ++ ": ".toList ++ Text.quote t

end ParseError

namespace Parser

variable {α : Type}

/-- The value of a match that leaves nothing of the text. -/
def parseAll (p : Parser α) [Bounded p] (t : Text) : Except ParseError α :=
  match p.parse t with
  | none => .error .noMatch
  | some (a, s) => if s.isEmpty then .ok a else .error (.incomplete s.offset s.rest)

end Parser

end Munch
