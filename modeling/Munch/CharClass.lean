import Munch.Unicode.IdentifierContinue
import Munch.Unicode.IdentifierStart
import Munch.Unicode.WhiteSpace

namespace Munch

namespace Unicode

theorem isIdentifierContinue_of_isIdentifierStart {c : Char} (h : isIdentifierStart c = true) :
    isIdentifierContinue c = true := by
  have hw : identifierStart.outside identifierContinue = [] := by decide +kernel
  exact Ranges.contains_of_within (Ranges.within_of_outside hw) h

theorem isIdentifierContinue_of_isDigit {c : Char} (h : c.isDigit = true) :
    isIdentifierContinue c = true := by
  have hm : (0x30, 0x39) ∈ identifierContinue := List.mem_cons_self
  exact Ranges.contains_eq_true_iff.2 ⟨_, hm, Char.isDigit_iff_toNat.1 h⟩

end Unicode

/-- The conditions under which a grammar consumes a character, as data. -/
inductive CharClass where
  | any
  | none
  | asciiDigit
  | asciiAlpha
  | asciiPunct
  | space
  | identifierStart
  | identifierContinue
  | exactly (c : Char)
  | oneOf (members : List Char)
  /-- The characters from the first to the last one, both included, in the order of code points. -/
  | range (first last : Char)
  | not (k : CharClass)
  deriving DecidableEq, Repr

namespace CharClass

/-- The 32 printable ASCII characters that are neither letters, digits nor the space. -/
def isAsciiPunct (c : Char) : Bool :=
  decide ('!' ≤ c) && decide (c ≤ '~') && !c.isAlphanum

def contains : CharClass → Char → Bool
  | any, _ => true
  | none, _ => false
  | asciiDigit, c => c.isDigit
  | asciiAlpha, c => c.isAlpha
  | asciiPunct, c => isAsciiPunct c
  | space, c => Unicode.isWhiteSpace c
  | identifierStart, c => Unicode.isIdentifierStart c
  | identifierContinue, c => Unicode.isIdentifierContinue c
  | exactly d, c => c == d
  | oneOf members, c => members.contains c
  | range first last, c => decide (first ≤ c) && decide (c ≤ last)
  | not k, c => !k.contains c

end CharClass

end Munch
