import Munch.Parser.Bounded

namespace Munch.Parser

def fail {α : Type} : Parser α :=
  ofFunction fun _ => none

/-- Moves `n` characters forward, or to the end if there are fewer. -/
def skip (n : Nat) : Parser Unit :=
  ofFunction fun s => some ((), s.drop n)

def peek : Parser Char :=
  ofFunction fun s => s.head?.map (·, s)

def atEnd : Parser Unit :=
  ofFunction fun s => if s.isEmpty then some ((), s) else none

def remaining : Parser Text :=
  ofFunction fun s => some (s.rest, s)

def position : Parser Nat :=
  ofFunction fun s => some (s.offset, s)

def rewind : Parser Unit :=
  ofFunction fun s => some ((), s.rewind)

def restart : Parser Unit :=
  ofFunction fun s => some ((), s.restart)

def jumpTo (t : Text) : Parser Unit :=
  ofFunction fun _ => some ((), .ofText t)

instance {α : Type} : Bounded (fail : Parser α) := .ofFunction 0 fun _ _ h => by cases h

instance (n : Nat) : Bounded (skip n) :=
  .ofFunction 0 fun _ hs h => by
    cases h
    have := Stream.source_drop
    have := Stream.offset_drop_le
    grind

instance : Bounded peek :=
  .ofFunction 0 fun _ hs h => by
    obtain ⟨_, _, h⟩ := Option.map_eq_some_iff.1 h
    cases h
    exact ⟨hs, Nat.le_max_left _ _⟩

instance : Bounded atEnd :=
  .ofFunction 0 fun _ hs h => by
    split at h
    · cases h
      exact ⟨hs, Nat.le_max_left _ _⟩
    · cases h

instance : Bounded remaining :=
  .ofFunction 0 fun _ hs h => by
    cases h
    exact ⟨hs, Nat.le_max_left _ _⟩

instance : Bounded position :=
  .ofFunction 0 fun _ hs h => by
    cases h
    exact ⟨hs, Nat.le_max_left _ _⟩

instance : Bounded rewind :=
  .ofFunction 0 fun _ hs h => by
    cases h
    exact ⟨hs, Nat.zero_le _⟩

instance : Bounded restart :=
  .ofFunction 0 fun _ hs h => by
    cases h
    exact ⟨Nat.le_trans (Stream.byteLength_rest_le _) hs, Nat.zero_le _⟩

instance (t : Text) : Bounded (jumpTo t) :=
  .ofFunction t.byteLength fun ht _ h => by
    cases h
    exact ⟨ht, Nat.zero_le _⟩

end Munch.Parser
