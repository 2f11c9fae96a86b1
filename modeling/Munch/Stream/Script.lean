import Munch.Stream.Basic

namespace Munch.Stream

/-- One operation; streams are named by their numbers in the list. -/
inductive Step where
  | create (t : Text)
  | copy (i : Nat)
  | rewind (i : Nat)
  | restart (i : Nat)
  | drop (i n : Nat)
  | split (i : Nat)
  | head (i : Nat)
  | view (i : Nat)
  | display (i : Nat)
  | describe (i : Nat)
  | sameRest (i j : Nat)
  | restIs (i : Nat) (t : Text)
  | suffix (i j : Nat)
  deriving DecidableEq, Repr

inductive Answer where
  | view (id : Nat) (s : Stream)
  /-- A character, and the number of the stream after it. -/
  | split (c : Char) (id : Nat) (s : Stream)
  | atEnd
  | head (c : Option Char)
  | display (t : Text)
  | describe (t : Text)
  | sameRest (b : Bool)
  | restIs (b : Bool)
  | suffix (b : Bool)
  | badHandle
  deriving DecidableEq, Repr

namespace Step

def add (made : List Stream) (s : Stream) : Answer × List Stream :=
  (.view made.length s, made ++ [s])

def withStream (made : List Stream) (i : Nat) (f : Stream → Answer × List Stream) :
    Answer × List Stream :=
  match made[i]? with
  | some s => f s
  | none => (.badHandle, made)

/-- The answer to an operation, and the list of streams after it. -/
def run (made : List Stream) : Step → Answer × List Stream
  | create t => add made (ofText t)
  | copy i => withStream made i fun s => add made s
  | rewind i => withStream made i fun s => add made s.rewind
  | restart i => withStream made i fun s => add made s.restart
  | drop i n => withStream made i fun s => add made (s.drop n)
  | split i => withStream made i fun s =>
    match s.next? with
    | some (c, t) => (.split c made.length t, made ++ [t])
    | none => (.atEnd, made)
  | head i => withStream made i fun s => (.head s.head?, made)
  | view i => withStream made i fun s => (.view i s, made)
  | display i => withStream made i fun s => (.display s.rest, made)
  | describe i => withStream made i fun s => (.describe s.describe, made)
  | sameRest i j => withStream made i fun s => withStream made j fun t =>
    (.sameRest (s.sameRest t), made)
  | restIs i t => withStream made i fun s => (.restIs (s.rest == t), made)
  | suffix i j => withStream made i fun s => withStream made j fun t =>
    (.suffix (s.isSuffixOf t), made)

def final (made : List Stream) : List Step → List Stream
  | [] => made
  | step :: steps => final (run made step).2 steps

def answers (made : List Stream) : List Step → List Answer
  | [] => []
  | step :: steps => (run made step).1 :: answers (run made step).2 steps

end Step

end Munch.Stream
