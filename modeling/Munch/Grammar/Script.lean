import Munch.Grammar.Basic

namespace Munch.Grammar

/-- Grammars with names, each of which may refer to those before it, and one more that may refer to
all. -/
structure Script where
  definitions : List (String × Grammar String)
  body : Grammar String
  deriving Repr

namespace Script

variable {δ ε : Type}

/-- Goes through definitions in order and fails where `build` does; a name that is defined again
stands for the new grammar from there on. -/
def define (build : (String → Option δ) → Grammar String → Option δ) (known : String → Option δ) :
    List (String × Grammar String) → Option (String → Option δ)
  | [] => some known
  | (x, g) :: more =>
    match build known g with
    | some d => define build (fun y => if y = x then some d else known y) more
    | none => none

def eval (build : (String → Option δ) → Grammar String → Option δ) (script : Script) : Option δ :=
  (define build (fun _ => none) script.definitions).bind fun known => build known script.body

/-- The grammar that a script abbreviates, if no name in it is unknown. -/
def expand? : Script → Option (Grammar Empty) :=
  eval fun known g => g.link known

/-- The parser that a script stands for, with each definition built once and shared by all
references. -/
def parser? : Script → Option (BoundedParser Value) :=
  eval fun known g => (g.link fun x => (known x).map ref).map (meaning id)

theorem map_define {build : (String → Option δ) → Grammar String → Option δ}
    {build' : (String → Option ε) → Grammar String → Option ε} {f : δ → ε}
    (h : ∀ known g, (build known g).map f = build' (fun x => (known x).map f) g)
    (definitions : List (String × Grammar String)) (known : String → Option δ) :
    (define build known definitions).map (fun found x => (found x).map f) =
      define build' (fun x => (known x).map f) definitions := by
  induction definitions generalizing known with
  | nil => rfl
  | cons definition more ih =>
    obtain ⟨x, g⟩ := definition
    simp only [define, ← h]
    cases build known g with
    | none => rfl
    | some d =>
      simp only [Option.map_some]
      rw [ih]
      congr 1
      funext y
      split <;> rfl

theorem map_eval {build : (String → Option δ) → Grammar String → Option δ}
    {build' : (String → Option ε) → Grammar String → Option ε} {f : δ → ε}
    (h : ∀ known g, (build known g).map f = build' (fun x => (known x).map f) g)
    (script : Script) : (script.eval build).map f = script.eval build' := by
  have hd := map_define h script.definitions fun _ => none
  simp only [Option.map_none] at hd
  rw [eval, eval, ← hd]
  cases define build (fun _ => none) script.definitions with
  | none => rfl
  | some known => exact h known script.body

/-- A script stands for the same parser as the grammar that it abbreviates. -/
theorem map_meaning_expand? (script : Script) :
    script.expand?.map (meaning Empty.elim) = script.parser? := by
  refine map_eval (fun known g => ?_) script
  rw [map_meaning_link]
  simp only [Option.map_map, Function.comp_def]

end Script

end Munch.Grammar
