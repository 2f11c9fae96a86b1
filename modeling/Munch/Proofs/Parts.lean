import Munch.Catalogue
import Munch.Grammar.Script
import Munch.Parser.Lemmas

namespace Munch

namespace Grammar

variable {ν : Type}

/-- The grammar itself and all grammars inside it, with the repetitions and characters that
identifiers and numbers are made of. -/
def parts : Grammar ν → List (Grammar ν)
  | ref x => [ref x]
  | character k => [character k]
  | identifier =>
    [identifier, character .identifierStart, many (character .identifierContinue),
      character .identifierContinue]
  | integer => [integer, many (character .asciiDigit), character .asciiDigit]
  | pure v => [pure v]
  | map f g => map f g :: g.parts
  | filterMap f g => filterMap f g :: g.parts
  | andThen g h => andThen g h :: (g.parts ++ h.parts)
  | many g => many g :: g.parts
  | apply f g => apply f g :: g.parts
  | applyOperator op g => applyOperator op g :: (op.parts ++ g.parts)
  | applyBinary f g h => applyBinary f g h :: (g.parts ++ h.parts)
  | applyTernary f g h k => applyTernary f g h k :: (g.parts ++ (h.parts ++ k.parts))
  | fail => [fail]
  | skip n => [skip n]
  | peek => [peek]
  | atEnd => [atEnd]
  | remaining => [remaining]
  | position => [position]
  | rewind => [rewind]
  | restart => [restart]
  | jumpTo t => [jumpTo t]

theorem mem_parts_self (g : Grammar ν) : g ∈ g.parts := by
  cases g <;> exact List.mem_cons_self

theorem parts_subset {g h : Grammar ν} (hh : h ∈ g.parts) : h.parts ⊆ g.parts := by
  induction g with
  | identifier | integer =>
    simp only [parts, List.mem_cons, List.not_mem_nil, or_false] at hh
    rcases hh with rfl | rfl | rfl | rfl <;> simp [parts]
  | map f g ih | filterMap f g ih | many g ih | apply f g ih =>
    rcases List.mem_cons.1 hh with rfl | hg
    · exact List.Subset.refl _
    · exact List.subset_cons_of_subset _ (ih hg)
  | andThen g h ihg ihh | applyOperator g h ihg ihh | applyBinary f g h ihg ihh =>
    rcases List.mem_cons.1 hh with rfl | hh
    · exact List.Subset.refl _
    · apply List.subset_cons_of_subset
      rcases List.mem_append.1 hh with hg | hh
      · exact List.subset_append_of_subset_left _ (ihg hg)
      · exact List.subset_append_of_subset_right _ (ihh hh)
  | applyTernary f g h k ihg ihh ihk =>
    rcases List.mem_cons.1 hh with rfl | hh
    · exact List.Subset.refl _
    · apply List.subset_cons_of_subset
      rcases List.mem_append.1 hh with hg | hh
      · exact List.subset_append_of_subset_left _ (ihg hg)
      · apply List.subset_append_of_subset_right
        rcases List.mem_append.1 hh with hh | hk
        · exact List.subset_append_of_subset_left _ (ihh hh)
        · exact List.subset_append_of_subset_right _ (ihk hk)
  | _ =>
    rw [List.mem_singleton.1 hh]
    exact List.Subset.refl _

/-- The forms that may go back or to another source. -/
def isLeap : Grammar ν → Bool
  | rewind | restart | jumpTo _ => true
  | _ => false

theorem Script.parser?_of_expand? {script : Script} {g : Grammar Empty}
    (h : script.expand? = some g) : script.parser? = some (.of g.parser) := by
  rw [← Script.map_meaning_expand?, h]
  rfl

end Grammar

namespace Parser

/-- A property of parsers that every way of combining them keeps. -/
structure Closed (P : (α : Type) → Parser α → Prop) : Prop where
  pure {α : Type} (a : α) : P α (.pure a)
  map {α β : Type} (f : α → β) {p : Parser α} : P α p → P β (p.map f)
  filterMap {α β : Type} (f : α → Option β) {p : Parser α} : P α p → P β (p.filterMap f)
  andThen {α β : Type} {p : Parser α} {q : Parser β} : P α p → P β q → P (α × β) (p.andThen q)
  many {α : Type} {p : Parser α} : P α p → P (List α) p.many

def Primitive (P : (α : Type) → Parser α → Prop) : Grammar Empty → Prop
  | .character k => P _ (ofClass k)
  | .fail => P Value fail
  | .skip n => P _ (skip n)
  | .peek => P _ peek
  | .atEnd => P _ atEnd
  | .remaining => P _ remaining
  | .position => P _ position
  | .rewind => P _ rewind
  | .restart => P _ restart
  | .jumpTo t => P _ (jumpTo t)
  | _ => True

namespace Closed

variable {P : (α : Type) → Parser α → Prop} {α β : Type}

theorem apply (h : Closed P) {p : Parser (α → β)} {q : Parser α} (hp : P _ p) (hq : P _ q) :
    P _ (p.apply q) :=
  h.map _ (h.andThen hp hq)

theorem identifier (h : Closed P) (hs : P _ (ofClass .identifierStart))
    (hc : P _ (ofClass .identifierContinue)) : P _ Parser.identifier :=
  h.map _ (h.andThen hs (h.many hc))

theorem integer (h : Closed P) (hd : P _ (ofClass .asciiDigit)) : P _ Parser.integer :=
  h.filterMap _ (h.many hd)

/-- A closed property holds of a grammar if it holds of the primitive parsers in it. -/
theorem grammar (h : Closed P) {g : Grammar Empty} (hg : ∀ k ∈ g.parts, Primitive P k) :
    P _ g.parser := by
  induction g with
  | ref x => exact x.elim
  | identifier =>
    exact h.map _ (h.identifier (hg (.character .identifierStart) (by simp [Grammar.parts]))
      (hg (.character .identifierContinue) (by simp [Grammar.parts])))
  | integer =>
    exact h.map _ (h.integer (hg (.character .asciiDigit) (by simp [Grammar.parts])))
  | pure v => exact h.pure v
  | map f g ih => exact h.map _ (ih (List.forall_mem_cons.1 hg).2)
  | filterMap f g ih => exact h.filterMap _ (ih (List.forall_mem_cons.1 hg).2)
  | many g ih => exact h.map _ (h.many (ih (List.forall_mem_cons.1 hg).2))
  | apply f g ih => exact h.apply (h.pure _) (ih (List.forall_mem_cons.1 hg).2)
  | andThen g k ihg ihk =>
    obtain ⟨hg, hk⟩ := List.forall_mem_append.1 (List.forall_mem_cons.1 hg).2
    exact h.map _ (h.andThen (ihg hg) (ihk hk))
  | applyOperator op g ihop ihg =>
    obtain ⟨hop, hg⟩ := List.forall_mem_append.1 (List.forall_mem_cons.1 hg).2
    exact h.apply (h.map _ (ihop hop)) (ihg hg)
  | applyBinary f g k ihg ihk =>
    obtain ⟨hg, hk⟩ := List.forall_mem_append.1 (List.forall_mem_cons.1 hg).2
    exact h.apply (h.map _ (ihg hg)) (ihk hk)
  | applyTernary f g k l ihg ihk ihl =>
    obtain ⟨hg, hkl⟩ := List.forall_mem_append.1 (List.forall_mem_cons.1 hg).2
    obtain ⟨hk, hl⟩ := List.forall_mem_append.1 hkl
    exact h.apply (h.apply (h.map _ (ihg hg)) (ihk hk)) (ihl hl)
  | fail => exact hg .fail (Grammar.mem_parts_self _)
  | character k => exact h.map _ (hg (.character k) (Grammar.mem_parts_self _))
  | skip n => exact h.map _ (hg (.skip n) (Grammar.mem_parts_self _))
  | peek => exact h.map _ (hg .peek (Grammar.mem_parts_self _))
  | atEnd => exact h.map _ (hg .atEnd (Grammar.mem_parts_self _))
  | remaining => exact h.map _ (hg .remaining (Grammar.mem_parts_self _))
  | position => exact h.map _ (hg .position (Grammar.mem_parts_self _))
  | rewind => exact h.map _ (hg .rewind (Grammar.mem_parts_self _))
  | restart => exact h.map _ (hg .restart (Grammar.mem_parts_self _))
  | jumpTo t => exact h.map _ (hg (.jumpTo t) (Grammar.mem_parts_self _))

theorem entry (h : Closed P) (hd : P _ (ofClass .asciiDigit))
    (hs : P _ (ofClass .identifierStart)) (hc : P _ (ofClass .identifierContinue))
    (hstar : P _ (char '*')) (hequal : P _ (char '=')) (e : Catalogue.Entry) : P _ e.parser := by
  have hn := h.integer hd
  have hi := h.identifier hs hc
  cases e with
  | digits => exact h.map _ (h.many hd)
  | integer => exact h.map _ hn
  | identifier => exact h.map _ hi
  | multiplication =>
    exact h.map _ (h.filterMap _ (h.apply (h.apply (h.map _ hn) hstar) hn))
  | assignment => exact h.map _ (h.map _ (h.andThen (h.andThen hi hequal) hn))

end Closed

end Parser

end Munch
