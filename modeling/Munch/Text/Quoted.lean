import Munch.Text.Decimal
import Munch.Unicode.Unprintable

namespace Munch.Text

/-- How one character stands in a quoted text. -/
def escape (c : Char) : Text :=
  if c = '\x00' then ['\\', '0']
  else if c = '\t' then ['\\', 't']
  else if c = '\n' then ['\\', 'n']
  else if c = '\r' then ['\\', 'r']
  else if c = '\x22' then ['\\', '\x22']
  else if c = '\\' then ['\\', '\\']
  else if Unicode.isUnprintable c then ['\\', 'u', '\x7b'] ++ hexOfNat c.toNat ++ ['\x7d']
  else [c]

def quote (t : Text) : Text :=
  '\x22' :: (t.flatMap escape ++ ['\x22'])

/-- The characters that are escaped by name, each after its name. -/
def escapeNames : List (Char × Char) :=
  [('0', '\x00'), ('t', '\t'), ('n', '\n'), ('r', '\r'), ('\x22', '\x22'), ('\\', '\\')]

variable {name c : Char}

theorem escape_of_mem_escapeNames (h : (name, c) ∈ escapeNames) : escape c = ['\\', name] := by
  have hnames : ∀ p ∈ escapeNames, escape p.2 = ['\\', p.1] := by decide
  exact hnames (name, c) h

theorem escape_of_unnamed (h : ∀ p ∈ escapeNames, c ≠ p.2) :
    escape c = if Unicode.isUnprintable c then ['\\', 'u', '\x7b'] ++ hexOfNat c.toNat ++ ['\x7d']
      else [c] := by
  simp only [escapeNames, List.forall_mem_cons] at h
  obtain ⟨hnull, htab, hfeed, hreturn, hquote, hbackslash, _⟩ := h
  rw [escape, if_neg hnull, if_neg htab, if_neg hfeed, if_neg hreturn, if_neg hquote,
    if_neg hbackslash]

theorem escape_cases (c : Char) :
    (∃ name, (name, c) ∈ escapeNames ∧ escape c = ['\\', name]) ∨
    escape c = ['\\', 'u', '\x7b'] ++ hexOfNat c.toNat ++ ['\x7d'] ∨
    ((∀ p ∈ escapeNames, c ≠ p.2) ∧ Unicode.isUnprintable c = false ∧ escape c = [c]) := by
  by_cases hnamed : ∃ name, (name, c) ∈ escapeNames
  · obtain ⟨name, h⟩ := hnamed
    exact .inl ⟨name, h, escape_of_mem_escapeNames h⟩
  · have hne : ∀ p ∈ escapeNames, c ≠ p.2 := by
      intro p hp hc
      exact hnamed ⟨p.1, by rwa [hc]⟩
    have h := escape_of_unnamed hne
    cases hu : Unicode.isUnprintable c with
    | true =>
      rw [hu, if_pos rfl] at h
      exact .inr (.inl h)
    | false =>
      rw [hu, if_neg Bool.false_ne_true] at h
      exact .inr (.inr ⟨hne, rfl, h⟩)

end Munch.Text
