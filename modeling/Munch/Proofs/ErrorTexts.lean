import Mathlib.Data.List.Infix
import Munch.Parser.Error
import Munch.Proofs.Runs

namespace Munch

namespace Text

def hexDigit? (c : Char) : Option Nat :=
  (List.range 16).find? fun d => d.digitChar == c

/-- How far a quoted text has been read, with the characters found so far. -/
inductive Unquoting where
  | start
  | inside (found : Text)
  | backslash (found : Text)
  /-- An escape by number, before its opening brace. -/
  | brace (found : Text)
  | digits (found : Text) (n : Nat)
  | closed (found : Text)

namespace Unquoting

def next? : Unquoting → Char → Option Unquoting
  | start, c => if c = '\x22' then some (inside []) else none
  | inside t, c =>
    if c = '\x22' then some (closed t)
    else if c = '\\' then some (backslash t)
    else some (inside (t ++ [c]))
  | backslash t, c =>
    if c = 'u' then some (brace t) else (escapeNames.lookup c).map fun d => inside (t ++ [d])
  | brace t, c => if c = '\x7b' then some (digits t 0) else none
  | digits t n, c =>
    if c = '\x7d' then some (inside (t ++ [.ofNat n]))
    else (hexDigit? c).map fun d => digits t (16 * n + d)
  | closed _, _ => none

def result? : Unquoting → Option Text
  | closed t => some t
  | _ => none

def Leads (s : Unquoting) (t : Text) (s' : Unquoting) : Prop :=
  t.foldlM next? s = some s'

variable {s s' s'' : Unquoting} {t u : Text} {c : Char}

theorem Leads.append (h : s.Leads t s') (k : s'.Leads u s'') : s.Leads (t ++ u) s'' := by
  rw [Leads] at h k ⊢
  rw [List.foldlM_append, h]
  exact k

theorem leads_singleton (h : s.next? c = some s') : s.Leads [c] s' := by
  rw [Leads, List.foldlM_cons, h]
  rfl

theorem leads_digitChar (found : Text) (n : Nat) {d : Nat} (hd : d < 16) :
    (digits found n).Leads [d.digitChar] (digits found (16 * n + d)) := by
  have hbrace : ∀ d < 16, Nat.digitChar d ≠ '\x7d' := by decide
  have hdigit : ∀ d < 16, hexDigit? (Nat.digitChar d) = some d := by decide
  apply leads_singleton
  rw [next?, if_neg (hbrace d hd), hdigit d hd, Option.map_some]

theorem leads_hexOfNat (found : Text) (n : Nat) :
    (digits found 0).Leads (hexOfNat n) (digits found n) := by
  induction n using Nat.strongRecOn with
  | ind n ih =>
    rw [hexOfNat, Nat.toDigits_eq_if (by decide)]
    split
    · rename_i hn
      have hlast := leads_digitChar found 0 hn
      rwa [Nat.mul_zero, Nat.zero_add] at hlast
    · -- The numeral of `n / 16`, with one more digit.
      have hmore := ih (n / 16) (by omega)
      have hlast := leads_digitChar found (n / 16) (Nat.mod_lt n (by decide : 0 < 16))
      rw [Nat.div_add_mod] at hlast
      exact hmore.append hlast

theorem leads_escape (found : Text) (c : Char) :
    (inside found).Leads (escape c) (inside (found ++ [c])) := by
  rcases escape_cases c with ⟨name, hname, h⟩ | h | ⟨hne, _, h⟩
  · have hnames : ∀ p ∈ escapeNames, p.1 ≠ 'u' ∧ escapeNames.lookup p.1 = some p.2 := by decide
    obtain ⟨hu, hlookup⟩ := hnames _ hname
    have hbackslash : (inside found).Leads ['\\'] (backslash found) := leads_singleton rfl
    have hc : (backslash found).Leads [name] (inside (found ++ [c])) := by
      apply leads_singleton
      rw [next?, if_neg hu, hlookup, Option.map_some]
    rw [h]
    exact hbackslash.append hc
  · have hopen : (inside found).Leads ['\\', 'u', '\x7b'] (digits found 0) := rfl
    have hclose : (digits found c.toNat).Leads ['\x7d'] (inside (found ++ [.ofNat c.toNat])) :=
      leads_singleton rfl
    rw [Char.ofNat_toNat] at hclose
    rw [h]
    exact (hopen.append (leads_hexOfNat found c.toNat)).append hclose
  · have hquote : c ≠ '\x22' := hne ('\x22', '\x22') (by decide)
    have hbackslash : c ≠ '\\' := hne ('\\', '\\') (by decide)
    rw [h]
    apply leads_singleton
    rw [next?, if_neg hquote, if_neg hbackslash]

theorem leads_flatMap_escape (found t : Text) :
    (inside found).Leads (t.flatMap escape) (inside (found ++ t)) := by
  induction t generalizing found with
  | nil =>
    rw [List.append_nil]
    rfl
  | cons c t ih =>
    have hmore := ih (found ++ [c])
    rw [← List.append_cons] at hmore
    exact (leads_escape found c).append hmore

theorem leads_quote (t : Text) : start.Leads (quote t) (closed t) := by
  have hopen : start.Leads ['\x22'] (inside []) := leads_singleton rfl
  have hclose : (inside t).Leads ['\x22'] (closed t) := leads_singleton rfl
  exact hopen.append ((leads_flatMap_escape [] t).append hclose)

end Unquoting

/-- The text that a quoted text stands for. -/
def unquote? (t : Text) : Option Text :=
  (t.foldlM Unquoting.next? .start).bind Unquoting.result?

theorem unquote?_quote (t : Text) : unquote? (quote t) = some t := by
  have h := Unquoting.leads_quote t
  rw [Unquoting.Leads] at h
  rw [unquote?, h]
  rfl

end Text

namespace ParseError

def read? (t : Text) : Option ParseError :=
  match t.dropPrefix? "unconsumed input at ".toList with
  | none => if t = noMatch.describe then some noMatch else none
  | some numbered => do
    let quoted ← (numbered.dropWhile Char.isDigit).dropPrefix? ": ".toList
    let remainder ← Text.unquote? quoted
    return incomplete (Text.decimalValue (numbered.takeWhile Char.isDigit)) remainder

theorem read?_describe (e : ParseError) : read? e.describe = some e := by
  cases e with
  | noMatch => decide
  | incomplete n t =>
    have hdescribe : (incomplete n t).describe = "unconsumed input at ".toList ++
        (Text.ofNat n ++ (": ".toList ++ Text.quote t)) := by
      rw [describe, List.append_assoc, List.append_assoc]
      rfl
    have hcolon : ∀ c ∈ (": ".toList ++ Text.quote t).head?, c.isDigit = false := by
      intro c hc
      cases hc
      rfl
    have hrun : Text.IsRun Char.isDigit (Text.ofNat n) (": ".toList ++ Text.quote t) :=
      ⟨fun _ hc => Text.isDigit_of_mem_ofNat hc, hcolon⟩
    have hnumbered := List.dropPrefix?_append_of_beq
      (Text.ofNat n ++ (": ".toList ++ Text.quote t)) (BEq.refl "unconsumed input at ".toList)
    have hquoted := List.dropPrefix?_append_of_beq (Text.quote t) (BEq.refl ": ".toList)
    rw [hdescribe, read?, hnumbered]
    simp only [hrun.dropWhile_append, hrun.takeWhile_append, hquoted, Text.unquote?_quote,
      Text.decimalValue_ofNat, Option.bind_eq_bind, Option.bind_some]
    rfl

/-- Two errors are described alike only if they are the same error, which can be read off its text.
-/
theorem describe_identifies (a b : ParseError) :
    (a.describe = b.describe ↔ a = b) ∧ read? a.describe = some a := by
  refine ⟨⟨?_, congrArg describe⟩, read?_describe a⟩
  intro h
  have hread := read?_describe b
  rw [← h, read?_describe a] at hread
  exact Option.some.inj hread

end ParseError

end Munch
