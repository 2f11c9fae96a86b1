import Munch.Proofs.Movement

namespace Munch

namespace Parser

variable {α β : Type}

/-- Asked on `s` and then on each stream that it leaves, the parser moves forward each time until it
has left `t`; a step is a value and the stream left with it. -/
inductive Advances (p : Parser α) : Stream → List (α × Stream) → Stream → Prop where
  | refl (s : Stream) : Advances p s [] s
  | step {s t u : Stream} {a : α} {steps : List (α × Stream)} :
    p.Yields s a t → s.offset < t.offset → Advances p t steps u → Advances p s ((a, t) :: steps) u

theorem Repeats.exists_advances {p : Parser α} {s t : Stream} {as : List α}
    (h : p.Repeats s as t) : ∃ steps, p.Advances s steps t ∧ steps.map Prod.fst = as := by
  induction h with
  | refused => exact ⟨[], .refl _, rfl⟩
  | stuck => exact ⟨[], .refl _, rfl⟩
  | @step s t u a as ha ht _ ih =>
    obtain ⟨steps, hs, he⟩ := ih
    exact ⟨(a, t) :: steps, .step ha ht hs, by rw [List.map_cons, he]⟩

theorem Advances.offset_add_length_le {p : Parser α} {s t : Stream} {steps : List (α × Stream)}
    (h : p.Advances s steps t) : s.offset + steps.length ≤ t.offset := by
  induction h with
  | refl => exact Nat.le_refl _
  | step _ ht _ ih =>
    rw [List.length_cons]
    omega

theorem Advances.pairwise {p : Parser α} {s t : Stream} {steps : List (α × Stream)}
    (h : p.Advances s steps t) :
    (s :: steps.map Prod.snd).Pairwise fun x y => x.offset < y.offset := by
  induction h with
  | refl => exact List.pairwise_singleton _ _
  | step _ ht _ ih =>
    refine List.pairwise_cons.2 ⟨fun r hr => ?_, ih⟩
    rcases List.mem_cons.1 hr with rfl | hr
    · exact ht
    · exact Nat.lt_trans ht ((List.pairwise_cons.1 ih).1 r hr)

theorem Advances.mem {p : Parser α} {s t : Stream} {steps : List (α × Stream)}
    (h : p.Advances s steps t) : t ∈ s :: steps.map Prod.snd := by
  induction h with
  | refl => exact List.mem_cons_self
  | step _ _ _ ih => exact List.mem_cons_of_mem _ ih

theorem Advances.invariant {I : Stream → Prop} {p : Parser α}
    (hp : p.Moves fun s t => I s → I t) {s t : Stream} {steps : List (α × Stream)}
    (h : p.Advances s steps t) (hs : I s) : ∀ r ∈ s :: steps.map Prod.snd, I r := by
  induction h with
  | refl =>
    intro r hr
    rw [List.mem_singleton.1 hr]
    exact hs
  | step ha _ _ ih =>
    intro r hr
    rcases List.mem_cons.1 hr with rfl | hr
    · exact hs
    · exact ih (hp.of_yields ha hs) r hr

theorem Advances.map {p : Parser α} {s t : Stream} {steps : List (α × Stream)}
    (h : p.Advances s steps t) (f : α → β) :
    (p.map f).Advances s (steps.map (Prod.map f id)) t := by
  induction h with
  | refl => exact .refl _
  | step ha ht _ ih => exact .step (yields_map_iff.2 ⟨_, ha, rfl⟩) ht ih

/-- The parser with a guard: it never replies on a stream that is not allowed, nor where it would
leave one. -/
def guarded (allowed : Stream → Bool) (p : Parser α) : Parser α where
  reply n s :=
    if allowed s then
      (p.reply n s).bind fun a t => if allowed t then .matched a t else .unfinished
    else .unfinished
  settled {n m s} hnm h := by
    split
    · rename_i hs
      rw [if_pos hs] at h
      rw [p.settled hnm fun hp => h (by rw [hp]; rfl)]
    · rfl

def AgreesOn (s : Stream) (q p : Parser α) : Prop :=
  ∀ n, q.reply n s = p.reply n s

theorem AgreesOn.refl (s : Stream) (p : Parser α) : AgreesOn s p p :=
  fun _ => rfl

theorem AgreesOn.guarded {allowed : Stream → Bool} {s : Stream} {q p : Parser α}
    (h : AgreesOn s q p) (hs : allowed s = true)
    (hleft : ∀ a t, p.Yields s a t → allowed t = true) : AgreesOn s (q.guarded allowed) p := by
  intro n
  simp only [Parser.guarded, if_pos hs, h n]
  cases hr : p.reply n s with
  | noMatch => rfl
  | matched a t => exact if_pos (hleft a t ⟨n, hr⟩)
  | unfinished => rfl

theorem AgreesOn.map {s : Stream} {q p : Parser α} (h : AgreesOn s q p) (f : α → β) :
    AgreesOn s (q.map f) (p.map f) := by
  intro n
  simp only [Parser.map, h n]

theorem AgreesOn.filterMap {s : Stream} {q p : Parser α} (h : AgreesOn s q p)
    (f : α → Option β) : AgreesOn s (q.filterMap f) (p.filterMap f) := by
  intro n
  simp only [Parser.filterMap, h n]

theorem AgreesOn.andThen {s : Stream} {q p : Parser α} {q' p' : Parser β} (h : AgreesOn s q p)
    (h' : ∀ a t, p.Yields s a t → AgreesOn t q' p') :
    AgreesOn s (q.andThen q') (p.andThen p') := by
  intro n
  simp only [Parser.andThen, h n]
  cases hr : p.reply n s with
  | noMatch => rfl
  | matched a t => rw [Reply.bind_matched, Reply.bind_matched, h' a t ⟨n, hr⟩ n]
  | unfinished => rfl

theorem AgreesOn.apply {s : Stream} {q p : Parser (α → β)} {q' p' : Parser α}
    (h : AgreesOn s q p) (h' : ∀ f t, p.Yields s f t → AgreesOn t q' p') :
    AgreesOn s (q.apply q') (p.apply p') :=
  (h.andThen h').map _

theorem repeatWhile_congr {p q : Parser α} {n m : Nat} {s : Stream}
    (h : ∀ steps t, p.Advances s steps t → AgreesOn t q p) :
    repeatWhile (q.reply m) n s = repeatWhile (p.reply m) n s := by
  induction n generalizing s with
  | zero => rfl
  | succ n ih =>
    rw [repeatWhile, repeatWhile, h [] s (.refl s) m]
    cases hr : p.reply m s with
    | noMatch => rfl
    | unfinished => rfl
    | matched a t =>
      by_cases ht : t.offset ≤ s.offset
      · simp only [if_pos ht]
      · have hrest : ∀ steps u, p.Advances t steps u → AgreesOn u q p := by
          intro steps u hu
          exact h _ u (.step ⟨m, hr⟩ (Nat.lt_of_not_le ht) hu)
        simp only [if_neg ht, ih hrest]

theorem AgreesOn.many {s : Stream} {q p : Parser α}
    (h : ∀ steps t, p.Advances s steps t → AgreesOn t q p) : AgreesOn s q.many p.many :=
  fun _ => repeatWhile_congr h

end Parser

namespace Grammar

variable {ν : Type}

/-- The grammars that a grammar asks one after the other, each on the stream that the one before it
has left; a repetition has none. -/
def operands : Grammar ν → List (Grammar ν)
  | identifier => [character .identifierStart, many (character .identifierContinue)]
  | integer => [many (character .asciiDigit)]
  | map _ g | filterMap _ g | apply _ g => [g]
  | andThen g h | applyOperator g h | applyBinary _ g h => [g, h]
  | applyTernary _ g h k => [g, h, k]
  | _ => []

theorem operands_subset_parts (g : Grammar ν) : g.operands ⊆ g.parts := by
  intro h hh
  cases g <;> grind [operands, parts, mem_parts_self]

inductive Passes : List (Grammar Empty) → Stream → Stream → Prop where
  | nil (s : Stream) : Passes [] s s
  | cons {g : Grammar Empty} {gs : List (Grammar Empty)} {s t u : Stream} {v : Value} :
    g.parser.Yields s v t → Passes gs t u → Passes (g :: gs) s u

/-- While it runs on `s`, the grammar asks one of its own parts on `t`. -/
inductive Calls : Grammar Empty → Stream → Grammar Empty → Stream → Prop where
  | operand {g h : Grammar Empty} {before after : List (Grammar Empty)} {s t : Stream} :
    g.operands = before ++ h :: after → Passes before s t → Calls g s h t
  | round {g : Grammar Empty} {steps : List (Value × Stream)} {s t : Stream} :
    g.parser.Advances s steps t → Calls (many g) s g t

/-- While `g` runs on `s`, the grammar `h` is asked on `t`. -/
inductive Asks (g : Grammar Empty) (s : Stream) : Grammar Empty → Stream → Prop where
  | self : Asks g s g s
  | call {h k : Grammar Empty} {t u : Stream} : Asks g s h t → Calls h t k u → Asks g s k u

theorem Passes.invariant {I : Stream → Prop} {gs : List (Grammar Empty)} {s t : Stream}
    (h : Passes gs s t) (hgs : ∀ g ∈ gs, g.parser.Moves fun s t => I s → I t) (hs : I s) :
    I t := by
  induction h with
  | nil => exact hs
  | cons hv _ ih =>
    obtain ⟨hg, hgs⟩ := List.forall_mem_cons.1 hgs
    exact ih hgs (hg.of_yields hv hs)

theorem Asks.of_calls {g h k : Grammar Empty} {s t u : Stream} (hc : Calls g s h t)
    (ha : Asks h t k u) : Asks g s k u := by
  induction ha with
  | self => exact .call .self hc
  | call _ hk ih => exact .call ih hk

theorem Calls.mem_parts {g h : Grammar Empty} {s t : Stream} (hc : Calls g s h t) :
    h ∈ g.parts := by
  cases hc with
  | operand ho =>
    apply operands_subset_parts
    rw [ho]
    exact List.mem_append_right _ List.mem_cons_self
  | round => exact List.mem_cons_of_mem _ (mem_parts_self h)

theorem Calls.invariant {I : Stream → Prop} {g h : Grammar Empty} {s t : Stream}
    (hc : Calls g s h t) (hg : ∀ k ∈ g.parts, k.parser.Moves fun s t => I s → I t) (hs : I s) :
    I t := by
  cases hc with
  | operand ho hp =>
    refine hp.invariant (fun k hk => hg k (operands_subset_parts _ ?_)) hs
    rw [ho]
    exact List.mem_append_left _ hk
  | round ha =>
    exact ha.invariant (hg h (List.mem_cons_of_mem _ (mem_parts_self h))) hs t ha.mem

theorem Asks.mem_parts {g h : Grammar Empty} {s t : Stream} (ha : Asks g s h t) :
    h ∈ g.parts := by
  induction ha with
  | self => exact mem_parts_self g
  | call _ hc ih => exact parts_subset ih hc.mem_parts

theorem Asks.invariant {I : Stream → Prop} {g h : Grammar Empty} {s t : Stream}
    (ha : Asks g s h t) (hg : ∀ k ∈ g.parts, k.parser.Moves fun s t => I s → I t) (hs : I s) :
    I t := by
  induction ha with
  | self => exact hs
  | call ha hc ih => exact hc.invariant (fun k hk => hg k (parts_subset ha.mem_parts hk)) ih

/-- The parser of a grammar with a guard around each parser that it asks. -/
def guardedInside (allowed : Stream → Bool) : Grammar Empty → Parser Value
  | identifier =>
    ((((Parser.ofClass .identifierStart).guarded allowed).andThen
      (((Parser.ofClass .identifierContinue).guarded allowed).many.guarded allowed)).map
        fun (c, more) => c :: more).map .text
  | integer =>
    (((Parser.digit.guarded allowed).many.guarded allowed).filterMap Parser.wordOfDigits).map .int
  | map f g => ((g.guardedInside allowed).guarded allowed).map f.apply
  | filterMap f g => ((g.guardedInside allowed).guarded allowed).filterMap f.apply
  | andThen g h =>
    (((g.guardedInside allowed).guarded allowed).andThen
      ((h.guardedInside allowed).guarded allowed)).map fun (a, b) => .pair a b
  | many g => ((g.guardedInside allowed).guarded allowed).many.map .list
  | apply f g => (Parser.pure f.apply).apply ((g.guardedInside allowed).guarded allowed)
  | applyOperator op g =>
    (((op.guardedInside allowed).guarded allowed).map fun v => (Transform.ofOperator v).apply).apply
      ((g.guardedInside allowed).guarded allowed)
  | applyBinary f g h =>
    (((g.guardedInside allowed).guarded allowed).map f.apply).apply
      ((h.guardedInside allowed).guarded allowed)
  | applyTernary f g h k =>
    ((((g.guardedInside allowed).guarded allowed).map f.apply).apply
      ((h.guardedInside allowed).guarded allowed)).apply ((k.guardedInside allowed).guarded allowed)
  | g => g.parser

/-- While the grammar runs on `s`, all streams that a part is asked on or leaves are allowed. -/
def StaysIn (allowed : Stream → Bool) (g : Grammar Empty) (s : Stream) : Prop :=
  ∀ h t, g.Asks s h t → allowed t = true ∧ ∀ v u, h.parser.Yields t v u → allowed u = true

namespace StaysIn

variable {allowed : Stream → Bool} {g h k : Grammar Empty} {s t : Stream}

theorem call (hg : g.StaysIn allowed s) (hc : Calls g s h t) : h.StaysIn allowed t := by
  intro k u hk
  exact hg k u (.of_calls hc hk)

theorem operand (hg : g.StaysIn allowed s) (before : List (Grammar Empty))
    {after : List (Grammar Empty)} (ho : g.operands = before ++ h :: after)
    (hp : Passes before s t) : h.StaysIn allowed t :=
  hg.call (.operand ho hp)

theorem agreesOn_guard (hg : g.StaysIn allowed s) {q : Parser Value}
    (hq : Parser.AgreesOn s q g.parser) : Parser.AgreesOn s (q.guarded allowed) g.parser := by
  obtain ⟨hs, hleft⟩ := hg g s .self
  exact hq.guarded hs hleft

theorem agreesOn_ofClass {k : CharClass} (hk : (character k).StaysIn allowed s) :
    Parser.AgreesOn s ((Parser.ofClass k).guarded allowed) (Parser.ofClass k) := by
  obtain ⟨hs, hleft⟩ := hk _ s .self
  refine (Parser.AgreesOn.refl s _).guarded hs ?_
  intro c t hc
  exact hleft _ t (Parser.yields_map_iff.2 ⟨c, hc, rfl⟩)

theorem agreesOn_many_ofClass {k : CharClass} (hk : (many (character k)).StaysIn allowed s) :
    Parser.AgreesOn s (((Parser.ofClass k).guarded allowed).many.guarded allowed)
      (Parser.ofClass k).many := by
  obtain ⟨hs, hleft⟩ := hk _ s .self
  refine (Parser.AgreesOn.many ?_).guarded hs ?_
  · intro steps t ha
    have hround : (character k).StaysIn allowed t := hk.call (.round (ha.map Value.char))
    exact hround.agreesOn_ofClass
  · intro cs t hcs
    have hvs : ((Parser.ofClass k).map Value.char).many.Yields s (cs.map .char) t := by
      rw [Parser.map_many]
      exact Parser.yields_map_iff.2 ⟨cs, hcs, rfl⟩
    exact hleft _ t (Parser.yields_map_iff.2 ⟨_, hvs, rfl⟩)

theorem agreesOn_guardedInside (hg : g.StaysIn allowed s) :
    Parser.AgreesOn s (g.guardedInside allowed) g.parser := by
  induction g generalizing s with
  | identifier =>
    have hfirst := hg.operand [] rfl (.nil s)
    refine .map (.map (.andThen hfirst.agreesOn_ofClass ?_) _) _
    intro c t hc
    have hv : (character .identifierStart).parser.Yields s (.char c) t :=
      Parser.yields_map_iff.2 ⟨c, hc, rfl⟩
    have hmore := hg.operand [_] rfl (.cons hv (.nil t))
    exact hmore.agreesOn_many_ofClass
  | integer =>
    have hdigits := hg.operand [] rfl (.nil s)
    exact .map (.filterMap hdigits.agreesOn_many_ofClass _) _
  | map f g ih =>
    have hbody := hg.operand [] rfl (.nil s)
    exact .map (hbody.agreesOn_guard (ih hbody)) _
  | filterMap f g ih =>
    have hbody := hg.operand [] rfl (.nil s)
    exact .filterMap (hbody.agreesOn_guard (ih hbody)) _
  | many g ih =>
    refine .map (.many ?_) _
    intro steps t ha
    have hround := hg.call (.round ha)
    exact hround.agreesOn_guard (ih hround)
  | andThen g k ihg ihk =>
    have hfirst := hg.operand [] rfl (.nil s)
    refine .map (.andThen (hfirst.agreesOn_guard (ihg hfirst)) ?_) _
    intro v t hv
    have hsecond := hg.operand [g] rfl (.cons hv (.nil t))
    exact hsecond.agreesOn_guard (ihk hsecond)
  | apply f g ih =>
    refine .apply (.refl s _) ?_
    intro φ t hφ
    obtain ⟨_, rfl⟩ := Parser.yields_pure_iff.1 hφ
    have hbody := hg.operand [] rfl (.nil s)
    exact hbody.agreesOn_guard (ih hbody)
  | applyOperator op g ihop ihg =>
    have hfirst := hg.operand [] rfl (.nil s)
    refine .apply (.map (hfirst.agreesOn_guard (ihop hfirst)) _) ?_
    intro φ t hφ
    obtain ⟨v, hv, _⟩ := Parser.yields_map_iff.1 hφ
    have hsecond := hg.operand [op] rfl (.cons hv (.nil t))
    exact hsecond.agreesOn_guard (ihg hsecond)
  | applyBinary f g k ihg ihk =>
    have hfirst := hg.operand [] rfl (.nil s)
    refine .apply (.map (hfirst.agreesOn_guard (ihg hfirst)) _) ?_
    intro φ t hφ
    obtain ⟨v, hv, _⟩ := Parser.yields_map_iff.1 hφ
    have hsecond := hg.operand [g] rfl (.cons hv (.nil t))
    exact hsecond.agreesOn_guard (ihk hsecond)
  | applyTernary f g k l ihg ihk ihl =>
    have hfirst := hg.operand [] rfl (.nil s)
    refine .apply (.apply (.map (hfirst.agreesOn_guard (ihg hfirst)) _) ?_) ?_
    · intro φ t hφ
      obtain ⟨v, hv, _⟩ := Parser.yields_map_iff.1 hφ
      have hsecond := hg.operand [g] rfl (.cons hv (.nil t))
      exact hsecond.agreesOn_guard (ihk hsecond)
    · intro ψ u hψ
      obtain ⟨φ, w, t, hφ, hw, _⟩ := Parser.yields_apply_iff.1 hψ
      obtain ⟨v, hv, _⟩ := Parser.yields_map_iff.1 hφ
      have hthird := hg.operand [g, k] rfl (.cons hv (.cons hw (.nil u)))
      exact hthird.agreesOn_guard (ihl hthird)
  | _ => exact .refl s _

end StaysIn

end Grammar

end Munch
