import Munch.Grammar.Basic
import Munch.Parser.Lemmas
import Munch.Proofs.Sessions

namespace Munch

namespace Parser

variable {α β γ δ : Type}

theorem pure_andThen (a : α) (q : Parser β) : (Parser.pure a).andThen q = q.map (a, ·) := rfl

theorem andThen_pure (p : Parser α) (b : β) : p.andThen (.pure b) = p.map (·, b) := by
  refine ext fun n s => ?_
  simp only [andThen, Parser.map]
  cases p.reply n s <;> rfl

theorem andThen_assoc (p : Parser α) (q : Parser β) (r : Parser γ) :
    p.andThen (q.andThen r) =
      ((p.andThen q).andThen r).map fun x => (x.1.1, (x.1.2, x.2)) := by
  refine ext fun n s => ?_
  simp only [andThen, Parser.map]
  cases p.reply n s with
  | noMatch => rfl
  | unfinished => rfl
  | matched a t =>
    simp only [Reply.bind_matched]
    cases q.reply n t with
    | noMatch => rfl
    | unfinished => rfl
    | matched b u =>
      simp only [Reply.bind_matched, Reply.map_matched]
      cases r.reply n u <;> rfl

theorem map_apply (f : α → β → γ) (p : Parser α) (q : Parser β) :
    (p.map f).apply q = (p.andThen q).map (Function.uncurry f) :=
  calc
    (p.map f).apply q = ((p.map f).andThen (q.map id)).map fun x => x.1 x.2 := by
      rw [map_id, Parser.apply]
    _ = ((p.andThen q).map (Prod.map f id)).map fun x => x.1 x.2 := by rw [andThen_map_map]
    _ = (p.andThen q).map (Function.uncurry f) := map_map _ _ _

theorem map_apply_apply (f : α → β → γ → δ) (p : Parser α) (q : Parser β) (r : Parser γ) :
    ((p.map f).apply q).apply r =
      ((p.andThen q).andThen r).map (Function.uncurry (Function.uncurry f)) := by
  rw [map_apply, map_apply]

/-- A parser applies a function to what its arguments yield as a session does with two calls. -/
theorem yields_curry_apply_iff {f : α × β → γ} {p : Parser α} {q : Parser β} {s t : Stream}
    {c : γ} :
    ((p.map (Function.curry f)).apply q).Yields s c t ↔ ∃ a b u, p.Yields s a u ∧ q.Yields u b t ∧
      (Curried.ofPair f).answerAfter [(0, .inl a)] 1 (.inr b) = .value (some c) := by
  have hanswer (a : α) (b : β) : (Curried.ofPair f).answerAfter [(0, .inl a)] 1 (.inr b) =
      .value (some (f (a, b))) := rfl
  simp only [map_apply, Function.uncurry_curry, yields_map_iff, yields_andThen_iff, Prod.exists,
    hanswer, Curried.Answer.value.injEq, Option.some.injEq]
  constructor
  · intro h
    obtain ⟨a, b, ⟨u, hp, hq⟩, hc⟩ := h
    exact ⟨a, b, u, hp, hq, hc⟩
  · intro h
    obtain ⟨a, b, u, hp, hq, hc⟩ := h
    exact ⟨a, b, ⟨u, hp, hq⟩, hc⟩

theorem yields_curry_apply_apply_iff {f : (α × β) × γ → δ} {p : Parser α} {q : Parser β}
    {r : Parser γ} {s t : Stream} {d : δ} :
    (((p.map (Function.curry (Function.curry f))).apply q).apply r).Yields s d t ↔
      ∃ a b c u v, p.Yields s a u ∧ q.Yields u b v ∧ r.Yields v c t ∧
        (Curried.ofTriple f).answerAfter [(0, .inl a), (1, .inr (.inl b))] 2 (.inr (.inr c)) =
          .value (some d) := by
  have hanswer (a : α) (b : β) (c : γ) : (Curried.ofTriple f).answerAfter
      [(0, .inl a), (1, .inr (.inl b))] 2 (.inr (.inr c)) = .value (some (f ((a, b), c))) := rfl
  simp only [yields_map_apply_apply_iff, Function.curry_apply, hanswer,
    Curried.Answer.value.injEq, Option.some.injEq]

theorem pure_apply (f : α → β) (p : Parser α) : (Parser.pure f).apply p = p.map f := by
  rw [Parser.apply, pure_andThen, map_map]

theorem apply_pure (p : Parser (α → β)) (a : α) : p.apply (.pure a) = p.map fun f => f a := by
  rw [Parser.apply, andThen_pure, map_map]

theorem apply_apply (p : Parser (β → γ)) (q : Parser (α → β)) (r : Parser α) :
    p.apply (q.apply r) = ((p.map Function.comp).apply q).apply r :=
  calc
    p.apply (q.apply r) =
        ((p.map id).andThen ((q.andThen r).map fun x => x.1 x.2)).map fun x => x.1 x.2 := by
      rw [map_id, Parser.apply, Parser.apply]
    _ = ((p.andThen q).andThen r).map fun x => x.1.1 (x.1.2 x.2) := by
      rw [andThen_map_map, map_map, andThen_assoc, map_map]
      rfl
    _ = ((p.map Function.comp).apply q).apply r := (map_apply_apply Function.comp p q r).symm

instance : LawfulApplicative Parser where
  map_const := rfl
  id_map := map_id
  comp_map f g p := (map_map f g p).symm
  seqLeft_eq _ _ := rfl
  seqRight_eq _ _ := rfl
  pure_seq := pure_apply
  map_pure _ _ := rfl
  seq_pure := apply_pure
  seq_assoc r q p := apply_apply p q r

/-- Applying a function to one parser after the other is matching them in sequence and giving it all
their values, and application obeys the applicative laws. -/
theorem application_is_sequence (f : α × β → γ) (g : (α × β) × γ → δ) (p : Parser α) (q : Parser β)
    (r : Parser γ) (u : Parser (β → γ)) (v : Parser (α → β)) (h : α → β) (a : α)
    (k l m : Grammar Empty) (binary : Binary) (ternary : Ternary) :
    ((p.map (Function.curry f)).apply q = (p.andThen q).map f ∧
      Function.curry f <$> p <*> q = (p.andThen q).map f) ∧
    (((p.map (Function.curry (Function.curry g))).apply q).apply r =
        ((p.andThen q).andThen r).map g ∧
      Function.curry (Function.curry g) <$> p <*> q <*> r = ((p.andThen q).andThen r).map g) ∧
    pure id <*> p = p ∧
    (pure h <*> pure a : Parser β) = pure (h a) ∧
    v <*> pure a = (fun h => h a) <$> v ∧
    pure Function.comp <*> u <*> v <*> p = u <*> (v <*> p) ∧
    Function.comp <$> u <*> v <*> p = u <*> (v <*> p) ∧
    (Grammar.applyBinary binary k l).parser =
      (k.parser.andThen l.parser).map (Function.uncurry binary.apply) ∧
    (Grammar.applyTernary ternary k l m).parser =
      ((k.parser.andThen l.parser).andThen m.parser).map
        (Function.uncurry (Function.uncurry ternary.apply)) := by
  have hbinary : (p.map (Function.curry f)).apply q = (p.andThen q).map f := map_apply _ p q
  have hternary : ((p.map (Function.curry (Function.curry g))).apply q).apply r =
      ((p.andThen q).andThen r).map g := map_apply_apply _ p q r
  refine ⟨⟨hbinary, hbinary⟩, ⟨hternary, hternary⟩, ?_, ?_, ?_, ?_, ?_, ?_, ?_⟩
  · rw [pure_seq, id_map]
  · rw [pure_seq, map_pure]
  · rw [seq_pure]
  · rw [pure_seq, seq_assoc]
  · rw [seq_assoc]
  · exact map_apply _ _ _
  · exact map_apply_apply _ _ _ _

end Parser

end Munch
