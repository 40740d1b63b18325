import Parsing.Proofs.Result
import Parsing.Proofs.Sequencing

/-!
# Layers on a parser

Values are mapped and validated, errors are rewritten and replaced, and this in any order and any number of
times. All of it comes to three layers: one that rewrites the errors of the parser, one that validates its
values, and one that maps what is valid.
-/

namespace Parsing

variable {F : ErrorFamily} {ι α β γ ν : Type}

/-! ## One layer through another -/

namespace Outcome

theorem mapError_mapError (t t' : ParseError F → ParseError F) (o : Outcome F ι α) :
    (o.mapError t).mapError t' = o.mapError (t' ∘ t) := by
  cases o <;> rfl

theorem mapError_map (g : α → β) (t : ParseError F → ParseError F) (o : Outcome F ι α) :
    (o.map g).mapError t = (o.mapError t).map g := by
  cases o <;> rfl

theorem validate_map (g : α → β) (check : β → Option (ParseError F)) (o : Outcome F ι α) :
    (o.map g).validate check = (o.validate fun v => check (g v)).map g := by
  cases o with
  | success v r => cases h : check (g v) <;> simp only [Outcome.map, Outcome.validate, h]
  | failure e => rfl

theorem mapError_validate (check : α → Option (ParseError F)) (t : ParseError F → ParseError F)
    (o : Outcome F ι α) :
    (o.validate check).mapError t = (o.mapError t).validate fun v => (check v).map t := by
  cases o with
  | success v r => cases h : check v <;> simp only [Outcome.mapError, Outcome.validate, Option.map, h]
  | failure e => rfl

theorem validate_validate (check check' : α → Option (ParseError F)) (o : Outcome F ι α) :
    (o.validate check).validate check' = o.validate fun v => (check v).or (check' v) := by
  cases o with
  | success v r => cases h : check v <;> simp only [Outcome.validate, Option.or, h]
  | failure e => rfl

theorem validate_none (o : Outcome F ι α) : o.validate (fun _ => none) = o := by
  cases o <;> rfl

theorem mapError_id (o : Outcome F ι α) : o.mapError id = o := by
  cases o <;> rfl

end Outcome

theorem Run.mapOutcome_mapOutcome (f : Outcome F ι α → Outcome F ι β) (g : Outcome F ι β → Outcome F ι γ)
    (s : Run F ι α ν) : (s.mapOutcome f).mapOutcome g = s.mapOutcome fun o => g (f o) := by
  obtain ⟨log, result⟩ := s
  cases result <;> rfl

theorem Run.mapOutcome_eq_self {f : Outcome F ι α → Outcome F ι α} (h : ∀ o, f o = o) (s : Run F ι α ν) :
    s.mapOutcome f = s := by
  obtain ⟨log, result⟩ := s
  cases result with
  | error e => rfl
  | ok o => exact congrArg (fun o => (⟨log, .ok o⟩ : Run F ι α ν)) (h o)

namespace Parser

section
variable (p : Parser F ι α ν) (check : α → Option (ParseError F)) (t : ParseError F → ParseError F)

theorem mapError_mapError (t' : ParseError F → ParseError F) :
    (p.mapError t).mapError t' = p.mapError (t' ∘ t) := by
  unfold mapError
  simp only [Run.mapOutcome_mapOutcome, Outcome.mapError_mapError]

theorem mapError_map (g : α → β) : (p.map g).mapError t = (p.mapError t).map g := by
  unfold mapError map
  simp only [Run.mapOutcome_mapOutcome, Outcome.mapError_map]

theorem validate_map (g : α → β) (check : β → Option (ParseError F)) :
    (p.map g).validate check = (p.validate fun v => check (g v)).map g := by
  unfold validate map
  simp only [Run.mapOutcome_mapOutcome, Outcome.validate_map]

theorem mapError_validate :
    (p.validate check).mapError t = (p.mapError t).validate fun v => (check v).map t := by
  unfold mapError validate
  simp only [Run.mapOutcome_mapOutcome, Outcome.mapError_validate]

theorem validate_validate (check' : α → Option (ParseError F)) :
    (p.validate check).validate check' = p.validate fun v => (check v).or (check' v) := by
  unfold validate
  simp only [Run.mapOutcome_mapOutcome, Outcome.validate_validate]

theorem validate_none : (p.validate fun _ => none) = p :=
  eq_of_run fun x => Run.mapOutcome_eq_self Outcome.validate_none (p.run x)

theorem mapError_id : p.mapError id = p :=
  eq_of_run fun x => Run.mapOutcome_eq_self Outcome.mapError_id (p.run x)

theorem orFail_orFail (e e' : ParseError F) : (p.orFail e).orFail e' = p.orFail e' :=
  mapError_mapError p (fun _ => e) fun _ => e'

end

end Parser

/-! ## Stacks of layers -/

/-- Layers to be put on a parser of `α`, so that it becomes a parser of the type in the index. The last one
is on top. -/
inductive Layers (F : ErrorFamily) (α : Type) : Type → Type 1
  | nil : Layers F α α
  | map {β γ : Type} (s : Layers F α β) (g : β → γ) : Layers F α γ
  | validate {β : Type} (s : Layers F α β) (check : β → Option (ParseError F)) : Layers F α β
  | mapError {β : Type} (s : Layers F α β) (t : ParseError F → ParseError F) : Layers F α β
  | orFail {β : Type} (s : Layers F α β) (e : ParseError F) : Layers F α β

namespace Layers

def apply (p : Parser F ι α ν) : {β : Type} → Layers F α β → Parser F ι β ν
  | _, nil => p
  | _, map s g => (s.apply p).map g
  | _, validate s check => (s.apply p).validate check
  | _, mapError s t => (s.apply p).mapError t
  | _, orFail s e => (s.apply p).orFail e

def errors : {β : Type} → Layers F α β → ParseError F → ParseError F
  | _, nil, e => e
  | _, map s _, e => s.errors e
  | _, validate s _, e => s.errors e
  | _, mapError s t, e => t (s.errors e)
  | _, orFail _ e', _ => e'

def value : {β : Type} → Layers F α β → α → β
  | _, nil, v => v
  | _, map s g, v => g (s.value v)
  | _, validate s _, v => s.value v
  | _, mapError s _, v => s.value v
  | _, orFail s _, v => s.value v

/-- The error that a value of the parser leads to, if it is rejected: that of the lowest validation which
rejects it, as the layers above this one rewrite it. -/
def check : {β : Type} → Layers F α β → α → Option (ParseError F)
  | _, nil, _ => none
  | _, map s _, v => s.check v
  | _, validate s check, v => (s.check v).or (check (s.value v))
  | _, mapError s t, v => (s.check v).map t
  | _, orFail s e, v => (s.check v).map fun _ => e

def append (s : Layers F α β) : {γ : Type} → Layers F β γ → Layers F α γ
  | _, nil => s
  | _, map t g => (s.append t).map g
  | _, validate t check => (s.append t).validate check
  | _, mapError t f => (s.append t).mapError f
  | _, orFail t e => (s.append t).orFail e

theorem apply_append (p : Parser F ι α ν) (s : Layers F α β) (t : Layers F β γ) :
    (s.append t).apply p = t.apply (s.apply p) := by
  induction t with
  | nil => rfl
  | map t g ih => exact congrArg (Parser.map g) ih
  | validate t check ih => exact congrArg (Parser.validate check) ih
  | mapError t f ih => exact congrArg (Parser.mapError f) ih
  | orFail t e ih => exact congrArg (Parser.orFail · e) ih

theorem errors_append (s : Layers F α β) (t : Layers F β γ) (e : ParseError F) :
    (s.append t).errors e = t.errors (s.errors e) := by
  induction t with
  | nil => rfl
  | map t g ih => exact ih
  | validate t check ih => exact ih
  | mapError t f ih => exact congrArg f ih
  | orFail t e' ih => rfl

theorem value_append (s : Layers F α β) (t : Layers F β γ) (v : α) :
    (s.append t).value v = t.value (s.value v) := by
  induction t with
  | nil => rfl
  | map t g ih => exact congrArg g ih
  | validate t check ih => exact ih
  | mapError t f ih => exact ih
  | orFail t e ih => exact ih

theorem check_append (s : Layers F α β) (t : Layers F β γ) (v : α) :
    (s.append t).check v = ((s.check v).map t.errors).or (t.check (s.value v)) := by
  induction t with
  | nil =>
    calc s.check v
      _ = (s.check v).map fun e => e := Option.map_id'.symm
      _ = ((s.check v).map fun e => e).or none := Option.or_none.symm
  | map t g ih => exact ih
  | validate t c ih =>
    calc ((s.append t).check v).or (c ((s.append t).value v))
      _ = (((s.check v).map t.errors).or (t.check (s.value v))).or (c (t.value (s.value v))) := by
        rw [ih, value_append]
      _ = ((s.check v).map t.errors).or ((t.check (s.value v)).or (c (t.value (s.value v)))) := Option.or_assoc
  | mapError t f ih =>
    calc ((s.append t).check v).map f
      _ = (((s.check v).map t.errors).or (t.check (s.value v))).map f := by rw [ih]
      _ = ((s.check v).map fun e => f (t.errors e)).or ((t.check (s.value v)).map f) := by
        rw [Option.map_or, Option.map_map]
        rfl
  | orFail t e ih =>
    calc ((s.append t).check v).map fun _ => e
      _ = (((s.check v).map t.errors).or (t.check (s.value v))).map fun _ => e := by rw [ih]
      _ = ((s.check v).map fun _ => e).or ((t.check (s.value v)).map fun _ => e) := by
        rw [Option.map_or, Option.map_map]
        rfl

theorem exists_of_check {s : Layers F α β} {v : α} {e : ParseError F} (h : s.check v = some e) :
    ∃ (γ : Type) (below : Layers F α γ) (c : γ → Option (ParseError F)) (above : Layers F γ β)
      (e' : ParseError F), s = (below.validate c).append above ∧ below.check v = none ∧
      c (below.value v) = some e' ∧ above.errors e' = e := by
  induction s generalizing e with
  | nil => cases h
  | map s g ih =>
    obtain ⟨γ, below, c, above, e', rfl, hn, hc, he⟩ := ih h
    exact ⟨γ, below, c, above.map g, e', rfl, hn, hc, he⟩
  | validate s c' ih =>
    -- The new layer decides only where the stack below it has nothing against the value.
    cases hs : s.check v with
    | none =>
      have hc : c' (s.value v) = some e := by
        unfold check at h
        rwa [hs, Option.none_or] at h
      exact ⟨_, s, c', nil, e, rfl, hs, hc, rfl⟩
    | some e₀ =>
      have he₀ : e₀ = e := by
        unfold check at h
        rwa [hs, Option.some_or, Option.some.injEq] at h
      obtain ⟨γ, below, c, above, e', rfl, hn, hc, he⟩ := ih hs
      exact ⟨γ, below, c, above.validate c', e', rfl, hn, hc, he.trans he₀⟩
  | mapError s t ih =>
    obtain ⟨e₀, hs, rfl⟩ := Option.map_eq_some_iff.mp h
    obtain ⟨γ, below, c, above, e', rfl, hn, hc, he⟩ := ih hs
    exact ⟨γ, below, c, above.mapError t, e', rfl, hn, hc, congrArg t he⟩
  | orFail s e₁ ih =>
    obtain ⟨e₀, hs, rfl⟩ := Option.map_eq_some_iff.mp h
    obtain ⟨γ, below, c, above, e', rfl, hn, hc, he⟩ := ih hs
    exact ⟨γ, below, c, above.orFail e₁, e', rfl, hn, hc, rfl⟩

theorem check_of_first {below : Layers F α γ} {c : γ → Option (ParseError F)} {v : α} {e : ParseError F}
    (above : Layers F γ β) (hn : below.check v = none) (hc : c (below.value v) = some e) :
    ((below.validate c).append above).check v = some (above.errors e) := by
  have hb : (below.validate c).check v = some e := by
    unfold check
    rw [hn, hc, Option.none_or]
  rw [check_append, hb, Option.map_some, Option.some_or]

/-! ## Three layers -/

theorem apply_eq (s : Layers F α β) (p : Parser F ι α ν) :
    s.apply p = ((p.mapError s.errors).validate s.check).map s.value := by
  -- The layer on top goes down through the three that the stack below it comes to.
  induction s with
  | nil =>
    have h : ((p.mapError id).validate fun _ => none).map id = p := by
      rw [Parser.map_id, Parser.validate_none, Parser.mapError_id]
    exact h.symm
  | map s g ih =>
    calc (s.apply p).map g
      _ = (((p.mapError s.errors).validate s.check).map s.value).map g := by rw [ih]
      _ = ((p.mapError s.errors).validate s.check).map fun v => g (s.value v) := Parser.map_map _ _ _
  | validate s c ih =>
    calc (s.apply p).validate c
      _ = (((p.mapError s.errors).validate s.check).map s.value).validate c := by rw [ih]
      _ = (((p.mapError s.errors).validate s.check).validate fun v => c (s.value v)).map s.value :=
        Parser.validate_map _ _ _
      _ = ((p.mapError s.errors).validate fun v => (s.check v).or (c (s.value v))).map s.value := by
        rw [Parser.validate_validate]
  | mapError s t ih =>
    calc (s.apply p).mapError t
      _ = (((p.mapError s.errors).validate s.check).map s.value).mapError t := by rw [ih]
      _ = (((p.mapError s.errors).mapError t).validate fun v => (s.check v).map t).map s.value := by
        rw [Parser.mapError_map, Parser.mapError_validate]
      _ = ((p.mapError (t ∘ s.errors)).validate fun v => (s.check v).map t).map s.value := by
        rw [Parser.mapError_mapError]
  | orFail s e ih =>
    calc (s.apply p).orFail e
      _ = (((p.mapError s.errors).validate s.check).map s.value).orFail e := by rw [ih]
      _ = (((p.mapError s.errors).orFail e).validate fun v => (s.check v).map fun _ => e).map s.value := by
        unfold Parser.orFail
        rw [Parser.mapError_map, Parser.mapError_validate]
      _ = ((p.mapError fun _ => e).validate fun v => (s.check v).map fun _ => e).map s.value := by
        unfold Parser.orFail
        rw [Parser.mapError_mapError]
        rfl

section
variable (s : Layers F α β) (p : Parser F ι α ν) (x : ι)

theorem log_apply : ((s.apply p).run x).log = (p.run x).log := by
  rw [apply_eq]
  rfl

theorem succeeds_apply (w : β) (r : ι) :
    (s.apply p).Succeeds x w r ↔ ∃ v, p.Succeeds x v r ∧ s.check v = none ∧ s.value v = w := by
  rw [apply_eq]
  simp only [Parser.succeeds_map, Parser.succeeds_validate, Parser.succeeds_mapError, and_assoc]

theorem fails_apply (e : ParseError F) : (s.apply p).Fails x e ↔
    (∃ e', p.Fails x e' ∧ s.errors e' = e) ∨ ∃ v r, p.Succeeds x v r ∧ s.check v = some e := by
  rw [apply_eq]
  simp only [Parser.fails_map, Parser.fails_validate, Parser.fails_mapError, Parser.succeeds_mapError]

theorem faults_apply (f : Fault) : (s.apply p).Faults x f ↔ p.Faults x f := by
  rw [apply_eq, Parser.faults_map, Parser.faults_validate, Parser.faults_mapError]

end

/-- **Layers have a normal form.** Whatever layers are put on a parser, and in whatever order, it does the same
as with its errors rewritten, then its values validated, then its values mapped; the three functions are
composed from those of the layers, the same ones for every parser. A value is rejected with the error of the
lowest validation that rejects what the layers below make of it, and nothing but the layers above rewrites
this error. The rest, the faults and the log are those of the parser. Of two replacements of the error only
the one on top counts. -/
theorem normal_form (s : Layers F α β) :
    (∀ p : Parser F ι α ν, s.apply p = ((p.mapError s.errors).validate s.check).map s.value) ∧
    (∀ {γ : Type} (t : Layers F β γ),
      (∀ p : Parser F ι α ν, (s.append t).apply p = t.apply (s.apply p)) ∧
      (∀ e, (s.append t).errors e = t.errors (s.errors e)) ∧
      (∀ v, (s.append t).value v = t.value (s.value v)) ∧
      ∀ v, (s.append t).check v = ((s.check v).map t.errors).or (t.check (s.value v))) ∧
    (∀ v e, s.check v = some e ↔
      ∃ (γ : Type) (below : Layers F α γ) (c : γ → Option (ParseError F)) (above : Layers F γ β)
        (e' : ParseError F), s = (below.validate c).append above ∧ below.check v = none ∧
        c (below.value v) = some e' ∧ above.errors e' = e) ∧
    (∀ (p : Parser F ι α ν) (x : ι),
      (∀ w r, (s.apply p).Succeeds x w r ↔ ∃ v, p.Succeeds x v r ∧ s.check v = none ∧ s.value v = w) ∧
      (∀ e, (s.apply p).Fails x e ↔
        (∃ e', p.Fails x e' ∧ s.errors e' = e) ∨ ∃ v r, p.Succeeds x v r ∧ s.check v = some e) ∧
      (∀ f, (s.apply p).Faults x f ↔ p.Faults x f) ∧ ((s.apply p).run x).log = (p.run x).log) ∧
    ∀ (p : Parser F ι α ν) (e e' : ParseError F), (p.orFail e).orFail e' = p.orFail e' := by
  refine ⟨s.apply_eq, fun t => ⟨fun p => apply_append p s t, errors_append s t, value_append s t,
    check_append s t⟩, fun v e => ⟨exists_of_check, ?_⟩, fun p x => ⟨s.succeeds_apply p x, s.fails_apply p x,
    s.faults_apply p x, s.log_apply p x⟩, Parser.orFail_orFail⟩
  rintro ⟨γ, below, c, above, e', rfl, hn, hc, rfl⟩
  exact check_of_first above hn hc

/-- An error that stands between two validations replaces that of the lower one only. -/
example (c c' : α → Option (ParseError F)) (e : ParseError F) (v : α) :
    (((nil.validate c).orFail e).validate c').check v = ((c v).map fun _ => e).or (c' v) := rfl

end Layers

end Parsing
