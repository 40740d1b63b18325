import Mathlib.Tactic.Common
import Parsing.Parser.Choice
import Parsing.Parser.Repeat
import Parsing.Proofs.Suffix

/-!
# Results of the operations

A parser succeeds, fails or faults on an input. For each operation this module says when it does
which, in terms of the parsers that the operation is made of.
-/

namespace Parsing

theorem Input.size_induction {ι ε : Type} [Input ι ε] {P : ι → Prop}
    (h : ∀ x, (∀ y, size y < size x → P y) → P x) : ∀ x, P x :=
  fun x => (measure (Input.size : ι → Nat)).wf.induction x h

namespace Parser

open Input

variable {F : ErrorFamily} {ι ε α β ν : Type}

def Succeeds (p : Parser F ι α ν) (x : ι) (v : α) (r : ι) : Prop :=
  (p.run x).result = .ok (.success v r)

def Fails (p : Parser F ι α ν) (x : ι) (e : ParseError F) : Prop := (p.run x).result = .ok (.failure e)

def Faults (p : Parser F ι α ν) (x : ι) (f : Fault) : Prop := (p.run x).result = .error f

theorem eq_of_run {p q : Parser F ι α ν} (h : ∀ x, p.run x = q.run x) : p = q := by
  obtain ⟨run⟩ := p
  obtain ⟨run'⟩ := q
  exact congrArg Parser.mk (funext h)

theorem outcome_cases (p : Parser F ι α ν) (x : ι) :
    (∃ v r, p.Succeeds x v r) ∨ (∃ e, p.Fails x e) ∨ ∃ f, p.Faults x f := by
  unfold Succeeds Fails Faults
  rcases (p.run x).result with f | ⟨v, r⟩ | e
  · exact .inr (.inr ⟨f, rfl⟩)
  · exact .inl ⟨v, r, rfl⟩
  · exact .inr (.inl ⟨e, rfl⟩)

theorem exists_fails_iff {p : Parser F ι α ν} {x : ι} (h : ∀ f, ¬p.Faults x f) :
    (∃ e, p.Fails x e) ↔ ¬∃ v r, p.Succeeds x v r := by
  refine ⟨fun ⟨e, he⟩ ⟨v, r, hv⟩ => ?_, fun hn => ?_⟩
  · cases he.symm.trans hv
  · rcases p.outcome_cases x with hs | hf | ⟨f, hf⟩
    · exact absurd hs hn
    · exact hf
    · exact absurd hf (h f)

section
variable {p : Parser F ι α ν} {x r r' : ι} {v w : α} {e e' : ParseError F} {f f' : Fault}

theorem Succeeds.unique (h : p.Succeeds x v r) (h' : p.Succeeds x w r') : v = w ∧ r = r' := by
  have := h.symm.trans h'
  simpa using this

theorem Succeeds.not_fails (h : p.Succeeds x v r) : ¬p.Fails x e := by
  intro h'
  cases h.symm.trans h'

theorem Succeeds.not_faults (h : p.Succeeds x v r) : ¬p.Faults x f := by
  intro h'
  cases h.symm.trans h'

theorem Fails.not_faults (h : p.Fails x e) : ¬p.Faults x f := by
  intro h'
  cases h.symm.trans h'

end

/-! ## Parsers that do not look at the input -/

section
variable {x r : ι} {v w : α} {e e' : ParseError F} {f f' : Fault}

@[simp] theorem succeeds_pure : (pure v : Parser F ι α ν).Succeeds x w r ↔ v = w ∧ x = r := by
  simp [Succeeds, pure, Run.success]

@[simp] theorem not_fails_pure : ¬(pure v : Parser F ι α ν).Fails x e := by
  simp [Fails, pure, Run.success]

@[simp] theorem not_faults_pure : ¬(pure v : Parser F ι α ν).Faults x f := by
  simp [Faults, pure, Run.success]

@[simp] theorem not_succeeds_fail : ¬(fail e : Parser F ι α ν).Succeeds x v r := by
  simp [Succeeds, fail, Run.failure]

@[simp] theorem fails_fail : (fail e : Parser F ι α ν).Fails x e' ↔ e = e' := by
  simp [Fails, fail, Run.failure]

@[simp] theorem not_faults_fail : ¬(fail e : Parser F ι α ν).Faults x f := by
  simp [Faults, fail, Run.failure]

@[simp] theorem not_succeeds_fault : ¬(fault f : Parser F ι α ν).Succeeds x v r := by
  simp [Succeeds, fault, Run.fault]

@[simp] theorem not_fails_fault : ¬(fault f : Parser F ι α ν).Fails x e := by
  simp [Fails, fault, Run.fault]

@[simp] theorem faults_fault : (fault f : Parser F ι α ν).Faults x f' ↔ f = f' := by
  simp [Faults, fault, Run.fault]

end

/-! ## Layers, sequence and choice -/

section
variable {p : Parser F ι α ν} {q : Parser F ι α ν} {g : α → β} {next : α → Parser F ι β ν}
variable {check : α → Option (ParseError F)} {t : ParseError F → ParseError F}
variable {x r : ι} {v : α} {w : β} {e : ParseError F} {f : Fault}

@[simp] theorem succeeds_map : (p.map g).Succeeds x w r ↔ ∃ v, p.Succeeds x v r ∧ g v = w := by
  simp only [Succeeds, Parser.map, Run.mapOutcome]
  rcases (p.run x).result with f | ⟨v, y⟩ | e <;> simp [Except.map, Outcome.map, and_comm]

@[simp] theorem fails_map : (p.map g).Fails x e ↔ p.Fails x e := by
  simp only [Fails, Parser.map, Run.mapOutcome]
  rcases (p.run x).result with f | ⟨v, y⟩ | e <;> simp [Except.map, Outcome.map]

@[simp] theorem faults_map : (p.map g).Faults x f ↔ p.Faults x f := by
  simp only [Faults, Parser.map, Run.mapOutcome]
  rcases (p.run x).result with f | o <;> simp [Except.map]

@[simp] theorem succeeds_bind : (p.bind next).Succeeds x w r ↔
    ∃ v y, p.Succeeds x v y ∧ (next v).Succeeds y w r := by
  simp only [Succeeds, Parser.bind, Run.andThen]
  rcases (p.run x).result with f | ⟨v, y⟩ | e <;> simp [Run.after]

@[simp] theorem fails_bind : (p.bind next).Fails x e ↔
    p.Fails x e ∨ ∃ v y, p.Succeeds x v y ∧ (next v).Fails y e := by
  simp only [Succeeds, Fails, Parser.bind, Run.andThen]
  rcases (p.run x).result with f | ⟨v, y⟩ | e <;> simp [Run.after]

@[simp] theorem faults_bind : (p.bind next).Faults x f ↔
    p.Faults x f ∨ ∃ v y, p.Succeeds x v y ∧ (next v).Faults y f := by
  simp only [Succeeds, Faults, Parser.bind, Run.andThen]
  rcases (p.run x).result with f | ⟨v, y⟩ | e <;> simp [Run.after]

@[simp] theorem succeeds_validate :
    (p.validate check).Succeeds x v r ↔ p.Succeeds x v r ∧ check v = none := by
  simp only [Succeeds, Parser.validate, Run.mapOutcome]
  rcases (p.run x).result with f | ⟨v', y⟩ | e
  · simp [Except.map]
  · simp only [Except.map, Outcome.validate, Except.ok.injEq, Outcome.success.injEq]
    cases h : check v' with
    | none =>
      refine ⟨fun h' => ?_, fun h' => ?_⟩
      · cases h'; exact ⟨⟨rfl, rfl⟩, h⟩
      · obtain ⟨⟨rfl, rfl⟩, -⟩ := h'; rfl
    | some e =>
      refine ⟨fun h' => ?_, fun h' => ?_⟩
      · cases h'
      · obtain ⟨⟨rfl, rfl⟩, hn⟩ := h'; cases h.symm.trans hn
  · simp [Except.map, Outcome.validate]

@[simp] theorem fails_validate : (p.validate check).Fails x e ↔
    p.Fails x e ∨ ∃ v r, p.Succeeds x v r ∧ check v = some e := by
  simp only [Succeeds, Fails, Parser.validate, Run.mapOutcome]
  rcases (p.run x).result with f | ⟨v', y⟩ | e
  · simp [Except.map]
  · cases h : check v' <;> simp [Except.map, Outcome.validate, h]
  · simp [Except.map, Outcome.validate]

@[simp] theorem faults_validate : (p.validate check).Faults x f ↔ p.Faults x f := by
  simp only [Faults, Parser.validate, Run.mapOutcome]
  rcases (p.run x).result with f | o <;> simp [Except.map]

@[simp] theorem succeeds_mapError : (p.mapError t).Succeeds x v r ↔ p.Succeeds x v r := by
  simp only [Succeeds, Parser.mapError, Run.mapOutcome]
  rcases (p.run x).result with f | ⟨v, y⟩ | e <;> simp [Except.map, Outcome.mapError]

@[simp] theorem fails_mapError : (p.mapError t).Fails x e ↔ ∃ e', p.Fails x e' ∧ t e' = e := by
  simp only [Fails, Parser.mapError, Run.mapOutcome]
  rcases (p.run x).result with f | ⟨v, y⟩ | e <;> simp [Except.map, Outcome.mapError]

@[simp] theorem faults_mapError : (p.mapError t).Faults x f ↔ p.Faults x f := by
  simp only [Faults, Parser.mapError, Run.mapOutcome]
  rcases (p.run x).result with f | o <;> simp [Except.map]

@[simp] theorem succeeds_orElse : (p.orElse q).Succeeds x v r ↔
    p.Succeeds x v r ∨ (∃ e, p.Fails x e) ∧ q.Succeeds x v r := by
  simp only [Succeeds, Fails, Parser.orElse, Run.recover]
  rcases (p.run x).result with f | ⟨v, y⟩ | e <;> simp [Run.after]

@[simp] theorem fails_orElse : (p.orElse q).Fails x e ↔ (∃ e', p.Fails x e') ∧ q.Fails x e := by
  simp only [Fails, Parser.orElse, Run.recover]
  rcases (p.run x).result with f | ⟨v, y⟩ | e <;> simp [Run.after]

@[simp] theorem faults_orElse : (p.orElse q).Faults x f ↔
    p.Faults x f ∨ (∃ e, p.Fails x e) ∧ q.Faults x f := by
  simp only [Faults, Fails, Parser.orElse, Run.recover]
  rcases (p.run x).result with f | ⟨v, y⟩ | e <;> simp [Run.after]

@[simp] theorem succeeds_delay {p : Unit → Parser F ι α ν} :
    (delay p).Succeeds x v r ↔ (p ()).Succeeds x v r := Iff.rfl

@[simp] theorem fails_delay {p : Unit → Parser F ι α ν} : (delay p).Fails x e ↔ (p ()).Fails x e := Iff.rfl

@[simp] theorem faults_delay {p : Unit → Parser F ι α ν} : (delay p).Faults x f ↔ (p ()).Faults x f :=
  Iff.rfl

end

/-! ## Matchers -/

section
variable [Input ι ε] [Describe ε]

theorem not_faults_satisfy {accepts : ε → Bool} {expected : String} {x : ι} {f : Fault} :
    ¬(satisfy accepts expected : Parser F ι ε ν).Faults x f := by
  simp only [Faults, satisfy]
  cases first? x with
  | none => simp [Run.failure]
  | some e => by_cases h : accepts e <;> simp [Run.failure, Run.success, h]

theorem log_satisfy (accepts : ε → Bool) (expected : String) (x : ι) :
    ((satisfy accepts expected : Parser F ι ε ν).run x).log = [] := by
  simp only [satisfy]
  cases first? x with
  | none => rfl
  | some e => by_cases h : accepts e <;> simp [Run.failure, Run.success, h]

theorem not_faults_eof {x : ι} {f : Fault} : ¬(eof : Parser F ι Unit ν).Faults x f := by
  simp only [Faults, eof]
  cases first? x <;> simp [Run.failure, Run.success]

variable [LawfulInput ι]

theorem succeeds_satisfy {accepts : ε → Bool} {expected : String} {x r : ι} {e : ε} :
    (satisfy accepts expected : Parser F ι ε ν).Succeeds x e r ↔
      Input.elements x = e :: Input.elements r ∧ accepts e = true := by
  simp only [Succeeds, satisfy, LawfulInput.first?_eq]
  cases hx : Input.elements x with
  | nil => simp [Run.failure]
  | cons a l =>
    have hr : Input.elements (rest x) = l := elements_rest hx
    by_cases ha : accepts a
    · simp only [List.head?_cons, ha, ite_true, Run.success, Except.ok.injEq, Outcome.success.injEq,
        List.cons.injEq]
      refine ⟨fun ⟨he, hrest⟩ => ?_, fun ⟨⟨he, hl⟩, _⟩ => ?_⟩
      · subst he hrest; exact ⟨⟨rfl, hr.symm⟩, ha⟩
      · exact ⟨he, eq_of_elements (hr.trans hl)⟩
    · simp only [List.head?_cons, ha, Run.failure, Bool.false_eq_true, ite_false, Except.ok.injEq,
        reduceCtorEq, false_iff, not_and]
      intro h
      rw [List.cons.injEq] at h
      rwa [← h.1]

theorem fails_satisfy {accepts : ε → Bool} {expected : String} {x : ι} {e : ParseError F} :
    (satisfy accepts expected : Parser F ι ε ν).Fails x e ↔
      (∀ a ∈ (Input.elements x).head?, accepts a = false) ∧
        e = .mismatch (.of expected (Input.elements x).head?) := by
  simp only [Fails, satisfy, LawfulInput.first?_eq]
  cases (Input.elements x).head? with
  | none => simpa [Run.failure, MatchError.of] using eq_comm
  | some a =>
    by_cases ha : accepts a
    · simp [Run.success, ha]
    · simpa [Run.failure, MatchError.of, ha] using eq_comm

theorem succeeds_eof {x r : ι} {v : Unit} :
    (eof : Parser F ι Unit ν).Succeeds x v r ↔ Input.elements x = [] ∧ x = r := by
  simp only [Succeeds, eof, LawfulInput.first?_eq]
  cases Input.elements x <;> simp [Run.failure, Run.success]

end

section
variable [Input ι ε] [BEq ε] [Describe ε]

theorem elementOr_eq (token : ε) (error : ParseError F) :
    (elementOr token error : Parser F ι ε ν) = (element token).orFail error := by
  simp only [elementOr, orFail, mapError, element, satisfy, Run.mapOutcome]
  congr 1
  funext x
  cases first? x with
  | none => rfl
  | some e => by_cases h : e == token <;> simp [h, Run.success, Run.failure, Except.map, Outcome.mapError]

theorem elementsOr_eq (tokens : List ε) (error : ParseError F) :
    (elementsOr tokens error : Parser F ι (List ε) ν) = (elements tokens).orFail error := by
  simp only [elementsOr, orFail, mapError, elements, Run.mapOutcome]
  congr 1
  funext x
  cases strip tokens x <;> rfl

theorem not_faults_elements {tokens : List ε} {x : ι} {f : Fault} :
    ¬(elements tokens : Parser F ι (List ε) ν).Faults x f := by
  simp only [Faults, elements]
  cases strip tokens x <;> simp [Run.failure, Run.success]

theorem not_faults_elementOr {token : ε} {error : ParseError F} {x : ι} {f : Fault} :
    ¬(elementOr token error : Parser F ι ε ν).Faults x f := by
  rw [elementOr_eq, orFail, faults_mapError]
  exact not_faults_satisfy

theorem not_faults_elementsOr {tokens : List ε} {error : ParseError F} {x : ι} {f : Fault} :
    ¬(elementsOr tokens error : Parser F ι (List ε) ν).Faults x f := by
  rw [elementsOr_eq, orFail, faults_mapError]
  exact not_faults_elements

theorem not_faults_slice {tokens : List ε} {expected : String} {x : ι} {f : Fault} :
    ¬(slice tokens expected : Parser F ι (List ε) ν).Faults x f := by
  simp only [Faults, slice]
  split <;> simp [Run.failure, Run.success]

variable [LawfulInput ι]

theorem succeeds_element [LawfulBEq ε] {token e : ε} {x r : ι} :
    (element token : Parser F ι ε ν).Succeeds x e r ↔
      Input.elements x = token :: Input.elements r ∧ e = token := by
  rw [element, succeeds_satisfy, beq_iff_eq]
  exact and_congr_left fun he => by rw [he]

theorem fails_element [LawfulBEq ε] {token : ε} {x : ι} {e : ParseError F} :
    (element token : Parser F ι ε ν).Fails x e ↔
      (Input.elements x).head? ≠ some token ∧ e = .mismatch (.of (describe token) (Input.elements x).head?) := by
  rw [element, fails_satisfy]
  refine and_congr_left fun _ => ⟨fun h hx => ?_, fun h a ha => ?_⟩
  · exact ne_of_beq_false (h token hx) rfl
  · rw [beq_eq_false_iff_ne]
    rintro rfl
    exact h ha

theorem succeeds_elements {tokens ts : List ε} {x r : ι} :
    (elements tokens : Parser F ι (List ε) ν).Succeeds x ts r ↔
      tokens = ts ∧ ∃ es, StartsWith tokens x es r := by
  rw [← strip_eq_ok]
  simp only [Succeeds, elements]
  cases strip tokens x <;> simp [Run.failure, Run.success]

theorem succeeds_elementOr {token : ε} {error : ParseError F} {x r : ι} {e : ε} :
    (elementOr token error : Parser F ι ε ν).Succeeds x e r ↔
      Input.elements x = e :: Input.elements r ∧ (e == token) = true := by
  rw [elementOr_eq, orFail, succeeds_mapError]
  exact succeeds_satisfy

theorem succeeds_elementsOr {tokens ts : List ε} {error : ParseError F} {x r : ι} :
    (elementsOr tokens error : Parser F ι (List ε) ν).Succeeds x ts r ↔
      tokens = ts ∧ ∃ es, StartsWith tokens x es r := by
  rw [elementsOr_eq, orFail, succeeds_mapError]
  exact succeeds_elements

theorem succeeds_slice {tokens es : List ε} {expected : String} {x r : ι} :
    (slice tokens expected : Parser F ι (List ε) ν).Succeeds x es r ↔ StartsWith tokens x es r := by
  simp only [Succeeds, slice, Run.success, Run.failure]
  split
  · rename_i h
    rw [take_beq_iff] at h
    simp only [Except.ok.injEq, Outcome.success.injEq]
    refine ⟨fun ⟨hes, hr⟩ => ?_, fun h' => ?_⟩
    · subst hes hr; exact h
    · exact ⟨h'.eq_take.1.symm, h'.eq_take.2.symm⟩
  · rename_i h
    simp only [Except.ok.injEq, reduceCtorEq, false_iff]
    intro h'
    obtain ⟨rfl, rfl⟩ := h'.eq_take
    exact h (take_beq_iff.mpr h')

end

/-! ## Repetition -/

section
variable [Input ι ε] {p : Parser F ι α ν} {count : Nat} {x y r : ι} {v : α} {vs : List α}
variable {e : ParseError F} {f : Fault}

theorem manyFrom_of_fails (h : p.Fails x e) :
    p.manyFrom count x = ⟨(p.run x).log, .ok (.success [] x)⟩ := by
  unfold Fails at h
  rw [manyFrom]
  simp [h]

theorem manyFrom_of_faults (h : p.Faults x f) :
    p.manyFrom count x = ⟨(p.run x).log, .error f⟩ := by
  unfold Faults at h
  rw [manyFrom]
  simp [h]

theorem manyFrom_of_stalls (h : p.Succeeds x v y) (hs : ¬size y < size x) :
    p.manyFrom count x = ⟨(p.run x).log ++ [.stalled count], .error (.noProgress count)⟩ := by
  unfold Succeeds at h
  rw [manyFrom]
  simp [h, hs]

theorem manyFrom_of_succeeds (h : p.Succeeds x v y) (hs : size y < size x) :
    p.manyFrom count x =
      ((p.manyFrom (count + 1) y).mapOutcome (.map (v :: ·))).after (p.run x).log := by
  unfold Succeeds at h
  rw [manyFrom]
  simp [h, hs]

/-- What holds of the four ways in which a repetition ends or goes on holds of all repetitions. -/
theorem manyFrom_induction {P : ι → Nat → Run F ι (List α) ν → Prop}
    (succeeds : ∀ x count v y, p.Succeeds x v y → size y < size x →
      P y (count + 1) (p.manyFrom (count + 1) y) →
      P x count (((p.manyFrom (count + 1) y).mapOutcome (.map (v :: ·))).after (p.run x).log))
    (stalls : ∀ x count v y, p.Succeeds x v y → ¬size y < size x →
      P x count ⟨(p.run x).log ++ [.stalled count], .error (.noProgress count)⟩)
    (fails : ∀ x count e, p.Fails x e → P x count ⟨(p.run x).log, .ok (.success [] x)⟩)
    (faults : ∀ x count f, p.Faults x f → P x count ⟨(p.run x).log, .error f⟩) :
    ∀ x count, P x count (p.manyFrom count x) := by
  intro x
  induction x using size_induction with
  | h x ih =>
    intro count
    rcases p.outcome_cases x with ⟨v, y, hv⟩ | ⟨e, he⟩ | ⟨f, hf⟩
    · by_cases hs : size y < size x
      · rw [manyFrom_of_succeeds hv hs]
        exact succeeds x count v y hv hs (ih y hs (count + 1))
      · rw [manyFrom_of_stalls hv hs]
        exact stalls x count v y hv hs
    · rw [manyFrom_of_fails he]
      exact fails x count e he
    · rw [manyFrom_of_faults hf]
      exact faults x count f hf

/-- The repetition when `count` matches lie behind it. -/
def manyAfter (p : Parser F ι α ν) (count : Nat) : Parser F ι (List α) ν := ⟨p.manyFrom count⟩

theorem many_eq_manyAfter (p : Parser F ι α ν) : p.many = p.manyAfter 0 := rfl

theorem result_manyAfter (h : p.Succeeds x v y) (hs : size y < size x) :
    ((p.manyAfter count).run x).result = (((p.manyAfter (count + 1)).map (v :: ·)).run y).result := by
  simp only [manyAfter, manyFrom_of_succeeds h hs]
  rfl

theorem succeeds_manyAfter : (p.manyAfter count).Succeeds x vs r ↔
    (∃ e, p.Fails x e) ∧ vs = [] ∧ x = r ∨
      ∃ v y ws, p.Succeeds x v y ∧ size y < size x ∧
        (p.manyAfter (count + 1)).Succeeds y ws r ∧ v :: ws = vs := by
  refine ⟨fun h => ?_, fun h => ?_⟩
  · rcases p.outcome_cases x with ⟨v, y, hv⟩ | ⟨e, he⟩ | ⟨f, hf⟩
    · by_cases hs : size y < size x
      · have h' : ((p.manyAfter (count + 1)).map (v :: ·)).Succeeds y vs r :=
          (result_manyAfter hv hs).symm.trans h
        obtain ⟨ws, hws, rfl⟩ := succeeds_map.mp h'
        exact .inr ⟨v, y, ws, hv, hs, hws, rfl⟩
      · simp [Succeeds, manyAfter, manyFrom_of_stalls hv hs] at h
    · simp only [Succeeds, manyAfter, manyFrom_of_fails he, Except.ok.injEq, Outcome.success.injEq] at h
      exact .inl ⟨⟨e, he⟩, h.1.symm, h.2⟩
    · simp [Succeeds, manyAfter, manyFrom_of_faults hf] at h
  · obtain ⟨⟨e, he⟩, rfl, rfl⟩ | ⟨v, y, ws, hv, hs, hws, rfl⟩ := h
    · simp [Succeeds, manyAfter, manyFrom_of_fails he]
    · exact (result_manyAfter hv hs).trans (succeeds_map.mpr ⟨ws, hws, rfl⟩)

theorem not_fails_manyAfter : ¬(p.manyAfter count).Fails x e := by
  refine manyFrom_induction (P := fun _ _ s => ∀ e, s.result ≠ .ok (.failure e)) ?_ ?_ ?_ ?_ x count e
  · intro x count v y _ _ ih e he
    simp only [Run.after, Run.mapOutcome] at he
    rcases hs : (p.manyFrom (count + 1) y).result with f | ⟨vs, r⟩ | e'
    · rw [hs] at he; cases he
    · rw [hs] at he; cases he
    · exact ih e' hs
  · intro x count v y _ _ e he; cases he
  · intro x count e' _ e he; cases he
  · intro x count f _ e he; cases he

theorem faults_manyAfter : (p.manyAfter count).Faults x f ↔
    p.Faults x f ∨ ∃ v y, p.Succeeds x v y ∧
      (size x ≤ size y ∧ f = .noProgress count ∨ size y < size x ∧ (p.manyAfter (count + 1)).Faults y f) := by
  refine ⟨fun h => ?_, fun h => ?_⟩
  · rcases p.outcome_cases x with ⟨v, y, hv⟩ | ⟨e, he⟩ | ⟨f', hf⟩
    · refine .inr ⟨v, y, hv, ?_⟩
      by_cases hs : size y < size x
      · have h' : ((p.manyAfter (count + 1)).map (v :: ·)).Faults y f := (result_manyAfter hv hs).symm.trans h
        exact .inr ⟨hs, faults_map.mp h'⟩
      · simp only [Faults, manyAfter, manyFrom_of_stalls hv hs, Except.error.injEq] at h
        exact .inl ⟨Nat.le_of_not_lt hs, h.symm⟩
    · simp [Faults, manyAfter, manyFrom_of_fails he] at h
    · simp only [Faults, manyAfter, manyFrom_of_faults hf, Except.error.injEq] at h
      subst h; exact .inl hf
  · obtain hf | ⟨v, y, hv, ⟨hs, rfl⟩ | ⟨hs, hf⟩⟩ := h
    · simp [Faults, manyAfter, manyFrom_of_faults hf]
    · simp [Faults, manyAfter, manyFrom_of_stalls hv (Nat.not_lt_of_le hs)]
    · exact (result_manyAfter hv hs).trans (faults_map.mpr hf)

theorem succeeds_manyAfter_iff_many : (p.manyAfter count).Succeeds x vs r ↔ p.many.Succeeds x vs r := by
  rw [many_eq_manyAfter]
  generalize 0 = count'
  induction x using size_induction generalizing count count' vs with
  | h x ih =>
    rw [succeeds_manyAfter, succeeds_manyAfter]
    refine or_congr_right ⟨fun h => ?_, fun h => ?_⟩
    · obtain ⟨v, y, ws, hv, hs, hws, rfl⟩ := h
      exact ⟨v, y, ws, hv, hs, (ih y hs _).mp hws, rfl⟩
    · obtain ⟨v, y, ws, hv, hs, hws, rfl⟩ := h
      exact ⟨v, y, ws, hv, hs, (ih y hs _).mpr hws, rfl⟩

theorem succeeds_many : p.many.Succeeds x vs r ↔
    (∃ e, p.Fails x e) ∧ vs = [] ∧ x = r ∨
      ∃ v y ws, p.Succeeds x v y ∧ size y < size x ∧ p.many.Succeeds y ws r ∧ v :: ws = vs := by
  rw [many_eq_manyAfter, succeeds_manyAfter]
  simp only [succeeds_manyAfter_iff_many]

theorem not_fails_many : ¬p.many.Fails x e := not_fails_manyAfter

theorem cutOff_manyAfter_iff_many : (p.manyAfter count).Faults x .tooDeep ↔ p.many.Faults x .tooDeep := by
  rw [many_eq_manyAfter]
  generalize 0 = count'
  induction x using size_induction generalizing count count' with
  | h x ih =>
    rw [faults_manyAfter, faults_manyAfter]
    refine or_congr_right (exists_congr fun v => exists_congr fun y => and_congr_right fun _ => ?_)
    simp only [reduceCtorEq, and_false, false_or]
    exact and_congr_right fun hs => ih y hs _

end

end Parser

end Parsing
