import Parsing.Input.Text
import Parsing.Parser.Choice
import Parsing.Proofs.Result

/-!
# Ordered choice, however it is bracketed

The second of two alternatives starts where the first did, and what the first reports stays in front. So it
does not matter how alternatives are grouped: they are tried from the left, each on the whole input, up to
the first that does not fail, and one is recorded to have failed wherever another follows it.
-/

namespace Parsing

variable {F : ErrorFamily} {ι α ν : Type}

namespace Run

theorem recover_after (log : List (Event F ν)) (s : Run F ι α ν) (next : ParseError F → Run F ι α ν) :
    (s.after log).recover next = (s.recover next).after log := by
  obtain ⟨log', result⟩ := s
  rcases result with f | ⟨v, r⟩ | e
  · rfl
  · rfl
  · simp only [recover, after, List.append_assoc]

theorem recover_recover (s : Run F ι α ν) (next next' : ParseError F → Run F ι α ν) :
    (s.recover next).recover next' = s.recover fun e => (next e).recover next' := by
  obtain ⟨log, result⟩ := s
  rcases result with f | ⟨v, r⟩ | e
  · rfl
  · rfl
  · exact recover_after log (next e) next'

end Run

namespace Parser

theorem orElse_assoc (p q s : Parser F ι α ν) : (p.orElse q).orElse s = p.orElse (q.orElse s) := by
  unfold orElse
  congr 1
  funext x
  rw [Run.recover_recover]
  simp only [Run.recover_after]

section
variable {p q : Parser F ι α ν} {x : ι} {e : ParseError F}

theorem run_orElse_of_fails (h : p.Fails x e) :
    (p.orElse q).run x = (q.run x).after ((p.run x).log ++ [.abandoned e]) := by
  unfold Fails at h
  simp only [orElse, Run.recover, h, Run.after, List.append_assoc]

theorem run_orElse_of_not_fails (h : ∀ e, ¬p.Fails x e) : (p.orElse q).run x = p.run x := by
  rcases p.outcome_cases x with ⟨v, r, hv⟩ | ⟨e, he⟩ | ⟨f, hf⟩
  · unfold Succeeds at hv
    simp only [orElse, Run.recover, hv]
    rw [← hv]
  · exact absurd he (h e)
  · unfold Faults at hf
    simp only [orElse, Run.recover, hf]
    rw [← hf]

end

theorem firstOf_cons_cons (p q : Parser F ι α ν) (ps : List (Parser F ι α ν)) :
    firstOf (p :: q :: ps) = p.orElse (firstOf (q :: ps)) := by
  simp only [firstOf, List.foldl_cons]
  induction ps generalizing q with
  | nil => rfl
  | cons s ps ih => rw [List.foldl_cons, List.foldl_cons, orElse_assoc, ih]

section
variable {p : Parser F ι α ν} {ps : List (Parser F ι α ν)} {x r : ι} {v : α} {e : ParseError F} {f : Fault}

theorem run_firstOf_cons_of_not_fails (h : ∀ e, ¬p.Fails x e) : (firstOf (p :: ps)).run x = p.run x := by
  cases ps with
  | nil => rfl
  | cons q ps => rw [firstOf_cons_cons, run_orElse_of_not_fails h]

theorem run_firstOf_cons_of_fails (h : p.Fails x e) (hps : ps ≠ []) :
    (firstOf (p :: ps)).run x = ((firstOf ps).run x).after ((p.run x).log ++ [.abandoned e]) := by
  obtain ⟨q, ps, rfl⟩ := List.exists_cons_of_ne_nil hps
  rw [firstOf_cons_cons, run_orElse_of_fails h]

theorem not_succeeds_firstOf_nil : ¬(firstOf ([] : List (Parser F ι α ν))).Succeeds x v r := not_succeeds_fail

theorem not_faults_firstOf {ps : List (Parser F ι α ν)} (h : ∀ p ∈ ps, ¬p.Faults x f) :
    ¬(firstOf ps).Faults x f := by
  induction ps with
  | nil => exact not_faults_fail
  | cons p ps ih =>
    obtain ⟨hp, hps⟩ := List.forall_mem_cons.mp h
    cases ps with
    | nil => exact hp
    | cons q ps =>
      rw [firstOf_cons_cons, faults_orElse, not_or]
      exact ⟨hp, fun ⟨_, hf⟩ => ih hps hf⟩

end

theorem firstOf_append (p : Parser F ι α ν) (ps : List (Parser F ι α ν)) {qs : List (Parser F ι α ν)}
    (hqs : qs ≠ []) : firstOf (p :: ps ++ qs) = (firstOf (p :: ps)).orElse (firstOf qs) := by
  induction ps generalizing p with
  | nil =>
    obtain ⟨q, qs, rfl⟩ := List.exists_cons_of_ne_nil hqs
    exact firstOf_cons_cons p q qs
  | cons s ps ih =>
    rw [List.cons_append, List.cons_append, firstOf_cons_cons, ← List.cons_append, ih, firstOf_cons_cons,
      orElse_assoc]

/-- The alternatives of `failed` fail, each with its error, and what comes of the next one is what comes of
the choice. -/
theorem firstOf_tries (p : Parser F ι α ν) (ps : List (Parser F ι α ν)) (x : ι) :
    ∃ (failed : List (Parser F ι α ν × ParseError F)) (q : Parser F ι α ν) (later : List (Parser F ι α ν)),
      p :: ps = failed.map Prod.fst ++ q :: later ∧ (∀ a ∈ failed, a.1.Fails x a.2) ∧ (later = [] ∨ ∀ e, ¬q.Fails x e) ∧
      (firstOf (p :: ps)).run x =
        (q.run x).after (failed.flatMap fun a => (a.1.run x).log ++ [.abandoned a.2]) := by
  induction ps generalizing p with
  | nil => exact ⟨[], p, [], rfl, by simp, .inl rfl, rfl⟩
  | cons s ps ih =>
    by_cases hp : ∃ e, p.Fails x e
    · obtain ⟨e, he⟩ := hp
      obtain ⟨failed, q, later, hsplit, hfailed, hlast, hrun⟩ := ih s
      refine ⟨(p, e) :: failed, q, later, congrArg (p :: ·) hsplit, ?_, hlast, ?_⟩
      · exact List.forall_mem_cons.mpr ⟨he, hfailed⟩
      · rw [firstOf_cons_cons, run_orElse_of_fails he, hrun]
        simp only [Run.after, List.flatMap_cons, List.append_assoc]
    · have hp : ∀ e, ¬p.Fails x e := fun e he => hp ⟨e, he⟩
      refine ⟨[], p, s :: ps, rfl, by simp, .inr hp, ?_⟩
      rw [firstOf_cons_cons, run_orElse_of_not_fails hp]
      rfl

end Parser

/-! ## Bracketings -/

/-- A way to group alternatives from `P`. A choice within a choice has one alternative at least. -/
inductive Bracketing (P : Type)
  | alternative (p : P)
  | orElse (s t : Bracketing P)
  | firstOf (t : Bracketing P) (ts : List (Bracketing P))

namespace Bracketing

mutual
def alternatives {P : Type} : Bracketing P → List P
  | .alternative p => [p]
  | .orElse s t => s.alternatives ++ t.alternatives
  | .firstOf t ts => t.alternatives ++ alternativesOf ts
def alternativesOf {P : Type} : List (Bracketing P) → List P
  | [] => []
  | t :: ts => t.alternatives ++ alternativesOf ts
end

mutual
def toParser : Bracketing (Parser F ι α ν) → Parser F ι α ν
  | .alternative p => p
  | .orElse s t => s.toParser.orElse t.toParser
  | .firstOf t ts => Parser.firstOf (t.toParser :: toParsers ts)
def toParsers : List (Bracketing (Parser F ι α ν)) → List (Parser F ι α ν)
  | [] => []
  | t :: ts => t.toParser :: toParsers ts
end

theorem exists_cons_alternatives {P : Type} : ∀ t : Bracketing P, ∃ p ps, t.alternatives = p :: ps
  | .alternative p => ⟨p, [], rfl⟩
  | .orElse s t => by
    obtain ⟨p, ps, hs⟩ := s.exists_cons_alternatives
    exact ⟨p, ps ++ t.alternatives, by rw [alternatives, hs]; rfl⟩
  | .firstOf t ts => by
    obtain ⟨p, ps, ht⟩ := t.exists_cons_alternatives
    exact ⟨p, ps ++ alternativesOf ts, by rw [alternatives, ht]; rfl⟩

mutual
theorem toParser_eq_firstOf : ∀ t : Bracketing (Parser F ι α ν), t.toParser = .firstOf t.alternatives
  | .alternative p => rfl
  | .orElse s t => by
    obtain ⟨p, ps, hs⟩ := s.exists_cons_alternatives
    obtain ⟨q, qs, ht⟩ := t.exists_cons_alternatives
    rw [toParser, s.toParser_eq_firstOf, t.toParser_eq_firstOf, alternatives, hs,
      Parser.firstOf_append p ps (by rw [ht]; simp)]
  | .firstOf t ts => by
    obtain ⟨p, ps, ht⟩ := t.exists_cons_alternatives
    rw [toParser, alternatives, ht, Parser.firstOf, t.toParser_eq_firstOf, ht, foldl_toParsers ts]
theorem foldl_toParsers : ∀ (ts : List (Bracketing (Parser F ι α ν))) {p : Parser F ι α ν}
    {ps : List (Parser F ι α ν)},
    (toParsers ts).foldl Parser.orElse (.firstOf (p :: ps)) = .firstOf (p :: ps ++ alternativesOf ts)
  | [], p, ps => by simp [toParsers, alternativesOf]
  | t :: ts, p, ps => by
    obtain ⟨q, qs, ht⟩ := t.exists_cons_alternatives
    rw [toParsers, List.foldl_cons, t.toParser_eq_firstOf, ← Parser.firstOf_append p ps (by rw [ht]; simp),
      List.cons_append, foldl_toParsers ts, alternativesOf, List.cons_append, List.cons_append, List.append_assoc]
end

/-- **Choice does not depend on bracketing.** A bracketing is the parser that groups the same alternatives
from the left. On every input it goes through the alternatives that fail, up to the first that does not, or
to the last, and comes to what that one comes to. What each of them reports stands in the log in their order,
and the error of each that failed is recorded right after it; of the last one nothing is recorded. -/
theorem tries_in_order (t : Bracketing (Parser F ι α ν)) :
    t.toParser = .firstOf t.alternatives ∧
    ∀ x, ∃ (failed : List (Parser F ι α ν × ParseError F)) (p : Parser F ι α ν)
        (later : List (Parser F ι α ν)),
      t.alternatives = failed.map Prod.fst ++ p :: later ∧ (∀ a ∈ failed, a.1.Fails x a.2) ∧ (later = [] ∨ ∀ e, ¬p.Fails x e) ∧
      t.toParser.run x =
        ⟨(failed.flatMap fun a => (a.1.run x).log ++ [.abandoned a.2]) ++ (p.run x).log, (p.run x).result⟩ := by
  refine ⟨t.toParser_eq_firstOf, fun x => ?_⟩
  obtain ⟨p, ps, ht⟩ := t.exists_cons_alternatives
  rw [t.toParser_eq_firstOf, ht]
  exact Parser.firstOf_tries p ps x

example :
    let t : Bracketing (Parser .none Text Nat) :=
      .orElse (.alternative (.failMessage "one"))
        (.firstOf (.alternative (.failMessage "two")) [.alternative (.pure 3), .alternative (.pure 4)])
    (t.toParser.run (.ofString "")).log = [.abandoned (.generic "one"), .abandoned (.generic "two")] := rfl

end Bracketing

end Parsing
