import Parsing.Parser.Sequence
import Parsing.Proofs.Result

/-!
# Sequences, however they are bracketed

Running one parser after another is associative, log and faults included, and a parser that takes nothing is
neutral. So a sequence of parsers comes to the same in whatever pairs it is written: the parsers run from the
left, each on what the one before it left, up to the first that does not succeed. The operations that keep
only a part of the values are projections of the pairs.
-/

namespace Parsing

variable {F : ErrorFamily} {ι α β γ δ ν : Type}

/-! ## Runs after runs -/

namespace Run

theorem after_nil (s : Run F ι α ν) : s.after [] = s := rfl

theorem after_after (log log' : List (Event F ν)) (s : Run F ι α ν) :
    (s.after log').after log = s.after (log ++ log') := by
  unfold after
  rw [List.append_assoc]

theorem success_after (log : List (Event F ν)) (v : α) (r : ι) :
    (success v r : Run F ι α ν).after log = ⟨log, .ok (.success v r)⟩ := by
  unfold after success
  rw [List.append_nil]

theorem andThen_after (log : List (Event F ν)) (s : Run F ι α ν) (next : α → ι → Run F ι β ν) :
    (s.after log).andThen next = (s.andThen next).after log := by
  obtain ⟨log', result⟩ := s
  rcases result with f | ⟨v, r⟩ | e
  · rfl
  · exact (after_after log log' (next v r)).symm
  · rfl

theorem andThen_assoc (s : Run F ι α ν) (next : α → ι → Run F ι β ν) (next' : β → ι → Run F ι γ ν) :
    (s.andThen next).andThen next' = s.andThen fun v r => (next v r).andThen next' := by
  obtain ⟨log, result⟩ := s
  rcases result with f | ⟨v, r⟩ | e
  · rfl
  · exact andThen_after log (next v r) next'
  · rfl

theorem andThen_success (s : Run F ι α ν) : s.andThen success = s := by
  obtain ⟨log, result⟩ := s
  rcases result with f | ⟨v, r⟩ | e
  · rfl
  · exact success_after log v r
  · rfl

theorem mapOutcome_eq_andThen (s : Run F ι α ν) (g : α → β) :
    s.mapOutcome (.map g) = s.andThen fun v r => success (g v) r := by
  obtain ⟨log, result⟩ := s
  rcases result with f | ⟨v, r⟩ | e
  · rfl
  · exact (success_after log (g v) r).symm
  · rfl

end Run

namespace Parser

/-! ## Laws of the sequence -/

section
variable (p : Parser F ι α ν) (q : Parser F ι β ν) (s : Parser F ι γ ν)

theorem bind_assoc (f : α → Parser F ι β ν) (g : β → Parser F ι γ ν) :
    (p.bind f).bind g = p.bind fun v => (f v).bind g :=
  eq_of_run fun x => Run.andThen_assoc (p.run x) _ _

theorem pure_bind (v : α) (f : α → Parser F ι β ν) : (pure v).bind f = f v :=
  eq_of_run fun x => Run.after_nil ((f v).run x)

theorem bind_pure : p.bind pure = p := eq_of_run fun x => Run.andThen_success (p.run x)

theorem map_eq_bind (g : α → β) : p.map g = p.bind fun v => pure (g v) :=
  eq_of_run fun x => Run.mapOutcome_eq_andThen (p.run x) g

theorem map_id : p.map id = p := by
  rw [map_eq_bind]
  exact bind_pure p

theorem map_map (f : α → β) (g : β → γ) : (p.map f).map g = p.map fun v => g (f v) := by
  rw [map_eq_bind, map_eq_bind, map_eq_bind, bind_assoc]
  simp only [pure_bind]

theorem bind_map (f : α → β) (g : β → Parser F ι γ ν) : (p.map f).bind g = p.bind fun v => g (f v) := by
  rw [map_eq_bind, bind_assoc]
  simp only [pure_bind]

theorem map_bind (f : α → Parser F ι β ν) (g : β → γ) : (p.bind f).map g = p.bind fun v => (f v).map g := by
  rw [map_eq_bind, bind_assoc]
  simp only [map_eq_bind]

theorem map_pair (f : α → γ) : (p.map f).pair q = (p.pair q).map fun w => (f w.1, w.2) := by
  unfold pair
  rw [bind_map, map_bind]
  simp only [map_map]

theorem pair_map (g : β → γ) : p.pair (q.map g) = (p.pair q).map fun w => (w.1, g w.2) := by
  unfold pair
  rw [map_bind]
  simp only [map_map]

theorem map_pair_map (f : α → γ) (g : β → δ) :
    (p.map f).pair (q.map g) = (p.pair q).map fun w => (f w.1, g w.2) := by
  rw [map_pair, pair_map, map_map]

theorem pair_assoc : (p.pair q).pair s = (p.pair (q.pair s)).map fun w => ((w.1, w.2.1), w.2.2) := by
  unfold pair
  rw [bind_assoc, map_bind]
  simp only [bind_map, map_bind, map_map]

theorem pure_pair (v : α) : (pure v).pair q = q.map fun w => (v, w) := pure_bind v _

theorem pair_pure (w : β) : p.pair (pure w) = p.map fun v => (v, w) := by
  unfold pair
  simp only [map_eq_bind, pure_bind]

theorem seqRight_eq : p.seqRight q = (p.pair q).map Prod.snd := by
  unfold pair seqRight
  rw [map_bind]
  simp only [map_map]
  exact congrArg p.bind (funext fun _ => (map_id q).symm)

theorem between_eq : between p q s = ((p.pair q).pair s).map fun w => w.1.2 := by
  unfold between seqLeft
  rw [seqRight_eq, map_pair, map_map]

theorem between_eq_bind : between p q s = p.bind fun _ => q.bind fun w => s.map fun _ => w := by
  unfold between seqLeft seqRight pair
  rw [map_bind, bind_assoc]
  simp only [map_map]

end

/-! ## The run of a sequence -/

section
variable {p : Parser F ι α ν} {q : Parser F ι β ν} {next : α → Parser F ι β ν} {x y r : ι} {v : α}
variable {w : α × β} {e : ParseError F} {f : Fault}

theorem run_bind (p : Parser F ι α ν) (next : α → Parser F ι β ν) (x : ι) :
    (p.bind next).run x = (p.run x).andThen fun v r => (next v).run r := rfl

theorem run_bind_of_succeeds (h : p.Succeeds x v r) :
    (p.bind next).run x = ((next v).run r).after (p.run x).log := by
  unfold Succeeds at h
  simp only [run_bind, Run.andThen, h]

theorem run_bind_of_fails (h : p.Fails x e) : (p.bind next).run x = ⟨(p.run x).log, .ok (.failure e)⟩ := by
  unfold Fails at h
  simp only [run_bind, Run.andThen, h]

theorem run_bind_of_faults (h : p.Faults x f) : (p.bind next).run x = ⟨(p.run x).log, .error f⟩ := by
  unfold Faults at h
  simp only [run_bind, Run.andThen, h]

theorem log_pair_of_succeeds (h : p.Succeeds x v y) :
    ((p.pair q).run x).log = (p.run x).log ++ (q.run y).log := by
  unfold pair
  rw [run_bind_of_succeeds h]
  rfl

theorem succeeds_pair : (p.pair q).Succeeds x w r ↔ ∃ y, p.Succeeds x w.1 y ∧ q.Succeeds y w.2 r := by
  obtain ⟨v, u⟩ := w
  simp only [pair, succeeds_bind, succeeds_map, Prod.mk.injEq]
  constructor
  · rintro ⟨v, y, hv, u, hu, rfl, rfl⟩
    exact ⟨y, hv, hu⟩
  · rintro ⟨y, hv, hu⟩
    exact ⟨v, y, hv, u, hu, rfl, rfl⟩

theorem fails_pair_of_succeeds (h : p.Succeeds x v y) (he : q.Fails y e) : (p.pair q).Fails x e :=
  fails_bind.mpr (.inr ⟨v, y, h, fails_map.mpr he⟩)

theorem faults_pair_of_succeeds (h : p.Succeeds x v y) (hf : q.Faults y f) : (p.pair q).Faults x f :=
  faults_bind.mpr (.inr ⟨v, y, h, faults_map.mpr hf⟩)

end

end Parser

/-! ## One parser after another -/

abbrev Stage (F : ErrorFamily) (ι ν : Type) := Σ α : Type, Parser F ι α ν

/-- The values of all stages, in their order. -/
def Values : List (Stage F ι ν) → Type
  | [] => Unit
  | p :: ps => p.1 × Values ps

def Values.append : {ps qs : List (Stage F ι ν)} → Values ps → Values qs → Values (ps ++ qs)
  | [], _, _, ws => ws
  | _ :: _, _, vs, ws => (vs.1, Values.append vs.2 ws)

def Parser.inSequence : (ps : List (Stage F ι ν)) → Parser F ι (Values ps) ν
  | [] => pure ()
  | p :: ps => p.2.pair (inSequence ps)

/-- The stages succeed one after the other, from `x` to `y`, with the values `vs`, and report `log`. -/
inductive Succession : (ps : List (Stage F ι ν)) → ι → Values ps → ι → List (Event F ν) → Prop
  | nil (x : ι) : Succession [] x () x []
  | cons {α : Type} {p : Parser F ι α ν} {ps : List (Stage F ι ν)} {x y z : ι} {v : α} {vs : Values ps}
    {log : List (Event F ν)} : p.Succeeds x v y → Succession ps y vs z log →
      Succession (⟨α, p⟩ :: ps) x (v, vs) z ((p.run x).log ++ log)

namespace Parser

theorem inSequence_append (ps qs : List (Stage F ι ν)) :
    inSequence (ps ++ qs) = ((inSequence ps).pair (inSequence qs)).map fun w => w.1.append w.2 := by
  induction ps with
  | nil =>
    have h : (pure () : Parser F ι Unit ν).pair (inSequence qs) = (inSequence qs).map fun w => ((), w) :=
      pure_pair (inSequence qs) ()
    calc inSequence qs
      _ = (inSequence qs).map fun w => w := (map_id _).symm
      _ = ((inSequence qs).map fun w => ((), w)).map fun w => w.2 := by rw [map_map]
      _ = ((pure () : Parser F ι Unit ν).pair (inSequence qs)).map fun w => w.2 := by rw [h]
  | cons p ps ih =>
    have hl : p.2.pair (inSequence (ps ++ qs)) =
        (p.2.pair ((inSequence ps).pair (inSequence qs))).map fun w => (w.1, w.2.1.append w.2.2) := by
      rw [ih, pair_map]
    have hr : ((p.2.pair (inSequence ps)).pair (inSequence qs)).map (fun w => (w.1.1, w.1.2.append w.2)) =
        (p.2.pair ((inSequence ps).pair (inSequence qs))).map fun w => (w.1, w.2.1.append w.2.2) := by
      rw [pair_assoc, map_map]
    exact hl.trans hr.symm

theorem inSequence_runs (ps : List (Stage F ι ν)) (x : ι) :
    (∃ vs y, (inSequence ps).Succeeds x vs y ∧ Succession ps x vs y ((inSequence ps).run x).log) ∨
    ∃ (done later : List (Stage F ι ν)) (α : Type) (p : Parser F ι α ν) (vs : Values done) (y : ι)
        (log : List (Event F ν)), ps = done ++ ⟨α, p⟩ :: later ∧ Succession done x vs y log ∧
      ((inSequence ps).run x).log = log ++ (p.run y).log ∧
      ((∃ e, p.Fails y e ∧ (inSequence ps).Fails x e) ∨ ∃ f, p.Faults y f ∧ (inSequence ps).Faults x f) := by
  induction ps generalizing x with
  | nil => exact .inl ⟨(), x, rfl, .nil x⟩
  | cons p ps ih =>
    obtain ⟨α, p⟩ := p
    rcases p.outcome_cases x with ⟨v, y, hv⟩ | ⟨e, he⟩ | ⟨f, hf⟩
    · have hlog : ((inSequence (⟨α, p⟩ :: ps)).run x).log = (p.run x).log ++ ((inSequence ps).run y).log :=
        log_pair_of_succeeds hv
      rw [hlog]
      rcases ih y with ⟨vs, z, hvs, hs⟩ | ⟨done, later, β, q, vs, z, log, rfl, hs, hlog', hstop⟩
      · exact .inl ⟨(v, vs), z, succeeds_pair.mpr ⟨y, hv, hvs⟩, .cons hv hs⟩
      · refine .inr ⟨⟨α, p⟩ :: done, later, β, q, (v, vs), z, (p.run x).log ++ log, rfl, .cons hv hs, ?_, ?_⟩
        · rw [hlog', List.append_assoc]
        · rcases hstop with ⟨e, hq, he⟩ | ⟨f, hq, hf⟩
          · exact .inl ⟨e, hq, fails_pair_of_succeeds hv he⟩
          · exact .inr ⟨f, hq, faults_pair_of_succeeds hv hf⟩
    · refine .inr ⟨[], ps, α, p, (), x, [], rfl, .nil x, ?_, .inl ⟨e, he, fails_bind.mpr (.inl he)⟩⟩
      exact congrArg Run.log (run_bind_of_fails he)
    · refine .inr ⟨[], ps, α, p, (), x, [], rfl, .nil x, ?_, .inr ⟨f, hf, faults_bind.mpr (.inl hf)⟩⟩
      exact congrArg Run.log (run_bind_of_faults hf)

end Parser

/-! ## Bracketings -/

/-- The stages in pairs of pairs, grouped in any way. The second index is the type of the pairs. -/
inductive Pairing : List (Stage F ι ν) → Type → Type 1
  | stage {α : Type} (p : Parser F ι α ν) : Pairing [⟨α, p⟩] α
  | pair {ps qs : List (Stage F ι ν)} {α β : Type} (s : Pairing ps α) (t : Pairing qs β) :
    Pairing (ps ++ qs) (α × β)

namespace Pairing

def toParser : {ps : List (Stage F ι ν)} → {α : Type} → Pairing ps α → Parser F ι α ν
  | _, _, .stage p => p
  | _, _, .pair s t => s.toParser.pair t.toParser

def flatten : {ps : List (Stage F ι ν)} → {α : Type} → Pairing ps α → α → Values ps
  | _, _, .stage _, v => (v, ())
  | _, _, .pair s t, w => (s.flatten w.1).append (t.flatten w.2)

theorem map_flatten {ps : List (Stage F ι ν)} (t : Pairing ps α) :
    t.toParser.map t.flatten = Parser.inSequence ps := by
  induction t with
  | stage p =>
    unfold Parser.inSequence Parser.inSequence
    exact (Parser.pair_pure p ()).symm
  | pair s t ihs iht =>
    rw [Parser.inSequence_append, ← ihs, ← iht, Parser.map_pair_map, Parser.map_map]
    rfl

theorem runs_in_order {ps : List (Stage F ι ν)} (t : Pairing ps α) (x : ι) :
    (∃ v y, t.toParser.Succeeds x v y ∧ Succession ps x (t.flatten v) y (t.toParser.run x).log) ∨
    ∃ (done later : List (Stage F ι ν)) (β : Type) (p : Parser F ι β ν) (vs : Values done) (y : ι)
        (log : List (Event F ν)), ps = done ++ ⟨β, p⟩ :: later ∧ Succession done x vs y log ∧
      (t.toParser.run x).log = log ++ (p.run y).log ∧
      ((∃ e, p.Fails y e ∧ t.toParser.Fails x e) ∨ ∃ f, p.Faults y f ∧ t.toParser.Faults x f) := by
  have hlog : (t.toParser.run x).log = ((t.toParser.map t.flatten).run x).log := rfl
  have h := Parser.inSequence_runs ps x
  rw [← t.map_flatten, ← hlog] at h
  simp only [Parser.succeeds_map, Parser.fails_map, Parser.faults_map] at h
  rcases h with ⟨_, y, ⟨v, hv, rfl⟩, hs⟩ | hstop
  · exact .inl ⟨v, y, hv, hs⟩
  · exact .inr hstop

end Pairing

/-! ## What is kept of the values -/

/-- Stages in a row that may keep only a part of the values of their parts, or change them. -/
inductive Sequencing : List (Stage F ι ν) → Type → Type 1
  | stage {α : Type} (p : Parser F ι α ν) : Sequencing [⟨α, p⟩] α
  | map {ps : List (Stage F ι ν)} {α β : Type} (f : α → β) (t : Sequencing ps α) : Sequencing ps β
  | pair {ps qs : List (Stage F ι ν)} {α β : Type} (s : Sequencing ps α) (t : Sequencing qs β) :
    Sequencing (ps ++ qs) (α × β)
  | seqLeft {ps qs : List (Stage F ι ν)} {α β : Type} (s : Sequencing ps α) (t : Sequencing qs β) :
    Sequencing (ps ++ qs) α
  | seqRight {ps qs : List (Stage F ι ν)} {α β : Type} (s : Sequencing ps α) (t : Sequencing qs β) :
    Sequencing (ps ++ qs) β
  | between {ps qs us : List (Stage F ι ν)} {α β γ : Type} (s : Sequencing ps α) (t : Sequencing qs β)
    (u : Sequencing us γ) : Sequencing (ps ++ qs ++ us) β

namespace Sequencing

def toParser : {ps : List (Stage F ι ν)} → {α : Type} → Sequencing ps α → Parser F ι α ν
  | _, _, .stage p => p
  | _, _, .map f t => t.toParser.map f
  | _, _, .pair s t => s.toParser.pair t.toParser
  | _, _, .seqLeft s t => s.toParser.seqLeft t.toParser
  | _, _, .seqRight s t => s.toParser.seqRight t.toParser
  | _, _, .between s t u => .between s.toParser t.toParser u.toParser

def Pairs : {ps : List (Stage F ι ν)} → {α : Type} → Sequencing ps α → Type
  | _, α, .stage _ => α
  | _, _, .map _ t => t.Pairs
  | _, _, .pair s t => s.Pairs × t.Pairs
  | _, _, .seqLeft s t => s.Pairs × t.Pairs
  | _, _, .seqRight s t => s.Pairs × t.Pairs
  | _, _, .between s t u => (s.Pairs × t.Pairs) × u.Pairs

def pairing : {ps : List (Stage F ι ν)} → {α : Type} → (t : Sequencing ps α) → Pairing ps t.Pairs
  | _, _, .stage p => .stage p
  | _, _, .map _ t => t.pairing
  | _, _, .pair s t => .pair s.pairing t.pairing
  | _, _, .seqLeft s t => .pair s.pairing t.pairing
  | _, _, .seqRight s t => .pair s.pairing t.pairing
  | _, _, .between s t u => .pair (.pair s.pairing t.pairing) u.pairing

def project : {ps : List (Stage F ι ν)} → {α : Type} → (t : Sequencing ps α) → t.Pairs → α
  | _, _, .stage _, v => v
  | _, _, .map f t, w => f (t.project w)
  | _, _, .pair s t, w => (s.project w.1, t.project w.2)
  | _, _, .seqLeft s _, w => s.project w.1
  | _, _, .seqRight _ t, w => t.project w.2
  | _, _, .between _ t _, w => t.project w.1.2

theorem toParser_eq {ps : List (Stage F ι ν)} (t : Sequencing ps α) :
    t.toParser = t.pairing.toParser.map t.project := by
  induction t with
  | stage p => exact (Parser.map_id p).symm
  | map f t ih =>
    unfold toParser
    rw [ih, Parser.map_map]
    rfl
  | pair s t ihs iht =>
    unfold toParser
    rw [ihs, iht, Parser.map_pair_map]
    rfl
  | seqLeft s t ihs iht =>
    unfold toParser Parser.seqLeft
    rw [ihs, iht, Parser.map_pair_map, Parser.map_map]
    rfl
  | seqRight s t ihs iht =>
    unfold toParser
    rw [Parser.seqRight_eq, ihs, iht, Parser.map_pair_map, Parser.map_map]
    rfl
  | between s t u ihs iht ihu =>
    unfold toParser
    rw [Parser.between_eq, ihs, iht, ihu, Parser.map_pair_map, Parser.map_pair_map, Parser.map_map]
    rfl

end Sequencing

/-- **Sequences do not depend on their bracketing.** Binding is associative, a parser that takes nothing is
neutral for it on both sides, and mapping is a case of it; outcome and log are the same. However stages are
paired, their values in order, the rest, the error, the fault and the log are the same: the stages run from
the left, each on the rest of the one before it, up to the first that does not succeed, and what that one
comes to is returned. The operations that keep a part of the values run the same stages in the same pairs, and
differ in nothing but the projection of the values. -/
theorem Pairing.sequences_alike :
    (∀ {α β γ : Type} (p : Parser F ι α ν) (f : α → Parser F ι β ν) (g : β → Parser F ι γ ν),
      (p.bind f).bind g = p.bind fun v => (f v).bind g) ∧
    (∀ {α β : Type} (v : α) (f : α → Parser F ι β ν), (Parser.pure v).bind f = f v) ∧
    (∀ {α : Type} (p : Parser F ι α ν), p.bind .pure = p) ∧
    (∀ {α β : Type} (p : Parser F ι α ν) (g : α → β), p.map g = p.bind fun v => .pure (g v)) ∧
    (∀ {ps : List (Stage F ι ν)} {α β : Type} (s : Pairing ps α) (t : Pairing ps β),
      s.toParser.map s.flatten = t.toParser.map t.flatten) ∧
    (∀ {ps : List (Stage F ι ν)} {α : Type} (t : Pairing ps α) (x : ι),
      (∃ v y, t.toParser.Succeeds x v y ∧ Succession ps x (t.flatten v) y (t.toParser.run x).log) ∨
      ∃ (done later : List (Stage F ι ν)) (β : Type) (p : Parser F ι β ν) (vs : Values done) (y : ι)
          (log : List (Event F ν)), ps = done ++ ⟨β, p⟩ :: later ∧ Succession done x vs y log ∧
        (t.toParser.run x).log = log ++ (p.run y).log ∧
        ((∃ e, p.Fails y e ∧ t.toParser.Fails x e) ∨ ∃ f, p.Faults y f ∧ t.toParser.Faults x f)) ∧
    (∀ {α β γ : Type} (p : Parser F ι α ν) (q : Parser F ι β ν) (s : Parser F ι γ ν),
      p.seqLeft q = (p.pair q).map Prod.fst ∧ p.seqRight q = (p.pair q).map Prod.snd ∧
        .between p q s = ((p.pair q).pair s).map fun w => w.1.2) ∧
    ∀ {ps : List (Stage F ι ν)} {α : Type} (t : Sequencing ps α),
      t.toParser = t.pairing.toParser.map t.project := by
  refine ⟨Parser.bind_assoc, Parser.pure_bind, Parser.bind_pure, Parser.map_eq_bind, fun s t => ?_,
    Pairing.runs_in_order, fun p q s => ⟨rfl, Parser.seqRight_eq p q, Parser.between_eq p q s⟩,
    Sequencing.toParser_eq⟩
  rw [s.map_flatten, t.map_flatten]

/-- Three stages can be paired in two ways. -/
example (p : Parser F ι α ν) (q : Parser F ι β ν) (s : Parser F ι γ ν) :
    let l : Pairing [⟨α, p⟩, ⟨β, q⟩, ⟨γ, s⟩] ((α × β) × γ) := .pair (.pair (.stage p) (.stage q)) (.stage s)
    let r : Pairing [⟨α, p⟩, ⟨β, q⟩, ⟨γ, s⟩] (α × β × γ) := .pair (.stage p) (.pair (.stage q) (.stage s))
    ∀ u v w, l.flatten ((u, v), w) = r.flatten (u, v, w) := fun _ _ _ => rfl

end Parsing
