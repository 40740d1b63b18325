import Parsing.Grammar.Meaning
import Parsing.Proofs.Result

/-!
# The parse behind the depths

A run that is not cut off at one depth of rules within rules is the same at every greater depth. It
is what the parse comes back with; where every depth cuts the run off, the parse does not come back.
-/

namespace Parsing

variable {F : ErrorFamily} {ι ε ρ α β : Type} {τ : ρ → Type} {π : Type → Type}

theorem Run.andThen_congr {s : Run F ι α} {next next' : α → ι → Run F ι β}
    (h : ∀ v r, s.result = .ok (.success v r) → next v r = next' v r) :
    s.andThen next = s.andThen next' := by
  unfold Run.andThen
  split
  · rename_i hs; rw [h _ _ hs]
  · rfl
  · rfl

theorem Run.recover_congr {s : Run F ι α} {next next' : ParseError F → Run F ι α}
    (h : ∀ e, s.result = .ok (.failure e) → next e = next' e) : s.recover next = s.recover next' := by
  unfold Run.recover
  split
  · rfl
  · rename_i hs; rw [h _ hs]
  · rfl

namespace Parser

/-- From some `n` on, `qs n` runs as `p` does, wherever `p` is not cut off. -/
def ApproachedBy (p : Parser F ι α) (qs : Nat → Parser F ι α) : Prop :=
  ∀ x, ¬p.Faults x .tooDeep → ∃ m, ∀ n, m ≤ n → (qs n).run x = p.run x

namespace ApproachedBy

variable {p p' : Parser F ι α} {qs qs' : Nat → Parser F ι α}

theorem refl (p : Parser F ι α) : p.ApproachedBy fun _ => p := fun _ _ => ⟨0, fun _ _ => rfl⟩

theorem map (f : α → β) (h : p.ApproachedBy qs) : (p.map f).ApproachedBy fun n => (qs n).map f := by
  intro x hx
  obtain ⟨m, hm⟩ := h x (mt faults_map.mpr hx)
  exact ⟨m, fun n hn => congrArg (Run.mapOutcome _) (hm n hn)⟩

theorem validate (check : α → Option (ParseError F)) (h : p.ApproachedBy qs) :
    (p.validate check).ApproachedBy fun n => (qs n).validate check := by
  intro x hx
  obtain ⟨m, hm⟩ := h x (mt faults_validate.mpr hx)
  exact ⟨m, fun n hn => congrArg (Run.mapOutcome _) (hm n hn)⟩

theorem mapError (f : ParseError F → ParseError F) (h : p.ApproachedBy qs) :
    (p.mapError f).ApproachedBy fun n => (qs n).mapError f := by
  intro x hx
  obtain ⟨m, hm⟩ := h x (mt faults_mapError.mpr hx)
  exact ⟨m, fun n hn => congrArg (Run.mapOutcome _) (hm n hn)⟩

theorem bind {next : α → Parser F ι β} {nexts : Nat → α → Parser F ι β} (h : p.ApproachedBy qs)
    (hn : ∀ v, (next v).ApproachedBy fun n => nexts n v) :
    (p.bind next).ApproachedBy fun n => (qs n).bind (nexts n) := by
  intro x hx
  rw [faults_bind, not_or] at hx
  obtain ⟨hp, hx⟩ := hx
  obtain ⟨m, hm⟩ := h x hp
  -- only one value is passed on, if any
  have hnext : ∃ m', ∀ n, m' ≤ n → ∀ v r, p.Succeeds x v r → (nexts n v).run r = (next v).run r := by
    by_cases hv : ∃ v r, p.Succeeds x v r
    · obtain ⟨v, r, hv⟩ := hv
      obtain ⟨m', hm'⟩ := hn v r fun hf => hx ⟨v, r, hv, hf⟩
      refine ⟨m', fun n hn w y hw => ?_⟩
      obtain ⟨rfl, rfl⟩ := hv.unique hw
      exact hm' n hn
    · exact ⟨0, fun n _ v r hv' => absurd ⟨v, r, hv'⟩ hv⟩
  obtain ⟨m', hm'⟩ := hnext
  refine ⟨max m m', fun n hn => ?_⟩
  simp only [Parser.bind, hm n (by omega)]
  exact Run.andThen_congr fun v r hv => hm' n (by omega) v r hv

theorem orElse (h : p.ApproachedBy qs) (h' : p'.ApproachedBy qs') :
    (p.orElse p').ApproachedBy fun n => (qs n).orElse (qs' n) := by
  intro x hx
  rw [faults_orElse, not_or] at hx
  obtain ⟨hp, hx⟩ := hx
  obtain ⟨m, hm⟩ := h x hp
  have hnext : ∃ m', ∀ n, m' ≤ n → ∀ e, p.Fails x e → (qs' n).run x = p'.run x := by
    by_cases he : ∃ e, p.Fails x e
    · obtain ⟨m', hm'⟩ := h' x fun hf => hx ⟨he, hf⟩
      exact ⟨m', fun n hn _ _ => hm' n hn⟩
    · exact ⟨0, fun n _ e he' => absurd ⟨e, he'⟩ he⟩
  obtain ⟨m', hm'⟩ := hnext
  refine ⟨max m m', fun n hn => ?_⟩
  simp only [Parser.orElse, hm n (by omega)]
  refine Run.recover_congr fun e he => ?_
  rw [hm' n (by omega) e he]

theorem many {ε : Type} [Input ι ε] (h : p.ApproachedBy qs) : p.many.ApproachedBy fun n => (qs n).many := by
  intro x hx
  refine manyFrom_induction (P := fun x count s => ¬s.result = .error .tooDeep →
    ∃ m, ∀ n, m ≤ n → (qs n).manyFrom count x = s) ?_ ?_ ?_ ?_ x 0 hx
  · intro x count v y hv hs ih hx
    obtain ⟨m, hm⟩ := h x hv.not_faults
    obtain ⟨m', hm'⟩ := ih fun hf => hx (faults_map (p := p.manyAfter (count + 1)).mpr hf)
    refine ⟨max m m', fun n hn => ?_⟩
    have hr := hm n (by omega)
    have hv' : (qs n).Succeeds x v y := by rw [Succeeds, hr]; exact hv
    rw [manyFrom_of_succeeds hv' hs, hm' n (by omega), hr]
  · intro x count v y hv hs _
    obtain ⟨m, hm⟩ := h x hv.not_faults
    refine ⟨m, fun n hn => ?_⟩
    have hv' : (qs n).Succeeds x v y := by rw [Succeeds, hm n hn]; exact hv
    rw [manyFrom_of_stalls hv' hs, hm n hn]
  · intro x count e he _
    obtain ⟨m, hm⟩ := h x he.not_faults
    refine ⟨m, fun n hn => ?_⟩
    have he' : (qs n).Fails x e := by rw [Fails, hm n hn]; exact he
    rw [manyFrom_of_fails he', hm n hn]
  · intro x count f hf hx
    obtain ⟨m, hm⟩ := h x fun hf' => hx (by cases hf.symm.trans hf'; rfl)
    refine ⟨m, fun n hn => ?_⟩
    have hf' : (qs n).Faults x f := by rw [Faults, hm n hn]; exact hf
    rw [manyFrom_of_faults hf', hm n hn]

end ApproachedBy

def ExtendedBy (p q : Parser F ι α) : Prop := ∀ x, ¬p.Faults x .tooDeep → q.run x = p.run x

theorem extendedBy_iff_approachedBy {p q : Parser F ι α} : p.ExtendedBy q ↔ p.ApproachedBy fun _ => q := by
  refine forall_congr' fun x => forall_congr' fun _ => ⟨fun h => ⟨0, fun _ _ => h⟩, fun ⟨m, hm⟩ => ?_⟩
  exact hm m (Nat.le_refl m)

theorem ExtendedBy.trans {p q s : Parser F ι α} (h : p.ExtendedBy q) (h' : q.ExtendedBy s) :
    p.ExtendedBy s := by
  intro x hx
  have hrun := h x hx
  rw [h' x (by rwa [Faults, hrun]), hrun]

theorem ExtendedBy.cutOff (q : Parser F ι α) : (fault .tooDeep).ExtendedBy q :=
  fun _ hx => absurd (faults_fault.mpr rfl) hx

end Parser

section
variable [Input ι ε] [BEq ε] [Describe ε] [CustomParser F ι π]

theorem Grammar.toParser_approachedBy {rules : (r : ρ) → Parser F ι (τ r)}
    (rules' : Nat → (r : ρ) → Parser F ι (τ r)) (h : ∀ r, (rules r).ApproachedBy fun n => rules' n r)
    (g : Grammar F ε τ π α) : (g.toParser rules).ApproachedBy fun n => g.toParser (rules' n) := by
  induction g with
  | map f _ ih => exact ih.map f
  | bind _ _ ih ihn => exact ih.bind ihn
  | validate check _ ih => exact ih.validate check
  | mapError f _ ih => exact ih.mapError f
  | orElse _ _ ih ihh => exact ih.orElse ihh
  | many _ ih => exact ih.many
  | delay _ ih => exact ih ()
  | rule r => exact h r
  | _ => exact .refl _

theorem Grammar.toParser_extendedBy {rules rules' : (r : ρ) → Parser F ι (τ r)}
    (h : ∀ r, (rules r).ExtendedBy (rules' r)) (g : Grammar F ε τ π α) :
    (g.toParser rules).ExtendedBy (g.toParser rules') := by
  apply Parser.extendedBy_iff_approachedBy.mpr
  exact g.toParser_approachedBy (fun _ => rules') fun r => Parser.extendedBy_iff_approachedBy.mp (h r)

theorem Rules.parserAt_extendedBy (R : Rules F ε τ π) {m n : Nat} (h : m ≤ n) (r : ρ) :
    (R.parserAt m r : Parser F ι (τ r)).ExtendedBy (R.parserAt n r) := by
  induction m generalizing n r with
  | zero => exact .cutOff _
  | succ m ih =>
    cases n with
    | zero => omega
    | succ n => exact Grammar.toParser_extendedBy (fun r => ih (by omega) r) (R r)

namespace Grammar

variable {R : Rules F ε τ π} {g : Grammar F ε τ π α} {x : ι} {m n : Nat}

theorem parserAt_extendedBy (R : Rules F ε τ π) (g : Grammar F ε τ π α) (h : m ≤ n) :
    (g.parserAt R m : Parser F ι α).ExtendedBy (g.parserAt R n) :=
  toParser_extendedBy (R.parserAt_extendedBy h) g

/-- The parse of `x` by `g` comes back, with the run `s`. -/
def Parses (R : Rules F ε τ π) (g : Grammar F ε τ π α) (x : ι) (s : Run F ι α) : Prop :=
  s.result ≠ .error .tooDeep ∧ ∃ n, (g.parserAt R n).run x = s

/-- The parse of `x` by `g` comes back, with the result `result`. -/
def Returns (R : Rules F ε τ π) (g : Grammar F ε τ π α) (x : ι)
    (result : Except Fault (Outcome F ι α)) : Prop := ∃ log, g.Parses R x ⟨log, result⟩

theorem Parses.of_le {s : Run F ι α} (h : (g.parserAt R m).run x = s) (hs : s.result ≠ .error .tooDeep)
    (hmn : m ≤ n) : (g.parserAt R n).run x = s := by
  subst h
  exact g.parserAt_extendedBy R hmn x hs

theorem Parses.unique {s s' : Run F ι α} (h : g.Parses R x s) (h' : g.Parses R x s') : s = s' := by
  obtain ⟨hs, m, hm⟩ := h
  obtain ⟨hs', n, hn⟩ := h'
  rw [← Parses.of_le hm hs (Nat.le_max_left m n), ← Parses.of_le hn hs' (Nat.le_max_right m n)]

theorem returns_iff {result : Except Fault (Outcome F ι α)} : g.Returns R x result ↔
    result ≠ .error .tooDeep ∧ ∃ n, ((g.parserAt R n).run x).result = result := by
  refine ⟨fun ⟨log, hs, n, hn⟩ => ?_, fun ⟨hs, n, hn⟩ => ?_⟩
  · exact ⟨hs, n, by rw [hn]⟩
  · subst hn; exact ⟨_, hs, n, rfl⟩

theorem Returns.unique {a b : Except Fault (Outcome F ι α)} (ha : g.Returns R x a)
    (hb : g.Returns R x b) : a = b := by
  obtain ⟨_, ha⟩ := ha
  obtain ⟨_, hb⟩ := hb
  exact congrArg Run.result (ha.unique hb)

theorem succeeds_of_le {v : α} {r : ι} (h : (g.parserAt R m).Succeeds x v r) (hmn : m ≤ n) :
    (g.parserAt R n).Succeeds x v r := by
  unfold Parser.Succeeds
  rw [g.parserAt_extendedBy R hmn x h.not_faults, h]

theorem fails_of_le {e : ParseError F} (h : (g.parserAt R m).Fails x e) (hmn : m ≤ n) :
    (g.parserAt R n).Fails x e := by
  unfold Parser.Fails
  rw [g.parserAt_extendedBy R hmn x h.not_faults, h]

theorem returns_success {v : α} {r : ι} :
    g.Returns R x (.ok (.success v r)) ↔ ∃ n, (g.parserAt R n).Succeeds x v r := by
  rw [returns_iff]; simp [Parser.Succeeds]

theorem returns_failure {e : ParseError F} :
    g.Returns R x (.ok (.failure e)) ↔ ∃ n, (g.parserAt R n).Fails x e := by
  rw [returns_iff]; simp [Parser.Fails]

end Grammar

end

end Parsing
