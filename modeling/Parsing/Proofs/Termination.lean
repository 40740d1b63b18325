import Mathlib.Order.WellFounded
import Parsing.Proofs.Progress

/-!
# Termination

A rule is left-recursive if it can reach itself before anything is taken off the input. Where the rules
can be ranked such that none reaches, before that, a rule of the same or a greater rank, every parse comes
back: what is left of the input gets smaller, or the rank does.
-/

namespace Parsing

variable {F : ErrorFamily} {ι ε ρ α β γ : Type} {τ : ρ → Type}
variable [Input ι ε] [BEq ε] [Describe ε]

namespace Grammar

/-- Every success of `g` takes something off its input. -/
def Shortens (ι : Type) [Input ι ε] (R : Rules F ε τ NoCustom) (g : Grammar F ε τ NoCustom α) : Prop :=
  ∀ (x r : ι) (v : α), g.Returns R x (.ok (.success v r)) → Input.size r < Input.size x

/-- `P` holds of every rule that `g` can reach before a parser has run that always takes something. -/
def HeadsIn (ι : Type) [Input ι ε] (R : Rules F ε τ NoCustom) (P : ρ → Prop) :
    {α : Type} → Grammar F ε τ NoCustom α → Prop
  | _, .map _ g => g.HeadsIn ι R P
  | _, .bind g next => g.HeadsIn ι R P ∧ (g.Shortens ι R ∨ ∀ v, (next v).HeadsIn ι R P)
  | _, .validate _ g => g.HeadsIn ι R P
  | _, .mapError _ g => g.HeadsIn ι R P
  | _, .orElse g h => g.HeadsIn ι R P ∧ h.HeadsIn ι R P
  | _, .many g => g.HeadsIn ι R P
  | _, .delay g => (g ()).HeadsIn ι R P
  | _, .rule r => P r
  | _, _ => True

section
variable {R : Rules F ε τ NoCustom} {P : ρ → Prop}

theorem HeadsIn.true (g : Grammar F ε τ NoCustom α) : g.HeadsIn ι R fun _ => True := by
  induction g with
  | map _ _ ih => exact ih
  | bind _ _ ih ihn => exact ⟨ih, .inr ihn⟩
  | validate _ _ ih => exact ih
  | mapError _ _ ih => exact ih
  | orElse _ _ ih ihh => exact ⟨ih, ihh⟩
  | many _ ih => exact ih
  | delay _ ih => exact ih ()
  | _ => trivial

/-! ## The derived operations -/

section
variable {g : Grammar F ε τ NoCustom α} {h : Grammar F ε τ NoCustom β} {k : Grammar F ε τ NoCustom γ}

theorem HeadsIn.pair (hg : g.HeadsIn ι R P) (hh : g.Shortens ι R ∨ h.HeadsIn ι R P) :
    (g.pair h).HeadsIn ι R P :=
  ⟨hg, hh.imp_right fun hh _ => hh⟩

theorem HeadsIn.seqLeft (hg : g.HeadsIn ι R P) (hh : g.Shortens ι R ∨ h.HeadsIn ι R P) :
    (g.seqLeft h).HeadsIn ι R P :=
  hg.pair hh

theorem HeadsIn.seqRight (hg : g.HeadsIn ι R P) (hh : g.Shortens ι R ∨ h.HeadsIn ι R P) :
    (g.seqRight h).HeadsIn ι R P :=
  ⟨hg, hh.imp_right fun hh _ => hh⟩

theorem HeadsIn.between (hg : g.HeadsIn ι R P) (hh : g.Shortens ι R ∨ h.HeadsIn ι R P)
    (hk : (g.seqRight h).Shortens ι R ∨ k.HeadsIn ι R P) : (Grammar.between g h k).HeadsIn ι R P :=
  (hg.seqRight hh).seqLeft hk

theorem HeadsIn.sepBy1 (hg : g.HeadsIn ι R P) (hs : g.Shortens ι R ∨ h.HeadsIn ι R P) :
    (g.sepBy1 h).HeadsIn ι R P :=
  hg.pair (hs.imp_right fun hh => hh.seqRight (.inr hg))

theorem HeadsIn.firstOf {gs : List (Grammar F ε τ NoCustom α)} (hgs : ∀ g ∈ gs, g.HeadsIn ι R P) :
    (firstOf gs).HeadsIn ι R P :=
  firstOf_induction (fun _ => trivial) (fun _ _ hg hh => ⟨hg, hh⟩) hgs

/-- The rules that the composed operations can reach first, from those that their parts can. -/
structure Headed (ι : Type) [Input ι ε] (R : Rules F ε τ NoCustom) (P : ρ → Prop) : Prop where
  pair {α β : Type} (g : Grammar F ε τ NoCustom α) (h : Grammar F ε τ NoCustom β) :
    g.HeadsIn ι R P → g.Shortens ι R ∨ h.HeadsIn ι R P → (g.pair h).HeadsIn ι R P
  seqLeft {α β : Type} (g : Grammar F ε τ NoCustom α) (h : Grammar F ε τ NoCustom β) :
    g.HeadsIn ι R P → g.Shortens ι R ∨ h.HeadsIn ι R P → (g.seqLeft h).HeadsIn ι R P
  seqRight {α β : Type} (g : Grammar F ε τ NoCustom α) (h : Grammar F ε τ NoCustom β) :
    g.HeadsIn ι R P → g.Shortens ι R ∨ h.HeadsIn ι R P → (g.seqRight h).HeadsIn ι R P
  between {α β γ : Type} (g : Grammar F ε τ NoCustom α) (h : Grammar F ε τ NoCustom β)
    (k : Grammar F ε τ NoCustom γ) :
    g.HeadsIn ι R P → g.Shortens ι R ∨ h.HeadsIn ι R P →
      (g.seqRight h).Shortens ι R ∨ k.HeadsIn ι R P → (between g h k).HeadsIn ι R P
  firstOf {α : Type} (gs : List (Grammar F ε τ NoCustom α)) :
    (∀ g ∈ gs, g.HeadsIn ι R P) → (firstOf gs).HeadsIn ι R P
  many1 {α : Type} (g : Grammar F ε τ NoCustom α) : g.HeadsIn ι R P → g.many1.HeadsIn ι R P
  sepBy1 {α β : Type} (g : Grammar F ε τ NoCustom α) (h : Grammar F ε τ NoCustom β) :
    g.HeadsIn ι R P → g.Shortens ι R ∨ h.HeadsIn ι R P → (g.sepBy1 h).HeadsIn ι R P

theorem headed (R : Rules F ε τ NoCustom) (P : ρ → Prop) : Headed ι R P where
  pair _ _ := .pair
  seqLeft _ _ := .seqLeft
  seqRight _ _ := .seqRight
  between _ _ _ := .between
  firstOf _ := .firstOf
  many1 _ := id
  sepBy1 _ _ := .sepBy1

theorem Consuming.shortens [LawfulInput ι] {D : ρ → Prop} (hD : ∀ r, D r → (R r).Consuming D)
    (hg : g.Consuming D) : g.Shortens ι R := by
  intro x r v h
  obtain ⟨n, hn⟩ := returns_success.mp h
  exact hg.consumes (leavesSuffix_of_rules (R.parserAt_leavesSuffix n)) (Rules.parserAt_consumes hD n)
    x v r hn

end

/-! ## Parses that come back -/

def Halts (R : Rules F ε τ NoCustom) (g : Grammar F ε τ NoCustom α) (x : ι) : Prop := ∃ s, g.Parses R x s

section
variable {g : Grammar F ε τ NoCustom α} {h : Grammar F ε τ NoCustom β} {x y : ι}

theorem halts_iff : g.Halts R x ↔ ∃ n, ¬(g.parserAt R n).Faults x .tooDeep := by
  refine ⟨fun ⟨s, hs, n, hn⟩ => ⟨n, ?_⟩, fun ⟨n, hn⟩ => ⟨_, hn, n, rfl⟩⟩
  subst hn
  exact hs

theorem not_cutOff_of_le {m n : Nat} (hm : ¬(g.parserAt R m).Faults x .tooDeep) (hmn : m ≤ n) :
    ¬(g.parserAt R n).Faults x .tooDeep := by
  unfold Parser.Faults
  rw [g.parserAt_extendedBy R hmn x hm]
  exact hm

/-- A parse comes back if a first part of it does, and then whatever follows the outcome of that part.
`C o n` says that what follows is cut off at the depth `n`. -/
theorem Halts.followed {C : Outcome F ι α → Nat → Prop} (hg : g.Halts R x)
    (hnext : ∀ o, g.Returns R x (.ok o) → ∃ n, ∀ m, n ≤ m → ¬C o m)
    (hsplit : ∀ n, (h.parserAt R n).Faults y .tooDeep → (g.parserAt R n).Faults x .tooDeep ∨
      ∃ o, ((g.parserAt R n).run x).result = .ok o ∧ C o n) : h.Halts R y := by
  obtain ⟨m, hm⟩ := halts_iff.mp hg
  cases hr : ((g.parserAt R m).run x).result with
  | error f =>
    refine halts_iff.mpr ⟨m, fun hf => ?_⟩
    rcases hsplit m hf with hf | ⟨o, ho, -⟩
    · exact hm hf
    · cases hr.symm.trans ho
  | ok o =>
    obtain ⟨n, hn⟩ := hnext o (returns_iff.mpr ⟨by simp, m, hr⟩)
    refine halts_iff.mpr ⟨max m n, fun hf => ?_⟩
    rcases hsplit _ hf with hf | ⟨o', ho', hcut⟩
    · exact not_cutOff_of_le hm (Nat.le_max_left m n) hf
    · rw [g.parserAt_extendedBy R (Nat.le_max_left m n) x hm, hr] at ho'
      cases ho'
      exact hn _ (Nat.le_max_right m n) hcut

theorem Halts.mono (hg : g.Halts R x)
    (hh : ∀ n, (h.parserAt R n).Faults y .tooDeep → (g.parserAt R n).Faults x .tooDeep) : h.Halts R y := by
  obtain ⟨n, hn⟩ := halts_iff.mp hg
  exact halts_iff.mpr ⟨n, mt (hh n) hn⟩

theorem Halts.bind {next : α → Grammar F ε τ NoCustom β} (hg : g.Halts R x)
    (hn : ∀ v y, g.Returns R x (.ok (.success v y)) → (next v).Halts R y) : (g.bind next).Halts R x := by
  refine hg.followed (C := fun o n => ∃ v y, o = .success v y ∧
    ((next v).parserAt R n).Faults y .tooDeep) ?_ ?_
  · intro o ho
    cases o with
    | success v y =>
      obtain ⟨n, hn⟩ := halts_iff.mp (hn v y ho)
      refine ⟨n, fun m hm ⟨w, z, hw, hf⟩ => ?_⟩
      cases hw
      exact not_cutOff_of_le hn hm hf
    | failure e => exact ⟨0, by simp⟩
  · intro n hf
    rcases Parser.faults_bind.mp hf with hf | ⟨v, y, hv, hf⟩
    · exact .inl hf
    · exact .inr ⟨_, hv, v, y, rfl, hf⟩

theorem Halts.orElse {h : Grammar F ε τ NoCustom α} (hg : g.Halts R x) (hh : h.Halts R x) :
    (g.orElse h).Halts R x := by
  refine hg.followed (C := fun _ n => (h.parserAt R n).Faults x .tooDeep) ?_ ?_
  · intro o _
    obtain ⟨n, hn⟩ := halts_iff.mp hh
    exact ⟨n, fun m hm => not_cutOff_of_le hn hm⟩
  · intro n hf
    rcases Parser.faults_orElse.mp hf with hf | ⟨⟨e, he⟩, hf⟩
    · exact .inl hf
    · exact .inr ⟨_, he, hf⟩

theorem Halts.many (hg : g.Halts R x)
    (hn : ∀ v y, g.Returns R x (.ok (.success v y)) → Input.size y < Input.size x → g.many.Halts R y) :
    g.many.Halts R x := by
  refine hg.followed (C := fun o n => ∃ v y, o = .success v y ∧ Input.size y < Input.size x ∧
    (g.many.parserAt R n).Faults y .tooDeep) ?_ ?_
  · intro o ho
    cases o with
    | success v y =>
      by_cases hs : Input.size y < Input.size x
      · obtain ⟨n, hn⟩ := halts_iff.mp (hn v y ho hs)
        refine ⟨n, fun m hm ⟨w, z, hw, _, hf⟩ => ?_⟩
        cases hw
        exact not_cutOff_of_le hn hm hf
      · refine ⟨0, fun m _ ⟨w, z, hw, hlt, _⟩ => ?_⟩
        cases hw
        exact hs hlt
    | failure e => exact ⟨0, by simp⟩
  · intro n hf
    rcases Parser.faults_manyAfter.mp hf with hf | ⟨v, y, hv, ⟨-, hf⟩ | ⟨hs, hf⟩⟩
    · exact .inl hf
    · cases hf
    · exact .inr ⟨_, hv, v, y, rfl, hs, Parser.cutOff_manyAfter_iff_many.mp hf⟩

theorem Halts.rule {r : ρ} (hr : (R r).Halts R x) : (rule r : Grammar F ε τ NoCustom (τ r)).Halts R x := by
  obtain ⟨s, hs, n, hn⟩ := hr
  exact ⟨s, hs, n + 1, hn⟩

end

variable [LawfulInput ι]

theorem HeadsIn.halts {x : ι} {g : Grammar F ε τ NoCustom α} (hg : g.HeadsIn ι R P)
    (hless : ∀ y : ι, Input.size y < Input.size x → ∀ {β : Type} (h : Grammar F ε τ NoCustom β), h.Halts R y)
    (hP : ∀ r, P r → (rule r : Grammar F ε τ NoCustom (τ r)).Halts R x) : g.Halts R x := by
  induction g with
  | pure v => exact halts_iff.mpr ⟨0, Parser.not_faults_pure⟩
  | fail e => exact halts_iff.mpr ⟨0, Parser.not_faults_fail⟩
  | satisfy accepts expected => exact halts_iff.mpr ⟨0, Parser.not_faults_satisfy⟩
  | elementOr token error => exact halts_iff.mpr ⟨0, Parser.not_faults_elementOr⟩
  | elements tokens => exact halts_iff.mpr ⟨0, Parser.not_faults_elements⟩
  | elementsOr tokens error => exact halts_iff.mpr ⟨0, Parser.not_faults_elementsOr⟩
  | slice tokens expected => exact halts_iff.mpr ⟨0, Parser.not_faults_slice⟩
  | eof => exact halts_iff.mpr ⟨0, Parser.not_faults_eof⟩
  | map f g ih => exact (ih hg).mono fun n => Parser.faults_map.mp
  | bind g next ih ihn =>
    refine (ih hg.1).bind fun v y hv => ?_
    -- either `g` took something, or `y` is the input itself
    by_cases hs : Input.size y < Input.size x
    · exact hless y hs (next v)
    · obtain ⟨n, hn⟩ := returns_success.mp hv
      have hsuffix := g.parserAt_leavesSuffix R n x v y hn
      obtain rfl := Input.eq_of_size_le hsuffix (Nat.le_of_not_lt hs)
      rcases hg.2 with hc | hnext
      · exact absurd (hc _ _ _ hv) hs
      · exact ihn v (hnext v)
  | validate check g ih => exact (ih hg).mono fun n => Parser.faults_validate.mp
  | mapError f g ih => exact (ih hg).mono fun n => Parser.faults_mapError.mp
  | orElse g h ih ihh => exact (ih hg.1).orElse (ihh hg.2)
  | many g ih => exact (ih hg).many fun v y _ hs => hless y hs g.many
  | delay g ih => exact ih () hg
  | rule r => exact hP r hg
  | custom p => cases p

variable {o : Type} [LT o] [WellFoundedLT o] {rank : ρ → o}

theorem halts_of_ranked (hR : ∀ r, (R r).HeadsIn ι R (rank · < rank r)) (x : ι) :
    ∀ {α : Type} (g : Grammar F ε τ NoCustom α), g.Halts R x := by
  induction x using Input.size_induction with
  | h x ih =>
    have hrule : ∀ k r, rank r = k → (rule r : Grammar F ε τ NoCustom (τ r)).Halts R x := by
      intro k
      induction k using WellFoundedLT.induction with
      | ind k ihk =>
        intro r hr
        refine .rule ((hR r).halts ih fun r' hlt => ?_)
        exact ihk (rank r') (hr ▸ hlt) r' rfl
    intro α g
    exact (HeadsIn.true g).halts ih fun r _ => hrule (rank r) r rfl

end

end Grammar

end Parsing
