import Parsing.Proofs.Consumption
import Parsing.Proofs.Repetition

/-!
# One or more matches

One or more matches are a repetition that may not be empty. They always take something off the input, and
they are greedy: the parser fails on what they leave. So a repetition of them has one round at most, and a
repetition of a plain repetition stalls. They can also be said as a first match and a repetition after it,
or as a list with nothing between its items; the ways differ in what a failure reports, and in which matches
a fault counts.
-/

namespace Parsing

open Input (size)

variable {F : ErrorFamily} {ι ε α β ν : Type} [Input ι ε]

namespace Parser

section
variable {p : Parser F ι α ν} {x y z r : ι} {v : α} {vs : List α} {xs : List ι} {ending : Ending}
variable {e : ParseError F} {f : Fault}

/-! ## What one or more matches come to -/

theorem succeeds_many_nil : p.many.Succeeds x [] r ↔ (∃ e, p.Fails x e) ∧ r = x := by
  rw [succeeds_many_iff_matches]
  constructor
  · rintro ⟨xs, hm, he⟩
    cases hm
    exact ⟨he, rfl⟩
  · rintro ⟨he, rfl⟩
    exact ⟨[], .nil, he⟩

theorem faults_many_of_faults (h : p.Faults x f) : p.many.Faults x f := by
  have hend : p.EndsAt x (.faulted f) := h
  exact (faults_many_iff_of_matches .nil hend).mpr rfl

theorem succeeds_many1 : p.many1.Succeeds x vs r ↔ p.many.Succeeds x vs r ∧ vs ≠ [] := by
  cases vs <;> simp [many1]

theorem fails_many1 : p.many1.Fails x e ↔
    (∃ e', p.Fails x e') ∧ e = .generic "expected at least one match" := by
  rw [many1, fails_validate]
  constructor
  · rintro (h | ⟨vs, r, hvs, hcheck⟩)
    · exact absurd h not_fails_many
    · cases vs with
      | nil => exact ⟨(succeeds_many_nil.mp hvs).1, (Option.some.inj hcheck).symm⟩
      | cons v vs => cases hcheck
  · rintro ⟨he, rfl⟩
    exact .inr ⟨[], x, succeeds_many_nil.mpr ⟨he, rfl⟩, rfl⟩

theorem faults_many1 : p.many1.Faults x f ↔ p.many.Faults x f := faults_validate

/-! ## Repetitions of repetitions -/

theorem succeeds_many_many1 (h : p.many1.Succeeds x vs r) : p.many1.many.Succeeds x [vs] r := by
  obtain ⟨hvs, hne⟩ := succeeds_many1.mp h
  obtain ⟨xs, hm, he⟩ := succeeds_many_iff_matches.mp hvs
  obtain ⟨rfl, -⟩ | ⟨-, hs⟩ := hm.eq_or_size_lt
  · exact absurd rfl hne
  · exact succeeds_many_iff_matches.mpr ⟨[x], .cons h hs .nil, _, fails_many1.mpr ⟨he, rfl⟩⟩

theorem faults_many_many (h : p.many.Succeeds x vs r) :
    r = x ∧ p.many.many.Faults x (.noProgress 0) ∨ size r < size x ∧ p.many.many.Faults x (.noProgress 1) := by
  obtain ⟨xs, hm, he⟩ := succeeds_many_iff_matches.mp h
  have hend : p.many.EndsAt r .stalled := ⟨[], r, succeeds_many_nil.mpr ⟨he, rfl⟩, Nat.le_refl _⟩
  obtain ⟨-, rfl⟩ | ⟨-, hs⟩ := hm.eq_or_size_lt
  · exact .inl ⟨rfl, (faults_many_iff_of_matches .nil hend).mpr rfl⟩
  · exact .inr ⟨hs, (faults_many_iff_of_matches (.cons h hs .nil) hend).mpr rfl⟩

theorem faults_of_never_fails (h : ∀ y e, ¬p.Fails y e) (x : ι) :
    ∃ f, p.many.Faults x f ∧ p.many1.Faults x f := by
  rcases p.many.outcome_cases x with ⟨vs, r, hvs⟩ | ⟨e, he⟩ | ⟨f, hf⟩
  · obtain ⟨xs, -, e, he⟩ := succeeds_many_iff_matches.mp hvs
    exact absurd he (h r e)
  · exact absurd he not_fails_many
  · exact ⟨f, hf, faults_many1.mpr hf⟩

theorem result_many_many1 (p : Parser F ι α ν) (x : ι) :
    (p.many1.many.run x).result =
      ((p.many.map fun vs => if vs.isEmpty then [] else [vs]).run x).result := by
  rcases p.many.outcome_cases x with ⟨vs, r, hvs⟩ | ⟨e, he⟩ | ⟨f, hf⟩
  · have hmap : (p.many.map fun vs => if vs.isEmpty then [] else [vs]).Succeeds x _ r :=
      succeeds_map.mpr ⟨vs, hvs, rfl⟩
    suffices h : p.many1.many.Succeeds x (if vs.isEmpty then [] else [vs]) r from h.trans hmap.symm
    cases vs with
    | nil =>
      obtain ⟨he, rfl⟩ := succeeds_many_nil.mp hvs
      exact succeeds_many_nil.mpr ⟨⟨_, fails_many1.mpr ⟨he, rfl⟩⟩, rfl⟩
    | cons v vs => exact succeeds_many_many1 (succeeds_many1.mpr ⟨hvs, by simp⟩)
  · exact absurd he not_fails_many
  · have h : p.many1.many.Faults x f := faults_many_of_faults (faults_many1.mpr hf)
    exact h.trans (faults_map.mpr hf).symm

theorem result_many1_many1 (p : Parser F ι α ν) (x : ι) :
    (p.many1.many1.run x).result = ((p.many1.map fun vs => [vs]).run x).result := by
  rcases p.many1.outcome_cases x with ⟨vs, r, hvs⟩ | ⟨e, he⟩ | ⟨f, hf⟩
  · have h : p.many1.many1.Succeeds x [vs] r := succeeds_many1.mpr ⟨succeeds_many_many1 hvs, by simp⟩
    have hmap : (p.many1.map fun vs => [vs]).Succeeds x [vs] r := succeeds_map.mpr ⟨vs, hvs, rfl⟩
    exact h.trans hmap.symm
  · have h : p.many1.many1.Fails x e := fails_many1.mpr ⟨⟨e, he⟩, (fails_many1.mp he).2⟩
    exact h.trans (fails_map.mpr he).symm
  · have h : p.many1.many1.Faults x f := faults_many1.mpr (faults_many_of_faults hf)
    exact h.trans (faults_map.mpr hf).symm

end

/-- **What nested repetitions do.** Repetitions of a parser that never fails come to a fault on every input;
so does a repetition of a repetition: to the fault of the inner one, or else to one that counts one match if
the inner one takes anything, and none if not. A repetition of one or more matches has the outcome of the
repetition with all its values, if there are any, as the only one, and one or more of one or more matches
the outcome of one or more with the values as the only one; the failures and the faults are the same. -/
theorem nested_repetitions (p : Parser F ι α ν) (x : ι) :
    ((∀ y e, ¬p.Fails y e) → ∃ f, p.many.Faults x f ∧ p.many1.Faults x f) ∧
    (∃ f, p.many.many.Faults x f) ∧
    (∀ f, p.many.Faults x f → p.many.many.Faults x f) ∧
    (∀ vs r, p.many.Succeeds x vs r →
      r = x ∧ p.many.many.Faults x (.noProgress 0) ∨
        size r < size x ∧ p.many.many.Faults x (.noProgress 1)) ∧
    (p.many1.many.run x).result =
      ((p.many.map fun vs => if vs.isEmpty then [] else [vs]).run x).result ∧
    (p.many1.many1.run x).result = ((p.many1.map fun vs => [vs]).run x).result := by
  refine ⟨fun h => faults_of_never_fails h x, ?_, fun f hf => faults_many_of_faults hf,
    fun vs r h => faults_many_many h, result_many_many1 p x, result_many1_many1 p x⟩
  obtain ⟨f, hf, -⟩ := faults_of_never_fails (p := p.many) (fun y e => not_fails_many) x
  exact ⟨f, hf⟩

theorem nested_repetitions_letters :
    let p : Parser .none Text Char := char 'a'
    let x := Text.ofString "aab"
    (∃ f, p.many.many.Faults x f ∧ p.many.many1.Faults x f) ∧ p.many.Succeeds x ['a', 'a'] (.ofString "b") ∧
      p.many.many.Faults x (.noProgress 1) ∧ p.many1.many.Succeeds x [['a', 'a']] (.ofString "b") := by
  intro p x
  obtain ⟨e, hb⟩ : ∃ e, p.Fails (.ofString "b") e := ⟨_, rfl⟩
  have hmany : p.many.Succeeds x ['a', 'a'] (.ofString "b") :=
    succeeds_many_iff_matches.mpr ⟨_, .cons rfl (by decide) (.cons rfl (by decide) .nil), e, hb⟩
  obtain ⟨hnever, -⟩ := nested_repetitions p.many x
  obtain ⟨-, -, -, hagain, hrounds, -⟩ := nested_repetitions p x
  have hone : (p.many.map fun vs => if vs.isEmpty then [] else [vs]).Succeeds x [['a', 'a']] (.ofString "b") :=
    succeeds_map.mpr ⟨_, hmany, rfl⟩
  refine ⟨hnever fun y e => not_fails_many, hmany, ?_, hrounds.trans hone⟩
  obtain ⟨hx, -⟩ | ⟨-, hf⟩ := hagain _ _ hmany
  · exact absurd hx (by decide)
  · exact hf

/-! ## Ways to say one or more -/

/-- A success of `p` leaves less than the input, or else the input itself. -/
def LeavesLess (p : Parser F ι α ν) : Prop :=
  ∀ x v r, p.Succeeds x v r → size r ≤ size x ∧ (size r = size x → r = x)

theorem LeavesSuffix.leavesLess [LawfulInput ι] {p : Parser F ι α} (h : p.LeavesSuffix) : p.LeavesLess := by
  intro x v r hv
  have hs := h x v r hv
  exact ⟨Input.size_le_of_suffix hs, fun he => Input.eq_of_size_le hs (Nat.le_of_eq he.symm)⟩

/-- A match, and a repetition after it. -/
def consMany (p : Parser F ι α ν) : Parser F ι (List α) ν := (p.pair p.many).map fun w => w.1 :: w.2

theorem sepBy1_pure (p : Parser F ι α ν) (u : β) : p.sepBy1 (pure u) = p.consMany := by
  have hp : (pure u : Parser F ι β ν).seqRight p = p := rfl
  rw [sepBy1, hp, consMany]

section
variable {p : Parser F ι α ν} {x y r : ι} {v : α} {vs : List α} {f : Fault} {e : ParseError F}

theorem fails_consMany : p.consMany.Fails x e ↔ p.Fails x e := by
  simp [consMany, pair, not_fails_many]

theorem succeeds_consMany (hp : p.LeavesLess) :
    p.consMany.Succeeds x vs r ↔ p.many1.Succeeds x vs r := by
  simp only [consMany, pair, succeeds_map, succeeds_bind, succeeds_many1]
  constructor
  · rintro ⟨_, ⟨v, y, hv, ws, hws, rfl⟩, rfl⟩
    refine ⟨succeeds_many.mpr (.inr ⟨v, y, ws, hv, ?_, hws, rfl⟩), by simp⟩
    -- if the first match took nothing, the repetition after it would stall
    obtain ⟨hle, heq⟩ := hp x v y hv
    refine Nat.lt_of_le_of_ne hle fun hs => ?_
    rw [heq hs] at hv hws
    have hend : p.EndsAt x .stalled := ⟨v, x, hv, Nat.le_refl _⟩
    exact hws.not_faults ((faults_many_iff_of_matches .nil hend).mpr rfl)
  · rintro ⟨hvs, hne⟩
    obtain ⟨-, rfl, -⟩ | ⟨v, y, ws, hv, -, hws, rfl⟩ := succeeds_many.mp hvs
    · exact absurd rfl hne
    · exact ⟨_, ⟨v, y, hv, ws, hws, rfl⟩, rfl⟩

theorem faults_consMany_of_succeeds (h : p.Succeeds x v y) :
    p.consMany.Faults x f ↔ p.many.Faults y f := by
  simp only [consMany, pair, faults_map, faults_bind]
  constructor
  · rintro (hf | ⟨w, z, hw, hf⟩)
    · exact absurd hf h.not_faults
    · obtain ⟨-, rfl⟩ := h.unique hw
      exact hf
  · exact fun hf => .inr ⟨v, y, h, hf⟩

/-- The first match is not counted by the repetition after it. -/
theorem faults_consMany_iff (hp : p.LeavesLess) {z : ι} {xs : List ι} {ending : Ending}
    (h : Matches p.Succeeds x vs xs z) (hz : p.EndsAt z ending) :
    p.consMany.Faults x f ↔ ending.fault? (vs.length - 1) = some f := by
  cases h with
  | cons hv hs hm =>
    rw [faults_consMany_of_succeeds hv, faults_many_iff_of_matches hm hz, List.length_cons, Nat.add_sub_cancel]
  | nil =>
    cases ending with
    | failed =>
      obtain ⟨e, he⟩ := hz
      have he' := fails_consMany.mpr he
      simp [Ending.fault?, he'.not_faults]
    | stalled =>
      -- the parser comes back to the same input, and the repetition stalls there at once
      have hstalls := hz
      obtain ⟨v, r, hv, hs⟩ := hstalls
      obtain ⟨hle, heq⟩ := hp _ v r hv
      rw [heq (Nat.le_antisymm hle hs)] at hv
      rw [faults_consMany_of_succeeds hv, faults_many_iff_of_matches .nil hz, List.length_nil]
    | faulted g =>
      have hg : p.consMany.Faults x g := by
        simp only [consMany, pair, faults_map, faults_bind]
        exact .inl hz
      rw [Ending.fault?, Faults, hg, Except.error.injEq, Option.some.injEq]

end

/-- **The ways to say one or more agree.** They are: one or more matches; a match and a repetition after it;
a list with nothing between its items. On every input they succeed together, with the same values and the
same rest. They fail together where the parser fails, the first with an error of its own and the others with
that of the parser. They fault together: where the parser faults after its matches, with its fault, and
where it stalls, with a fault that counts all its matches, or all but the first. -/
theorem one_or_more_agree {p : Parser F ι α ν} (hp : p.LeavesLess) (x : ι) :
    (∀ vs r, (p.consMany.Succeeds x vs r ↔ p.many1.Succeeds x vs r) ∧
      ((p.sepBy1 (pure ())).Succeeds x vs r ↔ p.many1.Succeeds x vs r)) ∧
    (∀ e, (p.many1.Fails x e ↔ (∃ e', p.Fails x e') ∧ e = .generic "expected at least one match") ∧
      (p.consMany.Fails x e ↔ p.Fails x e) ∧ ((p.sepBy1 (pure ())).Fails x e ↔ p.Fails x e)) ∧
    ∃ vs xs z ending, Matches p.Succeeds x vs xs z ∧ p.EndsAt z ending ∧
      ∀ f, (p.many1.Faults x f ↔ ending.fault? vs.length = some f) ∧
        (p.consMany.Faults x f ↔ ending.fault? (vs.length - 1) = some f) ∧
        ((p.sepBy1 (pure ())).Faults x f ↔ ending.fault? (vs.length - 1) = some f) := by
  rw [sepBy1_pure]
  refine ⟨fun vs r => ⟨succeeds_consMany hp, succeeds_consMany hp⟩,
    fun e => ⟨fails_many1, fails_consMany, fails_consMany⟩, ?_⟩
  obtain ⟨vs, xs, z, ending, hm, hend⟩ := exists_matches p x
  refine ⟨vs, xs, z, ending, hm, hend, fun f => ⟨?_, ?_, ?_⟩⟩
  · exact faults_many1.trans (faults_many_iff_of_matches hm hend)
  · exact faults_consMany_iff hp hm hend
  · exact faults_consMany_iff hp hm hend

theorem one_or_more_agree_stalling :
    let g : Grammar .none Char (fun _ : Unit => Char) NoCustom Char := (Grammar.rule ()).orElse (.pure '0')
    let p : Parser .none Text Char := g.parserAt nested 2
    let x := Text.ofString "(7)x"
    p.LeavesLess ∧ p.many1.Faults x (.noProgress 1) ∧ p.consMany.Faults x (.noProgress 0) ∧
      (p.sepBy1 (pure ())).Faults x (.noProgress 0) := by
  intro g p x
  have hp : p.LeavesLess := (g.parserAt_leavesSuffix nested 2).leavesLess
  have hseven : p.Succeeds x '7' (.ofString "x") := rfl
  have hzero : p.Succeeds (.ofString "x") '0' (.ofString "x") := rfl
  have hend : p.EndsAt (.ofString "x") .stalled := ⟨'0', _, hzero, Nat.le_refl _⟩
  obtain ⟨-, -, vs, xs, z, ending, hm, hend', hfaults⟩ := one_or_more_agree hp x
  obtain ⟨rfl, -, rfl⟩ := Matches.unique (fun _ _ _ _ _ h h' => h.unique h')
    (.cons hseven (by decide) .nil) hend.exhausted hm hend'.exhausted
  obtain rfl := hend.unique hend'
  obtain ⟨hsome, -⟩ := hfaults (.noProgress 1)
  obtain ⟨-, hcons, hlist⟩ := hfaults (.noProgress 0)
  exact ⟨hp, hsome.mpr rfl, hcons.mpr rfl, hlist.mpr rfl⟩

end Parser

end Parsing
