import Parsing.Proofs.Consumption

/-!
# Derivations

What a grammar makes of an input, by rules of inference over the elements of the input. A verdict is
a value with the rest, or that the grammar fails; there is none where it does neither. The parse
succeeds and fails exactly as the rules derive.
-/

namespace Parsing

inductive Verdict (ι α : Type)
  | ok (value : α) (rest : ι)
  | fail

namespace Grammar

open Input (StartsWith)

section
variable {F : ErrorFamily} {ι ε ρ : Type} {τ : ρ → Type} [Input ι ε] [BEq ε]

inductive Derives (R : Rules F ε τ NoCustom) :
    {α : Type} → Grammar F ε τ NoCustom α → ι → Verdict ι α → Prop
  | pure {α v x} : Derives R (.pure (α := α) v) x (.ok v x)
  | fail {α e x} : Derives R (.fail (α := α) e) x .fail
  | satisfy {accepts expected x e r} : Input.elements x = e :: Input.elements r → accepts e = true →
    Derives R (.satisfy accepts expected) x (.ok e r)
  | satisfy_fail {accepts expected x} :
    (∀ e r, Input.elements x = e :: Input.elements (r : ι) → accepts e = false) →
    Derives R (.satisfy accepts expected) x .fail
  | elementOr {token error x e r} : Input.elements x = e :: Input.elements r → (e == token) = true →
    Derives R (.elementOr token error) x (.ok e r)
  | elementOr_fail {token error x} :
    (∀ e r, Input.elements x = e :: Input.elements (r : ι) → (e == token) = false) →
    Derives R (.elementOr token error) x .fail
  | elements {tokens x es r} : StartsWith tokens x es r → Derives R (.elements tokens) x (.ok tokens r)
  | elements_fail {tokens x} : (∀ es r, ¬StartsWith tokens x es r) → Derives R (.elements tokens) x .fail
  | elementsOr {tokens error x es r} : StartsWith tokens x es r →
    Derives R (.elementsOr tokens error) x (.ok tokens r)
  | elementsOr_fail {tokens error x} : (∀ es r, ¬StartsWith tokens x es r) →
    Derives R (.elementsOr tokens error) x .fail
  | slice {tokens expected x es r} : StartsWith tokens x es r →
    Derives R (.slice tokens expected) x (.ok es r)
  | slice_fail {tokens expected x} : (∀ es r, ¬StartsWith tokens x es r) →
    Derives R (.slice tokens expected) x .fail
  | eof {x} : Input.elements x = [] → Derives R .eof x (.ok () x)
  | eof_fail {x} : Input.elements x ≠ [] → Derives R .eof x .fail
  | map {α β v x r} {f : α → β} {g : Grammar F ε τ NoCustom α} :
    Derives R g x (.ok v r) → Derives R (g.map f) x (.ok (f v) r)
  | map_fail {α β x} {f : α → β} {g : Grammar F ε τ NoCustom α} :
    Derives R g x .fail → Derives R (g.map f) x .fail
  | bind {α β v x r verdict} {g : Grammar F ε τ NoCustom α} {next : α → Grammar F ε τ NoCustom β} :
    Derives R g x (.ok v r) → Derives R (next v) r verdict → Derives R (g.bind next) x verdict
  | bind_fail {α β x} {g : Grammar F ε τ NoCustom α} {next : α → Grammar F ε τ NoCustom β} :
    Derives R g x .fail → Derives R (g.bind next) x .fail
  | validate {α v x r check} {g : Grammar F ε τ NoCustom α} :
    Derives R g x (.ok v r) → check v = none → Derives R (g.validate check) x (.ok v r)
  | validate_reject {α v x r check e} {g : Grammar F ε τ NoCustom α} :
    Derives R g x (.ok v r) → check v = some e → Derives R (g.validate check) x .fail
  | validate_fail {α x check} {g : Grammar F ε τ NoCustom α} :
    Derives R g x .fail → Derives R (g.validate check) x .fail
  | mapError {α x f verdict} {g : Grammar F ε τ NoCustom α} :
    Derives R g x verdict → Derives R (g.mapError f) x verdict
  | orElse_left {α v x r} {g h : Grammar F ε τ NoCustom α} :
    Derives R g x (.ok v r) → Derives R (g.orElse h) x (.ok v r)
  | orElse_right {α x verdict} {g h : Grammar F ε τ NoCustom α} :
    Derives R g x .fail → Derives R h x verdict → Derives R (g.orElse h) x verdict
  | many_stop {α x} {g : Grammar F ε τ NoCustom α} :
    Derives R g x .fail → Derives R g.many x (.ok [] x)
  | many_more {α v vs x y r} {g : Grammar F ε τ NoCustom α} :
    Derives R g x (.ok v y) → (Input.elements y).length < (Input.elements x).length →
    Derives R g.many y (.ok vs r) → Derives R g.many x (.ok (v :: vs) r)
  | delay {α x verdict} {g : Unit → Grammar F ε τ NoCustom α} :
    Derives R (g ()) x verdict → Derives R (.delay g) x verdict
  | rule {r x verdict} : Derives R (R r) x verdict → Derives R (.rule r) x verdict

/-! ## The derived operations -/

section
variable {R : Rules F ε τ NoCustom} {α β γ : Type} {g : Grammar F ε τ NoCustom α} {h : Grammar F ε τ NoCustom β}
variable {k : Grammar F ε τ NoCustom γ} {x y z u : ι} {a : α} {b : β} {c : γ}

theorem Derives.pair (hg : Derives R g x (.ok a y)) (hh : Derives R h y (.ok b z)) :
    Derives R (g.pair h) x (.ok (a, b) z) :=
  .bind hg (.map hh)

theorem Derives.pair_fail (hg : Derives R g x .fail) : Derives R (g.pair h) x .fail := .bind_fail hg

theorem Derives.seqLeft (hg : Derives R g x (.ok a y)) (hh : Derives R h y (.ok b z)) :
    Derives R (g.seqLeft h) x (.ok a z) :=
  .map (hg.pair hh)

theorem Derives.seqLeft_fail (hg : Derives R g x .fail) : Derives R (g.seqLeft h) x .fail :=
  .map_fail hg.pair_fail

theorem Derives.seqRight (hg : Derives R g x (.ok a y)) (hh : Derives R h y (.ok b z)) :
    Derives R (g.seqRight h) x (.ok b z) :=
  .bind hg hh

theorem Derives.seqRight_fail (hg : Derives R g x .fail) : Derives R (g.seqRight h) x .fail := .bind_fail hg

theorem Derives.between (hg : Derives R g x (.ok a y)) (hh : Derives R h y (.ok b z))
    (hk : Derives R k z (.ok c u)) : Derives R (Grammar.between g h k) x (.ok b u) :=
  (hg.seqRight hh).seqLeft hk

theorem Derives.many1 {as : List α} (h : Derives R g.many x (.ok as y)) (hne : as ≠ []) :
    Derives R g.many1 x (.ok as y) := by
  refine .validate h ?_
  cases as with
  | nil => exact absurd rfl hne
  | cons a as => rfl

theorem Derives.many1_fail (h : Derives R g x .fail) : Derives R g.many1 x .fail :=
  .validate_reject (.many_stop h) rfl

end

section
variable {R : Rules F ε τ NoCustom} {accepts : ε → Bool} {expected : String}

def Stops (accepts : ε → Bool) (es : List ε) : Prop := ∀ e ∈ es.head?, accepts e = false

instance : (es : List ε) → Decidable (Stops accepts es)
  | [] => isTrue fun _ he => nomatch he
  | e :: _ => decidable_of_iff (accepts e = false) (by simp [Stops])

theorem Derives.satisfy_stop {x : ι} (h : Stops accepts (Input.elements x)) :
    Derives R (.satisfy accepts expected) x .fail := by
  refine .satisfy_fail fun e r hx => h e ?_
  rw [hx]
  rfl

theorem Derives.many_satisfy [LawfulInput ι] {s : List ε} (hs : ∀ e ∈ s, accepts e = true) {x r : ι}
    (hx : Input.elements x = s ++ Input.elements r) (hr : Stops accepts (Input.elements r)) :
    Derives R (.many (.satisfy accepts expected)) x (.ok s r) := by
  induction s generalizing x with
  | nil =>
    obtain rfl := Input.eq_of_elements hx
    exact .many_stop (.satisfy_stop hr)
  | cons e s ih =>
    obtain ⟨he, hs⟩ := List.forall_mem_cons.mp hs
    have hrest : Input.elements (Input.rest x) = s ++ Input.elements r := Input.elements_rest hx
    have hcons : Input.elements x = e :: Input.elements (Input.rest x) := by rw [hx, hrest]; rfl
    refine .many_more (.satisfy hcons he) ?_ (ih hs hrest)
    rw [hcons]
    exact Nat.lt_succ_self _

end

/-! ## Runs give derivations -/

/-- What `p` comes to, short of a fault, is a verdict on `g`. -/
structure DerivedBy (R : Rules F ε τ NoCustom) {α : Type} (g : Grammar F ε τ NoCustom α)
    (p : Parser F ι α) : Prop where
  ok : ∀ x v r, p.Succeeds x v r → Derives R g x (.ok v r)
  fail : ∀ x e, p.Fails x e → Derives R g x .fail

section
variable {R : Rules F ε τ NoCustom} {α : Type} {g : Grammar F ε τ NoCustom α} {p : Parser F ι α}

theorem DerivedBy.fails (h : DerivedBy R g p) {x : ι} (hx : ∃ e, p.Fails x e) : Derives R g x .fail := by
  obtain ⟨e, he⟩ := hx
  exact h.fail x e he

theorem DerivedBy.of_matcher (hs : ∀ x v r, p.Succeeds x v r → Derives R g x (.ok v r))
    (hf : ∀ x, (∀ v r, ¬p.Succeeds x v r) → Derives R g x .fail) : DerivedBy R g p where
  ok := hs
  fail := by
    intro x e he
    apply hf
    intro v r hv
    exact hv.not_fails he

theorem DerivedBy.many [LawfulInput ι] (h : DerivedBy R g p) (hp : p.LeavesSuffix) :
    DerivedBy R g.many p.many where
  ok := by
    intro x
    induction x using Input.size_induction with
    | h x ih =>
      intro vs r hvs
      rcases Parser.succeeds_many.mp hvs with ⟨he, rfl, rfl⟩ | ⟨v, y, ws, hv, hs, hws, rfl⟩
      · exact .many_stop (h.fails he)
      · -- the sizes shrink, and so do the elements, since what is left is a suffix
        have hl := (Input.size_lt_iff (hp x v y hv)).mp hs
        exact .many_more (h.ok x v y hv) hl (ih y hs ws r hws)
  fail := by
    intro x e he
    exact absurd he Parser.not_fails_many

end

variable [Describe ε]

theorem toParser_derivedBy [LawfulInput ι] {R : Rules F ε τ NoCustom}
    {rules : (r : ρ) → Parser F ι (τ r)} (hs : ∀ r, (rules r).LeavesSuffix)
    (hr : ∀ r, DerivedBy R (.rule r) (rules r)) {α : Type} (g : Grammar F ε τ NoCustom α) :
    DerivedBy R g (g.toParser rules) := by
  induction g with
  | pure v =>
    refine ⟨fun x w r h => ?_, fun x e h => absurd h Parser.not_fails_pure⟩
    obtain ⟨rfl, rfl⟩ := Parser.succeeds_pure.mp h
    exact .pure
  | fail e => exact ⟨fun x v r h => absurd h Parser.not_succeeds_fail, fun _ _ _ => .fail⟩
  | satisfy accepts expected =>
    refine .of_matcher (fun x e r h => ?_) fun x h => .satisfy_fail fun e r hx => ?_
    · obtain ⟨hx, ha⟩ := Parser.succeeds_satisfy.mp h
      exact .satisfy hx ha
    · apply Bool.eq_false_iff.mpr
      intro ha
      exact h e r (Parser.succeeds_satisfy.mpr ⟨hx, ha⟩)
  | elementOr token error =>
    refine .of_matcher (fun x e r h => ?_) fun x h => .elementOr_fail fun e r hx => ?_
    · obtain ⟨hx, ha⟩ := Parser.succeeds_elementOr.mp h
      exact .elementOr hx ha
    · apply Bool.eq_false_iff.mpr
      intro ha
      exact h e r (Parser.succeeds_elementOr.mpr ⟨hx, ha⟩)
  | elements tokens =>
    refine .of_matcher (fun x ts r h => ?_) fun x h => .elements_fail fun es r hes => ?_
    · obtain ⟨rfl, es, hes⟩ := Parser.succeeds_elements.mp h
      exact .elements hes
    · exact h tokens r (Parser.succeeds_elements.mpr ⟨rfl, es, hes⟩)
  | elementsOr tokens error =>
    refine .of_matcher (fun x ts r h => ?_) fun x h => .elementsOr_fail fun es r hes => ?_
    · obtain ⟨rfl, es, hes⟩ := Parser.succeeds_elementsOr.mp h
      exact .elementsOr hes
    · exact h tokens r (Parser.succeeds_elementsOr.mpr ⟨rfl, es, hes⟩)
  | slice tokens expected =>
    refine .of_matcher (fun x es r h => ?_) fun x h => .slice_fail fun es r hes => ?_
    · exact .slice (Parser.succeeds_slice.mp h)
    · exact h es r (Parser.succeeds_slice.mpr hes)
  | eof =>
    refine .of_matcher (fun x v r h => ?_) fun x h => .eof_fail fun hx => ?_
    · obtain ⟨hx, rfl⟩ := Parser.succeeds_eof.mp h
      exact .eof hx
    · exact h () x (Parser.succeeds_eof.mpr ⟨hx, rfl⟩)
  | map f g ih =>
    refine ⟨fun x w r h => ?_, fun x e h => ?_⟩
    · obtain ⟨v, hv, rfl⟩ := Parser.succeeds_map.mp h
      exact .map (ih.ok x v r hv)
    · exact .map_fail (ih.fail x e (Parser.fails_map.mp h))
  | bind g next ih ihn =>
    refine ⟨fun x w r h => ?_, fun x e h => ?_⟩
    · obtain ⟨v, y, hv, hw⟩ := Parser.succeeds_bind.mp h
      exact .bind (ih.ok x v y hv) ((ihn v).ok y w r hw)
    · rcases Parser.fails_bind.mp h with he | ⟨v, y, hv, he⟩
      · exact .bind_fail (ih.fail x e he)
      · exact .bind (ih.ok x v y hv) ((ihn v).fail y e he)
  | validate check g ih =>
    refine ⟨fun x v r h => ?_, fun x e h => ?_⟩
    · obtain ⟨hv, hn⟩ := Parser.succeeds_validate.mp h
      exact .validate (ih.ok x v r hv) hn
    · rcases Parser.fails_validate.mp h with he | ⟨v, r, hv, hc⟩
      · exact .validate_fail (ih.fail x e he)
      · exact .validate_reject (ih.ok x v r hv) hc
  | mapError f g ih =>
    refine ⟨fun x v r h => ?_, fun x e h => ?_⟩
    · exact .mapError (ih.ok x v r (Parser.succeeds_mapError.mp h))
    · obtain ⟨e', he', -⟩ := Parser.fails_mapError.mp h
      exact .mapError (ih.fail x e' he')
  | orElse g h ih ihh =>
    refine ⟨fun x v r hv => ?_, fun x e he => ?_⟩
    · rcases Parser.succeeds_orElse.mp hv with hv | ⟨he, hv⟩
      · exact .orElse_left (ih.ok x v r hv)
      · exact .orElse_right (ih.fails he) (ihh.ok x v r hv)
    · obtain ⟨he', he⟩ := Parser.fails_orElse.mp he
      exact .orElse_right (ih.fails he') (ihh.fail x e he)
  | many g ih => exact ih.many (g.leavesSuffix_of_rules hs)
  | delay g ih =>
    refine ⟨fun x v r h => ?_, fun x e h => ?_⟩
    · exact .delay ((ih ()).ok x v r (Parser.succeeds_delay.mp h))
    · exact .delay ((ih ()).fail x e (Parser.fails_delay.mp h))
  | rule r => exact hr r
  | custom p => cases p

theorem parserAt_derivedBy [LawfulInput ι] (R : Rules F ε τ NoCustom) (n : Nat) {α : Type}
    (g : Grammar F ε τ NoCustom α) :
    DerivedBy R g (g.parserAt R n : Parser F ι α) := by
  refine toParser_derivedBy (R.parserAt_leavesSuffix n) ?_ g
  clear g
  -- where no depth is left a rule faults, and there is nothing to derive
  induction n with
  | zero =>
    intro r
    exact ⟨fun x v y h => absurd h Parser.not_succeeds_fault, fun x e h => absurd h Parser.not_fails_fault⟩
  | succ n ih =>
    intro r
    have h := toParser_derivedBy (R.parserAt_leavesSuffix n) ih (R r)
    exact ⟨fun x v y hv => .rule (h.ok x v y hv), fun x e he => .rule (h.fail x e he)⟩

/-! ## Derivations give runs -/

def Reaches (R : Rules F ε τ NoCustom) {α : Type} (g : Grammar F ε τ NoCustom α) (x : ι) :
    Verdict ι α → Prop
  | .ok v r => ∃ n, (g.parserAt R n).Succeeds x v r
  | .fail => ∃ n e, (g.parserAt R n).Fails x e

section
variable {R : Rules F ε τ NoCustom} {α : Type} {g : Grammar F ε τ NoCustom α} {x r : ι}

theorem reaches_fail_of_matcher (hf : ∀ f, ¬(g.parserAt R 0 : Parser F ι α).Faults x f)
    (hs : ∀ v r, ¬(g.parserAt R 0 : Parser F ι α).Succeeds x v r) : g.Reaches R x .fail := by
  obtain ⟨e, he⟩ := (Parser.exists_fails_iff hf).mpr fun ⟨v, r, hv⟩ => hs v r hv
  exact ⟨0, e, he⟩

theorem reaches_bind {β : Type} {next : α → Grammar F ε τ NoCustom β} {v : α} {verdict : Verdict ι β}
    (hg : g.Reaches R x (.ok v r)) (hn : (next v).Reaches R r verdict) :
    (g.bind next).Reaches R x verdict := by
  obtain ⟨m, hm⟩ := hg
  -- what is reached at some depth is reached at every greater one, so the greater of the two serves both
  cases verdict with
  | ok w y =>
    obtain ⟨n, hn⟩ := hn
    have hv := succeeds_of_le hm (Nat.le_max_left m n)
    have hw := succeeds_of_le hn (Nat.le_max_right m n)
    exact ⟨max m n, Parser.succeeds_bind.mpr ⟨v, r, hv, hw⟩⟩
  | fail =>
    obtain ⟨n, e, hn⟩ := hn
    have hv := succeeds_of_le hm (Nat.le_max_left m n)
    have he := fails_of_le hn (Nat.le_max_right m n)
    exact ⟨max m n, e, Parser.fails_bind.mpr (.inr ⟨v, r, hv, he⟩)⟩

theorem reaches_orElse {h : Grammar F ε τ NoCustom α} {verdict : Verdict ι α}
    (hg : g.Reaches R x .fail) (hh : h.Reaches R x verdict) : (g.orElse h).Reaches R x verdict := by
  obtain ⟨m, e, hm⟩ := hg
  cases verdict with
  | ok v y =>
    obtain ⟨n, hn⟩ := hh
    have he := fails_of_le hm (Nat.le_max_left m n)
    have hv := succeeds_of_le hn (Nat.le_max_right m n)
    exact ⟨max m n, Parser.succeeds_orElse.mpr (.inr ⟨⟨e, he⟩, hv⟩)⟩
  | fail =>
    obtain ⟨n, e', hn⟩ := hh
    have he := fails_of_le hm (Nat.le_max_left m n)
    have he' := fails_of_le hn (Nat.le_max_right m n)
    exact ⟨max m n, e', Parser.fails_orElse.mpr ⟨⟨e, he⟩, he'⟩⟩

end

variable [LawfulInput ι]

theorem reaches_many {R : Rules F ε τ NoCustom} {α : Type} {g : Grammar F ε τ NoCustom α} {x y r : ι}
    {v : α} {vs : List α} (hg : g.Reaches R x (.ok v y))
    (hl : (Input.elements y).length < (Input.elements x).length)
    (hm : g.many.Reaches R y (.ok vs r)) : g.many.Reaches R x (.ok (v :: vs) r) := by
  obtain ⟨m, hg⟩ := hg
  obtain ⟨n, hm⟩ := hm
  have hv := succeeds_of_le hg (Nat.le_max_left m n)
  have hvs := succeeds_of_le hm (Nat.le_max_right m n)
  have hs := (Input.size_lt_iff (g.parserAt_leavesSuffix R m x v y hg)).mpr hl
  exact ⟨max m n, Parser.succeeds_many.mpr (.inr ⟨v, y, vs, hv, hs, hvs, rfl⟩)⟩

theorem Derives.reaches {R : Rules F ε τ NoCustom} {α : Type} {g : Grammar F ε τ NoCustom α} {x : ι}
    {verdict : Verdict ι α} (h : Derives R g x verdict) : g.Reaches R x verdict := by
  induction h with
  | pure => exact ⟨0, Parser.succeeds_pure.mpr ⟨rfl, rfl⟩⟩
  | fail => exact ⟨0, _, Parser.fails_fail.mpr rfl⟩
  | satisfy hx ha => exact ⟨0, Parser.succeeds_satisfy.mpr ⟨hx, ha⟩⟩
  | satisfy_fail hn =>
    refine reaches_fail_of_matcher (fun f => Parser.not_faults_satisfy) fun e r h => ?_
    obtain ⟨hx, ha⟩ := Parser.succeeds_satisfy.mp h
    exact Bool.eq_false_iff.mp (hn e r hx) ha
  | elementOr hx ha => exact ⟨0, Parser.succeeds_elementOr.mpr ⟨hx, ha⟩⟩
  | elementOr_fail hn =>
    refine reaches_fail_of_matcher (fun f => Parser.not_faults_elementOr) fun e r h => ?_
    obtain ⟨hx, ha⟩ := Parser.succeeds_elementOr.mp h
    exact Bool.eq_false_iff.mp (hn e r hx) ha
  | elements hes => exact ⟨0, Parser.succeeds_elements.mpr ⟨rfl, _, hes⟩⟩
  | elements_fail hn =>
    refine reaches_fail_of_matcher (fun f => Parser.not_faults_elements) fun ts r h => ?_
    obtain ⟨-, es, hes⟩ := Parser.succeeds_elements.mp h
    exact hn es r hes
  | elementsOr hes => exact ⟨0, Parser.succeeds_elementsOr.mpr ⟨rfl, _, hes⟩⟩
  | elementsOr_fail hn =>
    refine reaches_fail_of_matcher (fun f => Parser.not_faults_elementsOr) fun ts r h => ?_
    obtain ⟨-, es, hes⟩ := Parser.succeeds_elementsOr.mp h
    exact hn es r hes
  | slice hes => exact ⟨0, Parser.succeeds_slice.mpr hes⟩
  | slice_fail hn =>
    exact reaches_fail_of_matcher (fun f => Parser.not_faults_slice) fun es r h =>
      hn es r (Parser.succeeds_slice.mp h)
  | eof hx => exact ⟨0, Parser.succeeds_eof.mpr ⟨hx, rfl⟩⟩
  | eof_fail hx =>
    exact reaches_fail_of_matcher (fun f => Parser.not_faults_eof) fun v r h =>
      hx (Parser.succeeds_eof.mp h).1
  | map _ ih =>
    obtain ⟨n, hn⟩ := ih
    exact ⟨n, Parser.succeeds_map.mpr ⟨_, hn, rfl⟩⟩
  | map_fail _ ih =>
    obtain ⟨n, e, hn⟩ := ih
    exact ⟨n, e, Parser.fails_map.mpr hn⟩
  | bind _ _ ih ihn => exact reaches_bind ih ihn
  | bind_fail _ ih =>
    obtain ⟨n, e, hn⟩ := ih
    exact ⟨n, e, Parser.fails_bind.mpr (.inl hn)⟩
  | validate _ hn ih =>
    obtain ⟨n, hv⟩ := ih
    exact ⟨n, Parser.succeeds_validate.mpr ⟨hv, hn⟩⟩
  | validate_reject _ hc ih =>
    obtain ⟨n, hv⟩ := ih
    exact ⟨n, _, Parser.fails_validate.mpr (.inr ⟨_, _, hv, hc⟩)⟩
  | validate_fail _ ih =>
    obtain ⟨n, e, hn⟩ := ih
    exact ⟨n, e, Parser.fails_validate.mpr (.inl hn)⟩
  | @mapError _ _ _ verdict _ _ ih =>
    cases verdict with
    | ok v r =>
      obtain ⟨n, hn⟩ := ih
      exact ⟨n, Parser.succeeds_mapError.mpr hn⟩
    | fail =>
      obtain ⟨n, e, hn⟩ := ih
      exact ⟨n, _, Parser.fails_mapError.mpr ⟨e, hn, rfl⟩⟩
  | orElse_left _ ih =>
    obtain ⟨n, hn⟩ := ih
    exact ⟨n, Parser.succeeds_orElse.mpr (.inl hn)⟩
  | orElse_right _ _ ih ihh => exact reaches_orElse ih ihh
  | many_stop _ ih =>
    obtain ⟨n, e, hn⟩ := ih
    exact ⟨n, Parser.succeeds_many.mpr (.inl ⟨⟨e, hn⟩, rfl, rfl⟩)⟩
  | many_more _ hl _ ih ihm => exact reaches_many ih hl ihm
  | @delay _ _ verdict _ _ ih => cases verdict <;> exact ih
  | @rule _ _ verdict _ ih =>
    cases verdict with
    | ok v r =>
      obtain ⟨n, hn⟩ := ih
      exact ⟨n + 1, hn⟩
    | fail =>
      obtain ⟨n, e, hn⟩ := ih
      exact ⟨n + 1, e, hn⟩

theorem derives_iff_reaches {R : Rules F ε τ NoCustom} {α : Type} {g : Grammar F ε τ NoCustom α} {x : ι}
    {verdict : Verdict ι α} : Derives R g x verdict ↔ g.Reaches R x verdict := by
  refine ⟨Derives.reaches, fun h => ?_⟩
  cases verdict with
  | ok v r =>
    obtain ⟨n, hn⟩ := h
    exact (parserAt_derivedBy R n g).ok x v r hn
  | fail =>
    obtain ⟨n, e, hn⟩ := h
    exact (parserAt_derivedBy R n g).fail x e hn

end

end Grammar

end Parsing
