import Parsing.Grammar.Nested
import Parsing.Input.Text
import Parsing.Proofs.Depth

/-!
# Unfolding

In the limit of the depths every rule has one parser, and that parser runs as the one of the grammar of the
rule does. So a reference to a rule can be replaced by the grammar of the rule, over and over, and any part
of a grammar can be delayed: the parse comes back on the same inputs, with the same run.
-/

namespace Parsing

variable {F : ErrorFamily} {ι ε ρ α β : Type} {τ : ρ → Type} {π : Type → Type}
variable [Input ι ε] [BEq ε] [Describe ε] [CustomParser F ι π]

/-! ## The limit of the depths -/

open Classical in
/-- The parser of a rule, to whatever depth its run takes. Where no depth is enough, it is cut off. -/
noncomputable def Rules.limit (R : Rules F ε τ π) (r : ρ) : Parser F ι (τ r) :=
  ⟨fun x => if h : ∃ s, (Grammar.rule r : Grammar F ε τ π (τ r)).Parses R x s then h.choose else .fault .tooDeep⟩

section
variable {R : Rules F ε τ π} {r : ρ} {x : ι} {s : Run F ι (τ r)}

theorem Rules.limit_run (h : (Grammar.rule r : Grammar F ε τ π (τ r)).Parses R x s) :
    (R.limit r).run x = s := by
  have hex : ∃ s, (Grammar.rule r : Grammar F ε τ π (τ r)).Parses R x s := ⟨s, h⟩
  simp only [limit, dif_pos hex]
  exact hex.choose_spec.unique h

theorem Rules.parses_limit (h : ¬(R.limit r).Faults x .tooDeep) :
    (Grammar.rule r : Grammar F ε τ π (τ r)).Parses R x ((R.limit r).run x) := by
  by_cases hex : ∃ s, (Grammar.rule r : Grammar F ε τ π (τ r)).Parses R x s
  · obtain ⟨s, hs⟩ := hex
    rwa [limit_run hs]
  · refine absurd ?_ h
    simp only [Parser.Faults, limit, dif_neg hex, Run.fault]

theorem Rules.parserAt_extendedBy_limit (R : Rules F ε τ π) (n : Nat) (r : ρ) :
    (R.parserAt n r : Parser F ι (τ r)).ExtendedBy (R.limit r) :=
  fun _ hx => limit_run ⟨hx, n, rfl⟩

theorem Rules.limit_approachedBy (R : Rules F ε τ π) (r : ρ) :
    (R.limit r : Parser F ι (τ r)).ApproachedBy fun n => R.parserAt n r := by
  intro x hx
  obtain ⟨hs, m, hm⟩ := Rules.parses_limit hx
  exact ⟨m, fun n hn => Grammar.Parses.of_le (g := Grammar.rule r) hm hs hn⟩

theorem Grammar.parses_rule :
    (rule r : Grammar F ε τ π (τ r)).Parses R x s ↔ (R r).Parses R x s := by
  refine and_congr_right fun hs => ⟨fun ⟨n, hn⟩ => ?_, fun ⟨n, hn⟩ => ⟨n + 1, hn⟩⟩
  cases n with
  | zero =>
    subst hn
    exact absurd rfl hs
  | succ n => exact ⟨n, hn⟩

end

namespace Grammar

variable {R : Rules F ε τ π}

theorem parses_iff {g : Grammar F ε τ π α} {x : ι} {s : Run F ι α} :
    g.Parses R x s ↔ s.result ≠ .error .tooDeep ∧ (g.toParser R.limit).run x = s := by
  refine and_congr_right fun hs => ⟨fun ⟨n, hn⟩ => ?_, fun hrun => ?_⟩
  · subst hn
    exact toParser_extendedBy (R.parserAt_extendedBy_limit n) g x hs
  · subst hrun
    obtain ⟨m, hm⟩ := g.toParser_approachedBy R.parserAt R.limit_approachedBy x hs
    exact ⟨m, hm m (Nat.le_refl m)⟩

/-! ## Unfolding -/

/-- `g` becomes `h` by putting the grammars of rules in the place of references to them, at any places and
any number of times, and by delaying parts. -/
inductive UnfoldsTo (R : Rules F ε τ π) : {α : Type} → Grammar F ε τ π α → Grammar F ε τ π α → Prop
  | rule (r : ρ) : UnfoldsTo R (.rule r) (R r)
  | delayed {α : Type} (g : Grammar F ε τ π α) : UnfoldsTo R g (.delay fun _ => g)
  | refl {α : Type} (g : Grammar F ε τ π α) : UnfoldsTo R g g
  | trans {α : Type} {g h k : Grammar F ε τ π α} : UnfoldsTo R g h → UnfoldsTo R h k → UnfoldsTo R g k
  | map {α β : Type} (f : α → β) {g h : Grammar F ε τ π α} : UnfoldsTo R g h →
    UnfoldsTo R (g.map f) (h.map f)
  | bind {α β : Type} {g h : Grammar F ε τ π α} {next next' : α → Grammar F ε τ π β} : UnfoldsTo R g h →
    (∀ v, UnfoldsTo R (next v) (next' v)) → UnfoldsTo R (g.bind next) (h.bind next')
  | validate {α : Type} (check : α → Option (ParseError F)) {g h : Grammar F ε τ π α} : UnfoldsTo R g h →
    UnfoldsTo R (g.validate check) (h.validate check)
  | mapError {α : Type} (f : ParseError F → ParseError F) {g h : Grammar F ε τ π α} : UnfoldsTo R g h →
    UnfoldsTo R (g.mapError f) (h.mapError f)
  | orElse {α : Type} {g g' h h' : Grammar F ε τ π α} : UnfoldsTo R g g' → UnfoldsTo R h h' →
    UnfoldsTo R (g.orElse h) (g'.orElse h')
  | many {α : Type} {g h : Grammar F ε τ π α} : UnfoldsTo R g h → UnfoldsTo R g.many h.many
  | delay {α : Type} {g h : Unit → Grammar F ε τ π α} : UnfoldsTo R (g ()) (h ()) →
    UnfoldsTo R (.delay g) (.delay h)

theorem UnfoldsTo.extendedBy {g h : Grammar F ε τ π α} (hu : UnfoldsTo R g h) :
    (g.toParser R.limit : Parser F ι α).ExtendedBy (h.toParser R.limit) ∧
      (h.toParser R.limit : Parser F ι α).ExtendedBy (g.toParser R.limit) := by
  simp only [Parser.extendedBy_iff_approachedBy]
  induction hu with
  | rule r =>
    -- in the limit a rule comes to what its body comes to
    simp only [← Parser.extendedBy_iff_approachedBy]
    refine ⟨fun x hx => ?_, fun x hx => ?_⟩
    · exact (parses_iff.mp (parses_rule.mp (Rules.parses_limit hx))).2
    · exact Rules.limit_run (parses_rule.mpr (parses_iff.mpr ⟨hx, rfl⟩))
  | delayed g => exact ⟨.refl _, .refl _⟩
  | refl g => exact ⟨.refl _, .refl _⟩
  | trans _ _ ih ih' =>
    simp only [← Parser.extendedBy_iff_approachedBy] at ih ih' ⊢
    exact ⟨ih.1.trans ih'.1, ih'.2.trans ih.2⟩
  | map f _ ih => exact ⟨ih.1.map f, ih.2.map f⟩
  | bind _ _ ih ihn => exact ⟨ih.1.bind fun v => (ihn v).1, ih.2.bind fun v => (ihn v).2⟩
  | validate check _ ih => exact ⟨ih.1.validate check, ih.2.validate check⟩
  | mapError f _ ih => exact ⟨ih.1.mapError f, ih.2.mapError f⟩
  | orElse _ _ ih ihh => exact ⟨ih.1.orElse ihh.1, ih.2.orElse ihh.2⟩
  | many _ ih => exact ⟨ih.1.many, ih.2.many⟩
  | delay _ ih => exact ih

/-- **Unfolding keeps the parse.** It comes back on the same inputs, with the same value and rest, the same
error or the same fault, and it reports the same events in the same order. -/
theorem unfolding_keeps_parses {g h : Grammar F ε τ π α} (hu : UnfoldsTo R g h) (x : ι) (s : Run F ι α) :
    g.Parses R x s ↔ h.Parses R x s := by
  have hext : (g.toParser R.limit : Parser F ι α).ExtendedBy (h.toParser R.limit) ∧
      (h.toParser R.limit : Parser F ι α).ExtendedBy (g.toParser R.limit) := hu.extendedBy
  rw [parses_iff, parses_iff]
  refine and_congr_right fun hs => ⟨fun hrun => ?_, fun hrun => ?_⟩
  · subst hrun
    exact hext.1 x hs
  · subst hrun
    exact hext.2 x hs

set_option maxRecDepth 20000 in
theorem unfolding_keeps_parses_nested :
    UnfoldsTo (nested : Rules .none Char (fun _ : Unit => Char) NoCustom) (.rule ()) nestedTwice ∧
      ∃ log, (Grammar.rule ()).Parses (nested : Rules .none Char (fun _ : Unit => Char) NoCustom)
          (Text.ofString "((7)") ⟨log, .ok (.failure (.mismatch (.unexpected "digit" "'('")))⟩ ∧
        nestedTwice.Parses (nested : Rules .none Char (fun _ : Unit => Char) NoCustom)
          (Text.ofString "((7)") ⟨log, .ok (.failure (.mismatch (.unexpected "digit" "'('")))⟩ := by
  have hu : UnfoldsTo (nested : Rules .none Char (fun _ : Unit => Char) NoCustom) (.rule ()) nestedTwice :=
    .trans (.rule ()) (.orElse (.map _ (.bind (.bind (.refl _) fun _ => .rule ()) fun _ => .refl _)) (.delayed _))
  obtain ⟨log, hlog⟩ := (returns_failure (R := (nested : Rules .none Char (fun _ : Unit => Char) NoCustom))
    (g := .rule ()) (x := Text.ofString "((7)")).mpr ⟨3, rfl⟩
  exact ⟨hu, log, hlog, (unfolding_keeps_parses hu _ _).mp hlog⟩

end Grammar

end Parsing
