import Parsing.Parser.Text
import Parsing.Proofs.Choice
import Parsing.Proofs.Sequencing

/-!
# Factoring alternatives

Alternatives that begin with the same parser have the outcome of that parser with a choice after it, although
they may run it again and again. The other way round this is not so: once an alternative of a choice has
succeeded, the choice is made, and what fails after it does not bring the other one back.
-/

namespace Parsing

variable {F : ErrorFamily} {ι α β ν : Type}

namespace Parser

section
variable {p p' q q' : Parser F ι α ν} {next : α → Parser F ι β ν} {x y r : ι} {v : α} {e : ParseError F}

theorem result_orElse_of_fails (h : p.Fails x e) : ((p.orElse q).run x).result = (q.run x).result := by
  rw [run_orElse_of_fails h]
  rfl

theorem result_orElse_congr (hp : (p.run x).result = (p'.run y).result)
    (hq : (q.run x).result = (q'.run y).result) :
    ((p.orElse q).run x).result = ((p'.orElse q').run y).result := by
  by_cases h : ∃ e, p.Fails x e
  · obtain ⟨e, he⟩ := h
    have he' : p'.Fails y e := hp.symm.trans he
    rw [result_orElse_of_fails he, result_orElse_of_fails he', hq]
  · have h' : ∀ e, ¬p'.Fails y e := fun e he => h ⟨e, hp.trans he⟩
    rw [run_orElse_of_not_fails fun e he => h ⟨e, he⟩, run_orElse_of_not_fails h', hp]

theorem result_bind_of_succeeds (h : p.Succeeds x v r) :
    ((p.bind next).run x).result = ((next v).run r).result := by
  rw [run_bind_of_succeeds h]
  rfl

end

/-! ## The same first parser -/

section
variable (p : Parser F ι α ν) (x : ι)

theorem result_orElse_bind (next next' : α → Parser F ι β ν) :
    (((p.bind next).orElse (p.bind next')).run x).result =
      ((p.bind fun v => (next v).orElse (next' v)).run x).result := by
  rcases p.outcome_cases x with ⟨v, r, hv⟩ | ⟨e, he⟩ | ⟨f, hf⟩
  · rw [result_bind_of_succeeds hv]
    exact result_orElse_congr (result_bind_of_succeeds hv) (result_bind_of_succeeds hv)
  · have hn : (p.bind next).Fails x e := fails_bind.mpr (.inl he)
    rw [result_orElse_of_fails hn, run_bind_of_fails he, run_bind_of_fails he]
  · have hn : ∀ e, ¬(p.bind next).Fails x e := by
      intro e he
      have hnf : (p.bind next).Faults x f := faults_bind.mpr (.inl hf)
      exact he.not_faults hnf
    rw [run_orElse_of_not_fails hn, run_bind_of_faults hf, run_bind_of_faults hf]

theorem result_firstOf_bind (next : α → Parser F ι β ν) (nexts : List (α → Parser F ι β ν)) :
    ((firstOf (p.bind next :: nexts.map p.bind)).run x).result =
      ((p.bind fun v => firstOf (next v :: nexts.map fun n => n v)).run x).result := by
  induction nexts generalizing next with
  | nil => rfl
  | cons next' nexts ih =>
    simp only [List.map_cons, firstOf_cons_cons]
    rw [← result_orElse_bind]
    exact result_orElse_congr rfl (ih next')

theorem result_firstOf_seqRight (q : Parser F ι β ν) (qs : List (Parser F ι β ν)) :
    ((firstOf ((q :: qs).map p.seqRight)).run x).result = ((p.seqRight (firstOf (q :: qs))).run x).result := by
  have h := result_firstOf_bind p x (fun _ => q) (qs.map fun s _ => s)
  simp only [List.map_map, Function.comp_def, List.map_id'] at h
  exact h

end

/-! ## A choice that is made -/

section
variable {p q : Parser F ι α ν} {next : α → Parser F ι β ν} {x r : ι} {v : α} {e : ParseError F}

theorem run_bind_orElse_of_not_fails (h : ∀ e, ¬p.Fails x e) :
    ((p.orElse q).bind next).run x = (p.bind next).run x := by
  rw [run_bind, run_orElse_of_not_fails h, run_bind]

theorem run_bind_orElse_of_fails (h : p.Fails x e) :
    ((p.orElse q).bind next).run x = ((p.bind next).orElse (q.bind next)).run x := by
  have hn : (p.bind next).Fails x e := fails_bind.mpr (.inl h)
  have hlog : ((p.bind next).run x).log = (p.run x).log := congrArg Run.log (run_bind_of_fails h)
  rw [run_orElse_of_fails hn, hlog, run_bind, run_orElse_of_fails h, Run.andThen_after, run_bind]

theorem run_bind_orElse (h : ∀ v r e, p.Succeeds x v r → ¬(next v).Fails r e) :
    ((p.orElse q).bind next).run x = ((p.bind next).orElse (q.bind next)).run x := by
  by_cases hp : ∃ e, p.Fails x e
  · obtain ⟨e, he⟩ := hp
    exact run_bind_orElse_of_fails he
  · have hp : ∀ e, ¬p.Fails x e := fun e he => hp ⟨e, he⟩
    have hn : ∀ e, ¬(p.bind next).Fails x e := by
      intro e he
      rcases fails_bind.mp he with he | ⟨v, r, hv, he⟩
      · exact hp e he
      · exact h v r e hv he
    rw [run_bind_orElse_of_not_fails hp, run_orElse_of_not_fails hn]

end

/-- **Factoring is sound, and choices commit.** If the alternatives begin with the same parser, they have the
outcome of that parser followed by a choice, however many alternatives there are. What follows a choice may be
put into its alternatives without a change, log included, unless the first one succeeds and what follows it
fails. In this case the choice returns that failure, and whatever the second alternative is, it is not run;
put into the alternatives, it is. -/
theorem factoring_sound (p q : Parser F ι α ν) (x : ι) :
    (∀ next next' : α → Parser F ι β ν,
      (((p.bind next).orElse (p.bind next')).run x).result =
        ((p.bind fun v => (next v).orElse (next' v)).run x).result) ∧
    (∀ (s : Parser F ι β ν) (ss : List (Parser F ι β ν)),
      ((firstOf ((s :: ss).map p.seqRight)).run x).result = ((p.seqRight (firstOf (s :: ss))).run x).result) ∧
    ∀ next : α → Parser F ι β ν,
      ((∀ v r e, p.Succeeds x v r → ¬(next v).Fails r e) →
        ((p.orElse q).bind next).run x = ((p.bind next).orElse (q.bind next)).run x) ∧
      ∀ v r e, p.Succeeds x v r → (next v).Fails r e →
        ((p.orElse q).bind next).Fails x e ∧
        (∀ q', ((p.orElse q').bind next).run x = (p.bind next).run x) ∧
        (((p.bind next).orElse (q.bind next)).run x).result = ((q.bind next).run x).result := by
  refine ⟨result_orElse_bind p x, result_firstOf_seqRight p x, fun next => ⟨run_bind_orElse, ?_⟩⟩
  intro v r e hv he
  have hn : (p.bind next).Fails x e := fails_bind.mpr (.inr ⟨v, r, hv, he⟩)
  have hrun : ∀ q', ((p.orElse q').bind next).run x = (p.bind next).run x :=
    fun q' => run_bind_orElse_of_not_fails fun e => hv.not_fails
  refine ⟨?_, hrun, result_orElse_of_fails hn⟩
  unfold Fails
  rw [hrun q]
  exact hn

theorem factoring_sound_words :
    let p : Parser .none Text String := string "a"
    let q : Parser .none Text String := string "ab"
    let next : String → Parser .none Text Char := fun _ => char 'c'
    let x := Text.ofString "abc"
    let y := Text.ofString "ac"
    (∃ e, ((p.orElse q).bind next).Fails x e) ∧ ((p.bind next).orElse (q.bind next)).Succeeds x 'c' (.ofString "") ∧
      ((p.orElse q).bind next).run y = ((p.bind next).orElse (q.bind next)).run y := by
  intro p q next x y
  obtain ⟨-, -, hx⟩ := factoring_sound (β := Char) p q x
  obtain ⟨-, -, hy⟩ := factoring_sound (β := Char) p q y
  have hv : p.Succeeds x "a" (.ofString "bc") := rfl
  have hb : ∃ e, (next "a").Fails (.ofString "bc") e := ⟨_, rfl⟩
  obtain ⟨e, he⟩ := hb
  obtain ⟨hfails, -, hlast⟩ := (hx next).2 "a" _ e hv he
  have hq : (q.bind next).Succeeds x 'c' (.ofString "") := rfl
  refine ⟨⟨e, hfails⟩, hlast.trans hq, (hy next).1 fun v r e h he => ?_⟩
  have hw : p.Succeeds y "a" (.ofString "c") := rfl
  obtain ⟨rfl, rfl⟩ := h.unique hw
  have hc : (next "a").Succeeds (.ofString "c") 'c' (.ofString "") := rfl
  exact hc.not_fails he

end Parser

end Parsing
