import Parsing.Proofs.Consumption
import Parsing.Proofs.Translation

/-!
# Text and lists of characters

A text measures what is left of it in bytes, a list of characters counts its members. A grammar runs on
both alike: the sizes that a repetition compares are those of an input and of a suffix of it, and on
these bytes and members are in the same order.
-/

namespace Parsing

variable {F : ErrorFamily} {ι κ ε ρ α : Type} {τ : ρ → Type}

def Event.keep (remark : String) : List (Event F) := [.note remark]

theorem Event.retold_keep : Event.retold Event.keep = fun e : Event F => [e] := by
  funext e
  cases e <;> rfl

theorem Run.retold_keep (f : ι → κ) (s : Run F ι α) : s.retold f Event.keep = s.mapOutcome (.mapRest f) := by
  simp only [Run.retold, Run.mapOutcome, Event.retold_keep, List.flatMap_singleton']

theorem Text.recoded_chars : Input.Recoded Text.chars := .of_elements fun _ => rfl

section
variable [Input ι ε] [Input κ ε] [LawfulInput ι] [LawfulInput κ] [BEq ε] [Describe ε]
variable {f : ι → κ} (hf : Input.Recoded f)
include hf

theorem Grammar.toParser_recoded {rules : (r : ρ) → Parser F ι (τ r)} {rules' : (r : ρ) → Parser F κ (τ r)}
    (hs : ∀ r, (rules r).LeavesSuffix) (hr : ∀ r, (rules r).RetoldBy f Event.keep (rules' r))
    (g : Grammar F ε τ NoCustom α) : (g.toParser rules).RetoldBy f Event.keep (g.toParser rules') := by
  induction g with
  | pure v => exact .pure v
  | fail e => exact .fail e
  | satisfy accepts expected => exact .satisfy hf accepts expected
  | elementOr token error => exact .elementOr hf token error
  | elements tokens => exact .elements hf tokens
  | elementsOr tokens error => exact .elementsOr hf tokens error
  | slice tokens expected => exact .slice hf tokens expected
  | eof => exact .eof hf
  | map g _ ih => exact ih.map g
  | bind _ _ ih ihn => exact ih.bind ihn
  | validate check _ ih => exact ih.validate check
  | mapError t _ ih => exact ih.mapError t
  | orElse _ _ ih ihh => exact ih.orElse ihh
  | many g ih =>
    -- what a match leaves is a suffix, and only for suffixes do the two orders agree
    apply ih.many
    intro x v r hv
    exact hf.size_lt_iff (g.leavesSuffix_of_rules hs x v r hv)
  | delay _ ih => exact ih ()
  | rule r => exact hr r
  | custom p => cases p

theorem Rules.parserAt_recoded (R : Rules F ε τ NoCustom) (n : Nat) (r : ρ) :
    (R.parserAt n r).RetoldBy f Event.keep (R.parserAt n r) := by
  induction n generalizing r with
  | zero => exact .fault .tooDeep
  | succ n ih => exact (R r).toParser_recoded hf (R.parserAt_leavesSuffix n) ih

theorem Grammar.parserAt_recoded (R : Rules F ε τ NoCustom) (g : Grammar F ε τ NoCustom α) (n : Nat) (x : ι) :
    (g.parserAt R n).run (f x) = ((g.parserAt R n).run x).mapOutcome (.mapRest f) := by
  rw [← Run.retold_keep]
  exact g.toParser_recoded hf (R.parserAt_leavesSuffix n) (R.parserAt_recoded hf n) x

end

theorem Run.mapOutcome_result_eq_error {β : Type} {s : Run F ι α} {h : Outcome F ι α → Outcome F κ β}
    {e : Fault} : (s.mapOutcome h).result = .error e ↔ s.result = .error e := by
  obtain ⟨log, result⟩ := s
  cases result <;> simp [mapOutcome, Except.map]

/-- **Bytes or characters.** On a text and on the list of its characters a grammar runs alike, to every
depth: the values, errors, faults and events are the same, and what is left of the list is what is left of
the text. The one parse comes back if and only if the other does. -/
theorem Grammar.runs_alike_on_text_and_list (R : Rules F Char τ NoCustom) (g : Grammar F Char τ NoCustom α)
    (t : Text) :
    (∀ n, (g.parserAt R n).run t.chars = ((g.parserAt R n).run t).mapOutcome (.mapRest Text.chars)) ∧
      ∀ s', g.Parses R t.chars s' ↔ ∃ s, g.Parses R t s ∧ s.mapOutcome (.mapRest Text.chars) = s' := by
  have hrun : ∀ n, (g.parserAt R n).run t.chars =
      ((g.parserAt R n).run t).mapOutcome (.mapRest Text.chars) :=
    fun n => g.parserAt_recoded Text.recoded_chars R n t
  refine ⟨hrun, fun s' => ⟨fun ⟨hs, n, hn⟩ => ?_, fun ⟨s, ⟨hs, n, hn⟩, hs'⟩ => ?_⟩⟩
  · subst hn
    rw [hrun] at hs ⊢
    exact ⟨_, ⟨mt Run.mapOutcome_result_eq_error.mpr hs, n, rfl⟩, rfl⟩
  · subst hn hs'
    exact ⟨mt Run.mapOutcome_result_eq_error.mp hs, n, hrun n⟩

end Parsing
