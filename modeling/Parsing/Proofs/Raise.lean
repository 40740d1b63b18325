import Parsing.Grammar.Nested
import Parsing.Grammar.Raise
import Parsing.Input.Text
import Parsing.Proofs.Watch

/-!
# The error of a failure

An error that is raised is dealt with before anything else happens: the next alternative is tried, a
repetition ends, or another error takes its place. So there is never more than one that is not dealt with,
and a run that fails does so with the last one.
-/

namespace Parsing

variable {F : ErrorFamily} {ι ε ρ α β ν : Type} {τ : ρ → Type}

/-! ## The notes do not change a run -/

def ErrorNote.silent (_ : ErrorNote F) : List (Event F) := []

theorem Parser.validate_eq_bind (check : α → Option (ParseError F)) (p : Parser F ι α ν) :
    p.validate check = p.bind fun v => (Parser.pure v).validate check := by
  simp only [Parser.validate, Parser.bind]
  congr 1
  funext x
  obtain ⟨log, result⟩ := p.run x
  rcases result with f | ⟨v, r⟩ | e
  · rfl
  · simp only [Run.andThen, Run.after, Run.mapOutcome, Parser.pure, Run.success, List.append_nil]
  · rfl

namespace Parser.RetoldBy

variable {p : Parser F ι α (ErrorNote F)} {q : Parser F ι α}

theorem noteFailure (remark : ParseError F → ErrorNote F) (h : RetoldBy id ErrorNote.silent p q) :
    RetoldBy id ErrorNote.silent (p.noteFailure remark) q := by
  intro x
  rw [h x, Run.retold_id, Run.retold_id]
  simp only [Parser.noteFailure, Run.recover]
  obtain ⟨log, result⟩ := p.run x
  rcases result with f | ⟨v, r⟩ | e
  · rfl
  · rfl
  · simp only [Run.after, Run.failure, List.flatMap_append]
    simp [Event.retold, ErrorNote.silent]

theorem raising (h : RetoldBy id ErrorNote.silent p q) : RetoldBy id ErrorNote.silent p.raising q :=
  h.noteFailure _

end Parser.RetoldBy

section
variable [Input ι ε] [BEq ε] [Describe ε]

theorem Grammar.raising_retoldBy {rules : (r : ρ) → Parser F ι (τ r) (ErrorNote F)}
    {rules' : (r : ρ) → Parser F ι (τ r)} (hr : ∀ r, (rules r).RetoldBy id ErrorNote.silent (rules' r))
    (g : Grammar F ε τ NoCustom α) :
    (g.raising rules).RetoldBy id ErrorNote.silent (g.toParser rules') := by
  induction g with
  | pure v => exact .pure v
  | fail e => exact .raising (.fail e)
  | satisfy accepts expected => exact .raising (.satisfy .id accepts expected)
  | elementOr token error => exact .raising (.elementOr .id token error)
  | elements tokens => exact .raising (.elements .id tokens)
  | elementsOr tokens error => exact .raising (.elementsOr .id tokens error)
  | slice tokens expected => exact .raising (.slice .id tokens expected)
  | eof => exact .raising (.eof .id)
  | map f _ ih => exact ih.map f
  | bind _ _ ih ihn => exact ih.bind ihn
  | validate check _ ih =>
    rw [toParser, Parser.validate_eq_bind]
    exact ih.bind fun v => .raising (.validate check (.pure v))
  | mapError f _ ih => exact ((ih.noteFailure _).mapError f).raising
  | orElse _ _ ih ihh => exact ih.orElse (ihh.noted fun _ => rfl)
  | many _ ih => exact (ih.noteFailure _).many fun _ _ _ _ => Iff.rfl
  | delay _ ih => exact ih ()
  | rule r => exact hr r
  | custom p => cases p

theorem Rules.raisingAt_retoldBy (R : Rules F ε τ NoCustom) (n : Nat) (r : ρ) :
    (R.raisingAt n r : Parser F ι (τ r) (ErrorNote F)).RetoldBy id ErrorNote.silent (R.parserAt n r) := by
  induction n generalizing r with
  | zero => exact .fault .tooDeep
  | succ n ih => exact (R r).raising_retoldBy ih

theorem Grammar.raisingAt_retoldBy (R : Rules F ε τ NoCustom) (n : Nat) (g : Grammar F ε τ NoCustom α) :
    (g.raisingAt R n : Parser F ι α (ErrorNote F)).RetoldBy id ErrorNote.silent (g.parserAt R n) :=
  g.raising_retoldBy (R.raisingAt_retoldBy n)

end

/-! ## What becomes of an error -/

/-- Every error that is raised in `log` is dealt with at once, but for `error?`, which is the last event. -/
inductive Accounted : List (Event F (ErrorNote F)) → Option (ParseError F) → Prop
  | nil : Accounted [] none
  | raised (e : ParseError F) : Accounted [.note (.raised e)] (some e)
  | stalled {log error?} (n : Nat) :
    Accounted log error? → Accounted (.stalled n :: log) error?
  | abandoned {log error?} (e : ParseError F) :
    Accounted log error? → Accounted (.note (.raised e) :: .abandoned e :: .note .retried :: log) error?
  | absorbed {log error?} (e : ParseError F) :
    Accounted log error? → Accounted (.note (.raised e) :: .note (.absorbed e) :: log) error?
  | rewritten {log error?} (e e' : ParseError F) :
    Accounted (.note (.raised e') :: log) error? →
    Accounted (.note (.raised e) :: .note (.rewritten e) :: .note (.raised e') :: log) error?

def pending : Option (ParseError F) → List (Event F (ErrorNote F))
  | none => []
  | some e => [.note (.raised e)]

/-- What comes after the raise of `e` in a run that comes to `error?`. -/
inductive Fate (e : ParseError F) : List (Event F (ErrorNote F)) → Option (ParseError F) → Prop
  | reported : Fate e [] (some e)
  | abandoned {log error?} : Fate e (.abandoned e :: .note .retried :: log) error?
  | absorbed {log error?} : Fate e (.note (.absorbed e) :: log) error?
  | rewritten {log error?} (e' : ParseError F) :
    Fate e (.note (.rewritten e) :: .note (.raised e') :: log) error?

namespace Accounted

variable {log log' : List (Event F (ErrorNote F))} {error? error'? : Option (ParseError F)} {e : ParseError F}

theorem followed (h : Accounted log error?) (h' : Accounted (pending error? ++ log') error'?) :
    Accounted (log ++ log') error'? := by
  induction h with
  | nil => exact h'
  | raised e => exact h'
  | stalled n _ ih => exact .stalled n (ih h')
  | abandoned e _ ih => exact .abandoned e (ih h')
  | absorbed e _ ih => exact .absorbed e (ih h')
  | rewritten e e' _ ih => exact .rewritten e e' (ih h')

theorem ends (h : Accounted log error?) : ∃ before, log = before ++ pending error? := by
  induction h with
  | nil => exact ⟨[], rfl⟩
  | raised e => exact ⟨[], rfl⟩
  | stalled n _ ih =>
    obtain ⟨before, rfl⟩ := ih
    exact ⟨.stalled n :: before, rfl⟩
  | abandoned e _ ih =>
    obtain ⟨before, rfl⟩ := ih
    exact ⟨.note (.raised e) :: .abandoned e :: .note .retried :: before, rfl⟩
  | absorbed e _ ih =>
    obtain ⟨before, rfl⟩ := ih
    exact ⟨.note (.raised e) :: .note (.absorbed e) :: before, rfl⟩
  | rewritten e e' _ ih =>
    obtain ⟨before, hb⟩ := ih
    exact ⟨.note (.raised e) :: .note (.rewritten e) :: before, by rw [hb]; rfl⟩

theorem fate (h : Accounted log error?) {before after : List (Event F (ErrorNote F))}
    (hlog : log = before ++ .note (.raised e) :: after) : Fate e after error? := by
  induction h generalizing before with
  | nil => simp at hlog
  | raised e' =>
    cases before with
    | nil => cases hlog; exact .reported
    | cons a before => simp at hlog
  | stalled n _ ih =>
    cases before with
    | nil => cases hlog
    | cons a before => cases hlog; exact ih rfl
  | abandoned e' _ ih =>
    rcases before with _ | ⟨a, _ | ⟨b, _ | ⟨c, before⟩⟩⟩ <;> cases hlog
    · exact .abandoned
    · exact ih rfl
  | absorbed e' _ ih =>
    rcases before with _ | ⟨a, _ | ⟨b, before⟩⟩ <;> cases hlog
    · exact .absorbed
    · exact ih rfl
  | rewritten e' e'' _ ih =>
    rcases before with _ | ⟨a, _ | ⟨b, before⟩⟩
    · cases hlog
      exact .rewritten e''
    · cases hlog
    · exact ih (List.cons.inj (List.cons.inj hlog).2).2

end Accounted

/-! ## Operations -/

def Run.error? (s : Run F ι α ν) : Option (ParseError F) :=
  match s.result with
  | .ok (.failure e) => some e
  | _ => none

def Run.Accounted (s : Run F ι α (ErrorNote F)) : Prop := Parsing.Accounted s.log s.error?

namespace Run.Accounted

variable {s : Run F ι α (ErrorNote F)}

theorem map (f : α → β) (h : s.Accounted) : (s.mapOutcome (.map f)).Accounted := by
  obtain ⟨log, result⟩ := s
  rcases result with e | ⟨v, r⟩ | e <;> exact h

theorem andThen {next : α → ι → Run F ι β (ErrorNote F)} (h : s.Accounted)
    (hn : ∀ v r, (next v r).Accounted) : (s.andThen next).Accounted := by
  obtain ⟨log, result⟩ := s
  rcases result with f | ⟨v, r⟩ | e
  · exact h
  · exact Parsing.Accounted.followed h (hn v r)
  · exact h

theorem recover {next : ParseError F → Run F ι α (ErrorNote F)} (h : s.Accounted)
    (hn : ∀ e, Parsing.Accounted (.note (.raised e) :: (next e).log) (next e).error?) :
    (s.recover next).Accounted := by
  obtain ⟨log, result⟩ := s
  rcases result with f | ⟨v, r⟩ | e
  · exact h
  · exact h
  · exact Parsing.Accounted.followed h (hn e)

theorem absorbed (h : s.Accounted) :
    Parsing.Accounted (s.recover fun e => (Run.failure e).after [.note (.absorbed e)]).log none := by
  obtain ⟨log, result⟩ := s
  rcases result with f | ⟨v, r⟩ | e
  · exact h
  · exact h
  · exact Parsing.Accounted.followed h (.absorbed e .nil)

end Run.Accounted

def Parser.Accounted (p : Parser F ι α (ErrorNote F)) : Prop := ∀ x, (p.run x).Accounted

namespace Parser.Accounted

variable {p q : Parser F ι α (ErrorNote F)}

theorem pure (v : α) : (Parser.pure v : Parser F ι α (ErrorNote F)).Accounted := fun _ => .nil

theorem fault (f : Fault) : (Parser.fault f : Parser F ι α (ErrorNote F)).Accounted := fun _ => .nil

theorem raising_of_quiet {p : (ν : Type) → Parser F ι α ν} (h : Quiet p) :
    (p (ErrorNote F)).raising.Accounted := by
  intro x
  obtain ⟨o, ho⟩ := h x
  simp only [Parser.raising, noteFailure, ho]
  cases o with
  | success v r => exact .nil
  | failure e => exact .raised e

theorem map (f : α → β) (h : p.Accounted) : (p.map f).Accounted := fun x => (h x).map f

theorem bind {next : α → Parser F ι β (ErrorNote F)} (h : p.Accounted) (hn : ∀ v, (next v).Accounted) :
    (p.bind next).Accounted :=
  fun x => (h x).andThen fun v r => hn v r

theorem validate (check : α → Option (ParseError F)) (h : p.Accounted) :
    (p.bind fun v => ((Parser.pure v).validate check).raising).Accounted := by
  refine h.bind fun v => ?_
  exact raising_of_quiet (p := fun ν => (Parser.pure v : Parser F ι α ν).validate check)
    fun x => ⟨_, fun _ => rfl⟩

theorem mapError (f : ParseError F → ParseError F) (h : p.Accounted) :
    ((p.noteFailure .rewritten).mapError f).raising.Accounted := by
  intro x
  have hrun : ((p.noteFailure .rewritten).mapError f).raising.run x = (p.run x).recover fun e =>
      ⟨[.note (.rewritten e), .note (.raised (f e))], .ok (.failure (f e))⟩ := by
    simp only [Parser.raising, Parser.mapError, noteFailure]
    obtain ⟨log, result⟩ := p.run x
    rcases result with e | ⟨v, r⟩ | e
    · rfl
    · rfl
    · simp only [Run.recover, Run.after, Run.failure, Run.mapOutcome, Except.map, Outcome.mapError,
        List.append_assoc, List.append_nil, List.singleton_append]
  rw [hrun]
  exact (h x).recover fun e => .rewritten e (f e) (.raised (f e))

theorem orElse (h : p.Accounted) (hq : q.Accounted) :
    (p.orElse (q.noted fun _ => .retried)).Accounted := by
  intro x
  exact (h x).recover fun e => .abandoned e (hq x)

theorem many [Input ι ε] (h : p.Accounted) : (p.noteFailure .absorbed).many.Accounted := by
  intro x
  refine manyFrom_induction (P := fun _ _ s => s.Accounted) ?_ ?_ ?_ ?_ x 0
  · intro x count v y _ _ ih
    exact (h x).absorbed.followed (ih.map _)
  · intro x count v y _ _
    exact (h x).absorbed.followed (.stalled count .nil)
  · intro x count e _
    exact (h x).absorbed
  · intro x count f _
    exact (h x).absorbed

end Parser.Accounted

/-! ## Grammars -/

section
variable [Input ι ε] [BEq ε] [Describe ε]

theorem Grammar.raising_accounted {rules : (r : ρ) → Parser F ι (τ r) (ErrorNote F)}
    (h : ∀ r, (rules r).Accounted) (g : Grammar F ε τ NoCustom α) : (g.raising rules).Accounted := by
  induction g with
  | pure v => exact .pure v
  | fail e => exact .raising_of_quiet (Parser.quiet_fail e)
  | satisfy accepts expected => exact .raising_of_quiet (Parser.quiet_satisfy accepts expected)
  | elementOr token error => exact .raising_of_quiet (Parser.quiet_elementOr token error)
  | elements tokens => exact .raising_of_quiet (Parser.quiet_elements tokens)
  | elementsOr tokens error => exact .raising_of_quiet (Parser.quiet_elementsOr tokens error)
  | slice tokens expected => exact .raising_of_quiet (Parser.quiet_slice tokens expected)
  | eof => exact .raising_of_quiet Parser.quiet_eof
  | map f _ ih => exact ih.map f
  | bind _ _ ih ihn => exact ih.bind ihn
  | validate check _ ih => exact ih.validate check
  | mapError f _ ih => exact ih.mapError f
  | orElse _ _ ih ihh => exact ih.orElse ihh
  | many _ ih => exact ih.many
  | delay _ ih => exact ih ()
  | rule r => exact h r
  | custom p => cases p

theorem Rules.raisingAt_accounted (R : Rules F ε τ NoCustom) (n : Nat) (r : ρ) :
    (R.raisingAt n r : Parser F ι (τ r) (ErrorNote F)).Accounted := by
  induction n generalizing r with
  | zero => exact .fault .tooDeep
  | succ n ih => exact (R r).raising_accounted ih

/-- **A failure reports the last error.** The notes do not change the run. If it fails, the last of all
events is that its error is raised. Any other error that was raised is dealt with right after: an
alternative is recorded to have failed with it and the next one starts, or it ends a repetition, or
another error is raised in its place. -/
theorem Grammar.fails_with_last_raised (R : Rules F ε τ NoCustom) (g : Grammar F ε τ NoCustom α) (n : Nat)
    (x : ι) :
    let s := (g.parserAt R n).run x
    let noted := (g.raisingAt R n).run x
    noted.retold id ErrorNote.silent = s ∧
      (∀ e, s.result = .ok (.failure e) → ∃ before, noted.log = before ++ [.note (.raised e)]) ∧
      ∀ before e after, noted.log = before ++ .note (.raised e) :: after → Fate e after s.error? := by
  intro s noted
  have hs : noted.retold id ErrorNote.silent = s := (g.raisingAt_retoldBy R n x).symm
  have herror : noted.error? = s.error? := by
    rw [← hs, Run.retold_id]
    rfl
  have hlog : Accounted noted.log s.error? := herror ▸ g.raising_accounted (R.raisingAt_accounted n) x
  refine ⟨hs, fun e he => ?_, fun before e after hsplit => hlog.fate hsplit⟩
  rw [Run.error?, he] at hlog
  exact hlog.ends

end

set_option maxRecDepth 20000 in
/-- What is missing is the closing parenthesis, but the last alternative wanted a digit in the place of the
opening one. -/
theorem Grammar.fails_with_last_raised_nested :
    let g : Grammar .none Char (fun _ : Unit => Char) NoCustom Char := .rule ()
    let x := Text.ofString "(7"
    let e := .mismatch (.unexpected "digit" "'('")
    (g.parserAt nested 2).Fails x e ∧
      (∃ before, ((g.raisingAt nested 2).run x).log = before ++ [.note (.raised e)]) ∧
      ∃ before after, ((g.raisingAt nested 2).run x).log =
          before ++ .note (.raised (.mismatch (.endOfInput "')'"))) :: after ∧
        Fate (.mismatch (.endOfInput "')'")) after (some e) := by
  intro g x e
  obtain ⟨-, hlast, hfate⟩ := g.fails_with_last_raised nested 2 x
  have hfails : (g.parserAt nested 2).Fails x e := rfl
  have hlog : ((g.raisingAt nested 2).run x).log =
      [.note (.raised (.mismatch (.unexpected "'('" "'7'"))), .abandoned (.mismatch (.unexpected "'('" "'7'")),
        .note .retried] ++ .note (.raised (.mismatch (.endOfInput "')'"))) ::
      [.abandoned (.mismatch (.endOfInput "')'")), .note .retried, .note (.raised e)] := rfl
  exact ⟨hfails, hlast e hfails, _, _, hlog, hfate _ _ _ hlog⟩

end Parsing
