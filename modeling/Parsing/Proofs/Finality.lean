import Parsing.Grammar.Nested
import Parsing.Input.Text
import Parsing.Proofs.Watch

/-!
# Faults are final

A fault that a parser ends in, at any depth of a run, is the fault of the whole run. After it nothing
is reported but that the parsers around it end in it too.
-/

namespace Parsing

variable {F : ErrorFamily} {ι ε ρ α β : Type} {τ : ρ → Type} {π : Type → Type}

def Event.fault? : Event F (Sighting F) → Option Fault
  | .stalled n => some (.noProgress n)
  | .note (.finished fault?) => fault?
  | _ => none

theorem Event.mem_unwatched {log : List (Event F (Sighting F))} {n : Nat}
    (h : .note (.reported (.stalled n)) ∉ log) :
    .stalled n ∈ log.flatMap Event.unwatched ↔ .stalled n ∈ log := by
  refine List.mem_flatMap.trans ⟨?_, fun hn => ⟨_, hn, List.mem_singleton.mpr rfl⟩⟩
  intro ⟨e, he, hn⟩
  match e with
  | .abandoned _ => cases List.mem_singleton.mp hn
  | .stalled _ => cases List.mem_singleton.mp hn; exact he
  | .note (.reported _) => cases List.mem_singleton.mp hn; exact absurd he h
  | .note .started => cases hn
  | .note (.finished _) => cases hn

/-- The events `log` are those of a watched run that ends in `fault?`. Faults for which `G` holds and
reports for which `M` holds may come from parsers that are not watched inside. -/
structure Settled (G : Fault → Prop) (M : Event F → Prop) (log : List (Event F (Sighting F)))
    (fault? : Option Fault) : Prop where
  told : ∀ e ∈ log, ∀ f, e.fault? = some f → fault? = some f
  final : log.Pairwise fun a b => ∀ f, a.fault? = some f → b = .note (.finished (some f))
  origin : ∀ f, fault? = some f → G f ∨ ∃ n, f = .noProgress n ∧ .stalled n ∈ log
  reported : ∀ e, .note (.reported e) ∈ log → M e

namespace Settled

variable {G : Fault → Prop} {M : Event F → Prop} {log log' before after : List (Event F (Sighting F))}
variable {fault? : Option Fault} {e : Event F (Sighting F)} {f : Fault} {n : Nat}

theorem nil (h : ∀ f, fault? = some f → G f) : Settled G M [] fault? where
  told := by simp
  final := .nil
  origin := fun f hf => .inl (h f hf)
  reported := by simp

theorem started : Settled G M [.note .started] none where
  told := by simp [Event.fault?]
  final := List.pairwise_singleton _ _
  origin := by simp
  reported := by simp

theorem abandoned (e : ParseError F) : Settled G M [.abandoned e] none where
  told := by simp [Event.fault?]
  final := List.pairwise_singleton _ _
  origin := by simp
  reported := by simp

theorem stalled (n : Nat) : Settled G M [.stalled n] (some (.noProgress n)) where
  told := by simp [Event.fault?]
  final := List.pairwise_singleton _ _
  origin := by simp
  reported := by simp

theorem reports {remarks : List (Event F)} (hm : ∀ e ∈ remarks, M e) (h : ∀ f, fault? = some f → G f) :
    Settled G M (remarks.map fun e => .note (.reported e)) fault? where
  told := by simp [Event.fault?]
  final := List.pairwise_map.mpr (List.pairwise_of_forall (by simp [Event.fault?]))
  origin := fun f hf => .inl (h f hf)
  reported := by simpa using hm

theorem append (h : Settled G M log none) (h' : Settled G M log' fault?) :
    Settled G M (log ++ log') fault? where
  told := by
    intro e he f hf
    rcases List.mem_append.mp he with he | he
    · cases h.told e he f hf
    · exact h'.told e he f hf
  final := by
    refine List.pairwise_append.mpr ⟨h.final, h'.final, ?_⟩
    -- the first run has no fault, so nothing in its log tells of one
    intro a ha b _ f hf
    cases h.told a ha f hf
  origin := by
    intro f hf
    apply (h'.origin f hf).imp_right
    intro ⟨n, hn, hm⟩
    exact ⟨n, hn, List.mem_append_right _ hm⟩
  reported := by
    intro e he
    exact (List.mem_append.mp he).elim (h.reported e) (h'.reported e)

theorem finished (h : Settled G M log fault?) : Settled G M (log ++ [.note (.finished fault?)]) fault? where
  told := by
    intro e he f hf
    rcases List.mem_append.mp he with he | he
    · exact h.told e he f hf
    · rw [List.mem_singleton.mp he] at hf
      exact hf
  final := by
    refine List.pairwise_append.mpr ⟨h.final, List.pairwise_singleton _ _, ?_⟩
    intro a ha b hb f hf
    rw [List.mem_singleton.mp hb, h.told a ha f hf]
  origin := by
    intro f hf
    apply (h.origin f hf).imp_right
    intro ⟨n, hn, hm⟩
    exact ⟨n, hn, List.mem_append_left _ hm⟩
  reported := by
    intro e he
    rcases List.mem_append.mp he with he | he
    · exact h.reported e he
    · cases List.mem_singleton.mp he

theorem eq_finished_after (h : Settled G M (before ++ e :: after) fault?) (he : e.fault? = some f)
    {a : Event F (Sighting F)} (ha : a ∈ after) : a = .note (.finished (some f)) := by
  obtain ⟨_, hright, _⟩ := List.pairwise_append.mp h.final
  exact (List.pairwise_cons.mp hright).1 a ha f he

theorem noProgress_iff (h : Settled G M log fault?) (hG : ¬G (.noProgress n)) :
    fault? = some (.noProgress n) ↔ .stalled n ∈ log := by
  refine ⟨fun hn => ?_, fun hn => h.told _ hn _ rfl⟩
  obtain hg | ⟨m, hm, hlog⟩ := h.origin _ hn
  · exact absurd hg hG
  · cases hm
    exact hlog

theorem not_stalled_before (h : Settled G M (before ++ .stalled n :: after) fault?) (j : Nat) :
    .stalled j ∉ before := by
  intro hj
  obtain ⟨_, _, hcross⟩ := List.pairwise_append.mp h.final
  cases hcross _ hj _ List.mem_cons_self _ rfl

theorem unwatched_split (h : Settled G M (before ++ .stalled n :: after) fault?) :
    (before ++ .stalled n :: after).flatMap Event.unwatched =
      before.flatMap Event.unwatched ++ [.stalled n] := by
  have hafter : after.flatMap Event.unwatched = [] := by
    refine List.flatMap_eq_nil_iff.mpr fun a ha => ?_
    rw [h.eq_finished_after rfl ha]
    rfl
  rw [List.flatMap_append, List.flatMap_cons, hafter]
  rfl

end Settled

/-! ## Operations -/

def Run.Settled (G : Fault → Prop) (M : Event F → Prop) (s : Run F ι α (Sighting F)) : Prop :=
  Parsing.Settled G M s.log s.fault?

namespace Run.Settled

variable {G : Fault → Prop} {M : Event F → Prop} {s : Run F ι α (Sighting F)}

theorem of_ok {o : Outcome F ι α} (h : s.Settled G M) (hs : s.result = .ok o) :
    Parsing.Settled G M s.log none := by
  unfold Run.Settled Run.fault? at h
  rw [hs] at h
  exact h

theorem of_error {f : Fault} (h : s.Settled G M) (hs : s.result = .error f) :
    Parsing.Settled G M s.log (some f) := by
  unfold Run.Settled Run.fault? at h
  rw [hs] at h
  exact h

theorem mapOutcome (f : Outcome F ι α → Outcome F ι β) (h : s.Settled G M) :
    (s.mapOutcome f).Settled G M := by
  obtain ⟨log, result⟩ := s
  cases result <;> exact h

theorem andThen {next : α → ι → Run F ι β (Sighting F)} (h : s.Settled G M)
    (hn : ∀ v r, (next v r).Settled G M) : (s.andThen next).Settled G M := by
  obtain ⟨log, result⟩ := s
  rcases result with f | ⟨v, r⟩ | e
  · exact h
  · exact Parsing.Settled.append h (hn v r)
  · exact h

theorem recover {next : ParseError F → Run F ι α (Sighting F)} (h : s.Settled G M)
    (hn : ∀ e, (next e).Settled G M) : (s.recover next).Settled G M := by
  obtain ⟨log, result⟩ := s
  rcases result with f | ⟨v, r⟩ | e
  · exact h
  · exact h
  · exact Parsing.Settled.append h (hn e)

end Run.Settled

def Parser.Settled (G : Fault → Prop) (M : Event F → Prop) (p : Parser F ι α (Sighting F)) : Prop :=
  ∀ x, (p.run x).Settled G M

namespace Parser.Settled

variable {G : Fault → Prop} {M : Event F → Prop} {p q : Parser F ι α (Sighting F)}

theorem fault {f : Fault} (hf : G f) : (fault f : Parser F ι α (Sighting F)).Settled G M := by
  intro x
  refine Parsing.Settled.nil ?_
  intro f' hf'
  cases hf'
  exact hf

theorem watched (h : p.Settled G M) : p.watched.Settled G M := by
  intro x
  exact Parsing.Settled.started.append (h x).finished

theorem watched_of_quiet {p : (ν : Type) → Parser F ι α ν} (h : Quiet p) :
    (p (Sighting F)).watched.Settled G M := by
  apply watched
  intro x
  obtain ⟨o, ho⟩ := h x
  rw [ho]
  apply Parsing.Settled.nil
  intro f hf
  cases hf

theorem map (f : α → β) (h : p.Settled G M) : (p.map f).Settled G M := fun x => (h x).mapOutcome _

theorem bind {next : α → Parser F ι β (Sighting F)} (h : p.Settled G M) (hn : ∀ v, (next v).Settled G M) :
    (p.bind next).Settled G M :=
  fun x => (h x).andThen fun v r => hn v r

theorem validate (check : α → Option (ParseError F)) (h : p.Settled G M) : (p.validate check).Settled G M :=
  fun x => (h x).mapOutcome _

theorem mapError (f : ParseError F → ParseError F) (h : p.Settled G M) : (p.mapError f).Settled G M :=
  fun x => (h x).mapOutcome _

theorem orElse (h : p.Settled G M) (hq : q.Settled G M) : (p.orElse q).Settled G M := by
  intro x
  refine (h x).recover fun e => ?_
  exact (Parsing.Settled.abandoned e).append (hq x)

theorem manyFrom [Input ι ε] (h : p.Settled G M) (x : ι) (count : Nat) :
    (p.manyFrom count x).Settled G M := by
  refine manyFrom_induction (P := fun _ _ s => s.Settled G M) ?_ ?_ ?_ ?_ x count
  · intro x count v y hv _ ih
    exact ((h x).of_ok hv).append (ih.mapOutcome _)
  · intro x count v y hv _
    exact ((h x).of_ok hv).append (.stalled count)
  · intro x count e he
    exact (h x).of_ok he
  · intro x count f hf
    exact (h x).of_error hf

theorem many [Input ι ε] (h : p.Settled G M) : p.many.Settled G M := fun x => h.manyFrom x 0

theorem reported {p : Parser F ι α} (hf : ∀ x f, p.Faults x f → G f) (hm : ∀ x, ∀ e ∈ (p.run x).log, M e) :
    p.reported.Settled G M := by
  intro x
  apply Parsing.Settled.reports (hm x)
  intro f h
  apply hf x
  unfold Run.fault? Parser.reported at h
  unfold Faults
  cases hr : (p.run x).result with
  | ok o => simp [hr] at h
  | error f' =>
    simp only [hr, Option.some.injEq] at h
    rw [h]

end Parser.Settled

/-! ## Grammars -/

section
variable [Input ι ε] [BEq ε] [Describe ε] [CustomParser F ι π]

section
variable {G : Fault → Prop} {M : Event F → Prop}
variable (hG : ∀ {β : Type} (p : π β) (y : ι) f, (CustomParser.toParser p : Parser F ι β).Faults y f → G f)
variable (hM : ∀ {β : Type} (p : π β) (y : ι), ∀ e ∈ ((CustomParser.toParser p : Parser F ι β).run y).log, M e)
include hG hM

theorem Grammar.watched_settled {rules : (r : ρ) → Parser F ι (τ r) (Sighting F)}
    (h : ∀ r, (rules r).Settled G M) (g : Grammar F ε τ π α) : (g.watched rules).Settled G M := by
  induction g with
  | pure v => exact .watched_of_quiet (Parser.quiet_pure v)
  | fail e => exact .watched_of_quiet (Parser.quiet_fail e)
  | satisfy accepts expected => exact .watched_of_quiet (Parser.quiet_satisfy accepts expected)
  | elementOr token error => exact .watched_of_quiet (Parser.quiet_elementOr token error)
  | elements tokens => exact .watched_of_quiet (Parser.quiet_elements tokens)
  | elementsOr tokens error => exact .watched_of_quiet (Parser.quiet_elementsOr tokens error)
  | slice tokens expected => exact .watched_of_quiet (Parser.quiet_slice tokens expected)
  | eof => exact .watched_of_quiet Parser.quiet_eof
  | map f _ ih => exact (ih.map f).watched
  | bind _ _ ih ihn => exact (ih.bind ihn).watched
  | validate check _ ih => exact (ih.validate check).watched
  | mapError f _ ih => exact (ih.mapError f).watched
  | orElse _ _ ihg ihh => exact (ihg.orElse ihh).watched
  | many _ ih => exact ih.many.watched
  | delay _ ih => exact (ih ()).watched
  | rule r => exact (h r).watched
  | custom p => exact (Parser.Settled.reported (hG p) (hM p)).watched

theorem Rules.watchedAt_settled (hdeep : G .tooDeep) (R : Rules F ε τ π) :
    ∀ (n : Nat) (r : ρ), (R.watchedAt n r : Parser F ι (τ r) (Sighting F)).Settled G M := by
  intro n
  induction n with
  | zero => exact fun _ => .fault hdeep
  | succ n ih => exact fun r => (R r).watched_settled hG hM ih

theorem Grammar.watchedAt_settled (hdeep : G .tooDeep) (R : Rules F ε τ π) (n : Nat)
    (g : Grammar F ε τ π α) : (g.watchedAt R n : Parser F ι α (Sighting F)).Settled G M :=
  g.watched_settled hG hM (R.watchedAt_settled hG hM hdeep n)

end

theorem Grammar.watchedAt_ends (R : Rules F ε τ π) (n : Nat) (g : Grammar F ε τ π α) (x : ι) :
    ∃ before, ((g.watchedAt R n).run x).log =
      before ++ [.note (.finished ((g.watchedAt R n).run x).fault?)] := by
  cases g <;> exact ⟨_, rfl⟩

/-- **Faults are final.** Once a parser ends in a fault, at any depth, the run ends in that fault, and
all that is still reported is that parsers end in it. Where the user's parsers do not fault, a repetition
that stalls is told of once, as the last event, by the runs that end in its fault alone. The plain log
says the same once the user's parsers write no such event into their own logs either: there their events
cannot be told from those of the repetitions. -/
theorem Grammar.fault_is_final (R : Rules F ε τ π) (n : Nat) (g : Grammar F ε τ π α) (x : ι) :
    let s := (g.parserAt R n).run x
    let w := (g.watchedAt R n).run x
    w.unwatched = s ∧
      (∃ before, w.log = before ++ [.note (.finished s.fault?)]) ∧
      (∀ before f after, w.log = before ++ .note (.finished (some f)) :: after →
        s.result = .error f ∧ ∀ e ∈ after, e = .note (.finished (some f))) ∧
      ((∀ {β : Type} (p : π β) (y : ι) f, ¬(CustomParser.toParser p : Parser F ι β).Faults y f) →
        (∀ k, s.result = .error (.noProgress k) ↔ .stalled k ∈ w.log) ∧
        (∀ before k after, w.log = before ++ .stalled k :: after →
          (∀ j, .stalled j ∉ before) ∧ ∀ e ∈ after, e = .note (.finished (some (.noProgress k)))) ∧
        ((∀ {β : Type} (p : π β) (y : ι) k,
            .stalled k ∉ ((CustomParser.toParser p : Parser F ι β).run y).log) →
          (∀ k, s.result = .error (.noProgress k) ↔ .stalled k ∈ s.log) ∧
          (∀ k, .stalled k ∈ s.log → ∃ before, s.log = before ++ [.stalled k] ∧ ∀ j, .stalled j ∉ before) ∧
          ∀ o, s.result = .ok o → ∀ k, .stalled k ∉ s.log)) := by
  intro s w
  have hws : w.unwatched = s := congrArg (fun p : Parser F ι α => p.run x) (g.unwatched_watchedAt R n)
  have hfault : ∀ {f}, w.fault? = some f ↔ s.result = .error f := by
    intro f
    rw [← hws]
    unfold Run.fault? Run.unwatched
    cases w.result <;> simp
  refine ⟨hws, hws ▸ g.watchedAt_ends R n x, ?_, fun hG => ?_⟩
  · intro before f after hlog
    have h : w.Settled (fun _ => True) fun _ => True :=
      g.watchedAt_settled (fun _ _ _ _ => trivial) (fun _ _ _ _ => trivial) trivial R n x
    rw [Run.Settled, hlog] at h
    have hf := h.told (.note (.finished (some f))) (by simp) f rfl
    exact ⟨hfault.mp hf, fun e he => h.eq_finished_after rfl he⟩
  -- the limit on the depth is the only fault from outside
  have hsettled : ∀ M : Event F → Prop, (∀ {β : Type} (p : π β) (y : ι),
      ∀ e ∈ ((CustomParser.toParser p : Parser F ι β).run y).log, M e) → w.Settled (· = .tooDeep) M :=
    fun M hM => g.watchedAt_settled (G := (· = .tooDeep)) (fun p y f hf => absurd hf (hG p y f)) hM rfl R n x
  have h := hsettled (fun _ => True) fun _ _ _ _ => trivial
  have hiff : ∀ k, s.result = .error (.noProgress k) ↔ .stalled k ∈ w.log := by
    intro k
    rw [← hfault]
    exact h.noProgress_iff (by simp)
  refine ⟨hiff, ?_, fun hM => ?_⟩
  · intro before k after hlog
    rw [Run.Settled, hlog] at h
    exact ⟨h.not_stalled_before, fun e he => h.eq_finished_after rfl he⟩
  have hreported : ∀ k, .note (.reported (.stalled k)) ∉ w.log :=
    fun k hk => (hsettled (fun e => e ≠ .stalled k) fun p y e he hk => hM p y k (hk ▸ he)).reported _ hk rfl
  have hplain : ∀ k, .stalled k ∈ s.log ↔ .stalled k ∈ w.log := by
    intro k
    rw [← hws]
    exact Event.mem_unwatched (hreported k)
  refine ⟨fun k => (hiff k).trans (hplain k).symm, ?_, ?_⟩
  · intro k hk
    obtain ⟨before, after, hlog⟩ := List.append_of_mem ((hplain k).mp hk)
    rw [Run.Settled, hlog] at h
    refine ⟨before.flatMap Event.unwatched, ?_, fun j hj => ?_⟩
    · rw [← hws, ← h.unwatched_split, ← hlog]
      rfl
    · have hj' : .note (.reported (.stalled j)) ∉ before := by
        intro hb
        exact hreported j (hlog ▸ List.mem_append_left _ hb)
      exact h.not_stalled_before j ((Event.mem_unwatched hj').mp hj)
  · intro o ho k hk
    have := (hiff k).mpr ((hplain k).mp hk)
    rw [ho] at this
    cases this

end

def Grammar.stalling : Grammar F Char τ π (List (List Char)) := digit.many.many.orElse (.pure [])

theorem Grammar.stalling_faults [CustomParser F Text π] (R : Rules F Char τ π) (n : Nat) :
    (stalling.parserAt R n).Faults (Text.ofString "7") (.noProgress 1) := by
  have hdigit : (Parser.digit : Parser F Text Char).Succeeds (.ofString "7") '7' (.ofString "") := rfl
  have hnone : (Parser.digit : Parser F Text Char).many.Succeeds (.ofString "") [] (.ofString "") :=
    Parser.succeeds_many.mpr (.inl ⟨⟨_, rfl⟩, rfl, rfl⟩)
  have hone : (Parser.digit : Parser F Text Char).many.Succeeds (.ofString "7") ['7'] (.ofString "") :=
    Parser.succeeds_many.mpr (.inr ⟨_, _, _, hdigit, by decide, hnone, rfl⟩)
  have hstall : ((Parser.digit : Parser F Text Char).many.manyAfter 1).Faults (.ofString "") (.noProgress 1) :=
    Parser.faults_manyAfter.mpr (.inr ⟨_, _, hnone, .inl ⟨Nat.le_refl _, rfl⟩⟩)
  have hmany : (Parser.digit : Parser F Text Char).many.many.Faults (.ofString "7") (.noProgress 1) :=
    Parser.faults_manyAfter.mpr (.inr ⟨_, _, hone, .inr ⟨by decide, hstall⟩⟩)
  exact Parser.faults_orElse.mpr (.inl hmany)

theorem Grammar.fault_is_final_of_stalling :
    ((stalling.parserAt (nested : Rules .none Char _ NoCustom) 0).run (Text.ofString "7")).result =
        .error (.noProgress 1) ∧
      ∃ before, ((stalling.parserAt (nested : Rules .none Char _ NoCustom) 0).run (Text.ofString "7")).log =
        before ++ [.stalled 1] ∧ ∀ j, .stalled j ∉ before := by
  obtain ⟨_, ⟨before, hend⟩, hfinal, huser⟩ :=
    stalling.fault_is_final (nested : Rules .none Char _ NoCustom) 0 (Text.ofString "7")
  have hs := stalling_faults (nested : Rules .none Char _ NoCustom) 0
  have hfault : ((stalling.parserAt (nested : Rules .none Char _ NoCustom) 0).run (Text.ofString "7")).fault? =
      some (.noProgress 1) := by
    unfold Run.fault?
    rw [hs]
  rw [hfault] at hend
  obtain ⟨hresult, _⟩ := hfinal before _ [] hend
  obtain ⟨_, _, hplain⟩ := huser (by intro β p; cases p)
  obtain ⟨hiff, hlast, _⟩ := hplain (by intro β p; cases p)
  exact ⟨hresult, hlast 1 ((hiff 1).mp hresult)⟩

end Parsing
