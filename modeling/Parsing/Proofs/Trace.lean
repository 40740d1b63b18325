import Mathlib.Data.Prod.Lex
import Parsing.Grammar.Nested
import Parsing.Grammar.Trace
import Parsing.Proofs.Repetition
import Parsing.Proofs.Termination
import Parsing.Proofs.Translation
import Parsing.Proofs.Watch

/-!
# Traces of a parse

The trace does not change a run. What it tells: a repetition runs its parser at most once more than
there are elements left, and a rule that is entered while another one runs has less of the input before
it, or a smaller rank.
-/

namespace Parsing

variable {F : ErrorFamily} {ι ε ρ α β : Type} {τ : ρ → Type}

/-! ## The trace does not change a run -/

def Step.silent (_ : Step ρ ι) : List (Event F) := []

def Run.untraced (s : Run F ι α (Step ρ ι)) : Run F ι α :=
  ⟨s.log.flatMap (Event.retold Step.silent), s.result⟩

theorem Event.retold_filter_isLap (log : List (Event F (Step ρ ι))) :
    (log.filter (!·.isLap)).flatMap (Event.retold Step.silent) =
      (log.flatMap (Event.retold Step.silent) : List (Event F)) := by
  induction log with
  | nil => rfl
  | cons e log ih =>
    cases h : e.isLap with
    | false => simp only [List.filter_cons, h, Bool.not_false, ite_true, List.flatMap_cons, ih]
    | true =>
      have he : (e.retold Step.silent : List (Event F)) = [] := by
        match e, h with
        | .note .lap, _ => rfl
      simp only [List.filter_cons, h, Bool.not_true, Bool.false_eq_true, ite_false, List.flatMap_cons,
        he, List.nil_append, ih]

namespace Parser.RetoldBy

variable {p : Parser F ι α (Step ρ ι)} {q : Parser F ι α}

theorem counted (h : RetoldBy id Step.silent p q) : RetoldBy id Step.silent p.counted q := by
  intro x
  rw [h x]
  simp only [Parser.counted, Run.counted, Run.retold, List.flatMap_append, Event.retold_filter_isLap]
  simp [Event.retold, Step.silent]

end Parser.RetoldBy

section
variable [Input ι ε] [BEq ε] [Describe ε]

theorem Grammar.traced_retoldBy {rules : (r : ρ) → Parser F ι (τ r) (Step ρ ι)}
    {rules' : (r : ρ) → Parser F ι (τ r)} (hr : ∀ r, (rules r).RetoldBy id Step.silent (rules' r))
    (g : Grammar F ε τ NoCustom α) :
    (g.traced rules).RetoldBy id Step.silent (g.toParser rules') := by
  induction g with
  | pure v => exact .pure v
  | fail e => exact .fail e
  | satisfy accepts expected => exact .satisfy .id accepts expected
  | elementOr token error => exact .elementOr .id token error
  | elements tokens => exact .elements .id tokens
  | elementsOr tokens error => exact .elementsOr .id tokens error
  | slice tokens expected => exact .slice .id tokens expected
  | eof => exact .eof .id
  | map f _ ih => exact ih.map f
  | bind _ _ ih ihn => exact ih.bind ihn
  | validate check _ ih => exact ih.validate check
  | mapError f _ ih => exact ih.mapError f
  | orElse _ _ ih ihh => exact ih.orElse ihh
  | many _ ih => exact ((ih.noted fun _ => rfl).many fun _ _ _ _ => Iff.rfl).counted
  | delay _ ih => exact ih ()
  | rule r => exact (hr r).noted fun _ => rfl
  | custom p => cases p

theorem Rules.tracedAt_retoldBy (R : Rules F ε τ NoCustom) (n : Nat) (r : ρ) :
    (R.tracedAt n r : Parser F ι (τ r) (Step ρ ι)).RetoldBy id Step.silent (R.parserAt n r) := by
  induction n generalizing r with
  | zero => exact .fault .tooDeep
  | succ n ih => exact (R r).traced_retoldBy ih

theorem Grammar.tracedAt_retoldBy (R : Rules F ε τ NoCustom) (g : Grammar F ε τ NoCustom α) (n : Nat) :
    (g.tracedAt R n : Parser F ι α (Step ρ ι)).RetoldBy id Step.silent (g.parserAt R n) :=
  g.traced_retoldBy (R.tracedAt_retoldBy n)

end

/-! ## What the trace tells -/

section
variable [Input ι ε]

/-- What may be noted in a run on `x` if, before anything is taken off, only rules in `P` are entered.
Laps are counted by then. -/
def Event.Below (P : ρ → Prop) (x : ι) : Event F (Step ρ ι) → Prop
  | .note (.entered r y) => Input.elements y <:+ Input.elements x ∧ (Input.size y < Input.size x ∨ P r)
  | .note .lap => False
  | .note (.repeated laps) => laps ≤ (Input.elements x).length + 1
  | _ => True

theorem Event.Below.isLap_eq_false {P : ρ → Prop} {x : ι} {e : Event F (Step ρ ι)} (h : e.Below P x) :
    e.isLap = false := by
  match e, h with
  | .abandoned _, _ => rfl
  | .stalled _, _ => rfl
  | .note (.entered _ _), _ => rfl
  | .note (.repeated _), _ => rfl

theorem Event.Below.mono [LawfulInput ι] {P Q : ρ → Prop} {x y : ι} {e : Event F (Step ρ ι)}
    (h : e.Below Q y) (hs : Input.elements y <:+ Input.elements x)
    (hP : Input.size y < Input.size x ∨ ∀ r, Q r → P r) : e.Below P x := by
  match e, h with
  | .abandoned _, _ => trivial
  | .stalled _, _ => trivial
  | .note (.entered r z), h =>
    have hle := Input.size_le_of_suffix hs
    refine ⟨h.1.trans hs, ?_⟩
    rcases h.2 with hz | hr
    · exact .inl (Nat.lt_of_lt_of_le hz hle)
    · have hz := Input.size_le_of_suffix h.1
      exact hP.imp (fun hy => Nat.lt_of_le_of_lt hz hy) fun hQ => hQ r hr
  | .note (.repeated laps), h =>
    exact Nat.le_trans h (Nat.add_le_add_right hs.length_le 1)

def Parser.Below (P : ρ → Prop) (p : Parser F ι α (Step ρ ι)) : Prop :=
  ∀ x, ∀ e ∈ (p.run x).log, e.Below P x

namespace Parser.Below

variable {P : ρ → Prop} {p q : Parser F ι α (Step ρ ι)}

theorem of_quiet {p : (ν : Type) → Parser F ι α ν} (h : Quiet p) : (p (Step ρ ι)).Below P := by
  intro x e he
  obtain ⟨o, ho⟩ := h x
  rw [ho] at he
  cases he

theorem fault (f : Fault) : (fault f : Parser F ι α (Step ρ ι)).Below P := by
  intro x e he
  cases he

theorem map (f : α → β) (h : p.Below P) : (p.map f).Below P := h

theorem validate (check : α → Option (ParseError F)) (h : p.Below P) : (p.validate check).Below P := h

theorem mapError (f : ParseError F → ParseError F) (h : p.Below P) : (p.mapError f).Below P := h

theorem bind {next : α → Parser F ι β (Step ρ ι)} (h : p.Below P)
    (hn : ∀ x v y, p.Succeeds x v y → ∀ e ∈ ((next v).run y).log, e.Below P x) :
    (p.bind next).Below P := by
  intro x e he
  simp only [Parser.bind, Run.andThen] at he
  cases hr : (p.run x).result with
  | error f =>
    rw [hr] at he
    exact h x e he
  | ok o =>
    cases o with
    | success v y =>
      rw [hr] at he
      exact (List.mem_append.mp he).elim (h x e) (hn x v y hr e)
    | failure e' =>
      rw [hr] at he
      exact h x e he

theorem orElse (h : p.Below P) (hq : q.Below P) : (p.orElse q).Below P := by
  intro x e he
  simp only [Parser.orElse, Run.recover] at he
  cases hr : (p.run x).result with
  | error f =>
    rw [hr] at he
    exact h x e he
  | ok o =>
    cases o with
    | success v y =>
      rw [hr] at he
      exact h x e he
    | failure e' =>
      rw [hr] at he
      rcases List.mem_append.mp he with he | he
      · exact h x e he
      · rcases List.mem_cons.mp he with rfl | he
        · trivial
        · exact hq x e he

theorem noted (r : ρ) (h : p.Below P) (hr : P r) : (p.noted (.entered r)).Below P := by
  intro x e he
  rcases List.mem_cons.mp he with rfl | he
  · exact ⟨List.suffix_refl _, .inr hr⟩
  · exact h x e he

/-! ## Laps -/

theorem countP_isLap (h : p.Below P) (x : ι) : (p.run x).log.countP Event.isLap = 0 := by
  apply List.countP_eq_zero.mpr
  intro e he
  rw [(h x e he).isLap_eq_false]
  exact Bool.false_ne_true

/-- The laps are the runs of `p`: one for each match, and the one that ends the repetition. -/
theorem countP_manyNoted (h : p.Below P) {x z : ι} {vs : List α} {xs : List ι} {ending : Ending}
    (hm : Matches p.Succeeds x vs xs z) (hend : p.EndsAt z ending) :
    (p.manyNoted.run x).log.countP Event.isLap = vs.length + 1 := by
  have hlap : ∀ y, ((p.noted fun _ => .lap).run y).log.countP Event.isLap = 1 := by
    intro y
    have hnone := h.countP_isLap y
    simp only [Parser.noted, Run.after, List.singleton_append, List.countP_cons, hnone]
    rfl
  have hruns : ∀ ys : List ι,
      (ys.flatMap fun y => ((p.noted fun _ => .lap).run y).log).countP Event.isLap = ys.length := by
    intro ys
    induction ys with
    | nil => rfl
    | cons y ys ih => rw [List.flatMap_cons, List.countP_append, hlap, ih, List.length_cons, Nat.add_comm]
  have hall := hruns (xs ++ [z])
  rw [List.length_append, hm.length_eq, List.length_singleton] at hall
  -- a note does not change what `p` comes to
  have hrun := many_of_matches (p := p.noted fun _ => .lap) hm hend
  rw [manyNoted, hrun]
  cases ending with
  | failed => exact hall
  | stalled =>
    simp only [Ending.run, List.countP_append, hall]
    rfl
  | faulted f => exact hall

/-- Every match takes something, so there are no more laps than elements, and one. -/
theorem countP_manyNoted_le [LawfulInput ι] (h : p.Below P)
    (hs : ∀ x v r, p.Succeeds x v r → Input.elements r <:+ Input.elements x) (x : ι) :
    (p.manyNoted.run x).log.countP Event.isLap ≤ (Input.elements x).length + 1 := by
  obtain ⟨vs, xs, z, ending, hm, hend⟩ := exists_matches p x
  rw [h.countP_manyNoted hm hend]
  exact Nat.add_le_add_right (hm.length_le_elements hs) 1

theorem mem_manyNoted [LawfulInput ι] (h : p.Below P)
    (hs : ∀ x v r, p.Succeeds x v r → Input.elements r <:+ Input.elements x) (x : ι) :
    ∀ e ∈ (p.manyNoted.run x).log, e.isLap = false → e.Below P x := by
  have hlap : ∀ x, ∀ e ∈ ((p.noted fun _ => .lap).run x).log, e.isLap = false → e.Below P x := by
    intro x e he hl
    rcases List.mem_cons.mp he with rfl | he
    · cases hl
    · exact h x e he
  refine manyFrom_induction (P := fun x _ s => ∀ e ∈ s.log, e.isLap = false → e.Below P x)
    ?_ ?_ ?_ ?_ x 0
  · intro x count v y hv hlt ih e he hl
    rcases List.mem_append.mp he with he | he
    · exact hlap x e he hl
    · exact (ih e he hl).mono (hs x v y hv) (.inl hlt)
  · intro x count v y _ _ e he hl
    rcases List.mem_append.mp he with he | he
    · exact hlap x e he hl
    · cases List.mem_singleton.mp he
      trivial
  · intro x count e' _
    exact hlap x
  · intro x count f _
    exact hlap x

theorem many [LawfulInput ι] (h : p.Below P)
    (hs : ∀ x v r, p.Succeeds x v r → Input.elements r <:+ Input.elements x) :
    p.manyNoted.counted.Below P := by
  intro x e he
  rcases List.mem_append.mp he with he | he
  · obtain ⟨he, hl⟩ := List.mem_filter.mp he
    exact h.mem_manyNoted hs x e he (by simpa using hl)
  · cases List.mem_singleton.mp he
    exact h.countP_manyNoted_le hs x

end Parser.Below

end

/-! ## Grammars -/

section
variable [Input ι ε] [BEq ε] [Describe ε] {R : Rules F ε τ NoCustom} {n : Nat}

theorem Grammar.tracedAt_succeeds {g : Grammar F ε τ NoCustom α} {x r : ι} {v : α}
    (h : (g.tracedAt R n).Succeeds x v r) : (g.parserAt R n).Succeeds x v r :=
  (g.tracedAt_retoldBy R n).succeeds h

theorem Grammar.result_tracedAt (g : Grammar F ε τ NoCustom α) (x : ι) :
    ((g.tracedAt R n).run x).result = ((g.parserAt R n).run x).result := by
  have h := g.tracedAt_retoldBy R n x
  rw [Run.retold_id] at h
  exact congrArg Run.result h.symm

theorem Grammar.tracedAt_succeeds_eq (g : Grammar F ε τ NoCustom α) :
    (g.tracedAt R n : Parser F ι α (Step ρ ι)).Succeeds = (g.parserAt R n).Succeeds := by
  funext x v r
  rw [Parser.Succeeds, Parser.Succeeds, g.result_tracedAt]

theorem Grammar.tracedAt_endsAt {g : Grammar F ε τ NoCustom α} {z : ι} {ending : Ending}
    (h : (g.parserAt R n).EndsAt z ending) : (g.tracedAt R n : Parser F ι α (Step ρ ι)).EndsAt z ending := by
  cases ending with
  | failed =>
    obtain ⟨e, he⟩ := h
    exact ⟨e, (g.result_tracedAt z).trans he⟩
  | stalled =>
    obtain ⟨v, r, hv, hs⟩ := h
    exact ⟨v, r, (g.result_tracedAt z).trans hv, hs⟩
  | faulted f => exact (g.result_tracedAt z).trans h

theorem Grammar.tracedAt_suffix [LawfulInput ι] {g : Grammar F ε τ NoCustom α} {x r : ι} {v : α}
    (h : (g.tracedAt R n).Succeeds x v r) : Input.elements r <:+ Input.elements x :=
  g.parserAt_leavesSuffix R n x v r (tracedAt_succeeds h)

theorem Grammar.getLast?_tracedAt_many {g : Grammar F ε τ NoCustom α}
    (hg : (g.tracedAt R n : Parser F ι α (Step ρ ι)).Below fun _ => True) {x z : ι} {vs : List α} {xs : List ι}
    {ending : Ending} (hm : Matches (g.parserAt R n).Succeeds x vs xs z) (hend : (g.parserAt R n).EndsAt z ending) :
    ((g.many.tracedAt R n).run x).log.getLast? = some (.note (.repeated (vs.length + 1))) := by
  rw [← g.tracedAt_succeeds_eq] at hm
  rw [← hg.countP_manyNoted hm (tracedAt_endsAt hend)]
  exact List.getLast?_concat

variable [LawfulInput ι] {o : Type} [Preorder o] {rank : ρ → o}

theorem Grammar.HeadsIn.traced_below
    (hn : ∀ r, (R.tracedAt n r : Parser F ι (τ r) (Step ρ ι)).Below (rank · < rank r)) {P : ρ → Prop}
    (hP : ∀ r, P r → ∀ r', rank r' < rank r → P r') {g : Grammar F ε τ NoCustom α} (hg : g.HeadsIn ι R P) :
    (g.tracedAt R n : Parser F ι α (Step ρ ι)).Below P := by
  induction g generalizing P with
  | pure v => exact .of_quiet (Parser.quiet_pure v)
  | fail e => exact .of_quiet (Parser.quiet_fail e)
  | satisfy accepts expected => exact .of_quiet (Parser.quiet_satisfy accepts expected)
  | elementOr token error => exact .of_quiet (Parser.quiet_elementOr token error)
  | elements tokens => exact .of_quiet (Parser.quiet_elements tokens)
  | elementsOr tokens error => exact .of_quiet (Parser.quiet_elementsOr tokens error)
  | slice tokens expected => exact .of_quiet (Parser.quiet_slice tokens expected)
  | eof => exact .of_quiet Parser.quiet_eof
  | map f _ ih => exact (ih hP hg).map f
  | bind g next ih ihn =>
    refine (ih hP hg.1).bind fun x v y hv e he => ?_
    have hs := tracedAt_suffix hv
    rcases hg.2 with hc | hnext
    · -- after a parser that takes something, any rule may be entered
      have hlt := hc x y v (returns_success.mpr ⟨n, tracedAt_succeeds hv⟩)
      exact (ihn v (fun _ _ _ _ => trivial) (.true _) y e he).mono hs (.inl hlt)
    · exact (ihn v hP (hnext v) y e he).mono hs (.inr fun _ hr => hr)
  | validate check _ ih => exact (ih hP hg).validate check
  | mapError f _ ih => exact (ih hP hg).mapError f
  | orElse _ _ ih ihh => exact (ih hP hg.1).orElse (ihh hP hg.2)
  | many g ih => exact (ih hP hg).many fun _ _ _ hv => tracedAt_suffix hv
  | delay _ ih => exact ih () hP hg
  | rule r =>
    refine Parser.Below.noted (p := .delay fun _ => R.tracedAt n r) r (fun x e he => ?_) hg
    exact (hn r x e he).mono (List.suffix_refl _) (.inr (hP r hg))
  | custom p => cases p

theorem Rules.tracedAt_below (hR : ∀ r, (R r).HeadsIn ι R (rank · < rank r)) (n : Nat) (r : ρ) :
    (R.tracedAt n r : Parser F ι (τ r) (Step ρ ι)).Below (rank · < rank r) := by
  induction n generalizing r with
  | zero => exact .fault .tooDeep
  | succ n ih => exact (hR r).traced_below ih fun _ h _ h' => h'.trans h

/-- **Grammars without left recursion terminate.** If every rule has a rank, and reaches rules of smaller
rank only before something is taken, then every parse comes back. The trace of a repetition ends with the
number of times that its parser ran, once for each match and once more, and that is at most once more than
there are elements. Whatever rule is entered while another one runs has fewer elements before it, or as many
and a smaller rank. The composed operations reach first what their parts do, in turn. -/
theorem Grammar.terminates [WellFoundedLT o] (hR : ∀ r, (R r).HeadsIn ι R (rank · < rank r)) :
    (∀ {α : Type} (g : Grammar F ε τ NoCustom α) (x : ι), ∃ s, g.Parses R x s) ∧
      (∀ {α : Type} (g : Grammar F ε τ NoCustom α) (n : Nat) (x : ι),
        ((g.tracedAt R n).run x).untraced = (g.parserAt R n).run x ∧
          ∀ laps, .note (.repeated laps) ∈ ((g.tracedAt R n).run x).log →
            laps ≤ (Input.elements x).length + 1 ∧ laps ≤ Input.size x + 1) ∧
      (∀ {α : Type} (g : Grammar F ε τ NoCustom α) (n : Nat) (x z : ι) (vs : List α) (xs : List ι)
        (ending : Ending), Matches (g.parserAt R n).Succeeds x vs xs z → (g.parserAt R n).EndsAt z ending →
          ((g.many.tracedAt R n).run x).log.getLast? = some (.note (.repeated (vs.length + 1)))) ∧
      (∀ (r : ρ) (n : Nat) (x : ι) (r' : ρ) (y : ι),
        .note (.entered r' y) ∈ (((R r).tracedAt R n).run x).log →
          Prod.Lex (· < ·) (· < ·) ((Input.elements y).length, rank r') ((Input.elements x).length, rank r)) ∧
      ∀ P : ρ → Prop, Headed ι R P := by
  have hbelow : ∀ {α : Type} (g : Grammar F ε τ NoCustom α) (n : Nat),
      (g.tracedAt R n : Parser F ι α (Step ρ ι)).Below fun _ => True :=
    fun g n => (HeadsIn.true g).traced_below (R.tracedAt_below hR n) fun _ _ _ _ => trivial
  refine ⟨fun g x => halts_of_ranked hR x g, fun g n x => ⟨?_, fun laps hl => ?_⟩,
    fun g n x z vs xs ending hm hend => getLast?_tracedAt_many (hbelow g n) hm hend, ?_, headed R⟩
  · exact ((g.tracedAt_retoldBy R n x).trans (Run.retold_id _ _)).symm
  · have hb : laps ≤ (Input.elements x).length + 1 := hbelow g n x _ hl
    have hsize := Input.length_le_size x
    exact ⟨hb, by omega⟩
  · intro r n x r' y he
    obtain ⟨hs, hlt⟩ := (hR r).traced_below (R.tracedAt_below hR n) (fun _ h _ h' => h'.trans h) x _ he
    rw [Prod.lex_def]
    rcases hlt with hlt | hrank
    · exact .inl ((Input.size_lt_iff hs).mp hlt)
    · exact (Nat.lt_or_eq_of_le hs.length_le).imp_right fun hl => ⟨hl, hrank⟩

end

open Grammar (HeadsIn Consuming) in
theorem lists_headsIn (p : Part) : (lists p : Grammar F Char _ NoCustom Nat).HeadsIn Text lists
    (Part.rank · < p.rank) := by
  have hD : ∀ q : Part, False → (lists q : Grammar F Char _ NoCustom Nat).Consuming fun _ => False :=
    fun _ hq => hq.elim
  cases p with
  | list =>
    have hitem : Part.rank .item < Part.rank .list := by decide
    exact HeadsIn.sepBy1 hitem (.inr trivial)
  | item =>
    have hopen : (Grammar.char '(' : Grammar F Char _ NoCustom Char).Shortens Text lists :=
      Consuming.shortens hD (.satisfy _ _)
    refine ⟨HeadsIn.between trivial (.inl hopen) (.inl ?_), trivial⟩
    exact Consuming.shortens hD (.seqRight (.inl (.satisfy _ _)))

theorem terminates_of_lists :
    (∀ p, (lists p : Grammar .none Char _ NoCustom Nat).HeadsIn Text lists (Part.rank · < p.rank)) ∧
      (∃ s, (Grammar.rule .list : Grammar .none Char _ NoCustom Nat).Parses lists (Text.ofString "1,((2,3),4") s) ∧
      ∀ n laps, .note (.repeated laps) ∈ (((Grammar.rule .list : Grammar .none Char _ NoCustom Nat).tracedAt lists n).run
        (Text.ofString "1,((2,3),4")).log → laps ≤ 11 := by
  -- the second list is not closed
  have h := Grammar.terminates (ι := Text) (lists_headsIn (F := .none))
  refine ⟨lists_headsIn, h.1 _ _, fun n laps hl => ?_⟩
  exact ((h.2.1 _ n _).2 laps hl).1

end Parsing
