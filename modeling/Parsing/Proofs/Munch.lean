import Mathlib.Data.List.Chain
import Parsing.Input.Text
import Parsing.Proofs.Choice
import Parsing.Proofs.Derivation
import Parsing.Proofs.OneOrMore
import Parsing.Proofs.Progress

/-!
# Maximal munch

A repetition of a matcher takes the longest run of elements that the matcher accepts. So one or more of what a
predicate accepts, or one or more of what it does not, repeated, cut any input into runs that lie inside and
outside of the predicate by turns, and there is only one way to do so.
-/

namespace Parsing

open Grammar (Stops)

variable {F : ErrorFamily} {ι ε : Type}

/-! ## The longest run -/

/-- `es` is `run`, which is accepted, and then `rest`, which does not begin with an accepted element. -/
structure LongestRun (accepts : ε → Bool) (es run rest : List ε) : Prop where
  split : es = run ++ rest
  accepted : ∀ e ∈ run, accepts e = true
  stops : Stops accepts rest

namespace LongestRun

variable {accepts : ε → Bool} {es run run' rest rest' c : List ε}

theorem isPrefix (h : LongestRun accepts es run rest) (hc : c <+: es) (hacc : ∀ e ∈ c, accepts e = true) :
    c <+: run := by
  have hrun : run <+: es := ⟨rest, h.split.symm⟩
  rcases List.prefix_or_prefix_of_prefix hc hrun with hp | ⟨d, rfl⟩
  · exact hp
  · rw [h.split, List.prefix_append_right_inj] at hc
    cases d with
    | nil => exact ⟨[], by simp⟩
    | cons e d =>
      -- a longer prefix would go on with the element that is not accepted
      obtain ⟨t, rfl⟩ := hc
      have hno : accepts e = false := h.stops e rfl
      rw [hacc e (by simp)] at hno
      cases hno

theorem unique (h : LongestRun accepts es run rest) (h' : LongestRun accepts es run' rest') :
    run' = run ∧ rest' = rest := by
  have hle : run' <+: run := h.isPrefix ⟨rest', h'.split.symm⟩ h'.accepted
  have hge : run <+: run' := h'.isPrefix ⟨rest, h.split.symm⟩ h.accepted
  have hrun : run' = run := hle.eq_of_length (Nat.le_antisymm hle.length_le hge.length_le)
  subst hrun
  have hrest : run' ++ rest' = run' ++ rest := h'.split.symm.trans h.split
  exact ⟨rfl, List.append_cancel_left hrest⟩

theorem ne_nil_iff (h : LongestRun accepts es run rest) : run ≠ [] ↔ ¬Stops accepts es := by
  cases run with
  | nil =>
    rw [h.split]
    simpa using h.stops
  | cons e run =>
    have he := h.accepted e List.mem_cons_self
    rw [h.split]
    simp [Stops, he]

end LongestRun

/-! ## Runs by turns -/

/-- The runs make up `es`. None is empty, each lies inside or outside of `accepts`, and of two runs in a row one
lies inside and one outside. -/
structure ByTurns (accepts : ε → Bool) (es : List ε) (runs : List (List ε)) : Prop where
  flatten : runs.flatten = es
  ne_nil : ∀ run ∈ runs, run ≠ []
  side : ∀ run ∈ runs, ∃ b, ∀ e ∈ run, accepts e = b
  turns : runs.IsChain fun a b => ∀ e ∈ a, ∀ e' ∈ b, accepts e ≠ accepts e'

namespace ByTurns

variable {accepts : ε → Bool} {es run rest : List ε} {runs runs' : List (List ε)} {b : Bool}

theorem nil : ByTurns accepts ([] : List ε) [] := ⟨rfl, by simp, by simp, .nil⟩

theorem cons (hrun : run ≠ []) (h : LongestRun (accepts · == b) es run rest) (hrest : ByTurns accepts rest runs) :
    ByTurns accepts es (run :: runs) where
  flatten := by rw [List.flatten_cons, hrest.flatten, h.split]
  ne_nil := List.forall_mem_cons.mpr ⟨hrun, hrest.ne_nil⟩
  side := List.forall_mem_cons.mpr ⟨⟨b, fun e he => eq_of_beq (h.accepted e he)⟩, hrest.side⟩
  turns := by
    refine List.isChain_cons.mpr ⟨fun next hnext e he e' he' => ?_, hrest.turns⟩
    obtain ⟨tail, rfl⟩ := List.head?_eq_some_iff.mp hnext
    obtain ⟨a, next, rfl⟩ := List.exists_cons_of_ne_nil (hrest.ne_nil _ List.mem_cons_self)
    obtain ⟨b', hb'⟩ := hrest.side _ List.mem_cons_self
    -- the next run begins where this one stops, and stays on that side
    have hstop : (accepts a == b) = false := by
      apply h.stops
      rw [← hrest.flatten]
      rfl
    have he : accepts e = b := eq_of_beq (h.accepted e he)
    rw [he, hb' e' he', ← hb' a List.mem_cons_self]
    exact fun hb => ne_of_beq_false hstop hb.symm

theorem of_cons (h : ByTurns accepts es (run :: runs)) :
    run ≠ [] ∧ (∃ b, LongestRun (accepts · == b) es run runs.flatten) ∧ ByTurns accepts runs.flatten runs := by
  obtain ⟨hrun, hne⟩ := List.forall_mem_cons.mp h.ne_nil
  obtain ⟨⟨b, hb⟩, hside⟩ := List.forall_mem_cons.mp h.side
  obtain ⟨hfirst, hturns⟩ := List.isChain_cons.mp h.turns
  refine ⟨hrun, ⟨b, ?_, fun e he => beq_iff_eq.mpr (hb e he), ?_⟩, rfl, hne, hside, hturns⟩
  · rw [← h.flatten, List.flatten_cons]
  · cases runs with
    | nil => exact fun e he => nomatch he
    | cons next runs =>
      obtain ⟨a, next, rfl⟩ := List.exists_cons_of_ne_nil (hne _ List.mem_cons_self)
      obtain ⟨e, run, rfl⟩ := List.exists_cons_of_ne_nil hrun
      intro e' he'
      cases he'
      have hdiff := hfirst _ rfl e List.mem_cons_self a List.mem_cons_self
      rw [hb e List.mem_cons_self] at hdiff
      exact beq_eq_false_iff_ne.mpr hdiff.symm

theorem unique (h : ByTurns accepts es runs) (h' : ByTurns accepts es runs') : runs' = runs := by
  induction runs generalizing es runs' with
  | nil =>
    cases runs' with
    | nil => rfl
    | cons run' runs' =>
      obtain ⟨hne, ⟨b, hrun'⟩, -⟩ := h'.of_cons
      have hes := hrun'.split
      rw [← h.flatten] at hes
      exact absurd (List.append_eq_nil_iff.mp hes.symm).1 hne
  | cons run runs ih =>
    obtain ⟨hne, ⟨b, hrun⟩, hruns⟩ := h.of_cons
    cases runs' with
    | nil =>
      have hes := hrun.split
      rw [← h'.flatten] at hes
      exact absurd (List.append_eq_nil_iff.mp hes.symm).1 hne
    | cons run' runs' =>
      obtain ⟨hne', ⟨b', hrun'⟩, hruns'⟩ := h'.of_cons
      -- the first element of `es` lies on the side of both runs
      obtain ⟨e, t, rfl⟩ := List.exists_cons_of_ne_nil hne
      obtain ⟨e', t', rfl⟩ := List.exists_cons_of_ne_nil hne'
      obtain ⟨rfl, -⟩ := List.cons.inj (hrun.split.symm.trans hrun'.split)
      have hb : accepts e = b := eq_of_beq (hrun.accepted e List.mem_cons_self)
      have hb' : accepts e = b' := eq_of_beq (hrun'.accepted e List.mem_cons_self)
      obtain rfl : b = b' := hb.symm.trans hb'
      obtain ⟨hrun, hrest⟩ := hrun.unique hrun'
      rw [hrest] at hruns'
      rw [hrun, ih hruns hruns']

end ByTurns

/-! ## The parsers -/

namespace Parser

variable [Input ι ε] [Describe ε]

def oneRun (accepts : ε → Bool) (inside outside : String) : Parser F ι (List ε) :=
  firstOf [(satisfy accepts inside).many1, (satisfy (fun e => !accepts e) outside).many1]

def scanner (accepts : ε → Bool) (inside outside : String) : Parser F ι (List (List ε)) :=
  (oneRun accepts inside outside).many

variable [LawfulInput ι]

section
variable {accepts : ε → Bool} {expected : String} {x y r : ι} {run : List ε} {e : ParseError F} {f : Fault}

theorem exists_succeeds_many_satisfy (accepts : ε → Bool) (expected : String) (x : ι) :
    ∃ run r, (satisfy accepts expected : Parser F ι ε).many.Succeeds x run r :=
  exists_succeeds_many (fun _ _ => not_faults_satisfy) (Consumes.satisfy accepts expected) x

theorem longestRun_of_succeeds (h : (satisfy accepts expected : Parser F ι ε).many.Succeeds x run r) :
    LongestRun accepts (Input.elements x) run (Input.elements r) := by
  induction run generalizing x with
  | nil =>
    obtain ⟨⟨e, he⟩, rfl⟩ := succeeds_many_nil.mp h
    exact ⟨rfl, by simp, (fails_satisfy.mp he).1⟩
  | cons a run ih =>
    obtain ⟨-, hrun, -⟩ | ⟨v, y, ws, hv, -, hws, hrun⟩ := succeeds_many.mp h
    · cases hrun
    · cases hrun
      obtain ⟨hx, ha⟩ := succeeds_satisfy.mp hv
      have hy := ih hws
      refine ⟨?_, List.forall_mem_cons.mpr ⟨ha, hy.accepted⟩, hy.stops⟩
      rw [hx, hy.split, List.cons_append]

theorem succeeds_many_satisfy : (satisfy accepts expected : Parser F ι ε).many.Succeeds x run r ↔
    LongestRun accepts (Input.elements x) run (Input.elements r) := by
  refine ⟨longestRun_of_succeeds, fun h => ?_⟩
  -- there is one longest run, and the repetition comes to it
  obtain ⟨run', r', h'⟩ := exists_succeeds_many_satisfy (F := F) accepts expected x
  obtain ⟨rfl, hr⟩ := h.unique (longestRun_of_succeeds h')
  rwa [← Input.eq_of_elements hr]

theorem succeeds_many1_satisfy : (satisfy accepts expected : Parser F ι ε).many1.Succeeds x run r ↔
    LongestRun accepts (Input.elements x) run (Input.elements r) ∧ run ≠ [] := by
  rw [succeeds_many1, succeeds_many_satisfy]

theorem fails_many1_satisfy : (satisfy accepts expected : Parser F ι ε).many1.Fails x e ↔
    Stops accepts (Input.elements x) ∧ e = .generic "expected at least one match" := by
  rw [fails_many1]
  refine and_congr_left fun _ => ⟨fun ⟨e', he'⟩ => (fails_satisfy.mp he').1, fun h => ?_⟩
  exact ⟨_, fails_satisfy.mpr ⟨h, rfl⟩⟩

theorem not_faults_many1_satisfy : ¬(satisfy accepts expected : Parser F ι ε).many1.Faults x f := by
  rw [faults_many1]
  obtain ⟨run, r, h⟩ := exists_succeeds_many_satisfy (F := F) accepts expected x
  exact h.not_faults

end

section
variable {accepts : ε → Bool} {inside outside : String} {x y r : ι} {run : List ε} {runs : List (List ε)}
variable {e : ParseError F} {f : Fault}

theorem longestRun_of_succeeds_oneRun (h : (oneRun accepts inside outside : Parser F ι _).Succeeds x run r) :
    run ≠ [] ∧ ∃ b, LongestRun (accepts · == b) (Input.elements x) run (Input.elements r) := by
  have hin : accepts = (accepts · == true) := funext fun a => by simp
  have hout : (fun a => !accepts a) = (accepts · == false) := funext fun a => by simp
  rcases succeeds_orElse.mp h with h | ⟨-, h⟩
  · obtain ⟨h, hrun⟩ := succeeds_many1_satisfy.mp h
    rw [hin] at h
    exact ⟨hrun, true, h⟩
  · obtain ⟨h, hrun⟩ := succeeds_many1_satisfy.mp h
    rw [hout] at h
    exact ⟨hrun, false, h⟩

theorem elements_eq_nil_of_fails_oneRun (h : (oneRun accepts inside outside : Parser F ι _).Fails x e) :
    Input.elements x = [] := by
  obtain ⟨⟨e', hin⟩, hout⟩ := fails_orElse.mp h
  have hin := (fails_many1_satisfy.mp hin).1
  have hout := (fails_many1_satisfy.mp hout).1
  cases hx : Input.elements x with
  | nil => rfl
  | cons a es =>
    rw [hx] at hin hout
    -- an element that neither run can begin with would be accepted and refused
    have ha : accepts a = false := hin a rfl
    have ha' : (!accepts a) = false := hout a rfl
    rw [ha] at ha'
    cases ha'

theorem not_faults_oneRun : ¬(oneRun accepts inside outside : Parser F ι _).Faults x f := by
  refine not_faults_firstOf fun p hp => ?_
  rcases List.mem_pair.mp hp with rfl | rfl
  · exact not_faults_many1_satisfy
  · exact not_faults_many1_satisfy

theorem exists_succeeds_scanner (accepts : ε → Bool) (inside outside : String) (x : ι) :
    ∃ runs r, (scanner accepts inside outside : Parser F ι _).Succeeds x runs r := by
  refine exists_succeeds_many (fun y f => not_faults_oneRun) (fun y run r h => ?_) x
  rcases succeeds_orElse.mp h with h | ⟨-, h⟩
  · exact Consumes.many1 _ y run r h
  · exact Consumes.many1 _ y run r h

theorem byTurns_of_succeeds_scanner
    (h : (scanner accepts inside outside : Parser F ι _).Succeeds x runs r) :
    Input.elements r = [] ∧ ByTurns accepts (Input.elements x) runs := by
  induction runs generalizing x with
  | nil =>
    obtain ⟨⟨e, he⟩, rfl⟩ := succeeds_many_nil.mp h
    have hx := elements_eq_nil_of_fails_oneRun he
    rw [hx]
    exact ⟨rfl, .nil⟩
  | cons run runs ih =>
    obtain ⟨-, hruns, -⟩ | ⟨v, y, ws, hv, -, hws, hruns⟩ := succeeds_many.mp h
    · cases hruns
    · cases hruns
      obtain ⟨hr, hy⟩ := ih hws
      obtain ⟨hrun, b, hlongest⟩ := longestRun_of_succeeds_oneRun hv
      exact ⟨hr, .cons hrun hlongest hy⟩

end

/-- **Maximal munch.** A repetition of a matcher always succeeds. It gives a prefix of the input whose elements
are all accepted and leaves what follows it, and every such prefix is a prefix of the one it gives. One or more
accepted elements or one or more others, repeated, always succeed too, and take the whole input. Their values are
runs by turns inside and outside, and no other list of such runs makes up the input. -/
theorem munches_longest_runs (accepts : ε → Bool) (expected inside outside : String) (x : ι) :
    (∃ run r, (satisfy accepts expected : Parser F ι ε).many.Succeeds x run r ∧
      Input.elements x = run ++ Input.elements r ∧ (∀ e ∈ run, accepts e = true) ∧
      ∀ c, c <+: Input.elements x → (∀ e ∈ c, accepts e = true) → c <+: run) ∧
    (∀ f, ¬(scanner accepts inside outside : Parser F ι _).Faults x f) ∧
    ∃ runs r, (scanner accepts inside outside : Parser F ι _).Succeeds x runs r ∧ Input.elements r = [] ∧
      ByTurns accepts (Input.elements x) runs ∧
      ∀ runs', ByTurns accepts (Input.elements x) runs' → runs' = runs := by
  obtain ⟨run, r, hrun⟩ := exists_succeeds_many_satisfy (F := F) accepts expected x
  obtain ⟨runs, r', hruns⟩ := exists_succeeds_scanner (F := F) accepts inside outside x
  have hlongest := succeeds_many_satisfy.mp hrun
  obtain ⟨hr', hturns⟩ := byTurns_of_succeeds_scanner hruns
  refine ⟨⟨run, r, hrun, hlongest.split, hlongest.accepted, fun c hc hacc => hlongest.isPrefix hc hacc⟩, ?_, ?_⟩
  · exact fun f => hruns.not_faults
  · exact ⟨runs, r', hruns, hr', hturns, fun runs' h => hturns.unique h⟩

theorem munches_longest_runs_accent :
    let x := Text.ofString "12é3"
    (satisfy Char.isDigit "digit" : Parser .none Text Char).many.Succeeds x ['1', '2'] (.ofString "é3") ∧
      (∀ c, c <+: x.chars → (∀ e ∈ c, e.isDigit = true) → c <+: ['1', '2']) ∧
      (scanner Char.isDigit "digit" "other" : Parser .none Text _).Succeeds x [['1', '2'], ['é'], ['3']]
        (.ofString "") := by
  intro x
  obtain ⟨⟨run, r, hrun, -, -, hlongest⟩, -, runs, r', hruns, hr', -, hunique⟩ :=
    munches_longest_runs (F := .none) Char.isDigit "digit" "digit" "other" x
  have hdigits : (satisfy Char.isDigit "digit" : Parser .none Text Char).many.Succeeds x ['1', '2']
      (.ofString "é3") :=
    succeeds_many_satisfy.mpr ⟨rfl, by simp, by decide⟩
  have hturns : ByTurns Char.isDigit x.chars [['1', '2'], ['é'], ['3']] :=
    ⟨rfl, by simp, by simp, by simp⟩
  obtain ⟨rfl, rfl⟩ := hdigits.unique hrun
  obtain rfl := hunique _ hturns
  obtain rfl : Text.ofString "" = r' := Input.eq_of_elements hr'.symm
  exact ⟨hdigits, hlongest, hruns⟩

end Parser

end Parsing
