import Parsing.Input.Text
import Parsing.Parser.Text
import Parsing.Proofs.Result

/-!
# Repetition, match by match

A repetition goes through a chain of matches, each of which takes something off its input, and ends where
its parser fails, faults, or matches without taking anything. This holds of every parser, whatever it leaves
of its input, since the sizes shrink along the chain.
-/

namespace Parsing

open Input (size)

variable {F : ErrorFamily} {ι ε α β ν : Type} [Input ι ε]

/-! ## Chains of matches -/

/-- From `x` on, one match follows the other, on the inputs `xs` and with the values `vs`, and `z` is left.
Each takes something off its input. A match on `x` with the value `v` that leaves `y` is `next x v y`. -/
inductive Matches (next : ι → α → ι → Prop) : ι → List α → List ι → ι → Prop
  | nil {x : ι} : Matches next x [] [] x
  | cons {x y z : ι} {v : α} {vs : List α} {xs : List ι} : next x v y → size y < size x →
    Matches next y vs xs z → Matches next x (v :: vs) (x :: xs) z

/-- No match goes on from `z`. -/
def Exhausted (next : ι → α → ι → Prop) (z : ι) : Prop := ∀ v y, next z v y → size z ≤ size y

section
variable {next : ι → α → ι → Prop}

theorem Matches.length_add_size_le {x z : ι} {vs : List α} {xs : List ι} (h : Matches next x vs xs z) :
    vs.length + size z ≤ size x := by
  induction h with
  | nil => simp
  | cons _ hs _ ih =>
    rw [List.length_cons]
    omega

theorem Matches.length_le {x z : ι} {vs : List α} {xs : List ι} (h : Matches next x vs xs z) :
    vs.length ≤ size x :=
  Nat.le_trans (Nat.le_add_right _ _) h.length_add_size_le

theorem Matches.length_eq {x z : ι} {vs : List α} {xs : List ι} (h : Matches next x vs xs z) :
    xs.length = vs.length := by
  induction h with
  | nil => rfl
  | cons _ _ _ ih => rw [List.length_cons, List.length_cons, ih]

theorem Matches.length_le_elements [LawfulInput ι]
    (hs : ∀ x v y, next x v y → Input.elements y <:+ Input.elements x) {x z : ι} {vs : List α} {xs : List ι}
    (h : Matches next x vs xs z) : vs.length ≤ (Input.elements x).length := by
  induction h with
  | nil => exact Nat.zero_le _
  | cons hv hlt _ ih =>
    have hl := (Input.size_lt_iff (hs _ _ _ hv)).mp hlt
    rw [List.length_cons]
    omega

theorem Matches.eq_or_size_lt {x z : ι} {vs : List α} {xs : List ι} (h : Matches next x vs xs z) :
    vs = [] ∧ z = x ∨ vs ≠ [] ∧ size z < size x := by
  cases h with
  | nil => exact .inl ⟨rfl, rfl⟩
  | cons _ hs h =>
    have hle := h.length_add_size_le
    exact .inr ⟨List.cons_ne_nil _ _, by omega⟩

theorem Matches.exists_exhausted (next : ι → α → ι → Prop) (x : ι) :
    ∃ vs xs z, Matches next x vs xs z ∧ Exhausted next z := by
  induction x using Input.size_induction with
  | h x ih =>
    by_cases hx : ∃ v y, next x v y ∧ size y < size x
    · obtain ⟨v, y, hv, hs⟩ := hx
      obtain ⟨vs, xs, z, hm, hz⟩ := ih y hs
      exact ⟨v :: vs, x :: xs, z, .cons hv hs hm, hz⟩
    · refine ⟨[], [], x, .nil, fun v y hv => ?_⟩
      apply Nat.le_of_not_lt
      intro hs
      exact hx ⟨v, y, hv, hs⟩

theorem Matches.unique (hnext : ∀ x v y v' y', next x v y → next x v' y' → v = v' ∧ y = y') {x z z' : ι}
    {vs vs' : List α} {xs xs' : List ι} (h : Matches next x vs xs z) (hz : Exhausted next z)
    (h' : Matches next x vs' xs' z') (hz' : Exhausted next z') : vs' = vs ∧ xs' = xs ∧ z' = z := by
  induction h generalizing vs' xs' with
  | nil =>
    cases h' with
    | nil => exact ⟨rfl, rfl, rfl⟩
    | cons hv hs _ => exact absurd hs (Nat.not_lt_of_le (hz _ _ hv))
  | cons hv hs _ ih =>
    cases h' with
    | nil => exact absurd hs (Nat.not_lt_of_le (hz' _ _ hv))
    | cons hv' _ hm' =>
      obtain ⟨rfl, rfl⟩ := hnext _ _ _ _ _ hv hv'
      obtain ⟨rfl, rfl, rfl⟩ := ih hz hm'
      exact ⟨rfl, rfl, rfl⟩

end

/-! ## How a repetition ends -/

inductive Ending
  | failed
  | stalled
  | faulted (f : Fault)

def Ending.of : Except Fault (Outcome F ι α) → Ending
  | .ok (.success _ _) => stalled
  | .ok (.failure _) => failed
  | .error f => faulted f

/-- The run of a repetition that ends after `count` matches, with the values `vs` of those that it has gone
through itself and with `z` left, when its parser has reported `log`. -/
def Ending.run (log : List (Event F ν)) (count : Nat) (vs : List α) (z : ι) : Ending → Run F ι (List α) ν
  | failed => ⟨log, .ok (.success vs z)⟩
  | stalled => ⟨log ++ [.stalled count], .error (.noProgress count)⟩
  | faulted f => ⟨log, .error f⟩

def Ending.fault? (count : Nat) : Ending → Option Fault
  | failed => none
  | stalled => some (.noProgress count)
  | faulted f => some f

namespace Parser

/-- What `p` does on `z` ends a repetition of `p`. -/
def EndsAt (p : Parser F ι α ν) (z : ι) : Ending → Prop
  | .failed => ∃ e, p.Fails z e
  | .stalled => ∃ v r, p.Succeeds z v r ∧ size z ≤ size r
  | .faulted f => p.Faults z f

section
variable {p : Parser F ι α ν} {x z : ι} {vs : List α} {xs : List ι} {ending ending' : Ending}

theorem EndsAt.exhausted (h : p.EndsAt z ending) : Exhausted p.Succeeds z := by
  intro v y hv
  cases ending with
  | failed =>
    obtain ⟨e, he⟩ := h
    exact absurd he hv.not_fails
  | stalled =>
    obtain ⟨w, r, hw, hs⟩ := h
    obtain ⟨-, rfl⟩ := hv.unique hw
    exact hs
  | faulted f => exact absurd h hv.not_faults

theorem exists_endsAt (h : Exhausted p.Succeeds z) : ∃ ending, p.EndsAt z ending := by
  rcases p.outcome_cases z with ⟨v, r, hv⟩ | he | ⟨f, hf⟩
  · exact ⟨.stalled, v, r, hv, h v r hv⟩
  · exact ⟨.failed, he⟩
  · exact ⟨.faulted f, hf⟩

theorem EndsAt.eq_of (h : p.EndsAt z ending) : ending = .of (p.run z).result := by
  cases ending with
  | failed =>
    obtain ⟨e, he⟩ := h
    rw [he]
    rfl
  | stalled =>
    obtain ⟨v, r, hv, -⟩ := h
    rw [hv]
    rfl
  | faulted f =>
    rw [h]
    rfl

theorem EndsAt.unique (h : p.EndsAt z ending) (h' : p.EndsAt z ending') : ending' = ending :=
  h'.eq_of.trans h.eq_of.symm

theorem manyFrom_of_endsAt (h : p.EndsAt z ending) (count : Nat) :
    p.manyFrom count z = ending.run (p.run z).log count [] z := by
  cases ending with
  | failed =>
    obtain ⟨e, he⟩ := h
    exact manyFrom_of_fails he
  | stalled =>
    obtain ⟨v, r, hv, hs⟩ := h
    exact manyFrom_of_stalls hv (Nat.not_lt_of_le hs)
  | faulted f => exact manyFrom_of_faults h

theorem manyFrom_of_matches (h : Matches p.Succeeds x vs xs z) (hz : p.EndsAt z ending) (count : Nat) :
    p.manyFrom count x =
      ending.run ((xs ++ [z]).flatMap fun y => (p.run y).log) (count + vs.length) vs z := by
  induction h generalizing count with
  | nil => simpa using manyFrom_of_endsAt hz count
  | @cons x y z v vs xs hv hs _ ih =>
    -- the first match counts for the rest of the chain, and comes before what that finds and reports
    rw [manyFrom_of_succeeds hv hs, ih hz, List.length_cons, List.cons_append, List.flatMap_cons]
    have hcount : count + 1 + vs.length = count + (vs.length + 1) := by omega
    rw [hcount]
    cases ending with
    | failed => rfl
    | stalled => simp only [Ending.run, Run.mapOutcome, Run.after, Except.map, List.append_assoc]
    | faulted f => rfl

theorem many_of_matches (h : Matches p.Succeeds x vs xs z) (hz : p.EndsAt z ending) :
    p.many.run x = ending.run ((xs ++ [z]).flatMap fun y => (p.run y).log) vs.length vs z := by
  have hrun := manyFrom_of_matches h hz 0
  rwa [Nat.zero_add] at hrun

theorem exists_matches (p : Parser F ι α ν) (x : ι) :
    ∃ vs xs z ending, Matches p.Succeeds x vs xs z ∧ p.EndsAt z ending := by
  obtain ⟨vs, xs, z, hm, hz⟩ := Matches.exists_exhausted p.Succeeds x
  obtain ⟨ending, hend⟩ := exists_endsAt hz
  exact ⟨vs, xs, z, ending, hm, hend⟩

theorem succeeds_many_iff_matches : p.many.Succeeds x vs z ↔
    ∃ xs, Matches p.Succeeds x vs xs z ∧ ∃ e, p.Fails z e := by
  constructor
  · intro h
    obtain ⟨vs', xs, z', ending, hm, hend⟩ := exists_matches p x
    rw [Succeeds, many_of_matches hm hend] at h
    cases ending with
    | failed =>
      cases h
      exact ⟨xs, hm, hend⟩
    | stalled => cases h
    | faulted f => cases h
  · rintro ⟨xs, hm, he⟩
    have hend : p.EndsAt z .failed := he
    rw [Succeeds, many_of_matches hm hend]
    rfl

theorem faults_many_iff_of_matches (h : Matches p.Succeeds x vs xs z) (hz : p.EndsAt z ending) {f : Fault} :
    p.many.Faults x f ↔ ending.fault? vs.length = some f := by
  rw [Faults, many_of_matches h hz]
  cases ending <;> simp [Ending.run, Ending.fault?]

theorem exists_succeeds_many (hf : ∀ y f, ¬p.Faults y f) (ht : ∀ y v r, p.Succeeds y v r → size r < size y)
    (x : ι) : ∃ vs r, p.many.Succeeds x vs r := by
  obtain ⟨vs, xs, z, ending, hm, hend⟩ := exists_matches p x
  cases ending with
  | failed => exact ⟨vs, z, succeeds_many_iff_matches.mpr ⟨xs, hm, hend⟩⟩
  | stalled =>
    obtain ⟨v, r, hv, hs⟩ := hend
    exact absurd (ht z v r hv) (Nat.not_lt_of_le hs)
  | faulted f => exact absurd hend (hf z f)

end

/-- **What a repetition does.** Of every parser and every input there is one chain of matches, each of
which takes something, up to an input on which the parser fails, stalls or faults. The repetition comes to
the values with what is left, to the fault that counts the matches, or to the fault of the parser; it never
fails. It reports what the parser reports along the chain, and then, if it stalls, that it does. -/
theorem many_follows_matches (p : Parser F ι α ν) (x : ι) :
    ∃ vs xs z ending,
      Matches p.Succeeds x vs xs z ∧ p.EndsAt z ending ∧
      (∀ vs' xs' z' ending', Matches p.Succeeds x vs' xs' z' → p.EndsAt z' ending' →
        vs' = vs ∧ xs' = xs ∧ z' = z ∧ ending' = ending) ∧
      vs.length ≤ size x ∧
      p.many.run x = ending.run ((xs ++ [z]).flatMap fun y => (p.run y).log) vs.length vs z ∧
      ∀ e, ¬p.many.Fails x e := by
  obtain ⟨vs, xs, z, ending, hm, hend⟩ := exists_matches p x
  refine ⟨vs, xs, z, ending, hm, hend, ?_, hm.length_le, many_of_matches hm hend, fun e => not_fails_many⟩
  intro vs' xs' z' ending' hm' hend'
  obtain ⟨rfl, rfl, rfl⟩ :=
    Matches.unique (fun _ _ _ _ _ h h' => h.unique h') hm hend.exhausted hm' hend'.exhausted
  exact ⟨rfl, rfl, rfl, hend.unique hend'⟩

/-! ## Separated lists -/

/-- After an item that left `y`, a separator and then an item with the value `v`, which leaves `r`. -/
def NextItem (item : Parser F ι α ν) (separator : Parser F ι β ν) (y : ι) (v : α) (r : ι) : Prop :=
  ∃ b z, separator.Succeeds y b z ∧ item.Succeeds z v r

section
variable {item : Parser F ι α ν} {separator : Parser F ι β ν} {x y r : ι} {v : α} {vs : List α}
variable {e : ParseError F} {f : Fault}

theorem succeeds_seqRight : (separator.seqRight item).Succeeds = NextItem item separator := by
  funext y v r
  exact propext succeeds_bind

theorem NextItem.unique {v' : α} {r' : ι} (h : NextItem item separator y v r)
    (h' : NextItem item separator y v' r') : v = v' ∧ r = r' := by
  rw [← succeeds_seqRight] at h h'
  exact h.unique h'

theorem succeeds_sepBy1 : (item.sepBy1 separator).Succeeds x vs r ↔
    ∃ w y ws, item.Succeeds x w y ∧ (separator.seqRight item).many.Succeeds y ws r ∧ w :: ws = vs := by
  simp only [sepBy1, pair, succeeds_map, succeeds_bind]
  constructor
  · rintro ⟨_, ⟨w, y, hw, ws, hws, rfl⟩, rfl⟩
    exact ⟨w, y, ws, hw, hws, rfl⟩
  · rintro ⟨w, y, ws, hw, hws, rfl⟩
    exact ⟨_, ⟨w, y, hw, ws, hws, rfl⟩, rfl⟩

theorem fails_sepBy1 : (item.sepBy1 separator).Fails x e ↔ item.Fails x e := by
  simp [sepBy1, pair, not_fails_many]

theorem faults_sepBy1 : (item.sepBy1 separator).Faults x f ↔
    item.Faults x f ∨ ∃ v y, item.Succeeds x v y ∧ (separator.seqRight item).many.Faults y f := by
  simp [sepBy1, pair]

end

/-- **What a separated list does.** Where the first item fails or faults, so does the list. The first item
may take nothing. After it comes one chain of separators with an item each, and every such pair takes
something off its input. Where the separator or the item after it fails, the list has the items in order
and leaves what comes before that separator. A pair that takes nothing is a fault that does not count the
first item, and a fault of the separator or the item is the fault of the list. -/
theorem sepBy1_follows_matches (item : Parser F ι α ν) (separator : Parser F ι β ν) (x : ι) :
    (∀ e, (item.sepBy1 separator).Fails x e ↔ item.Fails x e) ∧
    (∀ f, item.Faults x f → (item.sepBy1 separator).Faults x f) ∧
    ∀ v₀ y₀, item.Succeeds x v₀ y₀ → ∃ vs ys y,
      Matches (NextItem item separator) y₀ vs ys y ∧ Exhausted (NextItem item separator) y ∧
      (∀ vs' ys' y', Matches (NextItem item separator) y₀ vs' ys' y' →
        Exhausted (NextItem item separator) y' → vs' = vs ∧ ys' = ys ∧ y' = y) ∧
      (((∃ e, separator.Fails y e) ∨ ∃ b z e, separator.Succeeds y b z ∧ item.Fails z e) ∧
          (item.sepBy1 separator).Succeeds x (v₀ :: vs) y ∨
        (∃ b z v r, separator.Succeeds y b z ∧ item.Succeeds z v r ∧ size y ≤ size r) ∧
          (item.sepBy1 separator).Faults x (.noProgress vs.length) ∨
        ∃ f, (separator.Faults y f ∨ ∃ b z, separator.Succeeds y b z ∧ item.Faults z f) ∧
          (item.sepBy1 separator).Faults x f) := by
  refine ⟨fun e => fails_sepBy1, fun f hf => faults_sepBy1.mpr (.inl hf), fun v₀ y₀ hv₀ => ?_⟩
  obtain ⟨vs, ys, y, ending, hm, hend⟩ := exists_matches (separator.seqRight item) y₀
  have hrun := congrArg Run.result (many_of_matches hm hend)
  have hy := hend.exhausted
  rw [succeeds_seqRight] at hm hy
  refine ⟨vs, ys, y, hm, hy, fun vs' ys' y' hm' hy' => ?_, ?_⟩
  · exact Matches.unique (fun _ _ _ _ _ h h' => h.unique h') hm hy hm' hy'
  cases ending with
  | failed =>
    obtain ⟨e, he⟩ := hend
    refine .inl ⟨?_, succeeds_sepBy1.mpr ⟨v₀, y₀, vs, hv₀, hrun, rfl⟩⟩
    rcases fails_bind.mp he with he | ⟨b, z, hb, he⟩
    · exact .inl ⟨e, he⟩
    · exact .inr ⟨b, z, e, hb, he⟩
  | stalled =>
    obtain ⟨v, r, hv, hs⟩ := hend
    obtain ⟨b, z, hb, hv⟩ := succeeds_bind.mp hv
    exact .inr (.inl ⟨⟨b, z, v, r, hb, hv, hs⟩, faults_sepBy1.mpr (.inr ⟨v₀, y₀, hv₀, hrun⟩)⟩)
  | faulted f =>
    exact .inr (.inr ⟨f, faults_bind.mp hend, faults_sepBy1.mpr (.inr ⟨v₀, y₀, hv₀, hrun⟩)⟩)

theorem sepBy1_follows_matches_digits :
    ((digit : Parser .none Text Char).sepBy1 (char ',')).Succeeds (.ofString "1,2,") ['1', '2'] (.ofString ",") := by
  have hnone : ∀ v r, ¬(digit : Parser .none Text Char).Succeeds (.ofString "") v r :=
    fun v r h => h.not_fails (e := .mismatch (.endOfInput "digit")) rfl
  have hcomma : (char ',' : Parser .none Text Char).Succeeds (.ofString ",") ',' (.ofString "") := rfl
  have hpair : ¬∃ v r, NextItem (digit : Parser .none Text Char) (char ',') (.ofString ",") v r := by
    rintro ⟨v, r, b, z, hb, hv⟩
    obtain ⟨-, rfl⟩ := hb.unique hcomma
    exact hnone v r hv
  obtain ⟨-, -, h⟩ := sepBy1_follows_matches (digit : Parser .none Text Char) (char ',') (.ofString "1,2,")
  obtain ⟨vs, ys, y, -, -, hunique, h⟩ := h '1' (.ofString ",2,") rfl
  have hchain : Matches (NextItem (digit : Parser .none Text Char) (char ',')) (.ofString ",2,") ['2']
      [.ofString ",2,"] (.ofString ",") :=
    .cons ⟨',', .ofString "2,", rfl, rfl⟩ (by decide) .nil
  obtain ⟨rfl, -, rfl⟩ := hunique _ _ _ hchain fun v r h => absurd ⟨v, r, h⟩ hpair
  rcases h with ⟨-, h⟩ | ⟨⟨b, z, v, r, hb, hv, -⟩, -⟩ | ⟨f, hf | ⟨b, z, hb, hf⟩, -⟩
  · exact h
  · exact absurd ⟨v, r, b, z, hb, hv⟩ hpair
  · exact absurd hf not_faults_satisfy
  · exact absurd hf not_faults_satisfy

end Parser

end Parsing
