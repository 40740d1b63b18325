import Parsing.Proofs.Consumption

/-!
# Progress

A grammar is consuming if its syntax shows that every success takes something off the input. Where
the bodies of all repetitions are consuming, no repetition stalls, and no parse faults.
-/

namespace Parsing

variable {F : ErrorFamily} {ι ε ρ α β γ : Type} {τ : ρ → Type} {π : Type → Type}

namespace Grammar

/-- The grammar is consuming, if the rules in `D` are. -/
inductive Consuming (D : ρ → Prop) : {α : Type} → Grammar F ε τ π α → Prop
  | fail {α : Type} (error : ParseError F) : Consuming D (fail error : Grammar F ε τ π α)
  | satisfy (accepts : ε → Bool) (expected : String) : Consuming D (satisfy accepts expected)
  | elementOr (token : ε) (error : ParseError F) : Consuming D (elementOr token error)
  | elements {tokens : List ε} : tokens ≠ [] → Consuming D (elements tokens)
  | elementsOr {tokens : List ε} (error : ParseError F) : tokens ≠ [] → Consuming D (elementsOr tokens error)
  | slice {tokens : List ε} (expected : String) : tokens ≠ [] → Consuming D (slice tokens expected)
  | map {α β : Type} {g : Grammar F ε τ π α} (f : α → β) : Consuming D g → Consuming D (g.map f)
  | bind_left {α β : Type} {g : Grammar F ε τ π α} (next : α → Grammar F ε τ π β) :
    Consuming D g → Consuming D (g.bind next)
  | bind_right {α β : Type} (g : Grammar F ε τ π α) {next : α → Grammar F ε τ π β} :
    (∀ v, Consuming D (next v)) → Consuming D (g.bind next)
  | validate {α : Type} {g : Grammar F ε τ π α} (check : α → Option (ParseError F)) :
    Consuming D g → Consuming D (g.validate check)
  | mapError {α : Type} {g : Grammar F ε τ π α} (f : ParseError F → ParseError F) :
    Consuming D g → Consuming D (g.mapError f)
  | orElse {α : Type} {g h : Grammar F ε τ π α} : Consuming D g → Consuming D h → Consuming D (g.orElse h)
  | many1 {α : Type} (g : Grammar F ε τ π α) : Consuming D g.many1
  | delay {α : Type} {g : Unit → Grammar F ε τ π α} : Consuming D (g ()) → Consuming D (delay g)
  | rule {r : ρ} : D r → Consuming D (rule r)

/-- The bodies of all repetitions are consuming. -/
def Guarded (D : ρ → Prop) : {α : Type} → Grammar F ε τ π α → Prop
  | _, .map _ g => g.Guarded D
  | _, .bind g next => g.Guarded D ∧ ∀ v, (next v).Guarded D
  | _, .validate _ g => g.Guarded D
  | _, .mapError _ g => g.Guarded D
  | _, .orElse g h => g.Guarded D ∧ h.Guarded D
  | _, .many g => g.Consuming D ∧ g.Guarded D
  | _, .delay g => (g ()).Guarded D
  | _, _ => True

/-! ## The derived operations -/

section
variable {D : ρ → Prop} {g h : Grammar F ε τ π α} {k : Grammar F ε τ π β} {c : Grammar F ε τ π γ}

theorem Consuming.orFail (error : ParseError F) (hg : g.Consuming D) : (g.orFail error).Consuming D :=
  hg.mapError _

theorem Consuming.string {s : String} (hs : s ≠ "") :
    (Grammar.string s : Grammar F Char τ π String).Consuming D := by
  apply Consuming.map
  apply Consuming.slice
  intro h
  exact hs (String.toList_eq_nil_iff.mp h)

theorem Consuming.firstOf {gs : List (Grammar F ε τ π α)} (hgs : ∀ g ∈ gs, g.Consuming D) :
    (firstOf gs).Consuming D :=
  firstOf_induction (fun e => .fail e) (fun _ _ hg hh => hg.orElse hh) hgs

theorem Consuming.pair (hg : g.Consuming D ∨ k.Consuming D) : (g.pair k).Consuming D := by
  rcases hg with hg | hk
  · exact .bind_left _ hg
  · exact .bind_right _ fun _ => .map _ hk

theorem Consuming.seqLeft (hg : g.Consuming D ∨ k.Consuming D) : (g.seqLeft k).Consuming D :=
  .map _ (.pair hg)

theorem Consuming.seqRight (hg : g.Consuming D ∨ k.Consuming D) : (g.seqRight k).Consuming D := by
  rcases hg with hg | hk
  · exact .bind_left _ hg
  · exact .bind_right _ fun _ => hk

theorem Consuming.between (hg : g.Consuming D ∨ k.Consuming D ∨ c.Consuming D) :
    (between g k c).Consuming D := by
  rcases hg with hg | hk | hc
  · exact .seqLeft (.inl (.seqRight (.inl hg)))
  · exact .seqLeft (.inl (.seqRight (.inr hk)))
  · exact .seqLeft (.inr hc)

theorem Consuming.sepBy1 (hg : g.Consuming D) : (g.sepBy1 k).Consuming D := .map _ (.pair (.inl hg))

theorem Guarded.pair (hg : g.Guarded D) (hk : k.Guarded D) : (g.pair k).Guarded D := ⟨hg, fun _ => hk⟩

theorem Guarded.seqRight (hg : g.Guarded D) (hk : k.Guarded D) : (g.seqRight k).Guarded D := ⟨hg, fun _ => hk⟩

theorem Guarded.firstOf {gs : List (Grammar F ε τ π α)} (hgs : ∀ g ∈ gs, g.Guarded D) : (firstOf gs).Guarded D :=
  firstOf_induction (fun _ => trivial) (fun _ _ hg hh => ⟨hg, hh⟩) hgs

theorem Guarded.many1 (hc : g.Consuming D) (hg : g.Guarded D) : g.many1.Guarded D := ⟨hc, hg⟩

theorem Guarded.sepBy1 (hc : k.Consuming D ∨ g.Consuming D) (hg : g.Guarded D) (hk : k.Guarded D) :
    (g.sepBy1 k).Guarded D :=
  .pair hg ⟨.seqRight hc, .seqRight hk hg⟩

end

/-- The judgements on the composed operations, from those on their parts. -/
structure Judged (F : ErrorFamily) (ε : Type) (τ : ρ → Type) (D : ρ → Prop) : Prop where
  string {s : String} : s ≠ "" → (string s : Grammar F Char τ NoCustom String).Consuming D
  orFail {α : Type} (g : Grammar F ε τ NoCustom α) (error : ParseError F) :
    (g.Consuming D → (g.orFail error).Consuming D) ∧ (g.Guarded D → (g.orFail error).Guarded D)
  pair {α β : Type} (g : Grammar F ε τ NoCustom α) (k : Grammar F ε τ NoCustom β) :
    (g.Consuming D ∨ k.Consuming D → (g.pair k).Consuming D) ∧
      (g.Guarded D → k.Guarded D → (g.pair k).Guarded D)
  seqLeft {α β : Type} (g : Grammar F ε τ NoCustom α) (k : Grammar F ε τ NoCustom β) :
    (g.Consuming D ∨ k.Consuming D → (g.seqLeft k).Consuming D) ∧
      (g.Guarded D → k.Guarded D → (g.seqLeft k).Guarded D)
  seqRight {α β : Type} (g : Grammar F ε τ NoCustom α) (k : Grammar F ε τ NoCustom β) :
    (g.Consuming D ∨ k.Consuming D → (g.seqRight k).Consuming D) ∧
      (g.Guarded D → k.Guarded D → (g.seqRight k).Guarded D)
  between {α β γ : Type} (g : Grammar F ε τ NoCustom α) (k : Grammar F ε τ NoCustom β)
    (c : Grammar F ε τ NoCustom γ) :
    (g.Consuming D ∨ k.Consuming D ∨ c.Consuming D → (between g k c).Consuming D) ∧
      (g.Guarded D → k.Guarded D → c.Guarded D → (between g k c).Guarded D)
  firstOf {α : Type} (gs : List (Grammar F ε τ NoCustom α)) :
    ((∀ g ∈ gs, g.Consuming D) → (firstOf gs).Consuming D) ∧
      ((∀ g ∈ gs, g.Guarded D) → (firstOf gs).Guarded D)
  many1 {α : Type} (g : Grammar F ε τ NoCustom α) :
    g.many1.Consuming D ∧ (g.Consuming D → g.Guarded D → g.many1.Guarded D)
  sepBy1 {α β : Type} (g : Grammar F ε τ NoCustom α) (k : Grammar F ε τ NoCustom β) :
    (g.Consuming D → (g.sepBy1 k).Consuming D) ∧
      (k.Consuming D ∨ g.Consuming D → g.Guarded D → k.Guarded D → (g.sepBy1 k).Guarded D)

theorem judged (D : ρ → Prop) : Judged F ε τ D where
  string := .string
  orFail _ error := ⟨.orFail error, id⟩
  pair _ _ := ⟨.pair, .pair⟩
  seqLeft _ _ := ⟨.seqLeft, .pair⟩
  seqRight _ _ := ⟨.seqRight, .seqRight⟩
  between _ _ _ := ⟨.between, fun hg hk hc => .pair (.seqRight hg hk) hc⟩
  firstOf _ := ⟨.firstOf, .firstOf⟩
  many1 g := ⟨.many1 g, .many1⟩
  sepBy1 _ _ := ⟨.sepBy1, .sepBy1⟩

end Grammar

/-! ## Consuming grammars consume -/

def Parser.Consumes [Input ι ε] (p : Parser F ι α) : Prop :=
  ∀ x v r, p.Succeeds x v r → Input.size r < Input.size x

section
variable [Input ι ε]

theorem Parser.size_le_of_succeeds_many {p : Parser F ι α} {x r : ι} {vs : List α}
    (h : p.many.Succeeds x vs r) : Input.size r ≤ Input.size x := by
  induction x using Input.size_induction generalizing vs with
  | h x ih =>
    rcases succeeds_many.mp h with ⟨-, -, rfl⟩ | ⟨v, y, ws, -, hs, hws, -⟩
    · exact Nat.le_refl _
    · have hle := ih y hs hws
      omega

theorem Parser.Consumes.many1 (p : Parser F ι α) : p.many1.Consumes := by
  intro x vs r h
  obtain ⟨hvs, hne⟩ := succeeds_validate.mp h
  rcases succeeds_many.mp hvs with ⟨-, rfl, -⟩ | ⟨v, y, ws, -, hs, hws, -⟩
  · simp at hne
  · have hle := size_le_of_succeeds_many hws
    omega

theorem Parser.Consumes.mapError {p : Parser F ι α} (f : ParseError F → ParseError F) (h : p.Consumes) :
    (p.mapError f).Consumes := by
  intro x v r hv
  exact h x v r (succeeds_mapError.mp hv)

variable [LawfulInput ι]

theorem Input.StartsWith.size_lt [BEq ε] {tokens es : List ε} {x r : ι} (h : StartsWith tokens x es r)
    (ht : tokens ≠ []) : size r < size x := by
  have hle := size_add_length_le es h.1
  have hpos : 0 < tokens.length := List.length_pos_of_ne_nil ht
  rw [h.length_eq] at hle
  omega

theorem Parser.Consumes.satisfy [Describe ε] (accepts : ε → Bool) (expected : String) :
    (Parser.satisfy accepts expected : Parser F ι ε).Consumes := by
  intro x e r h
  have hle := Input.size_add_length_le [e] (succeeds_satisfy.mp h).1
  rw [List.length_singleton] at hle
  omega

theorem Parser.Consumes.elements [BEq ε] [Describe ε] {tokens : List ε} (ht : tokens ≠ []) :
    (Parser.elements tokens : Parser F ι (List ε)).Consumes := by
  intro x ts r h
  obtain ⟨-, es, hes⟩ := succeeds_elements.mp h
  exact hes.size_lt ht

variable [BEq ε] [Describe ε] [CustomParser F ι π]

theorem Grammar.Consuming.consumes {D : ρ → Prop} {rules : (r : ρ) → Parser F ι (τ r)}
    (hs : ∀ {α : Type} (g : Grammar F ε τ π α), (g.toParser rules).LeavesSuffix)
    (hD : ∀ r, D r → (rules r).Consumes) {g : Grammar F ε τ π α} (hg : g.Consuming D) :
    (g.toParser rules).Consumes := by
  induction hg with
  | fail e => exact fun x v r h => absurd h Parser.not_succeeds_fail
  | satisfy accepts expected => exact .satisfy accepts expected
  | elementOr token error =>
    rw [toParser, Parser.elementOr_eq]
    exact .mapError _ (.satisfy _ _)
  | elements ht => exact .elements ht
  | elementsOr error ht =>
    rw [toParser, Parser.elementsOr_eq]
    exact .mapError _ (.elements ht)
  | slice expected ht =>
    intro x es r h
    exact (Parser.succeeds_slice.mp h).size_lt ht
  | map f _ ih =>
    intro x w r h
    obtain ⟨v, hv, -⟩ := Parser.succeeds_map.mp h
    exact ih x v r hv
  | bind_left next _ ih =>
    intro x w r h
    obtain ⟨v, y, hv, hw⟩ := Parser.succeeds_bind.mp h
    have hy := ih x v y hv
    have hr := Input.size_le_of_suffix (hs (next v) y w r hw)
    omega
  | bind_right g _ ih =>
    intro x w r h
    obtain ⟨v, y, hv, hw⟩ := Parser.succeeds_bind.mp h
    have hy := Input.size_le_of_suffix (hs g x v y hv)
    have hr := ih v y w r hw
    omega
  | validate check _ ih => exact fun x v r h => ih x v r (Parser.succeeds_validate.mp h).1
  | mapError f _ ih => exact ih.mapError f
  | orElse _ _ ih ihh =>
    intro x v r h
    rcases Parser.succeeds_orElse.mp h with hv | ⟨-, hv⟩
    · exact ih x v r hv
    · exact ihh x v r hv
  | many1 g => exact .many1 _
  | delay _ ih => exact ih
  | rule hr => exact hD _ hr

end

/-! ## Guarded grammars do not fault -/

/-- `p` faults only where it is cut off. -/
def Parser.FaultFree (p : Parser F ι α) : Prop := ∀ x f, p.Faults x f → f = .tooDeep

section
variable [Input ι ε]

theorem Parser.FaultFree.many {p : Parser F ι α} (h : p.FaultFree) (hc : p.Consumes) :
    p.many.FaultFree := by
  suffices H : ∀ x count f, (p.manyAfter count).Faults x f → f = .tooDeep from fun x f hf => H x 0 f hf
  -- the count of the matches behind grows along the repetition
  intro x
  induction x using Input.size_induction with
  | h x ih =>
    intro count f hf
    rcases faults_manyAfter.mp hf with hf | ⟨v, y, hv, ⟨hs, -⟩ | ⟨hs, hf⟩⟩
    · exact h x f hf
    · have := hc x v y hv; omega
    · exact ih y hs _ f hf

variable [LawfulInput ι] [BEq ε] [Describe ε]

theorem Grammar.Guarded.faultFree {D : ρ → Prop} {rules : (r : ρ) → Parser F ι (τ r)}
    (hs : ∀ r, (rules r).LeavesSuffix) (hD : ∀ r, D r → (rules r).Consumes)
    (hr : ∀ r, (rules r).FaultFree) {g : Grammar F ε τ NoCustom α} (hg : g.Guarded D) :
    (g.toParser rules).FaultFree := by
  induction g with
  | pure v => exact fun x f h => absurd h Parser.not_faults_pure
  | fail e => exact fun x f h => absurd h Parser.not_faults_fail
  | satisfy accepts expected => exact fun x f h => absurd h Parser.not_faults_satisfy
  | elementOr token error =>
    rw [toParser, Parser.elementOr_eq]
    exact fun x f h => absurd (Parser.faults_mapError.mp h) Parser.not_faults_satisfy
  | elements tokens => exact fun x f h => absurd h Parser.not_faults_elements
  | elementsOr tokens error =>
    rw [toParser, Parser.elementsOr_eq]
    exact fun x f h => absurd (Parser.faults_mapError.mp h) Parser.not_faults_elements
  | slice tokens expected => exact fun x f h => absurd h Parser.not_faults_slice
  | eof => exact fun x f h => absurd h Parser.not_faults_eof
  | map g f ih => exact fun x f h => ih hg x f (Parser.faults_map.mp h)
  | bind g next ih ihn =>
    intro x f h
    rcases Parser.faults_bind.mp h with h | ⟨v, y, -, h⟩
    · exact ih hg.1 x f h
    · exact ihn v (hg.2 v) y f h
  | validate check g ih => exact fun x f h => ih hg x f (Parser.faults_validate.mp h)
  | mapError t g ih => exact fun x f h => ih hg x f (Parser.faults_mapError.mp h)
  | orElse g h ih ihh =>
    intro x f hf
    rcases Parser.faults_orElse.mp hf with hf | ⟨-, hf⟩
    · exact ih hg.1 x f hf
    · exact ihh hg.2 x f hf
  | many g ih => exact (ih hg.2).many (hg.1.consumes (leavesSuffix_of_rules hs) hD)
  | delay g ih => exact ih () hg
  | rule r => exact hr r
  | custom p => cases p

section
variable {R : Rules F ε τ NoCustom} {D : ρ → Prop} (hD : ∀ r, D r → (R r).Consuming D)
include hD

theorem Rules.parserAt_consumes (n : Nat) (r : ρ) (hr : D r) :
    (R.parserAt n r : Parser F ι (τ r)).Consumes := by
  induction n generalizing r with
  | zero => exact fun x v y h => absurd h Parser.not_succeeds_fault
  | succ n ih => exact (hD r hr).consumes (Grammar.leavesSuffix_of_rules (R.parserAt_leavesSuffix n)) ih

theorem Rules.parserAt_faultFree (hR : ∀ r, (R r).Guarded D) (n : Nat) (r : ρ) :
    (R.parserAt n r : Parser F ι (τ r)).FaultFree := by
  induction n generalizing r with
  | zero => exact fun x f h => (Parser.faults_fault.mp h).symm
  | succ n ih => exact (hR r).faultFree (R.parserAt_leavesSuffix n) (Rules.parserAt_consumes hD n) ih

/-- **Progress.** Under a table whose declared rules have consuming bodies, the successes of a
consuming grammar leave less than they were given, and a guarded grammar never faults if the rules
are guarded too. The composed operations are consuming, and guarded, by their parts. -/
theorem Grammar.progress :
    (∀ {α : Type} (g : Grammar F ε τ NoCustom α), g.Consuming D → ∀ (x r : ι) (v : α),
      g.Returns R x (.ok (.success v r)) →
        Input.size r < Input.size x ∧ (Input.elements r).length < (Input.elements x).length) ∧
    ((∀ r, (R r).Guarded D) → ∀ {α : Type} (g : Grammar F ε τ NoCustom α), g.Guarded D →
      ∀ (x : ι) (f : Fault), ¬g.Returns R x (.error f)) ∧
    Judged F ε τ D := by
  refine ⟨?_, ?_, judged D⟩
  · intro α g hg x r v h
    obtain ⟨n, hn⟩ := returns_success.mp h
    have hs := g.parserAt_leavesSuffix R n x v r hn
    have hc := hg.consumes (leavesSuffix_of_rules (R.parserAt_leavesSuffix n))
      (Rules.parserAt_consumes hD n) x v r hn
    exact ⟨hc, (Input.size_lt_iff hs).mp hc⟩
  · intro hR α g hg x f h
    obtain ⟨hf, n, hn⟩ := returns_iff.mp h
    have := hg.faultFree (R.parserAt_leavesSuffix n) (Rules.parserAt_consumes hD n)
      (Rules.parserAt_faultFree hD hR n) x f hn
    exact hf (by rw [this])

end

end

theorem progress_of_nested :
    (∀ r, True → ((nested : Rules .none Char (fun _ : Unit => Char) NoCustom) r).Consuming fun _ => True) ∧
      Input.size (Text.ofString "+") < Input.size (Text.ofString "(7)+") ∧
      ¬((Grammar.rule ()).sepBy1 (.char ',') : Grammar .none Char (fun _ : Unit => Char) NoCustom _).Returns
        nested (Text.ofString "7,(8),") (.error (.noProgress 1)) := by
  have hD : ∀ r, True → ((nested : Rules .none Char (fun _ : Unit => Char) NoCustom) r).Consuming
      fun _ => True := fun _ _ =>
    .orElse (.seqLeft (.inl (.seqRight (.inr (.rule trivial))))) (.satisfy _ _)
  have hR : ∀ r, ((nested : Rules .none Char (fun _ : Unit => Char) NoCustom) r).Guarded
      fun _ => True := fun _ => ⟨⟨⟨trivial, fun _ => trivial⟩, fun _ => trivial⟩, trivial⟩
  have h := Grammar.progress (ι := Text) hD
  refine ⟨hD, (h.1 (.rule ()) (.rule trivial) _ _ '7' ?_).1, h.2.1 hR _ ?_ _ _⟩
  · exact Grammar.returns_success.mpr ⟨2, rfl⟩
  · exact .sepBy1 (.inr (.rule trivial)) trivial trivial

end Parsing
