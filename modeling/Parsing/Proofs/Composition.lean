import Parsing.Proofs.Derivation

/-!
# Parsing is derivation

The parse of a grammar comes to what the rules of inference derive for it. The operations that are composed of
others have no rules of their own. What is derived for them is read off the rules for their parts: a sequence
threads the rest through, a choice takes the first alternative that does not fail, and a list is an item and
then a repetition.
-/

namespace Parsing

namespace Grammar

section
variable {F : ErrorFamily} {ι ε ρ : Type} {τ : ρ → Type} [Input ι ε] [BEq ε]

/-! ## The last rule of a derivation -/

section
variable {R : Rules F ε τ NoCustom} {α β γ : Type} {g g' : Grammar F ε τ NoCustom α}
variable {h : Grammar F ε τ NoCustom β} {k : Grammar F ε τ NoCustom γ} {x r : ι} {v : α} {w : β}

theorem not_derives_fail_ok {e : ParseError F} : ¬Derives R (fail e) x (.ok v r) := by
  intro h
  cases h

theorem derives_map_ok {f : α → β} : Derives R (g.map f) x (.ok w r) ↔ ∃ v, Derives R g x (.ok v r) ∧ f v = w := by
  constructor
  · intro h
    cases h with
    | map h => exact ⟨_, h, rfl⟩
  · rintro ⟨v, h, rfl⟩
    exact .map h

theorem derives_map_fail {f : α → β} : Derives R (g.map f) x .fail ↔ Derives R g x .fail := by
  refine ⟨fun h => ?_, .map_fail⟩
  cases h with
  | map_fail h => exact h

theorem derives_bind_ok {next : α → Grammar F ε τ NoCustom β} : Derives R (g.bind next) x (.ok w r) ↔
    ∃ v y, Derives R g x (.ok v y) ∧ Derives R (next v) y (.ok w r) := by
  refine ⟨fun h => ?_, fun ⟨v, y, hg, hn⟩ => .bind hg hn⟩
  cases h with
  | bind hg hn => exact ⟨_, _, hg, hn⟩

theorem derives_bind_fail {next : α → Grammar F ε τ NoCustom β} : Derives R (g.bind next) x .fail ↔
    Derives R g x .fail ∨ ∃ v y, Derives R g x (.ok v y) ∧ Derives R (next v) y .fail := by
  constructor
  · intro h
    cases h with
    | bind hg hn => exact .inr ⟨_, _, hg, hn⟩
    | bind_fail hg => exact .inl hg
  · rintro (hg | ⟨v, y, hg, hn⟩)
    · exact .bind_fail hg
    · exact .bind hg hn

theorem derives_validate_ok {check : α → Option (ParseError F)} :
    Derives R (g.validate check) x (.ok v r) ↔ Derives R g x (.ok v r) ∧ check v = none := by
  refine ⟨fun h => ?_, fun ⟨hg, hv⟩ => .validate hg hv⟩
  cases h with
  | validate hg hv => exact ⟨hg, hv⟩

theorem derives_validate_fail {check : α → Option (ParseError F)} : Derives R (g.validate check) x .fail ↔
    Derives R g x .fail ∨ ∃ v r e, Derives R g x (.ok v r) ∧ check v = some e := by
  constructor
  · intro h
    cases h with
    | validate_fail hg => exact .inl hg
    | validate_reject hg hv => exact .inr ⟨_, _, _, hg, hv⟩
  · rintro (hg | ⟨v, r, e, hg, hv⟩)
    · exact .validate_fail hg
    · exact .validate_reject hg hv

theorem derives_orElse_ok : Derives R (g.orElse g') x (.ok v r) ↔
    Derives R g x (.ok v r) ∨ Derives R g x .fail ∧ Derives R g' x (.ok v r) := by
  constructor
  · intro h
    cases h with
    | orElse_left hg => exact .inl hg
    | orElse_right hg hg' => exact .inr ⟨hg, hg'⟩
  · rintro (hg | ⟨hg, hg'⟩)
    · exact .orElse_left hg
    · exact .orElse_right hg hg'

theorem derives_orElse_fail : Derives R (g.orElse g') x .fail ↔ Derives R g x .fail ∧ Derives R g' x .fail := by
  refine ⟨fun h => ?_, fun ⟨hg, hg'⟩ => .orElse_right hg hg'⟩
  cases h with
  | orElse_right hg hg' => exact ⟨hg, hg'⟩

/-! ## Sequences -/

/-- `g` fails, or `h` does on what `g` leaves. -/
def FailsInTurn (R : Rules F ε τ NoCustom) (g : Grammar F ε τ NoCustom α) (h : Grammar F ε τ NoCustom β)
    (x : ι) : Prop :=
  Derives R g x .fail ∨ ∃ v y, Derives R g x (.ok v y) ∧ Derives R h y .fail

theorem derives_pair_ok {p : α × β} : Derives R (g.pair h) x (.ok p r) ↔
    ∃ y, Derives R g x (.ok p.1 y) ∧ Derives R h y (.ok p.2 r) := by
  simp only [pair, derives_bind_ok, derives_map_ok]
  constructor
  · rintro ⟨v, y, hg, w, hh, rfl⟩
    exact ⟨y, hg, hh⟩
  · rintro ⟨y, hg, hh⟩
    exact ⟨p.1, y, hg, p.2, hh, rfl⟩

theorem derives_pair_fail : Derives R (g.pair h) x .fail ↔ FailsInTurn R g h x := by
  simp only [pair, derives_bind_fail, derives_map_fail, FailsInTurn]

theorem derives_seqLeft_ok : Derives R (g.seqLeft h) x (.ok v r) ↔
    ∃ y w, Derives R g x (.ok v y) ∧ Derives R h y (.ok w r) := by
  simp only [seqLeft, derives_map_ok, derives_pair_ok]
  constructor
  · rintro ⟨⟨v, w⟩, ⟨y, hg, hh⟩, rfl⟩
    exact ⟨y, w, hg, hh⟩
  · rintro ⟨y, w, hg, hh⟩
    exact ⟨(v, w), ⟨y, hg, hh⟩, rfl⟩

theorem derives_seqLeft_fail : Derives R (g.seqLeft h) x .fail ↔ FailsInTurn R g h x := by
  rw [seqLeft, derives_map_fail, derives_pair_fail]

theorem derives_seqRight_ok : Derives R (g.seqRight h) x (.ok w r) ↔
    ∃ v y, Derives R g x (.ok v y) ∧ Derives R h y (.ok w r) :=
  derives_bind_ok

theorem derives_seqRight_fail : Derives R (g.seqRight h) x .fail ↔ FailsInTurn R g h x := derives_bind_fail

theorem derives_between_ok : Derives R (between g h k) x (.ok w r) ↔
    ∃ v y z u, Derives R g x (.ok v y) ∧ Derives R h y (.ok w z) ∧ Derives R k z (.ok u r) := by
  simp only [between, derives_seqLeft_ok, derives_seqRight_ok]
  constructor
  · rintro ⟨z, u, ⟨v, y, hg, hh⟩, hk⟩
    exact ⟨v, y, z, u, hg, hh, hk⟩
  · rintro ⟨v, y, z, u, hg, hh, hk⟩
    exact ⟨z, u, ⟨v, y, hg, hh⟩, hk⟩

theorem derives_between_fail : Derives R (between g h k) x .fail ↔ FailsInTurn R (g.seqRight h) k x :=
  derives_seqLeft_fail

/-! ## Choices -/

/-- `v` and `r` are derived for one of the grammars, and those in front of it fail. -/
def FirstDerives (R : Rules F ε τ NoCustom) (gs : List (Grammar F ε τ NoCustom α)) (x : ι) (v : α) (r : ι) :
    Prop :=
  ∃ before g after, gs = before ++ g :: after ∧ (∀ g' ∈ before, Derives R g' x .fail) ∧ Derives R g x (.ok v r)

variable {gs : List (Grammar F ε τ NoCustom α)}

theorem not_firstDerives_nil : ¬FirstDerives R ([] : List (Grammar F ε τ NoCustom α)) x v r := by
  rintro ⟨before, g, after, hgs, -⟩
  cases before <;> cases hgs

theorem firstDerives_cons : FirstDerives R (g :: gs) x v r ↔
    Derives R g x (.ok v r) ∨ Derives R g x .fail ∧ FirstDerives R gs x v r := by
  constructor
  · rintro ⟨before, g', after, hgs, hbefore, hg'⟩
    cases before with
    | nil =>
      cases hgs
      exact .inl hg'
    | cons g before =>
      cases hgs
      obtain ⟨hg, hbefore⟩ := List.forall_mem_cons.mp hbefore
      exact .inr ⟨hg, before, g', after, rfl, hbefore, hg'⟩
  · rintro (hg | ⟨hg, before, g', after, rfl, hbefore, hg'⟩)
    · exact ⟨[], g, gs, rfl, List.forall_mem_nil _, hg⟩
    · exact ⟨g :: before, g', after, rfl, List.forall_mem_cons.mpr ⟨hg, hbefore⟩, hg'⟩

theorem derives_firstOf_ok : Derives R (firstOf gs) x (.ok v r) ↔ FirstDerives R gs x v r := by
  cases gs with
  | nil => exact iff_of_false not_derives_fail_ok not_firstDerives_nil
  | cons g gs =>
    -- the choice is grouped from the left, so its first two alternatives are taken together
    induction gs generalizing g with
    | nil =>
      refine Iff.trans ?_ firstDerives_cons.symm
      exact (or_iff_left fun hnil => not_firstDerives_nil hnil.2).symm
    | cons g' gs ih =>
      rw [firstOf_cons_cons, ih, firstDerives_cons, firstDerives_cons, firstDerives_cons, derives_orElse_ok,
        derives_orElse_fail]
      simp only [or_assoc, and_assoc, and_or_left]

theorem derives_firstOf_fail : Derives R (firstOf gs) x .fail ↔ ∀ g ∈ gs, Derives R g x .fail := by
  cases gs with
  | nil => exact iff_of_true .fail (List.forall_mem_nil _)
  | cons g gs =>
    induction gs generalizing g with
    | nil => exact (List.forall_mem_singleton (p := fun g => Derives R g x .fail)).symm
    | cons g' gs ih =>
      rw [firstOf_cons_cons, ih, List.forall_mem_cons, List.forall_mem_cons, List.forall_mem_cons,
        derives_orElse_fail, and_assoc]

/-! ## Lists -/

variable {vs : List α}

theorem derives_many1_ok : Derives R g.many1 x (.ok vs r) ↔ vs ≠ [] ∧ Derives R g.many x (.ok vs r) := by
  rw [many1, derives_validate_ok, and_comm]
  refine and_congr_left fun _ => ?_
  cases vs <;> simp

theorem derives_sepBy1_ok : Derives R (g.sepBy1 h) x (.ok vs r) ↔
    ∃ v ws y, v :: ws = vs ∧ Derives R g x (.ok v y) ∧ Derives R (h.seqRight g).many y (.ok ws r) := by
  simp only [sepBy1, derives_map_ok, derives_pair_ok]
  constructor
  · rintro ⟨⟨v, ws⟩, ⟨y, hg, hm⟩, rfl⟩
    exact ⟨v, ws, y, rfl, hg, hm⟩
  · rintro ⟨v, ws, y, rfl, hg, hm⟩
    exact ⟨(v, ws), ⟨y, hg, hm⟩, rfl⟩

variable [Describe ε] [LawfulInput ι]

theorem not_derives_many_fail : ¬Derives R g.many x .fail := by
  intro hm
  obtain ⟨n, e, he⟩ := hm.reaches
  exact Parser.not_fails_many he

theorem derives_many_nil (hm : Derives R g.many x (.ok [] r)) : Derives R g x .fail := by
  rw [derives_iff_reaches]
  obtain ⟨n, hn⟩ := hm.reaches
  rcases Parser.succeeds_many.mp hn with ⟨⟨e, he⟩, -, -⟩ | ⟨v, y, ws, -, -, -, hvs⟩
  · exact ⟨n, e, he⟩
  · cases hvs

theorem derives_many1_fail : Derives R g.many1 x .fail ↔ Derives R g x .fail := by
  refine ⟨fun hm => ?_, Derives.many1_fail⟩
  rcases derives_validate_fail.mp hm with hm | ⟨vs, r, e, hm, he⟩
  · exact absurd hm not_derives_many_fail
  · cases vs with
    | nil => exact derives_many_nil hm
    | cons v vs => cases he

theorem derives_sepBy1_fail : Derives R (g.sepBy1 h) x .fail ↔ Derives R g x .fail := by
  rw [sepBy1, derives_map_fail, derives_pair_fail]
  refine or_iff_left ?_
  rintro ⟨v, y, -, hm⟩
  exact not_derives_many_fail hm

end

/-! ## Matchers -/

section
variable [Describe ε] [LawfulInput ι] {R : Rules F ε τ NoCustom} {x r : ι} {expected : String}

theorem derives_satisfy_ok {accepts : ε → Bool} {e : ε} : Derives R (satisfy accepts expected) x (.ok e r) ↔
    Input.elements x = e :: Input.elements r ∧ accepts e = true := by
  refine ⟨fun h => ?_, fun h => .satisfy h.1 h.2⟩
  obtain ⟨n, hn⟩ := h.reaches
  exact Parser.succeeds_satisfy.mp hn

theorem derives_satisfy_fail {accepts : ε → Bool} : Derives R (satisfy accepts expected) x .fail ↔
    Stops accepts (Input.elements x) := by
  refine ⟨fun h e he => ?_, .satisfy_stop⟩
  obtain ⟨es, hes⟩ := List.head?_eq_some_iff.mp he
  obtain ⟨r, rfl⟩ := Input.exists_elements_eq (c := [e]) hes
  obtain ⟨n, e', he'⟩ := h.reaches
  apply Bool.eq_false_iff.mpr
  intro ha
  exact (Parser.succeeds_satisfy.mpr ⟨hes, ha⟩).not_fails he'

variable {tokens es : List ε}

theorem derives_slice_ok : Derives R (slice tokens expected) x (.ok es r) ↔ Input.StartsWith tokens x es r := by
  refine ⟨fun h => ?_, .slice⟩
  obtain ⟨n, hn⟩ := h.reaches
  exact Parser.succeeds_slice.mp hn

theorem derives_slice_fail : Derives R (slice tokens expected) x .fail ↔
    ∀ es r, ¬Input.StartsWith tokens x es r := by
  refine ⟨fun h es r hes => ?_, .slice_fail⟩
  obtain ⟨n, e, he⟩ := h.reaches
  exact (Parser.succeeds_slice.mpr hes).not_fails he

theorem derives_anyElement_fail : Derives R anyElement x .fail ↔ Input.elements x = [] := by
  rw [anyElement, derives_satisfy_fail]
  cases Input.elements x <;> simp [Stops]

end

/-! ## Parsing is derivation -/

/-- On `x`, what is derived for the composed operations is what is derived for their parts, in turn. -/
structure Composed [Describe ε] (R : Rules F ε τ NoCustom) (x : ι) : Prop where
  anyElement : (∀ e r, Derives R anyElement x (.ok e r) ↔ Input.elements x = e :: Input.elements r) ∧
    (Derives R anyElement x .fail ↔ Input.elements x = [])
  element (token : ε) : (∀ e r, Derives R (element token) x (.ok e r) ↔
      Input.elements x = e :: Input.elements r ∧ (e == token) = true) ∧
    (Derives R (element token) x .fail ↔ Stops (· == token) (Input.elements x))
  pair {α β : Type} (g : Grammar F ε τ NoCustom α) (h : Grammar F ε τ NoCustom β) :
    (∀ p r, Derives R (g.pair h) x (.ok p r) ↔ ∃ y, Derives R g x (.ok p.1 y) ∧ Derives R h y (.ok p.2 r)) ∧
      (Derives R (g.pair h) x .fail ↔ FailsInTurn R g h x)
  seqLeft {α β : Type} (g : Grammar F ε τ NoCustom α) (h : Grammar F ε τ NoCustom β) :
    (∀ v r, Derives R (g.seqLeft h) x (.ok v r) ↔ ∃ y w, Derives R g x (.ok v y) ∧ Derives R h y (.ok w r)) ∧
      (Derives R (g.seqLeft h) x .fail ↔ FailsInTurn R g h x)
  seqRight {α β : Type} (g : Grammar F ε τ NoCustom α) (h : Grammar F ε τ NoCustom β) :
    (∀ w r, Derives R (g.seqRight h) x (.ok w r) ↔ ∃ v y, Derives R g x (.ok v y) ∧ Derives R h y (.ok w r)) ∧
      (Derives R (g.seqRight h) x .fail ↔ FailsInTurn R g h x)
  between {α β γ : Type} (g : Grammar F ε τ NoCustom α) (h : Grammar F ε τ NoCustom β)
    (k : Grammar F ε τ NoCustom γ) :
    (∀ w r, Derives R (between g h k) x (.ok w r) ↔
      ∃ v y z u, Derives R g x (.ok v y) ∧ Derives R h y (.ok w z) ∧ Derives R k z (.ok u r)) ∧
      (Derives R (between g h k) x .fail ↔ FailsInTurn R (g.seqRight h) k x)
  firstOf {α : Type} (gs : List (Grammar F ε τ NoCustom α)) :
    (∀ v r, Derives R (firstOf gs) x (.ok v r) ↔ FirstDerives R gs x v r) ∧
      (Derives R (firstOf gs) x .fail ↔ ∀ g ∈ gs, Derives R g x .fail)
  sepBy1 {α β : Type} (g : Grammar F ε τ NoCustom α) (h : Grammar F ε τ NoCustom β) :
    (∀ vs r, Derives R (g.sepBy1 h) x (.ok vs r) ↔
      ∃ v ws y, v :: ws = vs ∧ Derives R g x (.ok v y) ∧ Derives R (h.seqRight g).many y (.ok ws r)) ∧
      (Derives R (g.sepBy1 h) x .fail ↔ Derives R g x .fail)

theorem composed [Describe ε] [LawfulInput ι] (R : Rules F ε τ NoCustom) (x : ι) : Composed R x where
  anyElement := ⟨fun _ _ => derives_satisfy_ok.trans (and_iff_left rfl), derives_anyElement_fail⟩
  element _ := ⟨fun _ _ => derives_satisfy_ok, derives_satisfy_fail⟩
  pair _ _ := ⟨fun _ _ => derives_pair_ok, derives_pair_fail⟩
  seqLeft _ _ := ⟨fun _ _ => derives_seqLeft_ok, derives_seqLeft_fail⟩
  seqRight _ _ := ⟨fun _ _ => derives_seqRight_ok, derives_seqRight_fail⟩
  between _ _ _ := ⟨fun _ _ => derives_between_ok, derives_between_fail⟩
  firstOf _ := ⟨fun _ _ => derives_firstOf_ok, derives_firstOf_fail⟩
  sepBy1 _ _ := ⟨fun _ _ => derives_sepBy1_ok, derives_sepBy1_fail⟩

end

/-! ## Strings -/

section
variable {F : ErrorFamily} {κ ρ : Type} {τ : ρ → Type} [Input κ Char] [LawfulInput κ]
variable {R : Rules F Char τ NoCustom} {s v : String} {x r : κ}

theorem derives_string_ok :
    Derives R (string s) x (.ok v r) ↔ v = s ∧ Input.elements x = s.toList ++ Input.elements r := by
  simp only [string, derives_map_ok, derives_slice_ok]
  constructor
  · rintro ⟨cs, hcs, rfl⟩
    rw [← hcs.eq_tokens]
    exact ⟨by rw [hcs.eq_tokens, String.ofList_toList], hcs.1⟩
  · rintro ⟨rfl, hx⟩
    exact ⟨v.toList, ⟨hx, Input.beq_iff_forall₂.mp (beq_self_eq_true _)⟩, String.ofList_toList⟩

theorem derives_string_fail : Derives R (string s) x .fail ↔ ¬s.toList <+: Input.elements x := by
  rw [string, derives_map_fail, derives_slice_fail]
  constructor
  · rintro hno ⟨cs, hcs⟩
    obtain ⟨r, rfl⟩ := Input.exists_elements_eq hcs.symm
    exact hno s.toList r ⟨hcs.symm, Input.beq_iff_forall₂.mp (beq_self_eq_true _)⟩
  · intro hno es r hes
    rw [← hes.eq_tokens] at hno
    exact hno ⟨Input.elements r, hes.1.symm⟩

end

section
variable {F : ErrorFamily} {ι ε ρ : Type} {τ : ρ → Type} [Input ι ε] [BEq ε] [Describe ε] [LawfulInput ι]

/-- **Parsing is derivation.** The parse succeeds, and fails, exactly as the rules derive, and they
derive one verdict at most. One or more matches are a repetition that is not empty. The other composed
operations are derived from their parts, and a string where the characters begin with it. -/
theorem returns_iff_derives (R : Rules F ε τ NoCustom) {α : Type} (g : Grammar F ε τ NoCustom α) (x : ι) :
    (∀ v r, g.Returns R x (.ok (.success v r)) ↔ Derives R g x (.ok v r)) ∧
      ((∃ e, g.Returns R x (.ok (.failure e))) ↔ Derives R g x .fail) ∧
      (∀ a b, Derives R g x a → Derives R g x b → a = b) ∧
      ((∀ vs r, Derives R g.many1 x (.ok vs r) ↔ vs ≠ [] ∧ Derives R g.many x (.ok vs r)) ∧
        (Derives R g.many1 x .fail ↔ Derives R g x .fail)) ∧
      Composed R x ∧
      ∀ {κ : Type} [Input κ Char] [LawfulInput κ] (S : Rules F Char τ NoCustom) (s : String) (y : κ),
        (∀ v r, Derives S (string s) y (.ok v r) ↔ v = s ∧ Input.elements y = s.toList ++ Input.elements r) ∧
          (Derives S (string s) y .fail ↔ ¬s.toList <+: Input.elements y) := by
  have hok : ∀ v r, g.Returns R x (.ok (.success v r)) ↔ Derives R g x (.ok v r) := by
    intro v r
    rw [derives_iff_reaches, Reaches]
    exact returns_success
  have hfail : (∃ e, g.Returns R x (.ok (.failure e))) ↔ Derives R g x .fail := by
    rw [derives_iff_reaches, Reaches, exists_comm]
    exact exists_congr fun e => returns_failure
  refine ⟨hok, hfail, fun a b ha hb => ?_, ⟨fun vs r => derives_many1_ok, derives_many1_fail⟩, composed R x,
    fun S s y => ⟨fun v r => derives_string_ok, derives_string_fail⟩⟩
  · -- both verdicts are what the one parse comes back with
    cases a with
    | ok v r =>
      have ha' := (hok v r).mpr ha
      cases b with
      | ok w y =>
        have := ha'.unique ((hok w y).mpr hb)
        simp only [Except.ok.injEq, Outcome.success.injEq] at this
        rw [this.1, this.2]
      | fail =>
        obtain ⟨e, he⟩ := hfail.mpr hb
        cases ha'.unique he
    | fail =>
      obtain ⟨e, he⟩ := hfail.mpr ha
      cases b with
      | ok w y => cases he.unique ((hok w y).mpr hb)
      | fail => rfl

end

set_option maxRecDepth 20000 in
theorem returns_iff_derives_nested :
    Derives (nested : Rules .none Char (fun _ : Unit => Char) NoCustom) (.rule ()) (Text.ofString "(7)+")
        (.ok '7' (Text.ofString "+")) ∧
      Derives (nested : Rules .none Char (fun _ : Unit => Char) NoCustom) (.rule ()) (Text.ofString "((7)")
        .fail := by
  have h := returns_iff_derives (ι := Text)
    (nested : Rules .none Char (fun _ : Unit => Char) NoCustom) (.rule ())
  refine ⟨((h _).1 _ _).mp ?_, (h _).2.1.mp ⟨.mismatch (.unexpected "digit" (describe '(')), ?_⟩⟩
  · exact returns_success.mpr ⟨2, rfl⟩
  · exact returns_failure.mpr ⟨3, rfl⟩

end Grammar

end Parsing
