import Parsing.Proofs.Depth
import Parsing.Proofs.Spelling

/-!
# Equal tokens

A grammar meets its tokens only in comparisons with elements of the input. Where equality is symmetric and
transitive, equal tokens compare alike with every element, and one can stand in for the other: the grammar
runs alike. Only what it gives of its own tokens changes, to equal ones. Equality need not be identity, and an
element need not even equal itself.
-/

namespace Parsing

variable {F : ErrorFamily} {ι ε ρ α β γ δ ν : Type} {τ : ρ → Type}

/-! ## Runs that are alike -/

/-- The errors are the same, but for what a mismatch names as expected. -/
inductive ParseError.Alike : ParseError F → ParseError F → Prop
  | refl (e : ParseError F) : Alike e e
  | mismatch {a b : MatchError} : a.found? = b.found? → Alike (.mismatch a) (.mismatch b)

inductive Event.Alike : Event F ν → Event F ν → Prop
  | abandoned {e e' : ParseError F} : e.Alike e' → Alike (.abandoned e) (.abandoned e')
  | stalled (count : Nat) : Alike (.stalled count) (.stalled count)

inductive Outcome.Alike (V : α → β → Prop) : Outcome F ι α → Outcome F ι β → Prop
  | success {v : α} {w : β} (r : ι) : V v w → Alike V (.success v r) (.success w r)
  | failure {e e' : ParseError F} : e.Alike e' → Alike V (.failure e) (.failure e')

inductive Run.Alike (V : α → β → Prop) : Run F ι α ν → Run F ι β ν → Prop
  | outcome {log log' : List (Event F ν)} {o : Outcome F ι α} {o' : Outcome F ι β} :
    List.Forall₂ Event.Alike log log' → o.Alike V o' → Alike V ⟨log, .ok o⟩ ⟨log', .ok o'⟩
  | fault {log log' : List (Event F ν)} (f : Fault) :
    List.Forall₂ Event.Alike log log' → Alike V ⟨log, .error f⟩ ⟨log', .error f⟩

namespace Run.Alike

variable {V V' : α → β → Prop} {W : γ → δ → Prop} {s : Run F ι α ν} {s' : Run F ι β ν}
variable {l l' : List (Event F ν)} {v : α} {r : ι} {e : ParseError F} {f : Fault}

theorem log (h : s.Alike V s') : List.Forall₂ Event.Alike s.log s'.log := by
  cases h with
  | outcome hl _ => exact hl
  | fault _ hl => exact hl

theorem of_success (h : s.Alike V s') (hs : s.result = .ok (.success v r)) :
    ∃ w, s'.result = .ok (.success w r) ∧ V v w := by
  cases h with
  | outcome _ ho =>
    cases hs
    cases ho with
    | success _ hv => exact ⟨_, rfl, hv⟩
  | fault _ _ => cases hs

theorem of_failure (h : s.Alike V s') (hs : s.result = .ok (.failure e)) :
    ∃ e', s'.result = .ok (.failure e') := by
  cases h with
  | outcome _ ho =>
    cases hs
    cases ho with
    | failure _ => exact ⟨_, rfl⟩
  | fault _ _ => cases hs

theorem faults_iff (h : s.Alike V s') : s.result = .error f ↔ s'.result = .error f := by
  cases h with
  | outcome _ _ => simp
  | fault _ _ => simp

theorem weaken (h : s.Alike V s') (hV : ∀ v w, V v w → V' v w) : s.Alike V' s' := by
  cases h with
  | outcome hl ho =>
    cases ho with
    | success r hv => exact .outcome hl (.success r (hV _ _ hv))
    | failure he => exact .outcome hl (.failure he)
  | fault f hl => exact .fault f hl

theorem after (h : s.Alike V s') (hl : List.Forall₂ Event.Alike l l') :
    (s.after l).Alike V (s'.after l') := by
  cases h with
  | outcome hs ho => exact .outcome (List.rel_append hl hs) ho
  | fault f hs => exact .fault f (List.rel_append hl hs)

theorem mapOutcome {f : Outcome F ι α → Outcome F ι γ} {f' : Outcome F ι β → Outcome F ι δ}
    (h : s.Alike V s') (hf : ∀ o o', o.Alike V o' → (f o).Alike W (f' o')) :
    (s.mapOutcome f).Alike W (s'.mapOutcome f') := by
  cases h with
  | outcome hl ho => exact .outcome hl (hf _ _ ho)
  | fault e hl => exact .fault e hl

theorem andThen {next : α → ι → Run F ι γ ν} {next' : β → ι → Run F ι δ ν} (h : s.Alike V s')
    (hn : ∀ v w r, V v w → (next v r).Alike W (next' w r)) : (s.andThen next).Alike W (s'.andThen next') := by
  cases h with
  | outcome hl ho =>
    cases ho with
    | success r hv => exact (hn _ _ r hv).after hl
    | failure he => exact .outcome hl (.failure he)
  | fault f hl => exact .fault f hl

theorem recover {next : ParseError F → Run F ι α ν} {next' : ParseError F → Run F ι β ν} (h : s.Alike V s')
    (hn : ∀ e e', e.Alike e' → (next e).Alike V (next' e')) : (s.recover next).Alike V (s'.recover next') := by
  cases h with
  | outcome hl ho =>
    cases ho with
    | success r hv => exact .outcome hl (.success r hv)
    | failure he => exact (hn _ _ he).after hl
  | fault f hl => exact .fault f hl

end Run.Alike

/-! ## Operations -/

/-- On every input the two parsers run alike. -/
def Parser.Alike (V : α → β → Prop) (p : Parser F ι α ν) (q : Parser F ι β ν) : Prop :=
  ∀ x, (p.run x).Alike V (q.run x)

namespace Parser.Alike

section
variable {V : α → β → Prop} {W : γ → δ → Prop} {p p' : Parser F ι α ν} {q q' : Parser F ι β ν}

theorem weaken {V' : α → β → Prop} (h : p.Alike V q) (hV : ∀ v w, V v w → V' v w) : p.Alike V' q :=
  fun x => (h x).weaken hV

theorem pure {v : α} {w : β} (h : V v w) : (pure v : Parser F ι α ν).Alike V (pure w) :=
  fun x => .outcome .nil (.success x h)

theorem fail {e e' : ParseError F} (he : e.Alike e') : (fail e : Parser F ι α ν).Alike V (fail e') :=
  fun _ => .outcome .nil (.failure he)

theorem fault (f : Fault) : (fault f : Parser F ι α ν).Alike V (fault f) := fun _ => .fault f .nil

theorem map {g : α → γ} {g' : β → δ} (h : p.Alike V q) (hg : ∀ v w, V v w → W (g v) (g' w)) :
    (p.map g).Alike W (q.map g') := by
  intro x
  refine (h x).mapOutcome fun o o' ho => ?_
  cases ho with
  | success r hv => exact .success r (hg _ _ hv)
  | failure he => exact .failure he

theorem bind {next : α → Parser F ι γ ν} {next' : β → Parser F ι δ ν} (h : p.Alike V q)
    (hn : ∀ v w, V v w → (next v).Alike W (next' w)) : (p.bind next).Alike W (q.bind next') :=
  fun x => (h x).andThen fun v w r hv => hn v w hv r

theorem validate {check : α → Option (ParseError F)} {check' : β → Option (ParseError F)} (h : p.Alike V q)
    (hc : ∀ v w, V v w → check v = check' w) : (p.validate check).Alike V (q.validate check') := by
  intro x
  refine (h x).mapOutcome fun o o' ho => ?_
  cases ho with
  | @success v w r hv =>
    simp only [Outcome.validate, hc v w hv]
    cases check' w with
    | none => exact .success r hv
    | some e => exact .failure (.refl e)
  | failure he => exact .failure he

theorem orFail (e : ParseError F) (h : p.Alike V q) : (p.orFail e).Alike V (q.orFail e) := by
  intro x
  refine (h x).mapOutcome fun o o' ho => ?_
  cases ho with
  | success r hv => exact .success r hv
  | failure _ => exact .failure (.refl e)

theorem orElse (h : p.Alike V q) (h' : p'.Alike V q') : (p.orElse p').Alike V (q.orElse q') := by
  intro x
  refine (h x).recover fun e e' he => ?_
  exact (h' x).after (.cons (.abandoned he) .nil)

theorem pair {p' : Parser F ι γ ν} {q' : Parser F ι δ ν} (h : p.Alike V q) (h' : p'.Alike W q') :
    (p.pair p').Alike (fun v w => V v.1 w.1 ∧ W v.2 w.2) (q.pair q') :=
  h.bind fun _ _ hv => h'.map fun _ _ hw => ⟨hv, hw⟩

theorem seqLeft {p' : Parser F ι γ ν} {q' : Parser F ι δ ν} (h : p.Alike V q) (h' : p'.Alike W q') :
    (p.seqLeft p').Alike V (q.seqLeft q') :=
  (h.pair h').map fun _ _ hv => hv.1

theorem seqRight {p' : Parser F ι γ ν} {q' : Parser F ι δ ν} (h : p.Alike V q) (h' : p'.Alike W q') :
    (p.seqRight p').Alike W (q.seqRight q') :=
  h.bind fun _ _ _ => h'

section
variable [Input ι ε]

theorem manyFrom (h : p.Alike V q) (x : ι) (count : Nat) :
    (p.manyFrom count x).Alike (List.Forall₂ V) (q.manyFrom count x) := by
  -- both leave the same rest after each match, so both go on or stall together
  refine manyFrom_induction (P := fun x count s => s.Alike (List.Forall₂ V) (q.manyFrom count x))
    ?_ ?_ ?_ ?_ x count
  · intro x count v y hv hs ih
    obtain ⟨w, hw, hvw⟩ := (h x).of_success hv
    rw [manyFrom_of_succeeds hw hs]
    refine (ih.mapOutcome fun o o' ho => ?_).after (h x).log
    cases ho with
    | success r hvs => exact .success r (.cons hvw hvs)
    | failure he => exact .failure he
  · intro x count v y hv hs
    obtain ⟨w, hw, -⟩ := (h x).of_success hv
    rw [manyFrom_of_stalls hw hs]
    exact .fault _ (List.rel_append (h x).log (.cons (.stalled count) .nil))
  · intro x count e he
    obtain ⟨e', he'⟩ := (h x).of_failure he
    rw [manyFrom_of_fails he']
    exact .outcome (h x).log (.success x .nil)
  · intro x count f hf
    rw [manyFrom_of_faults ((h x).faults_iff.mp hf)]
    exact .fault f (h x).log

theorem many (h : p.Alike V q) : p.many.Alike (List.Forall₂ V) q.many := fun x => h.manyFrom x 0

theorem many1 (h : p.Alike V q) : p.many1.Alike (List.Forall₂ V) q.many1 := by
  refine h.many.validate fun vs ws hvs => ?_
  cases hvs <;> rfl

theorem sepBy1 {p' : Parser F ι γ ν} {q' : Parser F ι δ ν} (h : p.Alike V q) (h' : p'.Alike W q') :
    (p.sepBy1 p').Alike (List.Forall₂ V) (q.sepBy1 q') :=
  (h.pair (h'.seqRight h).many).map fun _ _ hvs => .cons hvs.1 hvs.2

end

end

section
variable [Input ι ε] [Describe ε]

theorem satisfy {accepts accepts' : ε → Bool} (h : ∀ e, accepts e = accepts' e) (expected expected' : String) :
    (satisfy accepts expected : Parser F ι ε ν).Alike Eq (satisfy accepts' expected') := by
  intro x
  simp only [Parser.satisfy, h]
  cases Input.first? x with
  | none => exact .outcome .nil (.failure (.mismatch rfl))
  | some e =>
    by_cases ha : accepts' e
    · simp only [ha, if_true]
      exact .outcome .nil (.success _ rfl)
    · simp only [ha]
      exact .outcome .nil (.failure (.mismatch rfl))

theorem eof : (eof : Parser F ι Unit ν).Alike Eq eof := by
  intro x
  unfold Parser.eof
  dsimp only
  cases Input.first? x with
  | none => exact .outcome .nil (.success x rfl)
  | some e => exact .outcome .nil (.failure (.refl _))

end

end Parser.Alike

/-! ## Tokens -/

section
variable [BEq ε] {t u : ε} {ts us : List ε}

/-- `u` stands in for `t`: it is left as it is, or replaced by an equal one. -/
def StandsFor (t u : ε) : Prop := t = u ∨ (t == u) = true

/-- The values are the tokens themselves, `ts` on the one side and `us` on the other, equal one by one. -/
def Tokens (ts us vs ws : List ε) : Prop := vs = ts ∧ ws = us ∧ List.Forall₂ (fun v w => (v == w) = true) vs ws

variable [PartialEquivBEq ε]

theorem StandsFor.beq_eq (h : StandsFor t u) (e : ε) : (e == t) = (e == u) := by
  rcases h with rfl | h
  · rfl
  · exact BEq.congr_right h

theorem StandsFor.beq_of_beq (h : StandsFor t u) {e : ε} (he : (e == t) = true) : (t == u) = true := by
  rcases h with rfl | h
  · exact BEq.trans (BEq.symm he) he
  · exact h

namespace Input

variable [Input ι ε]

theorem strip_standsFor (h : List.Forall₂ StandsFor ts us) (x : ι) : strip ts x = strip us x := by
  induction h generalizing x with
  | nil => rfl
  | cons h _ ih =>
    rw [strip, strip]
    cases first? x with
    | none => rfl
    | some e => simp only [h.beq_eq, ih]

theorem beq_of_strip (h : List.Forall₂ StandsFor ts us) {x r : ι} (hr : strip ts x = .ok r) :
    List.Forall₂ (fun t u => (t == u) = true) ts us := by
  induction h generalizing x with
  | nil => exact .nil
  | @cons t u ts us h _ ih =>
    rw [strip] at hr
    cases hx : first? x with
    | none => simp [hx] at hr
    | some e =>
      by_cases he : e == t
      · simp only [hx, he, if_true] at hr
        exact .cons (h.beq_of_beq he) (ih hr)
      · simp [hx, he] at hr

end Input

namespace Parser.Alike

variable [Input ι ε] [Describe ε]

theorem element (h : StandsFor t u) : (element t : Parser F ι ε ν).Alike Eq (element u) :=
  satisfy h.beq_eq _ _

theorem elements (h : List.Forall₂ StandsFor ts us) :
    (elements ts : Parser F ι (List ε) ν).Alike (Tokens ts us) (elements us) := by
  intro x
  simp only [Parser.elements, ← Input.strip_standsFor h]
  cases hr : Input.strip ts x with
  | ok r => exact .outcome .nil (.success r ⟨rfl, rfl, Input.beq_of_strip h hr⟩)
  | error found? =>
    refine .outcome .nil (.failure (.mismatch ?_))
    rw [MatchError.found?_of, MatchError.found?_of]

end Parser.Alike

end

/-! ## Grammars -/

namespace Grammar

section
variable [BEq ε] [Describe ε]

/-- The second grammar is the first one with other tokens, which stand in for its own. `V` relates the values
that they give, and `T r` those of rule `r`: elements of the input are identical, and tokens of the grammar are
equal one by one. -/
inductive Retokened (T : (r : ρ) → τ r → τ r → Prop) :
    {α : Type} → (α → α → Prop) → Grammar F ε τ NoCustom α → Grammar F ε τ NoCustom α → Prop
  | pure {α : Type} {V : α → α → Prop} {v w : α} : V v w → Retokened T V (pure v) (pure w)
  | fail {α : Type} (V : α → α → Prop) (e : ParseError F) : Retokened T V (fail e) (fail e)
  | anyElement : Retokened T Eq anyElement anyElement
  | element {t u : ε} : StandsFor t u → Retokened T Eq (element t) (element u)
  | elementOr {t u : ε} (e : ParseError F) : StandsFor t u → Retokened T Eq (elementOr t e) (elementOr u e)
  | elements {ts us : List ε} : List.Forall₂ StandsFor ts us →
    Retokened T (Tokens ts us) (elements ts) (elements us)
  | elementsOr {ts us : List ε} (e : ParseError F) : List.Forall₂ StandsFor ts us →
    Retokened T (Tokens ts us) (elementsOr ts e) (elementsOr us e)
  | eof : Retokened T Eq eof eof
  | pair {α β : Type} {V : α → α → Prop} {W : β → β → Prop} {g g' : Grammar F ε τ NoCustom α}
    {h h' : Grammar F ε τ NoCustom β} : Retokened T V g g' → Retokened T W h h' →
    Retokened T (fun v w => V v.1 w.1 ∧ W v.2 w.2) (g.pair h) (g'.pair h')
  | seqLeft {α β : Type} {V : α → α → Prop} {W : β → β → Prop} {g g' : Grammar F ε τ NoCustom α}
    {h h' : Grammar F ε τ NoCustom β} : Retokened T V g g' → Retokened T W h h' →
    Retokened T V (g.seqLeft h) (g'.seqLeft h')
  | seqRight {α β : Type} {V : α → α → Prop} {W : β → β → Prop} {g g' : Grammar F ε τ NoCustom α}
    {h h' : Grammar F ε τ NoCustom β} : Retokened T V g g' → Retokened T W h h' →
    Retokened T W (g.seqRight h) (g'.seqRight h')
  | orFail {α : Type} {V : α → α → Prop} {g g' : Grammar F ε τ NoCustom α} (e : ParseError F) :
    Retokened T V g g' → Retokened T V (g.orFail e) (g'.orFail e)
  | orElse {α : Type} {V W : α → α → Prop} {g g' h h' : Grammar F ε τ NoCustom α} :
    Retokened T V g g' → Retokened T W h h' →
    Retokened T (fun v w => V v w ∨ W v w) (g.orElse h) (g'.orElse h')
  | many {α : Type} {V : α → α → Prop} {g g' : Grammar F ε τ NoCustom α} :
    Retokened T V g g' → Retokened T (List.Forall₂ V) g.many g'.many
  | many1 {α : Type} {V : α → α → Prop} {g g' : Grammar F ε τ NoCustom α} :
    Retokened T V g g' → Retokened T (List.Forall₂ V) g.many1 g'.many1
  | sepBy1 {α β : Type} {V : α → α → Prop} {W : β → β → Prop} {g g' : Grammar F ε τ NoCustom α}
    {h h' : Grammar F ε τ NoCustom β} : Retokened T V g g' → Retokened T W h h' →
    Retokened T (List.Forall₂ V) (g.sepBy1 h) (g'.sepBy1 h')
  | delay {α : Type} {V : α → α → Prop} {g g' : Unit → Grammar F ε τ NoCustom α} :
    Retokened T V (g ()) (g' ()) → Retokened T V (.delay g) (.delay g')
  | rule (r : ρ) : Retokened T (T r) (rule r) (rule r)
  | weaken {α : Type} {V W : α → α → Prop} {g g' : Grammar F ε τ NoCustom α} :
    Retokened T V g g' → (∀ v w, V v w → W v w) → Retokened T W g g'

variable {T : (r : ρ) → τ r → τ r → Prop} {V : α → α → Prop} {W : β → β → Prop} {U : γ → γ → Prop}

theorem Retokened.between {o o' : Grammar F ε τ NoCustom β} {g g' : Grammar F ε τ NoCustom α}
    {c c' : Grammar F ε τ NoCustom γ} (ho : Retokened T W o o') (hg : Retokened T V g g')
    (hc : Retokened T U c c') : Retokened T V (between o g c) (between o' g' c') :=
  (ho.seqRight hg).seqLeft hc

theorem Retokened.firstOf {gs gs' : List (Grammar F ε τ NoCustom α)}
    (h : List.Forall₂ (Retokened T V) gs gs') : Retokened T V (firstOf gs) (firstOf gs') := by
  cases h with
  | nil => exact .fail V _
  | @cons g g' gs gs' hg hgs =>
    induction hgs generalizing g g' with
    | nil => exact hg
    | cons hh _ ih =>
      rw [firstOf_cons_cons, firstOf_cons_cons]
      exact ih ((hg.orElse hh).weaken fun _ _ hv => hv.elim id id)

end

section
variable [Input ι ε] [BEq ε] [PartialEquivBEq ε] [Describe ε]
variable {T : (r : ρ) → τ r → τ r → Prop} {V : α → α → Prop}

theorem Retokened.toParser_alike {rules rules' : (r : ρ) → Parser F ι (τ r)}
    (hr : ∀ r, (rules r).Alike (T r) (rules' r)) {g g' : Grammar F ε τ NoCustom α} (h : Retokened T V g g') :
    (g.toParser rules).Alike V (g'.toParser rules') := by
  induction h with
  | pure hv => exact .pure hv
  | fail V e => exact .fail (.refl e)
  | anyElement => exact .satisfy (fun _ => rfl) _ _
  | element h => exact .element h
  | elementOr e h =>
    rw [toParser, toParser, Parser.elementOr_eq, Parser.elementOr_eq]
    exact (Parser.Alike.element h).orFail e
  | elements h => exact .elements h
  | elementsOr e h =>
    rw [toParser, toParser, Parser.elementsOr_eq, Parser.elementsOr_eq]
    exact (Parser.Alike.elements h).orFail e
  | eof => exact .eof
  | pair _ _ ih ihh => exact ih.pair ihh
  | seqLeft _ _ ih ihh => exact ih.seqLeft ihh
  | seqRight _ _ ih ihh => exact ih.seqRight ihh
  | orFail e _ ih => exact ih.orFail e
  | orElse _ _ ih ihh => exact (ih.weaken fun _ _ => .inl).orElse (ihh.weaken fun _ _ => .inr)
  | many _ ih => exact ih.many
  | many1 _ ih => exact ih.many1
  | sepBy1 _ _ ih ihh => exact ih.sepBy1 ihh
  | delay _ ih => exact ih
  | rule r => exact hr r
  | weaken _ hV ih => exact ih.weaken hV

variable {R R' : Rules F ε τ NoCustom}

theorem Retokened.parserAt_alike (hR : ∀ r, Retokened T (T r) (R r) (R' r)) (n : Nat) (r : ρ) :
    (R.parserAt n r : Parser F ι (τ r)).Alike (T r) (R'.parserAt n r) := by
  induction n generalizing r with
  | zero => exact .fault .tooDeep
  | succ n ih => exact (hR r).toParser_alike ih

/-- **Equal tokens are interchangeable.** If tokens of a grammar and of its rules are replaced by equal ones,
the parse comes back on the same inputs, and with an alike run: it succeeds with the same rest, fails, or ends
in the same fault. In its value the elements of the input are identical, and the tokens of the grammar are
equal one by one. -/
theorem equal_tokens_interchangeable (hR : ∀ r, Retokened T (T r) (R r) (R' r))
    {g g' : Grammar F ε τ NoCustom α} (hg : Retokened T V g g') (x : ι) :
    (∀ n, ((g.parserAt R n).run x).Alike V ((g'.parserAt R' n).run x)) ∧
      (∀ s, g.Parses R x s → ∃ s', g'.Parses R' x s' ∧ s.Alike V s') ∧
      ∀ s', g'.Parses R' x s' → ∃ s, g.Parses R x s ∧ s.Alike V s' := by
  have h : ∀ n, ((g.parserAt R n).run x).Alike V ((g'.parserAt R' n).run x) :=
    fun n => hg.toParser_alike (Retokened.parserAt_alike hR n) x
  refine ⟨h, ?_, ?_⟩
  · rintro _ ⟨hs, n, rfl⟩
    exact ⟨_, ⟨mt (h n).faults_iff.mpr hs, n, rfl⟩, h n⟩
  · rintro _ ⟨hs, n, rfl⟩
    exact ⟨_, ⟨mt (h n).faults_iff.mp hs, n, rfl⟩, h n⟩

end

end Grammar

namespace Script

def Flonum.number? : Flonum → Option Flonum
  | nan => none
  | negZero => some zero
  | x => some x

theorem Flonum.beq_iff {a b : Flonum} : (a == b) = true ↔ a.number?.isSome = true ∧ a.number? = b.number? := by
  cases a <;> cases b <;> decide

instance : PartialEquivBEq Flonum where
  symm h := by
    rw [Flonum.beq_iff] at h ⊢
    exact ⟨h.2 ▸ h.1, h.2.symm⟩
  trans h h' := by
    rw [Flonum.beq_iff] at h h' ⊢
    exact ⟨h.1, h.2.trans h'.2⟩

end Script

open Script

/-- `token` and 1.5 within as many infinities as negative infinities. NaN would do as well, if anything equalled
it. -/
def enclosed (token : Flonum) : Rules F Flonum (fun _ : Unit => List Flonum) NoCustom := fun _ =>
  .firstOf [.between (.element .infinity) (.rule ()) (.element .negInfinity), .elements [.nan],
    .elements [token, .threeHalves]]

theorem enclosed_retokened (r : Unit) :
    Grammar.Retokened (fun _ => Tokens [.zero, .threeHalves] [.negZero, .threeHalves])
      (Tokens [.zero, .threeHalves] [.negZero, .threeHalves])
      (enclosed .zero r : Grammar F Flonum _ NoCustom _) (enclosed .negZero r) := by
  refine .firstOf (.cons ?_ (.cons ?_ (.cons ?_ .nil)))
  · exact .between (.element (.inl rfl)) (.rule ()) (.element (.inl rfl))
  · refine .weaken (.elements (.cons (.inl rfl) .nil)) ?_
    rintro _ _ ⟨rfl, rfl, h⟩
    cases h with
    | cons hnan _ => cases hnan
  · exact .elements (.cons (.inr rfl) (.cons (.inl rfl) .nil))

open Grammar in
theorem equal_tokens_interchangeable_zeros :
    let x : List Flonum := [.negZero, .infinity, .zero, .threeHalves, .negInfinity, .nan]
    let g (t : Flonum) : Grammar .none Flonum (fun _ : Unit => List Flonum) NoCustom (Flonum × List Flonum) :=
      (element t).pair (.rule ())
    ((Flonum.nan == Flonum.nan) = false ∧ (Flonum.zero == Flonum.negZero) = true) ∧
      (g .zero).Returns (enclosed .zero) x (.ok (.success (.negZero, [.zero, .threeHalves]) [.nan])) ∧
      (g .negZero).Returns (enclosed .negZero) x (.ok (.success (.negZero, [.negZero, .threeHalves]) [.nan])) := by
  intro x g
  have hg : Retokened (fun _ => Tokens [.zero, .threeHalves] [.negZero, .threeHalves])
      (fun v w => v.1 = w.1 ∧ Tokens [.zero, .threeHalves] [.negZero, .threeHalves] v.2 w.2)
      (g .zero) (g .negZero) :=
    .pair (.element (.inr rfl)) (.rule ())
  have h : (g .zero).Returns (enclosed .zero) x (.ok (.success (.negZero, [.zero, .threeHalves]) [.nan])) :=
    returns_success.mpr ⟨2, rfl⟩
  obtain ⟨log, hlog⟩ := h
  obtain ⟨⟨log', _⟩, hs', halike⟩ := (equal_tokens_interchangeable enclosed_retokened hg x).2.1 _ hlog
  obtain ⟨⟨e, ts⟩, rfl, rfl, -, rfl, -⟩ := halike.of_success rfl
  exact ⟨⟨rfl, rfl⟩, ⟨log, hlog⟩, log', hs'⟩

end Parsing
