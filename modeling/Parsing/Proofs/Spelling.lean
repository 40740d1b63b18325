import Parsing.Proofs.Result
import Parsing.Script.Atom

/-!
# Spelling out tokens

A run of tokens is matched if the input begins with elements that equal them. If not, what is reported is
the first element that differs from its token, or that the input ended before one did. The tokens may as
well be matched one by one, or in two parts, however the matchers are grouped: only what they name as
expected changes, and which copies of the tokens they give. Nothing is asked of the equality of elements.
-/

namespace Parsing

variable {F : ErrorFamily} {ι ε α β γ ν : Type}

/-! ## The first difference -/

section
variable [BEq ε]

/-- Before position `n`, where `es` and `ts` both go on, the elements of `es` equal those of `ts`. -/
def AgreeBelow (n : Nat) (es ts : List ε) : Prop :=
  ∀ i < n, ∀ e t, es[i]? = some e → ts[i]? = some t → (e == t) = true

/-- The first position at which `es` differs from `ts` is `j`, and `e` is there. -/
structure FirstDifference (es ts : List ε) (j : Nat) (e : ε) : Prop where
  here : es[j]? = some e
  differs : ∃ t, ts[j]? = some t ∧ (e == t) = false
  before : AgreeBelow j es ts

variable {es ts : List ε} {e t e' : ε} {j j' n : Nat}

theorem agreeBelow_cons : AgreeBelow (n + 1) (e :: es) (t :: ts) ↔ (e == t) = true ∧ AgreeBelow n es ts := by
  constructor
  · intro h
    exact ⟨h 0 n.succ_pos e t rfl rfl, fun i hi a b ha hb => h (i + 1) (Nat.succ_lt_succ hi) a b ha hb⟩
  · rintro ⟨h, hs⟩ i hi a b ha hb
    cases i with
    | zero =>
      cases ha
      cases hb
      exact h
    | succ i => exact hs i (Nat.lt_of_succ_lt_succ hi) a b ha hb

theorem agreeBelow_zero : AgreeBelow 0 es ts := fun i hi => absurd hi i.not_lt_zero

theorem agreeBelow_length_iff : AgreeBelow ts.length es ts ↔ AgreeBelow es.length es ts := by
  constructor
  · intro h i _ e t he ht
    exact h i (List.getElem?_eq_some_iff.mp ht).1 e t he ht
  · intro h i _ e t he ht
    exact h i (List.getElem?_eq_some_iff.mp he).1 e t he ht

theorem FirstDifference.not_agreeBelow (h : FirstDifference es ts j e) : ¬AgreeBelow es.length es ts := by
  intro ha
  obtain ⟨t, ht, hd⟩ := h.differs
  obtain ⟨hj, -⟩ := List.getElem?_eq_some_iff.mp h.here
  rw [ha j hj e t h.here ht] at hd
  cases hd

theorem FirstDifference.le (h : FirstDifference es ts j e) (h' : FirstDifference es ts j' e') : j ≤ j' := by
  refine Nat.le_of_not_lt fun hlt => ?_
  obtain ⟨t, ht, hd⟩ := h'.differs
  rw [h.before j' hlt e' t h'.here ht] at hd
  cases hd

theorem FirstDifference.unique (h : FirstDifference es ts j e) (h' : FirstDifference es ts j' e') :
    j = j' ∧ e = e' := by
  obtain rfl := Nat.le_antisymm (h.le h') (h'.le h)
  exact ⟨rfl, Option.some.inj (h.here.symm.trans h'.here)⟩

theorem agreeBelow_or_firstDifference :
    ∀ es ts : List ε, AgreeBelow es.length es ts ∨ ∃ j e, FirstDifference es ts j e
  | [], ts => .inl fun i _ e t he _ => by simp at he
  | e :: es, [] => .inl fun i _ e t _ ht => by simp at ht
  | e :: es, t :: ts => by
    cases h : e == t with
    | false => exact .inr ⟨0, e, rfl, ⟨t, rfl, h⟩, agreeBelow_zero⟩
    | true =>
      rcases agreeBelow_or_firstDifference es ts with ha | ⟨j, a, hd⟩
      · exact .inl (agreeBelow_cons.mpr ⟨h, ha⟩)
      · exact .inr ⟨j + 1, a, hd.here, hd.differs, agreeBelow_cons.mpr ⟨h, hd.before⟩⟩

end

namespace Input

variable [Input ι ε] [BEq ε]

theorem strip_append (ts us : List ε) (x : ι) : strip (ts ++ us) x = (strip ts x).bind (strip us) := by
  induction ts generalizing x with
  | nil => rfl
  | cons t ts ih =>
    rw [List.cons_append, strip, strip]
    cases first? x with
    | none => rfl
    | some e =>
      by_cases h : e == t
      · simp only [h, if_true, ih]
      · simp only [h]
        rfl

variable [LawfulInput ι]

theorem strip_of_agreeBelow {ts : List ε} {x : ι} (h : AgreeBelow (elements x).length (elements x) ts) :
    strip ts x = if ts.length ≤ (elements x).length then .ok (drop ts.length x) else .error none := by
  induction ts generalizing x with
  | nil => simp [strip, drop]
  | cons t ts ih =>
    rw [strip, LawfulInput.first?_eq]
    cases hx : elements x with
    | nil => simp
    | cons e es =>
      rw [hx] at h
      obtain ⟨he, hes⟩ := agreeBelow_cons.mp h
      have hr : elements (rest x) = es := elements_rest hx
      simp only [List.head?_cons, he, if_true]
      rw [ih (by rwa [hr]), hr]
      simp [drop]

theorem strip_of_firstDifference {ts : List ε} {x : ι} {j : Nat} {e : ε}
    (h : FirstDifference (elements x) ts j e) : strip ts x = .error (some e) := by
  induction ts generalizing x j with
  | nil =>
    obtain ⟨t, ht, -⟩ := h.differs
    simp at ht
  | cons t ts ih =>
    rw [strip, LawfulInput.first?_eq]
    cases hx : elements x with
    | nil =>
      rw [hx] at h
      simpa using h.here
    | cons a es =>
      rw [hx] at h
      have hr : elements (rest x) = es := elements_rest hx
      cases j with
      | zero =>
        obtain rfl : a = e := Option.some.inj h.here
        obtain ⟨t', ht, hd⟩ := h.differs
        obtain rfl : t = t' := Option.some.inj ht
        simp [hd]
      | succ j =>
        obtain ⟨ha, hbefore⟩ := agreeBelow_cons.mp h.before
        simp only [List.head?_cons, ha, if_true]
        apply ih (j := j)
        rw [hr]
        exact ⟨h.here, h.differs, hbefore⟩

theorem exists_strip_eq_error {ts : List ε} {x : ι} {P : Option ε → Prop} :
    (∃ found?, strip ts x = .error found? ∧ P found?) ↔
      (∃ j e, FirstDifference (elements x) ts j e ∧ P (some e)) ∨
        (¬∃ j e, FirstDifference (elements x) ts j e) ∧ (elements x).length < ts.length ∧ P none := by
  rcases agreeBelow_or_firstDifference (elements x) ts with h | ⟨j, e, h⟩
  · have hnone : ∀ j e, ¬FirstDifference (elements x) ts j e := fun j e hd => hd.not_agreeBelow h
    rw [strip_of_agreeBelow h]
    by_cases hl : ts.length ≤ (elements x).length
    · simp [hnone, hl, Nat.not_lt_of_le hl]
    · simp [hnone, hl, Nat.lt_of_not_le hl]
  · rw [strip_of_firstDifference h]
    constructor
    · rintro ⟨_, heq, hP⟩
      cases heq
      exact .inl ⟨j, e, h, hP⟩
    · rintro (⟨j', e', h', hP⟩ | ⟨hnone, -⟩)
      · obtain ⟨-, rfl⟩ := h.unique h'
        exact ⟨_, rfl, hP⟩
      · exact absurd ⟨j, e, h⟩ hnone

end Input

/-! ## What a matcher finds -/

def MatchError.found? : MatchError → Option String
  | .endOfInput _ => none
  | .unexpected _ found => some found

theorem MatchError.found?_of [Describe ε] (expected : String) (found? : Option ε) :
    (MatchError.of expected found?).found? = found?.map describe := by
  cases found? <;> rfl

inductive SameMatch : Except Fault (Outcome F ι α) → Except Fault (Outcome F ι β) → Prop
  | success (v : α) (w : β) (r : ι) : SameMatch (.ok (.success v r)) (.ok (.success w r))
  | mismatch {a b : MatchError} :
    a.found? = b.found? → SameMatch (.ok (.failure (.mismatch a))) (.ok (.failure (.mismatch b)))

namespace Parser

variable [Input ι ε] [BEq ε] [Describe ε]

/-- The parser takes elements off its input that equal `tokens`, or reports what it found instead. -/
structure Spells (tokens : List ε) (p : Parser F ι α ν) : Prop where
  succeeds {x r : ι} : Input.strip tokens x = .ok r → ∃ v, p.Succeeds x v r
  fails {x : ι} {found? : Option ε} : Input.strip tokens x = .error found? →
    ∃ expected, p.Fails x (.mismatch (.of expected found?))

namespace Spells

theorem elements (ts : List ε) : Spells ts (Parser.elements ts : Parser F ι (List ε) ν) where
  succeeds {x r} h := by
    simp only [Parser.elements, Succeeds, h]
    exact ⟨_, rfl⟩
  fails {x found?} h := by
    simp only [Parser.elements, Fails, h]
    exact ⟨_, rfl⟩

theorem element (t : ε) : Spells [t] (Parser.element t : Parser F ι ε ν) where
  succeeds {x r} h := by
    simp only [Input.strip] at h
    simp only [Parser.element, satisfy, Succeeds]
    cases hx : Input.first? x with
    | none => simp [hx] at h
    | some e =>
      cases he : e == t <;> simp only [hx, he] at h ⊢
      · cases h
      · cases h
        exact ⟨e, rfl⟩
  fails {x found?} h := by
    simp only [Input.strip] at h
    simp only [Parser.element, satisfy, Fails]
    cases hx : Input.first? x with
    | none =>
      simp only [hx] at h
      cases h
      exact ⟨_, rfl⟩
    | some e =>
      cases he : e == t <;> simp only [hx, he] at h ⊢
      · cases h
        exact ⟨_, rfl⟩
      · cases h

variable {ts us : List ε} {p : Parser F ι α ν} {q : Parser F ι β ν}

theorem pair (hp : Spells ts p) (hq : Spells us q) : Spells (ts ++ us) (p.pair q) where
  succeeds {x r} h := by
    rw [Input.strip_append] at h
    cases hs : Input.strip ts x with
    | error found? => rw [hs] at h; cases h
    | ok y =>
      rw [hs] at h
      obtain ⟨v, hv⟩ := hp.succeeds hs
      obtain ⟨w, hw⟩ := hq.succeeds h
      exact ⟨(v, w), succeeds_bind.mpr ⟨v, y, hv, succeeds_map.mpr ⟨w, hw, rfl⟩⟩⟩
  fails {x found?} h := by
    rw [Input.strip_append] at h
    cases hs : Input.strip ts x with
    | error found? =>
      rw [hs] at h
      cases h
      obtain ⟨expected, he⟩ := hp.fails hs
      exact ⟨expected, fails_bind.mpr (.inl he)⟩
    | ok y =>
      rw [hs] at h
      obtain ⟨v, hv⟩ := hp.succeeds hs
      obtain ⟨expected, he⟩ := hq.fails h
      exact ⟨expected, fails_bind.mpr (.inr ⟨v, y, hv, fails_map.mpr he⟩)⟩

theorem sameMatch (hp : Spells ts p) (hq : Spells ts q) (x : ι) :
    SameMatch (p.run x).result (q.run x).result := by
  cases hs : Input.strip ts x with
  | error found? =>
    obtain ⟨expected, he⟩ := hp.fails hs
    obtain ⟨expected', he'⟩ := hq.fails hs
    rw [he, he']
    exact .mismatch (by rw [MatchError.found?_of, MatchError.found?_of])
  | ok r =>
    obtain ⟨v, hv⟩ := hp.succeeds hs
    obtain ⟨w, hw⟩ := hq.succeeds hs
    rw [hv, hw]
    exact .success v w r

end Spells

/-! ## Tokens in one go -/

section
variable [LawfulInput ι] {ts vs : List ε} {x r : ι} {e : ParseError F}

theorem elements_of_agreeBelow (h : AgreeBelow (Input.elements x).length (Input.elements x) ts) :
    (elements ts : Parser F ι (List ε) ν).run x =
      if ts.length ≤ (Input.elements x).length then .success ts (Input.drop ts.length x)
      else .failure (.mismatch (.endOfInput (describe ts))) := by
  simp only [elements, Input.strip_of_agreeBelow h]
  by_cases hlen : ts.length ≤ (Input.elements x).length
  · simp only [if_pos hlen]
  · simp only [if_neg hlen]
    rfl

theorem elements_of_firstDifference {j : Nat} {a : ε} (h : FirstDifference (Input.elements x) ts j a) :
    (elements ts : Parser F ι (List ε) ν).run x =
      .failure (.mismatch (.unexpected (describe ts) (describe a))) := by
  simp only [elements, Input.strip_of_firstDifference h]
  rfl

theorem succeeds_elements_iff : (elements ts : Parser F ι (List ε) ν).Succeeds x vs r ↔
    vs = ts ∧ ts.length ≤ (Input.elements x).length ∧ AgreeBelow ts.length (Input.elements x) ts ∧
      Input.elements r = (Input.elements x).drop ts.length := by
  rw [agreeBelow_length_iff, Succeeds]
  rcases agreeBelow_or_firstDifference (Input.elements x) ts with h | ⟨j, a, h⟩
  · rw [elements_of_agreeBelow h]
    split
    · rename_i hlen
      simp only [Run.success, Except.ok.injEq, Outcome.success.injEq, hlen, h, true_and,
        ← Input.elements_drop]
      refine and_congr eq_comm ⟨fun hr => by rw [hr], fun hr => ?_⟩
      exact (Input.eq_of_elements hr).symm
    · rename_i hlen
      simp [Run.failure, hlen]
  · rw [elements_of_firstDifference h]
    simp [Run.failure, h.not_agreeBelow]

theorem fails_elements_iff : (elements ts : Parser F ι (List ε) ν).Fails x e ↔
    (∃ j a, FirstDifference (Input.elements x) ts j a ∧
        e = .mismatch (.unexpected (describe ts) (describe a))) ∨
      (¬∃ j a, FirstDifference (Input.elements x) ts j a) ∧ (Input.elements x).length < ts.length ∧
        e = .mismatch (.endOfInput (describe ts)) := by
  have hfails : (elements ts : Parser F ι (List ε) ν).Fails x e ↔
      ∃ found?, Input.strip ts x = .error found? ∧ e = .mismatch (.of (describe ts) found?) := by
    simp only [Fails, elements]
    cases Input.strip ts x <;> simp [Run.success, Run.failure, eq_comm]
  exact hfails.trans Input.exists_strip_eq_error

end

end Parser

/-! ## Tokens one by one -/

/-- Tokens in pairs of pairs, grouped in any way. The index is the type of the pairs. -/
inductive Row (ε : Type) : Type → Type 1
  | element (token : ε) : Row ε ε
  | pair {β γ : Type} (a : Row ε β) (b : Row ε γ) : Row ε (β × γ)

namespace Row

def tokens : {β : Type} → Row ε β → List ε
  | _, .element t => [t]
  | _, .pair a b => a.tokens ++ b.tokens

def toParser [Input ι ε] [BEq ε] [Describe ε] : {β : Type} → Row ε β → Parser F ι β ν
  | _, .element t => .element t
  | _, .pair a b => a.toParser.pair b.toParser

def flatten : {β : Type} → Row ε β → β → List ε
  | _, .element _, e => [e]
  | _, .pair a b, (v, w) => a.flatten v ++ b.flatten w

theorem length_flatten (a : Row ε β) (v : β) : (a.flatten v).length = a.tokens.length := by
  induction a with
  | element t => rfl
  | pair a b iha ihb =>
    obtain ⟨v, w⟩ := v
    simp only [flatten, tokens, List.length_append, iha, ihb]

variable [Input ι ε] [BEq ε] [Describe ε]

theorem spells (a : Row ε β) : Parser.Spells a.tokens (a.toParser : Parser F ι β ν) := by
  induction a with
  | element t => exact .element t
  | pair a b iha ihb => exact iha.pair ihb

theorem flatten_append [LawfulInput ι] (a : Row ε β) {x r : ι} {v : β}
    (h : (a.toParser : Parser F ι β ν).Succeeds x v r) :
    Input.elements x = a.flatten v ++ Input.elements r := by
  induction a generalizing x r with
  | element t => exact (Parser.succeeds_satisfy.mp h).1
  | pair a b iha ihb =>
    obtain ⟨v, y, hv, h⟩ := Parser.succeeds_bind.mp h
    obtain ⟨w, hw, rfl⟩ := Parser.succeeds_map.mp h
    rw [iha hv, ihb hw, flatten, List.append_assoc]

theorem flatten_eq_take [LawfulInput ι] (a : Row ε β) {x r : ι} {v : β}
    (h : (a.toParser : Parser F ι β ν).Succeeds x v r) :
    a.flatten v = (Input.elements x).take a.tokens.length := by
  rw [a.flatten_append h, ← a.length_flatten v, List.take_left]

end Row

section
variable [Input ι ε] [LawfulInput ι] [BEq ε] [Describe ε]

/-- **Matching tokens is exact.** It succeeds where the input is long enough and its elements equal the
tokens; it gives the tokens and leaves what follows them. If an element differs, the failure reports the
first that does, and if none does, that the input ended. With an error of one's own it fails with that
instead. Matchers of the single tokens, paired in any way, match and fail alike, and give the elements of
the input; so do matchers of two parts of the tokens. -/
theorem Parser.elements_exact (tokens : List ε) (x : ι) :
    let p : Parser F ι (List ε) ν := .elements tokens
    (∀ vs r, p.Succeeds x vs r ↔
      vs = tokens ∧ tokens.length ≤ (Input.elements x).length ∧
        AgreeBelow tokens.length (Input.elements x) tokens ∧
        Input.elements r = (Input.elements x).drop tokens.length) ∧
    (∀ e, p.Fails x e ↔
      (∃ j a, FirstDifference (Input.elements x) tokens j a ∧
          e = .mismatch (.unexpected (describe tokens) (describe a))) ∨
        (¬∃ j a, FirstDifference (Input.elements x) tokens j a) ∧
          (Input.elements x).length < tokens.length ∧ e = .mismatch (.endOfInput (describe tokens))) ∧
    (∀ f, ¬p.Faults x f) ∧
    (∀ error, elementsOr tokens error = p.orFail error) ∧
    (∀ {β : Type} (a : Row ε β), a.tokens = tokens →
      SameMatch ((a.toParser : Parser F ι β ν).run x).result (p.run x).result ∧
        ∀ v r, (a.toParser : Parser F ι β ν).Succeeds x v r →
          a.flatten v = (Input.elements x).take tokens.length) ∧
    ∀ ts us, ts ++ us = tokens →
      SameMatch (((elements ts).pair (elements us) : Parser F ι (List ε × List ε) ν).run x).result
        (p.run x).result := by
  refine ⟨fun vs r => succeeds_elements_iff, fun e => fails_elements_iff, fun f => not_faults_elements,
    fun error => elementsOr_eq tokens error, ?_, ?_⟩
  · rintro β a rfl
    exact ⟨a.spells.sameMatch (.elements _) x, fun v r h => a.flatten_eq_take h⟩
  · rintro ts us rfl
    exact ((Spells.elements ts).pair (.elements us)).sameMatch (.elements _) x

end

open Script in
theorem Parser.elements_exact_flonum :
    let x : List Flonum := [.negZero, .nan]
    let row : Row Flonum (Flonum × Flonum) := .pair (.element .zero) (.element .nan)
    (elements [.zero] : Parser .none (List Flonum) (List Flonum)).Succeeds x [.zero] [.nan] ∧
      (elements [.zero, .nan] : Parser .none (List Flonum) (List Flonum)).Fails x
        (.mismatch (.unexpected "[0.0, NaN]" "NaN")) ∧
      SameMatch ((row.toParser : Parser .none (List Flonum) (Flonum × Flonum)).run x).result
        (.ok (.failure (.mismatch (.unexpected "[0.0, NaN]" "NaN"))) :
          Except Fault (Outcome .none (List Flonum) (List Flonum))) := by
  intro x row
  obtain ⟨hsucceeds, -⟩ := elements_exact (F := .none) (ν := String) [.zero] x
  obtain ⟨-, hfails, -, -, hrow, -⟩ := elements_exact (F := .none) (ν := String) [.zero, .nan] x
  have hzero : AgreeBelow 1 x [.zero, .nan] := agreeBelow_cons.mpr ⟨rfl, agreeBelow_zero⟩
  have hnan : FirstDifference x [.zero, .nan] 1 .nan := ⟨rfl, ⟨.nan, rfl, rfl⟩, hzero⟩
  have he : (elements [.zero, .nan] : Parser .none (List Flonum) (List Flonum)).Fails x
      (.mismatch (.unexpected "[0.0, NaN]" "NaN")) := (hfails _).mpr (.inl ⟨1, .nan, hnan, rfl⟩)
  refine ⟨(hsucceeds _ _).mpr ⟨rfl, by decide, ?_, rfl⟩, he, ?_⟩
  · exact agreeBelow_cons.mpr ⟨rfl, agreeBelow_zero⟩
  · have hsame := (hrow row rfl).1
    rwa [he] at hsame

end Parsing
