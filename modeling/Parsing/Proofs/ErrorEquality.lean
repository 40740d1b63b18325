import Mathlib.Tactic.Common
import Parsing.Script.Error

/-!
# Equality of errors

Errors of many kinds pass through one parser. Two of them are equal if they are of one kind, have the same code,
and the first counts the payload of the second as its own, which is up to the kind. If each kind compares its
errors of one code by an equivalence, then equality is an equivalence of all errors: codes and texts that kinds
have in common make no difference, nor does it matter which of two errors is asked.
-/

namespace Parsing

/-! ## Kinds of errors -/

inductive ErrorSort (F : ErrorFamily)
  | generic
  | mismatch
  | custom (kind : F.Kind)
deriving DecidableEq

namespace ErrorFamily

variable (F : ErrorFamily) (k : F.Kind)

/-- Errors of kind `k` that have the same code are compared by an equivalence. -/
def Lawful : Prop :=
  ∀ c : UInt64, Equivalence fun p q : {p : F.Payload k // F.code p = c} => F.samePayload p.1 q.1 = true

/-- The content of an error of kind `k` does not count. -/
def ComparesCodes : Prop := ∀ p q : F.Payload k, F.samePayload p q = true

/-- The contents of errors of kind `k` are compared by their own equality. -/
def ComparesContents [BEq (F.Payload k)] : Prop := ∀ p q : F.Payload k, F.samePayload p q = (p == q)

variable {F k}

theorem ComparesCodes.lawful (h : F.ComparesCodes k) : F.Lawful k := by
  intro c
  exact ⟨fun p => h p.1 p.1, fun {p q} _ => h q.1 p.1, fun {p _ r} _ _ => h p.1 r.1⟩

theorem ComparesContents.lawful [BEq (F.Payload k)] [EquivBEq (F.Payload k)] (h : F.ComparesContents k) :
    F.Lawful k := by
  intro c
  simp only [h _ _]
  exact ⟨fun _ => BEq.rfl, BEq.symm, BEq.trans⟩

end ErrorFamily

/-! ## Equal errors -/

namespace ParseError

variable {F : ErrorFamily} {a b c : ParseError F} {k : F.Kind} {p q : F.Payload k}

def sort : ParseError F → ErrorSort F
  | generic _ => .generic
  | mismatch _ => .mismatch
  | custom k _ => .custom k

theorem sort_cases {P : ParseError F → ParseError F → Prop} (generic : ∀ m m', P (generic m) (generic m'))
    (mismatch : ∀ e e', P (mismatch e) (mismatch e'))
    (custom : ∀ {k : F.Kind} (p q : F.Payload k), P (custom k p) (custom k q)) (h : a.sort = b.sort) : P a b := by
  cases a with
  | generic m =>
    cases b with
    | generic m' => exact generic m m'
    | mismatch _ => cases h
    | custom _ _ => cases h
  | mismatch e =>
    cases b with
    | generic _ => cases h
    | mismatch e' => exact mismatch e e'
    | custom _ _ => cases h
  | custom k p =>
    cases b with
    | generic _ => cases h
    | mismatch _ => cases h
    | custom k' q =>
      cases h
      exact custom p q

theorem beq_of_sort_ne (h : a.sort ≠ b.sort) : (a == b) = false := by
  change same a b = false
  cases a <;> cases b <;> simp_all [same, sort]

theorem generic_beq {m m' : String} : ((generic m : ParseError F) == generic m') = (m == m') := rfl

theorem mismatch_beq {e e' : MatchError} : ((mismatch e : ParseError F) == mismatch e') = (e == e') := rfl

theorem custom_beq : (custom k p == custom k q) = (F.code p == F.code q && F.samePayload p q) := by
  change same _ _ = _
  simp [same]

inductive Equal : ParseError F → ParseError F → Prop
  | generic (message : String) : Equal (generic message) (generic message)
  | mismatch (error : MatchError) : Equal (mismatch error) (mismatch error)
  | custom {k : F.Kind} {p q : F.Payload k} :
    F.code p = F.code q → F.samePayload p q = true → Equal (custom k p) (custom k q)

theorem Equal.sort_eq (h : Equal a b) : a.sort = b.sort := by
  cases h <;> rfl

theorem beq_iff : (a == b) = true ↔ Equal a b := by
  by_cases hsort : a.sort = b.sort
  · refine sort_cases (P := fun a b => (a == b) = true ↔ Equal a b) ?_ ?_ ?_ hsort
    · intro m m'
      rw [generic_beq, beq_iff_eq]
      refine ⟨fun h => ?_, fun h => ?_⟩
      · subst h; exact .generic m
      · cases h; rfl
    · intro e e'
      rw [mismatch_beq, beq_iff_eq]
      refine ⟨fun h => ?_, fun h => ?_⟩
      · subst h; exact .mismatch e
      · cases h; rfl
    · intro k p q
      rw [custom_beq, Bool.and_eq_true, beq_iff_eq]
      refine ⟨fun h => .custom h.1 h.2, fun h => ?_⟩
      cases h with
      | custom hcode hsame => exact ⟨hcode, hsame⟩
  · rw [beq_of_sort_ne hsort]
    exact ⟨nofun, fun h => absurd h.sort_eq hsort⟩

namespace Equal

variable (hF : ∀ k, F.Lawful k)
include hF

theorem refl (a : ParseError F) : Equal a a := by
  cases a with
  | generic m => exact .generic m
  | mismatch e => exact .mismatch e
  | custom k p => exact .custom rfl ((hF k (F.code p)).refl ⟨p, rfl⟩)

theorem symm (h : Equal a b) : Equal b a := by
  cases h with
  | generic m => exact .generic m
  | mismatch e => exact .mismatch e
  | @custom k p q hcode hsame =>
    exact .custom hcode.symm ((hF k (F.code q)).symm (x := ⟨p, hcode⟩) (y := ⟨q, rfl⟩) hsame)

theorem trans (h : Equal a b) (h' : Equal b c) : Equal a c := by
  cases h with
  | generic m => exact h'
  | mismatch e => exact h'
  | @custom k p q hcode hsame =>
    -- the third error is of the same kind as the first two
    cases h' with
    | @custom _ _ r hcode' hsame' =>
      refine .custom (hcode.trans hcode') ?_
      exact (hF k (F.code r)).trans (x := ⟨p, hcode.trans hcode'⟩) (y := ⟨q, hcode'⟩) (z := ⟨r, rfl⟩) hsame hsame'

end Equal

/-! ## Asking the first error -/

/-- Whether `a` counts the payload of `b` as its own. The kinds of the library know errors of their own kind
alone, and `compare` answers for the other ones, whatever the kind of `b` is. -/
def counts (compare : (k : F.Kind) → F.Payload k → ParseError F → Bool) : ParseError F → ParseError F → Bool
  | generic m, generic m' => m == m'
  | mismatch e, mismatch e' => e == e'
  | custom k p, b => compare k p b
  | _, _ => false

theorem beq_eq_counts (compare : (k : F.Kind) → F.Payload k → ParseError F → Bool)
    (h : ∀ k (p q : F.Payload k), compare k p (custom k q) = F.samePayload p q) (a b : ParseError F) :
    (a == b) = (decide (a.sort = b.sort) && (a.code == b.code && a.counts compare b)) := by
  by_cases hsort : a.sort = b.sort
  · refine sort_cases (P := fun a b => (a == b) =
      (decide (a.sort = b.sort) && (a.code == b.code && a.counts compare b))) ?_ ?_ ?_ hsort
    · intro m m'
      simp [generic_beq, sort, code, counts]
    · intro e e'
      rw [mismatch_beq, Bool.eq_iff_iff]
      simp only [sort, code, counts, Bool.and_eq_true, decide_eq_true_eq, beq_iff_eq]
      exact ⟨fun he => ⟨trivial, by rw [he], he⟩, fun he => he.2.2⟩
    · intro k p q
      simp [custom_beq, sort, code, counts, h]
  · simp [beq_of_sort_ne hsort, hsort]

/-- **Equality of errors is an equivalence and never confuses kinds.** It is one as soon as each kind compares
its own errors of one code by an equivalence, as it does if their contents do not count, or are compared by an
equality that is one. Errors of different kinds are never equal. Plain messages are equal if they read the same,
mismatches if all their fields are, and errors of a kind of the family if their codes are and the kind counts
their contents as the same. The kinds and codes are checked before the first error is asked, so what it would
say of errors of other kinds does not matter. -/
theorem equality_never_confuses_kinds (F : ErrorFamily) :
    ((∀ k, F.Lawful k) → Equivalence fun a b : ParseError F => (a == b) = true) ∧
    (∀ a b : ParseError F, a.sort ≠ b.sort → (a == b) = false) ∧
    (∀ m m', ((generic m : ParseError F) == generic m') = true ↔ m = m') ∧
    (∀ e e', ((mismatch e : ParseError F) == mismatch e') = true ↔ e = e') ∧
    (∀ k, F.ComparesCodes k →
      F.Lawful k ∧ ∀ p q : F.Payload k, (custom k p == custom k q) = true ↔ F.code p = F.code q) ∧
    (∀ k [BEq (F.Payload k)], F.ComparesContents k →
      (EquivBEq (F.Payload k) → F.Lawful k) ∧
        ∀ p q : F.Payload k, (custom k p == custom k q) = true ↔ (p == q) = true ∧ F.code p = F.code q) ∧
    ∀ compare : (k : F.Kind) → F.Payload k → ParseError F → Bool,
      (∀ k (p q : F.Payload k), compare k p (custom k q) = F.samePayload p q) →
      ∀ a b : ParseError F,
        (a == b) = (decide (a.sort = b.sort) && (a.code == b.code && a.counts compare b)) := by
  refine ⟨fun hF => ?_, fun a b => beq_of_sort_ne, fun m m' => ?_, fun e e' => ?_, fun k h => ?_, fun k _ h => ?_,
    beq_eq_counts⟩
  · simp only [beq_iff]
    exact ⟨Equal.refl hF, Equal.symm hF, Equal.trans hF⟩
  · rw [generic_beq, beq_iff_eq]
  · rw [mismatch_beq, beq_iff_eq]
  · refine ⟨h.lawful, fun p q => ?_⟩
    rw [custom_beq, h p q, Bool.and_true, beq_iff_eq]
  · refine ⟨fun _ => h.lawful, fun p q => ?_⟩
    rw [custom_beq, h p q, Bool.and_eq_true, beq_iff_eq, and_comm]

end ParseError

namespace Script

def compareErrors : ErrorKind → Coded → Error → Bool
  | .code, _, _ => true
  | .payload, p, .custom .payload q => p == q
  | .payload, _, _ => false

instance : BEq (errorFamily.Payload ErrorKind.payload) := inferInstanceAs (BEq Coded)

instance : EquivBEq (errorFamily.Payload ErrorKind.payload) := inferInstanceAs (EquivBEq Coded)

theorem comparesCodes_code : errorFamily.ComparesCodes ErrorKind.code := fun _ _ => rfl

theorem comparesContents_payload : errorFamily.ComparesContents ErrorKind.payload := fun _ _ => rfl

/-- Three kinds share a code and a text. The first error would even count the third one as its own, if it were
asked. -/
theorem equality_never_confuses_codes :
    let a : Error := .custom .code ⟨0, "x"⟩
    let b : Error := .custom .payload ⟨0, "x"⟩
    let c : Error := .generic "x"
    Equivalence (fun a b : Error => (a == b) = true) ∧ (a.code = b.code ∧ b.code = c.code) ∧
      ((a == b) = false ∧ (b == c) = false ∧ (c == a) = false) ∧
      (a.counts compareErrors c = true ∧
        (a == c) = (decide (a.sort = c.sort) && (a.code == c.code && a.counts compareErrors c))) ∧
      (a == .custom .code ⟨0, "y"⟩) = true ∧ (b == .custom .payload ⟨0, "y"⟩) ≠ true := by
  intro a b c
  obtain ⟨hequiv, hsort, -, -, hcodes, hcontents, hasked⟩ :=
    ParseError.equality_never_confuses_kinds errorFamily
  obtain ⟨hcode, hcode_beq⟩ := hcodes .code comparesCodes_code
  obtain ⟨hpayload, hpayload_beq⟩ := hcontents .payload comparesContents_payload
  have hlawful : ∀ k, errorFamily.Lawful k
    | .code => hcode
    | .payload => hpayload inferInstance
  have hcompare : ∀ (k : ErrorKind) (p q : Coded), compareErrors k p (.custom k q) =
      errorFamily.samePayload (k := k) p q
    | .code, _, _ => rfl
    | .payload, _, _ => rfl
  refine ⟨hequiv hlawful, ⟨rfl, rfl⟩, ⟨hsort a b nofun, hsort b c nofun, hsort c a nofun⟩,
    ⟨rfl, hasked compareErrors hcompare a c⟩, (hcode_beq _ _).mpr rfl, fun h => ?_⟩
  have hcontent : (Coded.mk 0 "x" == Coded.mk 0 "y") = true := ((hpayload_beq _ _).mp h).1
  exact absurd hcontent (by decide)

end Script

end Parsing
