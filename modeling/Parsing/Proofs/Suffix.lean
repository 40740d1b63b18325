import Mathlib.Data.List.Forall2
import Mathlib.Logic.Function.Basic
import Parsing.Input.Text
import Parsing.Parser.Match

/-!
# Suffixes of an input

A lawful input behaves like the list of its elements. What is left of it after some elements is a
suffix, and among the suffixes of one input the order of the sizes is the order of the lengths,
whatever the sizes count.
-/

namespace Parsing

class LawfulInput (ι : Type) {ε : outParam Type} [Input ι ε] : Prop where
  elements_injective : Function.Injective (Input.elements : ι → List ε)
  first?_eq (x : ι) : Input.first? x = (Input.elements x).head?
  elements_rest (x : ι) : Input.elements (Input.rest x) = (Input.elements x).tail
  size_rest_lt {x : ι} : Input.elements x ≠ [] → Input.size (Input.rest x) < Input.size x

instance {ε : Type} : LawfulInput (List ε) where
  elements_injective := Function.injective_id
  first?_eq _ := rfl
  elements_rest _ := rfl
  size_rest_lt {x} h := by
    cases x with
    | nil => exact absurd rfl h
    | cons e x => exact Nat.lt_succ_self x.length

instance : LawfulInput Text where
  elements_injective := fun ⟨_⟩ ⟨_⟩ h => congrArg Text.mk h
  first?_eq _ := rfl
  elements_rest _ := rfl
  size_rest_lt {x} h := by
    obtain ⟨cs⟩ := x
    cases cs with
    | nil => exact absurd rfl h
    | cons c cs => exact Nat.lt_add_of_pos_left c.utf8Size_pos

namespace Input

variable {ι ε : Type} [Input ι ε]

/-- `x` is `es`, which equal `tokens` one by one, and then `r`. -/
def StartsWith [BEq ε] (tokens : List ε) (x : ι) (es : List ε) (r : ι) : Prop :=
  elements x = es ++ elements r ∧ List.Forall₂ (fun e t => (e == t) = true) es tokens

theorem StartsWith.suffix [BEq ε] {tokens es : List ε} {x r : ι} (h : StartsWith tokens x es r) :
    elements r <:+ elements x := ⟨es, h.1.symm⟩

theorem StartsWith.length_eq [BEq ε] {tokens es : List ε} {x r : ι} (h : StartsWith tokens x es r) :
    es.length = tokens.length := h.2.length_eq

theorem beq_iff_forall₂ {ε : Type} [BEq ε] {es ts : List ε} :
    (es == ts) = true ↔ List.Forall₂ (fun e t => (e == t) = true) es ts := by
  induction es generalizing ts with
  | nil => cases ts <;> simp
  | cons e es ih => cases ts <;> simp [ih]

theorem StartsWith.eq_tokens [BEq ε] [LawfulBEq ε] {tokens es : List ε} {x r : ι}
    (h : StartsWith tokens x es r) : es = tokens :=
  eq_of_beq (beq_iff_forall₂.mpr h.2)

variable [LawfulInput ι]

theorem eq_of_elements {x y : ι} (h : elements x = elements y) : x = y :=
  LawfulInput.elements_injective h

theorem elements_rest {x : ι} {e : ε} {es : List ε} (h : elements x = e :: es) :
    elements (rest x) = es := by
  rw [LawfulInput.elements_rest, h]; rfl

theorem elements_drop (n : Nat) (x : ι) : elements (drop n x) = (elements x).drop n := by
  induction n generalizing x with
  | zero => rfl
  | succ n ih => rw [drop, ih, LawfulInput.elements_rest, List.drop_tail]

theorem exists_elements_eq {x : ι} {c es : List ε} (h : elements x = c ++ es) : ∃ y : ι, elements y = es :=
  ⟨drop c.length x, by rw [elements_drop, h, List.drop_left]⟩

theorem size_add_length_le (c : List ε) : ∀ {x r : ι}, elements x = c ++ elements r →
    size r + c.length ≤ size x := by
  induction c with
  | nil =>
    intro x r h
    have hx : x = r := eq_of_elements h
    rw [hx]; exact Nat.le_refl _
  | cons e c ih =>
    intro x r h
    have hr := ih (elements_rest h)
    have hx : size (rest x) < size x := LawfulInput.size_rest_lt (by rw [h]; simp)
    rw [List.length_cons]; omega

theorem length_le_size (x : ι) : (elements x).length ≤ size x := by
  have hx : elements x = elements x ++ elements (drop (elements x).length x) := by
    rw [elements_drop, List.drop_length, List.append_nil]
  have hle := size_add_length_le _ hx
  omega

theorem size_le_of_suffix {x r : ι} (h : elements r <:+ elements x) : size r ≤ size x := by
  obtain ⟨c, hc⟩ := h
  have := size_add_length_le c hc.symm
  omega

theorem eq_of_size_le {x r : ι} (h : elements r <:+ elements x) (hs : size x ≤ size r) : r = x := by
  obtain ⟨c, hc⟩ := h
  have hle := size_add_length_le c hc.symm
  have : c = [] := List.eq_nil_of_length_eq_zero (by omega)
  subst this
  exact eq_of_elements hc

theorem size_lt_iff {x r : ι} (h : elements r <:+ elements x) :
    size r < size x ↔ (elements r).length < (elements x).length := by
  refine ⟨fun hs => ?_, fun hl => ?_⟩
  · apply Nat.lt_of_le_of_ne h.length_le
    intro hl
    have : r = x := eq_of_elements (h.eq_of_length hl)
    subst this; exact Nat.lt_irrefl _ hs
  · apply Nat.lt_of_not_le
    intro hs
    rw [eq_of_size_le h hs] at hl
    exact Nat.lt_irrefl _ hl

/-! ## Prefixes equal to given tokens -/

theorem strip_eq_ok [BEq ε] {tokens : List ε} {x r : ι} :
    strip tokens x = .ok r ↔ ∃ es, StartsWith tokens x es r := by
  induction tokens generalizing x with
  | nil =>
    simp only [strip, Except.ok.injEq]
    refine ⟨fun hr => ?_, fun ⟨es, hx, hes⟩ => ?_⟩
    · subst hr; exact ⟨[], rfl, .nil⟩
    · cases hes; exact eq_of_elements hx
  | cons t tokens ih =>
    rw [strip, LawfulInput.first?_eq]
    cases hx : elements x with
    | nil =>
      refine ⟨fun h => (by cases h), fun ⟨es, hes, h⟩ => ?_⟩
      rw [hx] at hes
      have : es = [] := (List.append_eq_nil_iff.mp hes.symm).1
      subst this; cases h
    | cons e l =>
      simp only [List.head?_cons]
      by_cases he : e == t
      · rw [if_pos he, ih]
        refine ⟨fun ⟨es, hes, h⟩ => ?_, fun ⟨_, hes, h⟩ => ?_⟩
        · rw [elements_rest hx] at hes
          exact ⟨e :: es, by rw [hx, hes]; rfl, .cons he h⟩
        · cases h with
          | cons h₁ h₂ =>
            rw [hx, List.cons_append, List.cons.injEq] at hes
            exact ⟨_, by rw [elements_rest hx]; exact hes.2, h₂⟩
      · rw [if_neg he]
        refine ⟨fun h => (by cases h), fun ⟨_, hes, h⟩ => ?_⟩
        cases h with
        | cons h₁ h₂ =>
          rw [hx, List.cons_append, List.cons.injEq] at hes
          rw [hes.1] at he
          exact absurd h₁ he

theorem take_beq_iff [BEq ε] {tokens : List ε} {x : ι} :
    ((elements x).take tokens.length == tokens) = true ↔
      StartsWith tokens x ((elements x).take tokens.length) (drop tokens.length x) := by
  rw [beq_iff_forall₂, StartsWith, elements_drop, List.take_append_drop]
  exact ⟨fun h => ⟨rfl, h⟩, fun h => h.2⟩

theorem StartsWith.eq_take [BEq ε] {tokens es : List ε} {x r : ι} (h : StartsWith tokens x es r) :
    es = (elements x).take tokens.length ∧ r = drop tokens.length x := by
  have hl := h.length_eq
  refine ⟨?_, eq_of_elements ?_⟩
  · rw [h.1, ← hl, List.take_left]
  · rw [elements_drop, h.1, ← hl, List.drop_left]

end Input

end Parsing
