import Parsing.Grammar.Arithmetic
import Parsing.Proofs.Derivation

/-!
# Evaluating arithmetic

The grammar of arithmetic reads every text that writes an expression, to the end, and gives the value of
the expression.
-/

namespace Parsing

variable {F : ErrorFamily} {ε ρ α β : Type} {τ : ρ → Type}

/-! ## Chains -/

namespace Grammar

section
variable {ι : Type} [Input ι ε] [BEq ε] {R : Rules F ε τ NoCustom} {f : α → β → α}
variable {g : Grammar F ε τ NoCustom α} {h : Grammar F ε τ NoCustom β}

/-- From `x` to `y`, a `g` and then steps `h` are derived, and folded they give `a`. -/
inductive Chain (R : Rules F ε τ NoCustom) (f : α → β → α) (g : Grammar F ε τ NoCustom α)
    (h : Grammar F ε τ NoCustom β) (x : ι) : ι → α → Prop
  | start {y a} : Derives R g x (.ok a y) → Chain R f g h x y a
  | step {y z a b} : Chain R f g h x y a → Derives R h y (.ok b z) →
    (Input.elements z).length < (Input.elements y).length → Chain R f g h x z (f a b)

theorem Chain.derives_pair {x y : ι} {a : α} (hc : Chain R f g h x y a) :
    ∃ a₀ bs, bs.foldl f a₀ = a ∧ ∀ cs z, Derives R h.many y (.ok cs z) →
      Derives R (g.pair h.many) x (.ok (a₀, bs ++ cs) z) := by
  -- a chain grows at its end and a repetition at its front, so the steps `cs` to come are left open
  induction hc with
  | @start y a hg => exact ⟨a, [], rfl, fun cs z hcs => hg.pair hcs⟩
  | @step y z a b _ hb hl ih =>
    obtain ⟨a₀, bs, rfl, hbs⟩ := ih
    refine ⟨a₀, bs ++ [b], List.foldl_append, fun cs u hcs => ?_⟩
    rw [List.append_assoc]
    exact hbs (b :: cs) u (.many_more hb hl hcs)

theorem Chain.derives {x y : ι} {a : α} (hc : Chain R f g h x y a) (hstop : Derives R h y .fail) :
    Derives R (chain f g h) x (.ok a y) := by
  obtain ⟨a₀, bs, rfl, hbs⟩ := hc.derives_pair
  have hall := hbs [] y (.many_stop hstop)
  rw [List.append_nil] at hall
  exact hall.map

end

end Grammar

/-! ## Characters -/

theorem isNumeric_of_isDigit {c : Char} (h : c.isDigit = true) : isNumeric c = true := by
  simp only [Char.isDigit, Bool.and_eq_true, decide_eq_true_eq] at h
  obtain ⟨hlow, hhigh⟩ := h
  refine CodeRanges.contains_iff.mpr ⟨(0x30, 0x39), by decide, ?_, ?_⟩
  · exact UInt32.le_iff_toNat_le.mp hlow
  · exact UInt32.le_iff_toNat_le.mp hhigh

set_option maxRecDepth 20000 in
theorem whitespaceRanges_apart : ∀ r ∈ whitespaceRanges, ∀ q ∈ numericRanges, r.2 < q.1 ∨ q.2 < r.1 := by
  decide

theorem isNumeric_eq_false_of_isWhitespace {c : Char} (h : isWhitespace c = true) : isNumeric c = false := by
  apply Bool.eq_false_iff.mpr
  intro hn
  obtain ⟨r, hr, hr₁, hr₂⟩ := CodeRanges.contains_iff.mp h
  obtain ⟨q, hq, hq₁, hq₂⟩ := CodeRanges.contains_iff.mp hn
  rcases whitespaceRanges_apart r hr q hq with hlt | hlt <;> omega

theorem isWhitespace_eq_false_of_isDigit {c : Char} (h : c.isDigit = true) : isWhitespace c = false := by
  apply Bool.eq_false_iff.mpr
  intro hw
  have hn := isNumeric_eq_false_of_isWhitespace hw
  rw [isNumeric_of_isDigit h] at hn
  cases hn

namespace Arithmetic

open Grammar (Derives Stops Chain)
open Numbers (literal apply)

/-! ## Every expression can be written -/

theorem Blank.nil : Blank [] := List.forall_mem_nil _

theorem written_render (p : Nat) (e : Expr) : Written p e (e.render p) := by
  induction e generalizing p with
  | number n =>
    have hdigits : ∀ d ∈ Nat.toDigits 10 n, d.isDigit = true :=
      fun d hd => Nat.isDigit_of_mem_toDigits (by decide) (by decide) hd
    have h := @Written.number p _ [] Nat.toDigits_ne_nil hdigits .nil
    rwa [Nat.ofDigitChars_toDigits (by decide) (by decide), List.append_nil] at h
  | binary op a b iha ihb =>
    unfold Expr.render
    split
    · rename_i hp
      exact .binary hp (iha _) .nil (ihb _)
    · exact .parenthesised .nil (.binary (Nat.zero_le _) (iha _) .nil (ihb _)) .nil

/-! ## What follows an expression -/

/-- What may come after an expression in a place of precedence `p`: the end, a closing parenthesis, or an
operator that binds less. -/
def Follows (p : Nat) (r : List Char) : Prop :=
  ∀ c ∈ r.head?, c = ')' ∨ ∃ op : Op, op.precedence < p ∧ op.symbol = c

theorem Follows.nil (p : Nat) : Follows p [] := by
  intro c hc
  cases hc

theorem Follows.close (p : Nat) (r : List Char) : Follows p (')' :: r) := by
  intro c hc
  exact .inl (Option.some.inj hc).symm

theorem Follows.symbol {p : Nat} {op : Op} (h : op.precedence < p) (r : List Char) :
    Follows p (op.symbol :: r) := by
  intro c hc
  exact .inr ⟨op, h, Option.some.inj hc⟩

theorem Follows.mono {p q : Nat} {r : List Char} (h : Follows p r) (hpq : p ≤ q) : Follows q r := by
  intro c hc
  exact (h c hc).imp_right fun ⟨op, hop, hs⟩ => ⟨op, Nat.lt_of_lt_of_le hop hpq, hs⟩

theorem Follows.stops {p : Nat} {r : List Char} (h : Follows p r) {accepts : Char → Bool}
    (hclose : accepts ')' = false) (hop : ∀ op : Op, op.precedence < p → accepts op.symbol = false) :
    Stops accepts r := by
  intro c hc
  rcases h c hc with rfl | ⟨op, hp, rfl⟩
  · exact hclose
  · exact hop op hp

theorem Follows.stops_whitespace {p : Nat} {r : List Char} (h : Follows p r) : Stops isWhitespace r :=
  h.stops (by decide) fun op _ => by cases op <;> decide

theorem Follows.stops_numeric {p : Nat} {r : List Char} (h : Follows p r) : Stops isNumeric r :=
  h.stops (by decide) fun op _ => by cases op <;> decide

theorem Blank.stops_numeric {w r : List Char} (hw : Blank w) (hr : Stops isNumeric r) :
    Stops isNumeric (w ++ r) := by
  cases w with
  | nil => exact hr
  | cons c w =>
    intro c' hc
    cases hc
    exact isNumeric_eq_false_of_isWhitespace (hw c List.mem_cons_self)

theorem Written.stops_whitespace {p : Nat} {e : Expr} {s : List Char} (h : Written p e s) (r : List Char) :
    Stops isWhitespace (s ++ r) := by
  induction h generalizing r with
  | @number p ds w hne hds _ =>
    obtain ⟨d, ds, rfl⟩ := List.exists_cons_of_ne_nil hne
    intro c hc
    cases hc
    exact isWhitespace_eq_false_of_isDigit (hds d List.mem_cons_self)
  | binary _ _ _ _ iha _ =>
    rw [List.append_assoc]
    exact iha _
  | parenthesised _ _ _ _ =>
    intro c hc
    cases hc
    decide

/-! ## Numbers in range -/

def ofInt (N : Type) [Numbers N] (n : Int) : N := literal (.ofInt n)

/-- Where no result leaves the range, the operations are those on the integers. -/
class LawfulNumbers (N : Type) [Numbers N] : Prop where
  apply_ofInt (op : Op) {m n : Int} : InRange m → InRange n → InRange (op.apply m n) →
    apply op (ofInt N m) (ofInt N n) = ofInt N (op.apply m n)

instance : LawfulNumbers Int64 where
  apply_ofInt op {m n} _ _ _ := by
    cases op with
    | add => exact (Int64.ofInt_add m n).symm
    | sub => exact (Int64.ofInt_sub m n).symm
    | mul => exact (Int64.ofInt_mul m n).symm

theorem InRange.toInt_ofInt {n : Int} (h : InRange n) : (Int64.ofInt n).toInt = n := by
  rw [← Int64.ofIntLE_eq_ofInt h.1 h.2]
  exact Int64.toInt_ofIntLE

instance : LawfulNumbers (Option Int64) where
  apply_ofInt op {m n} hm hn h := by
    simp only [ofInt, literal, apply, Option.bind_eq_bind, Option.bind_some, hm.toInt_ofInt, hn.toInt_ofInt, if_pos h]

theorem InRange.of_le {m n : Nat} (h : InRange n) (hmn : m ≤ n) : InRange m := by
  refine ⟨Int.le_trans (by decide) (Int.natCast_nonneg m), ?_⟩
  exact Int.le_trans (Int.ofNat_le.mpr hmn) h.2

theorem le_ofDigitChars (ds : List Char) (m : Nat) : m ≤ Nat.ofDigitChars 10 ds m := by
  induction ds generalizing m with
  | nil => exact Nat.le_refl m
  | cons d ds ih =>
    have hstep := ih (10 * m + (d.toNat - '0'.toNat))
    rw [Nat.ofDigitChars_cons]
    omega

section
variable {N : Type} [Numbers N] [LawfulNumbers N]

theorem appendDigit_ofInt {d : Char} (hd : d.isDigit = true) {m : Nat}
    (h : InRange (10 * m + (d.toNat - '0'.toNat) : Nat)) :
    appendDigit (ofInt N m) d = ofInt N (10 * m + (d.toNat - '0'.toNat) : Nat) := by
  have hdigit : (literal (Script.Value.digitValue d) : N) = ofInt N (d.toNat - '0'.toNat : Nat) := by
    rw [Script.Value.digitValue, if_pos hd, ofInt, Int64.ofInt_eq_ofNat]
  -- the number without the digit, ten times that, and the digit are at most the whole number
  have hm : InRange m := h.of_le (by omega)
  have hproduct : InRange (10 * m : Nat) := h.of_le (Nat.le_add_right _ _)
  have hk : InRange (d.toNat - '0'.toNat : Nat) := h.of_le (Nat.le_add_left _ _)
  have hmul : Op.mul.apply m 10 = (10 * m : Nat) := by
    rw [Nat.mul_comm]
    rfl
  calc apply .add (apply .mul (ofInt N m) (ofInt N 10)) (literal (Script.Value.digitValue d))
      = apply .add (ofInt N (10 * m : Nat)) (ofInt N (d.toNat - '0'.toNat : Nat)) := by
        rw [LawfulNumbers.apply_ofInt .mul hm (by decide) (hmul ▸ hproduct), hmul, hdigit]
    _ = ofInt N (10 * m + (d.toNat - '0'.toNat) : Nat) := LawfulNumbers.apply_ofInt .add hproduct hk h

theorem foldl_appendDigit (ds : List Char) (hds : ∀ d ∈ ds, d.isDigit = true) (m : Nat)
    (h : InRange (Nat.ofDigitChars 10 ds m)) :
    ds.foldl appendDigit (ofInt N m) = ofInt N (Nat.ofDigitChars 10 ds m) := by
  induction ds generalizing m with
  | nil => rfl
  | cons d ds ih =>
    obtain ⟨hd, hds⟩ := List.forall_mem_cons.mp hds
    rw [List.foldl_cons, appendDigit_ofInt hd (h.of_le (le_ofDigitChars ds _))]
    exact ih hds _ h

end

/-! ## Tokens -/

variable {N : Type} [Numbers N]

section
variable {w r : List Char}

theorem derives_blanks (hw : Blank w) (hr : Stops isWhitespace r) :
    Derives rules (Grammar.whitespace.many : Grammar F Char (Numeral N) NoCustom (List Char))
      (⟨w ++ r⟩ : Text) (.ok w ⟨r⟩) :=
  .many_satisfy hw rfl hr

theorem derives_token (c : Char) (hw : Blank w) (hr : Stops isWhitespace r) :
    Derives rules (token c : Grammar F Char (Numeral N) NoCustom Char) (⟨c :: (w ++ r)⟩ : Text) (.ok c ⟨r⟩) :=
  .seqLeft (.satisfy (r := (⟨w ++ r⟩ : Text)) rfl (beq_self_eq_true c)) (derives_blanks hw hr)

theorem derives_token_fail {c : Char} (hr : Stops (· == c) r) :
    Derives rules (token c : Grammar F Char (Numeral N) NoCustom Char) (⟨r⟩ : Text) .fail :=
  .seqLeft_fail (.satisfy_stop hr)

theorem derives_sign {op : Op} (hop : op.precedence = 0) (hw : Blank w) (hr : Stops isWhitespace r) :
    Derives rules (Grammar.firstOf [token '+', token '-'] : Grammar F Char (Numeral N) NoCustom Char)
      (⟨op.symbol :: (w ++ r)⟩ : Text) (.ok op.symbol ⟨r⟩) := by
  cases op with
  | add => exact .orElse_left (derives_token '+' hw hr)
  | sub =>
    refine .orElse_right (derives_token_fail fun c hc => ?_) (derives_token '-' hw hr)
    cases hc
    decide
  | mul => cases hop

theorem derives_number [LawfulNumbers N] {ds : List Char} (hne : ds ≠ []) (hds : ∀ d ∈ ds, d.isDigit = true)
    (hr : Stops isNumeric r) (h : InRange (Nat.ofDigitChars 10 ds 0)) :
    Derives rules (number : Grammar F Char (Numeral N) NoCustom N) (⟨ds ++ r⟩ : Text)
      (.ok (ofInt N (Nat.ofDigitChars 10 ds 0)) ⟨r⟩) := by
  rw [← foldl_appendDigit ds hds 0 h]
  refine .map (.many1 (.many_satisfy (fun d hd => ?_) rfl hr) hne)
  exact isNumeric_of_isDigit (hds d hd)

end

/-! ## Expressions -/

theorem chain_step {f : α → β → α} {g : Grammar F Char (Numeral N) NoCustom α}
    {h : Grammar F Char (Numeral N) NoCustom β} {s t w r : List Char} {c : Char} {a : α} {b : β}
    (hs : Chain rules f g h (⟨s ++ c :: (w ++ (t ++ r))⟩ : Text) ⟨c :: (w ++ (t ++ r))⟩ a)
    (hb : Derives rules h (⟨c :: (w ++ (t ++ r))⟩ : Text) (.ok b ⟨r⟩)) :
    Chain rules f g h (⟨s ++ c :: (w ++ t) ++ r⟩ : Text) ⟨r⟩ (f a b) := by
  have htext : s ++ c :: (w ++ t) ++ r = s ++ c :: (w ++ (t ++ r)) := by simp
  rw [htext]
  refine hs.step hb ?_
  simp only [Input.elements, List.length_cons, List.length_append]
  omega

/-- The text `s`, in a place of precedence `p`, is read as `v`, whatever follows it there. -/
def ReadAt (F : ErrorFamily) : Nat → List Char → N → Prop
  | 0, s, v => ∀ r, Follows 1 r →
    Chain rules addUp (term : Grammar F Char (Numeral N) NoCustom N) summand (⟨s ++ r⟩ : Text) ⟨r⟩ v
  | 1, s, v => ∀ r, Follows 2 r →
    Chain rules (apply .mul) (atom : Grammar F Char (Numeral N) NoCustom N) factor (⟨s ++ r⟩ : Text) ⟨r⟩ v
  | _ + 2, s, v => ∀ r, Follows 2 r →
    Derives rules (atom : Grammar F Char (Numeral N) NoCustom N) (⟨s ++ r⟩ : Text) (.ok v ⟨r⟩)

namespace ReadAt

variable {s r : List Char} {v : N}

theorem derives_term (h : ReadAt F 1 s v) (hr : Follows 1 r) :
    Derives rules (term : Grammar F Char (Numeral N) NoCustom N) (⟨s ++ r⟩ : Text) (.ok v ⟨r⟩) := by
  refine (h r (hr.mono (by decide))).derives (.seqRight_fail (derives_token_fail ?_))
  exact hr.stops (by decide) fun op hp => by cases op <;> first | decide | exact absurd hp (by decide)

theorem derives_expression (h : ReadAt F 0 s v) (hr : Follows 0 r) :
    Derives rules (expression : Grammar F Char (Numeral N) NoCustom N) (⟨s ++ r⟩ : Text) (.ok v ⟨r⟩) := by
  refine (h r (hr.mono (by decide))).derives (.pair_fail (.orElse_right ?_ ?_))
  · exact derives_token_fail (hr.stops (by decide) fun op hp => absurd hp (Nat.not_lt_zero _))
  · exact derives_token_fail (hr.stops (by decide) fun op hp => absurd hp (Nat.not_lt_zero _))

theorem zero_of_one (h : ReadAt F 1 s v) : ReadAt F 0 s v := fun _ hr => .start (h.derives_term hr)

theorem one_of_two (h : ReadAt F 2 s v) : ReadAt F 1 s v := fun r hr => .start (h r hr)

theorem of_two (h : ReadAt F 2 s v) : ∀ p, ReadAt F p s v
  | 0 => h.one_of_two.zero_of_one
  | 1 => h.one_of_two
  | _ + 2 => h

theorem of_one (h : ReadAt F 1 s v) {p : Nat} (hp : p ≤ 1) : ReadAt F p s v := by
  match p, hp with
  | 0, _ => exact h.zero_of_one
  | 1, _ => exact h

variable {t w : List Char} {m n : N}

theorem mul (ha : ReadAt F 1 s m) (hw : Blank w) (ht : ∀ r, Stops isWhitespace (t ++ r))
    (hb : ReadAt F 2 t n) : ReadAt F 1 (s ++ '*' :: (w ++ t)) (apply .mul m n) := by
  intro r hr
  have hfactor : Derives rules (factor : Grammar F Char (Numeral N) NoCustom N)
      (⟨'*' :: (w ++ (t ++ r))⟩ : Text) (.ok n ⟨r⟩) :=
    .seqRight (derives_token '*' hw (ht r)) (hb r hr)
  have hs := ha ('*' :: (w ++ (t ++ r))) (Follows.symbol (show Op.mul.precedence < 2 by decide) _)
  exact chain_step hs hfactor

theorem sum {op : Op} (hop : op.precedence = 0) (ha : ReadAt F 0 s m) (hw : Blank w)
    (ht : ∀ r, Stops isWhitespace (t ++ r)) (hb : ReadAt F 1 t n) :
    ReadAt F 0 (s ++ op.symbol :: (w ++ t)) (addUp m (op.symbol, n)) := by
  intro r hr
  have hsummand : Derives rules (summand : Grammar F Char (Numeral N) NoCustom (Char × N))
      (⟨op.symbol :: (w ++ (t ++ r))⟩ : Text) (.ok (op.symbol, n) ⟨r⟩) :=
    .pair (derives_sign hop hw (ht r)) (hb.derives_term hr)
  have hs := ha (op.symbol :: (w ++ (t ++ r))) (Follows.symbol (by omega) _)
  exact chain_step hs hsummand

end ReadAt

theorem Expr.Fits.inRange {e : Expr} (h : e.Fits) : InRange e.value := by
  cases e with
  | number n => exact h
  | binary op a b => exact h.2.2

theorem Written.readAt [LawfulNumbers N] {p : Nat} {e : Expr} {s : List Char} (h : Written p e s) (he : e.Fits) :
    ReadAt F p s (ofInt N e.value) := by
  induction h with
  | @number p ds w hne hds hw =>
    refine ReadAt.of_two (fun r hr => ?_) p
    rw [Expr.value, List.append_assoc]
    have hnumber := derives_number (F := F) (N := N) hne hds (hw.stops_numeric hr.stops_numeric) he
    exact .orElse_left (hnumber.seqLeft (derives_blanks hw hr.stops_whitespace))
  | @binary p op a b s t w hp _ hw hb iha ihb =>
    obtain ⟨ha, hb', hop⟩ := he
    rw [Expr.value, ← LawfulNumbers.apply_ofInt op ha.inRange hb'.inRange hop]
    cases op with
    | add =>
      obtain rfl : p = 0 := Nat.le_zero.mp hp
      exact (iha ha).sum rfl hw hb.stops_whitespace (ihb hb')
    | sub =>
      obtain rfl : p = 0 := Nat.le_zero.mp hp
      exact (iha ha).sum rfl hw hb.stops_whitespace (ihb hb')
    | mul => exact ((iha ha).mul hw hb.stops_whitespace (ihb hb')).of_one hp
  | @parenthesised p e s w w' hw hs hw' ih =>
    refine ReadAt.of_two (fun r hr => ?_) p
    have htext : '(' :: (w ++ (s ++ ')' :: w')) ++ r = '(' :: (w ++ (s ++ ')' :: (w' ++ r))) := by simp
    rw [htext]
    refine .orElse_right ?_ ?_
    · -- a parenthesis is no digit, so the other alternative is tried
      refine .seqLeft_fail (.map_fail (.many1_fail (.satisfy_stop fun c hc => ?_)))
      cases hc
      decide
    · have hinner := (ih he).derives_expression (Follows.close 0 (w' ++ r))
      exact .between (derives_token '(' hw (hs.stops_whitespace _)) (.rule hinner)
        (derives_token ')' hw' hr.stops_whitespace)

/-- **Evaluation.** A text that writes an expression is read to its end, and the value is the value of the
expression, if no number and no result in it leaves the range of the values. Checking every result comes to the
same, so no operation on the way leaves the range either. -/
theorem evaluates {e : Expr} {s : String} (hs : Written 0 e s.toList) (he : e.Fits) :
    ∃ v : Int64, (full : Grammar F Char (Numeral Int64) NoCustom Int64).Returns rules (Text.ofString s)
        (.ok (.success v (Text.ofString ""))) ∧ v.toInt = e.value ∧
      (full : Grammar F Char (Numeral (Option Int64)) NoCustom (Option Int64)).Returns rules (Text.ofString s)
        (.ok (.success (some v) (Text.ofString ""))) := by
  have hfull : ∀ (N : Type) [Numbers N] [LawfulNumbers N],
      (full : Grammar F Char (Numeral N) NoCustom N).Returns rules (Text.ofString s)
        (.ok (.success (ofInt N e.value) (Text.ofString ""))) := by
    intro N _ _
    have hexpression := (hs.readAt (F := F) (N := N) he).derives_expression (Follows.nil 0)
    rw [List.append_nil] at hexpression
    have heof : Derives rules (full : Grammar F Char (Numeral N) NoCustom N) (Text.ofString s)
        (.ok (ofInt N e.value) (Text.ofString "")) :=
      hexpression.seqLeft (.eof rfl)
    exact Grammar.returns_success.mpr heof.reaches
  exact ⟨.ofInt e.value, hfull Int64, he.inRange.toInt_ofInt, hfull (Option Int64)⟩

def difference : Expr :=
  .binary .sub (.binary .sub (.number 10) (.binary .mul (.number 4) (.binary .add (.number 3) (.number 1))))
    (.number 2)

theorem written_difference : Written 0 difference "10 - 4*(3+ 1)-  ((2))\t".toList := by
  have hdigit : ∀ (p : Nat) (d : Char), d.isDigit = true →
      Written p (.number (Nat.ofDigitChars 10 [d] 0)) [d] :=
    fun p d hd => @Written.number p [d] [] (List.cons_ne_nil _ _) (List.forall_mem_singleton.mpr hd) .nil
  have hten : Written 0 (.number 10) "10 ".toList :=
    @Written.number 0 ['1', '0'] [' '] (List.cons_ne_nil _ _) (List.all_eq_true.mp rfl) (by decide)
  have hsum : Written 0 (.binary .add (.number 3) (.number 1)) "3+ 1".toList :=
    @Written.binary 0 .add _ _ ['3'] ['1'] [' '] (by decide) (hdigit 0 '3' rfl) (by decide) (hdigit 1 '1' rfl)
  have hproduct : Written 1 (.binary .mul (.number 4) (.binary .add (.number 3) (.number 1)))
      "4*(3+ 1)".toList :=
    @Written.binary 1 .mul _ _ ['4'] "(3+ 1)".toList [] (by decide) (hdigit 1 '4' rfl) .nil
      (.parenthesised .nil hsum .nil)
  have htwo : Written 1 (.number 2) "((2))\t".toList :=
    @Written.parenthesised 1 _ "(2)".toList [] ['\t'] .nil (.parenthesised .nil (hdigit 0 '2' rfl) .nil)
      (by decide)
  exact @Written.binary 0 .sub _ _ "10 - 4*(3+ 1)".toList "((2))\t".toList [' ', ' '] (by decide)
    (@Written.binary 0 .sub _ _ "10 ".toList "4*(3+ 1)".toList [' '] (by decide) hten (by decide) hproduct)
    (by decide) htwo

theorem evaluates_difference :
    Written 0 difference "10 - 4*(3+ 1)-  ((2))\t".toList ∧ difference.Fits ∧
      ∃ v : Int64, (full : Grammar .none Char (Numeral Int64) NoCustom Int64).Returns rules
          (Text.ofString "10 - 4*(3+ 1)-  ((2))\t") (.ok (.success v (Text.ofString ""))) ∧ v.toInt = -8 ∧
        (full : Grammar .none Char (Numeral (Option Int64)) NoCustom (Option Int64)).Returns rules
          (Text.ofString "10 - 4*(3+ 1)-  ((2))\t") (.ok (.success (some v) (Text.ofString ""))) := by
  have hfits : difference.Fits := by decide
  exact ⟨written_difference, hfits, evaluates written_difference hfits⟩

end Arithmetic

end Parsing
