import Parsing.Grammar.Basic
import Parsing.Script.Value

/-!
# Arithmetic

Sums, differences and products of numbers and of expressions in parentheses, and the grammar that
evaluates them. Operators of one precedence group to the left. Whitespace may follow every number and
every symbol. The grammar computes with 64 bits, either wrapping around or checking every result.
-/

namespace Parsing

variable {F : ErrorFamily} {ε ρ α β : Type} {τ : ρ → Type} {π : Type → Type}

/-- A `g`, and then steps `h`, folded from the left. -/
def Grammar.chain (f : α → β → α) (g : Grammar F ε τ π α) (h : Grammar F ε τ π β) : Grammar F ε τ π α :=
  (g.pair h.many).map fun p => p.2.foldl f p.1

namespace Arithmetic

/-! ## Operators -/

inductive Op
  | add
  | sub
  | mul
deriving DecidableEq

namespace Op

def symbol : Op → Char
  | add => '+'
  | sub => '-'
  | mul => '*'

def precedence : Op → Nat
  | add => 0
  | sub => 0
  | mul => 1

def apply : Op → Int → Int → Int
  | add => (· + ·)
  | sub => (· - ·)
  | mul => (· * ·)

end Op

/-! ## Numbers -/

def InRange (n : Int) : Prop := Int64.minValue.toInt ≤ n ∧ n ≤ Int64.maxValue.toInt

instance (n : Int) : Decidable (InRange n) := inferInstanceAs (Decidable (_ ∧ _))

class Numbers (N : Type) where
  literal : Int64 → N
  apply : Op → N → N → N

instance : Numbers Int64 where
  literal := id
  apply
    | .add => (· + ·)
    | .sub => (· - ·)
    | .mul => (· * ·)

/-- No number comes of an operation whose result is out of range, nor of any operation on that. -/
instance : Numbers (Option Int64) where
  literal := some
  apply op a b := do
    let n := op.apply (← a).toInt (← b).toInt
    if InRange n then some (.ofInt n) else none

open Numbers (literal apply)

/-! ## The grammar -/

abbrev Numeral (N : Type) (_ : Unit) : Type := N

variable {N : Type} [Numbers N]

def appendDigit (n : N) (d : Char) : N :=
  apply .add (apply .mul n (literal 10)) (literal (Script.Value.digitValue d))

def number : Grammar F Char (Numeral N) π N := Grammar.digit.many1.map (List.foldl appendDigit (literal 0))

def token (c : Char) : Grammar F Char (Numeral N) π Char := (Grammar.char c).seqLeft Grammar.whitespace.many

def atom : Grammar F Char (Numeral N) π N :=
  (number.seqLeft Grammar.whitespace.many).orElse (.between (token '(') (.rule ()) (token ')'))

def factor : Grammar F Char (Numeral N) π N := (token '*').seqRight atom

def term : Grammar F Char (Numeral N) π N := .chain (apply .mul) atom factor

def summand : Grammar F Char (Numeral N) π (Char × N) := (Grammar.firstOf [token '+', token '-']).pair term

def addUp (n : N) (p : Char × N) : N := apply (if p.1 = '+' then .add else .sub) n p.2

def expression : Grammar F Char (Numeral N) π N := .chain addUp term summand

def full : Grammar F Char (Numeral N) π N := expression.seqLeft .eof

def rules : Rules F Char (Numeral N) π := fun _ => expression

/-! ## Expressions -/

inductive Expr
  | number (n : Nat)
  | binary (op : Op) (a b : Expr)

namespace Expr

def value : Expr → Int
  | number n => n
  | binary op a b => op.apply a.value b.value

/-- No number in the expression, and no result on the way to its value, leaves the signed 64-bit range. -/
def Fits : Expr → Prop
  | number n => InRange n
  | binary op a b => a.Fits ∧ b.Fits ∧ InRange (op.apply a.value b.value)

instance decidableFits : (e : Expr) → Decidable e.Fits
  | number n => inferInstanceAs (Decidable (InRange n))
  | binary op a b =>
    have := decidableFits a
    have := decidableFits b
    inferInstanceAs (Decidable (a.Fits ∧ b.Fits ∧ InRange (op.apply a.value b.value)))

end Expr

def Blank (w : List Char) : Prop := ∀ c ∈ w, isWhitespace c = true

instance (w : List Char) : Decidable (Blank w) :=
  decidable_of_iff (w.all isWhitespace = true) List.all_eq_true

/-- `Written p e s`: the text `s` writes `e` where operators of a precedence below `p` have to stand in
parentheses. Any expression may stand in them, and blanks may follow each number and each symbol. -/
inductive Written : Nat → Expr → List Char → Prop
  | number {p : Nat} {ds w : List Char} : ds ≠ [] → (∀ d ∈ ds, d.isDigit = true) → Blank w →
    Written p (.number (Nat.ofDigitChars 10 ds 0)) (ds ++ w)
  | binary {p : Nat} {op : Op} {a b : Expr} {s t w : List Char} : p ≤ op.precedence →
    Written op.precedence a s → Blank w → Written (op.precedence + 1) b t →
    Written p (.binary op a b) (s ++ op.symbol :: (w ++ t))
  | parenthesised {p : Nat} {e : Expr} {s w w' : List Char} : Blank w → Written 0 e s → Blank w' →
    Written p e ('(' :: (w ++ (s ++ ')' :: w')))

def Expr.render : Nat → Expr → List Char
  | _, number n => Nat.toDigits 10 n
  | p, binary op a b =>
    let s := a.render op.precedence ++ op.symbol :: b.render (op.precedence + 1)
    if p ≤ op.precedence then s else '(' :: (s ++ [')'])

end Arithmetic

end Parsing
