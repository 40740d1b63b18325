import Parsing.Grammar.Basic

/-!
# Nesting

Small grammars with rules that refer to themselves and to each other.
-/

namespace Parsing

variable {F : ErrorFamily}

def nested {F : ErrorFamily} {π : Type → Type} : Rules F Char (fun _ : Unit => Char) π := fun _ =>
  (((Grammar.char '(').seqRight (.rule ())).seqLeft (.char ')')).orElse .digit

/-- The same with the rule written out a second time, and the digit delayed. -/
def nestedTwice {F : ErrorFamily} {π : Type → Type} : Grammar F Char (fun _ : Unit => Char) π Char :=
  (((Grammar.char '(').seqRight (nested ())).seqLeft (.char ')')).orElse (.delay fun _ => .digit)

def copied : Rules F Char (fun _ : Unit => List Char) NoCustom := fun _ =>
  .firstOf [((Grammar.char '(').pair ((Grammar.rule ()).pair (.char ')'))).map fun p => p.1 :: (p.2.1 ++ [p.2.2]),
    Grammar.digit.many1]

def copiedRow :
    Grammar F Char (fun _ : Unit => List Char) NoCustom (List (Char × Char) × List Char × List Char) :=
  (Grammar.digit.pair (.char ',')).many.pair (Grammar.digit.many.pair (.rule ()))

inductive Part
  | list
  | item

def Part.rank : Part → Nat
  | list => 1
  | item => 0

/-- Lists of digits and of lists in parentheses; the value is the number of the digits. -/
def lists : Rules F Char (fun _ : Part => Nat) NoCustom
  | .list => ((Grammar.rule .item).sepBy1 (.char ',')).map (List.foldl (· + ·) 0)
  | .item => (Grammar.between (.char '(') (.rule .list) (.char ')')).orElse (Grammar.digit.map fun _ => 1)

end Parsing
