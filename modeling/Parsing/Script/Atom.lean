import Parsing.Describe

/-!
# Kinds of elements

The elements, besides characters, integers and strings, that a script can read. Their equality is
not always identity: floating point numbers and caseless words compare by rules of their own.
-/

namespace Parsing.Script

inductive Flonum
  | zero
  | negZero
  | threeHalves
  | fiveHalves
  | nan
  | infinity
  | negInfinity
deriving DecidableEq

namespace Flonum

def all : List Flonum := [zero, negZero, threeHalves, fiveHalves, nan, infinity, negInfinity]

def text : Flonum → String
  | zero => "0.0"
  | negZero => "-0.0"
  | threeHalves => "1.5"
  | fiveHalves => "2.5"
  | nan => "NaN"
  | infinity => "inf"
  | negInfinity => "-inf"

def ofText? (s : String) : Option Flonum := all.find? fun x => x.text == s

instance : Describe Flonum := ⟨text⟩

/-- NaN differs from itself, and the two zeros are equal. -/
def same : Flonum → Flonum → Bool
  | nan, _ => false
  | zero, negZero => true
  | negZero, zero => true
  | x, y => decide (x = y)

instance : BEq Flonum := ⟨same⟩

end Flonum

inductive Token
  | ident (name : String)
  | num (value : Int64)
  | sym (c : Char)
  | eof
deriving DecidableEq

instance : Describe Token where
  describe
    | .ident name => "Ident(" ++ describe name ++ ")"
    | .num n => "Num(" ++ describe n ++ ")"
    | .sym c => "Sym(" ++ describe c ++ ")"
    | .eof => "Eof"

/-- A word in which ASCII letters count alike in both cases. -/
structure Caseless where
  text : String

namespace Caseless

def same (a b : Caseless) : Bool := a.text.toList.map Char.toLower == b.text.toList.map Char.toLower

instance : BEq Caseless := ⟨same⟩

instance : Describe Caseless := ⟨fun w => "Ci(" ++ describe w.text ++ ")"⟩

end Caseless

end Parsing.Script
