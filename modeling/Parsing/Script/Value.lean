import Parsing.Script.Atom

/-!
# Values of scripts

Every parser of a script yields a `Value`. Values compare part by part, elements by their own
equality. A character and a string of one character are different values.
-/

namespace Parsing.Script

inductive Value
  | unit
  | bool (b : Bool)
  | int (n : Int64)
  | string (s : String)
  | char (c : Char)
  | float (x : Flonum)
  | token (t : Token)
  | caseless (w : Caseless)
  | list (items : List Value)
  | pair (fst snd : Value)

namespace Value

mutual
def same : Value → Value → Bool
  | unit, unit => true
  | bool a, bool b => a == b
  | int a, int b => a == b
  | string a, string b => a == b
  | char a, char b => a == b
  | float a, float b => a == b
  | token a, token b => a == b
  | caseless a, caseless b => a == b
  | list a, list b => sameAll a b
  | pair a a', pair b b' => same a b && same a' b'
  | _, _ => false
def sameAll : List Value → List Value → Bool
  | [], [] => true
  | a :: as, b :: bs => same a b && sameAll as bs
  | _, _ => false
end

instance : BEq Value := ⟨same⟩

mutual
def text : Value → String
  | unit => "()"
  | bool b => describe b
  | int n => describe n
  | string s => describe s
  | char c => describe c
  | float x => describe x
  | token t => describe t
  | caseless w => describe w
  | list items => listed (texts items)
  | pair a b => "(" ++ text a ++ ", " ++ text b ++ ")"
def texts : List Value → List String
  | [] => []
  | v :: vs => text v :: texts vs
end

instance : Describe Value := ⟨text⟩

mutual
def concat : Value → String
  | unit => ""
  | bool b => describe b
  | int n => describe n
  | string s => s
  | char c => c.toString
  | float x => x.text
  | token (.ident name) => name
  | token (.num n) => describe n
  | token (.sym c) => c.toString
  | token .eof => ""
  | caseless w => w.text
  | list items => concatAll items
  | pair a b => concat a ++ concat b
def concatAll : List Value → String
  | [] => ""
  | v :: vs => concat v ++ concatAll vs
end

def count : Value → Nat
  | string s => s.length
  | list items => items.length
  | char _ => 1
  | pair _ _ => 2
  | _ => 0

/-- What the ASCII digit `c` counts. Any other character counts nothing. -/
def digitValue (c : Char) : Int64 := if c.isDigit then .ofNat (c.toNat - '0'.toNat) else 0

def number (v : Value) : Int64 := v.concat.toList.foldl (fun n c => n * 10 + digitValue c) 0

def times : Value → Int
  | int n => n.toInt
  | v => v.number.toInt

end Value

end Parsing.Script
