import Parsing.Character.Alphabetic
import Parsing.Character.Numeric
import Parsing.Character.Whitespace
import Parsing.Script.Value

/-!
# Conditions on values
-/

namespace Parsing.Script

inductive Condition
  | always (answer : Bool)
  | not (c : Condition)
  | all (cs : List Condition)
  | any (cs : List Condition)
  | equals (v : Value)
  | oneOf (vs : List Value)
  | reads (text : String)
  | countLess (n : Int)
  | countMore (n : Int)
  | countIs (n : Int)
  | less (n : Int)
  | greater (n : Int)
  | even
  | alphabetic
  | numeric
  | whitespace
  | inRange (first last : Char)
  | ident
  | num
  | sym

namespace Condition

/-- A condition on integers, characters or tokens does not hold of any other value. -/
def holdsOfInt (test : Int → Bool) : Value → Bool
  | .int n => test n.toInt
  | _ => false

@[inherit_doc holdsOfInt] def holdsOfChar (test : Char → Bool) : Value → Bool
  | .char c => test c
  | _ => false

@[inherit_doc holdsOfInt] def holdsOfToken (test : Token → Bool) : Value → Bool
  | .token t => test t
  | _ => false

mutual
def holds : Condition → Value → Bool
  | always answer, _ => answer
  | not c, v => !holds c v
  | all cs, v => allHold cs v
  | any cs, v => anyHolds cs v
  | equals w, v => v == w
  | oneOf ws, v => ws.any fun w => v == w
  | reads text, v => v.concat == text
  | countLess n, v => v.count < n
  | countMore n, v => n < v.count
  | countIs n, v => v.count == n
  | less n, v => holdsOfInt (· < n) v
  | greater n, v => holdsOfInt (n < ·) v
  | even, v => holdsOfInt (· % 2 == 0) v
  | alphabetic, v => holdsOfChar isAlphabetic v
  | numeric, v => holdsOfChar isNumeric v
  | whitespace, v => holdsOfChar isWhitespace v
  | inRange first last, v => holdsOfChar (fun c => first ≤ c && c ≤ last) v
  | ident, v => holdsOfToken (· matches .ident _) v
  | num, v => holdsOfToken (· matches .num _) v
  | sym, v => holdsOfToken (· matches .sym _) v
def allHold : List Condition → Value → Bool
  | [], _ => true
  | c :: cs, v => holds c v && allHold cs v
def anyHolds : List Condition → Value → Bool
  | [], _ => false
  | c :: cs, v => holds c v || anyHolds cs v
end

end Condition

end Parsing.Script
