import Parsing.Error

/-!
# Events of a run
-/

namespace Parsing

/-- What a run reports while it goes on. Parsers that the user wrote report notes of type `ν`. -/
inductive Event (F : ErrorFamily) (ν : Type := String)
  /-- An alternative failed with `error`, and the next one is about to be tried. -/
  | abandoned (error : ParseError F)
  /-- A repetition ends in a fault: its parser consumed nothing, after `count` matches that did. -/
  | stalled (count : Nat)
  | note (remark : ν)

namespace Event

variable {F : ErrorFamily}

def text : Event F → String
  | abandoned e => "alternative failed (" ++ e.message ++ "), trying the next one"
  | stalled n => "repetition stopped: zero-width match after " ++ toString n ++ " matches"
  | note s => s

end Event

end Parsing
