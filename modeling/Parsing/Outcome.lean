import Parsing.Error

/-!
# Outcomes

A parser that comes to an end without a fault either succeeds, with a value and the rest of the
input, or fails with an error.
-/

namespace Parsing

inductive Outcome (F : ErrorFamily) (ι α : Type)
  | success (value : α) (rest : ι)
  | failure (error : ParseError F)

/-- What is wrong about asking a failure for its value, or a success for its error. -/
inductive Misuse (F : ErrorFamily)
  | notSuccess (error : ParseError F)
  | notFailed

namespace Misuse

variable {F : ErrorFamily}

def message : Misuse F → String
  | notSuccess e => "called \x60unwrap\x60 on a failed parse result: " ++ e.message
  | notFailed => "called \x60error\x60 on a successful parse result"

instance : Describe (Misuse F) where
  describe
    | notSuccess e => "NotSuccess(" ++ describe e ++ ")"
    | notFailed => "NotFailed"

instance : BEq (Misuse F) where
  beq
    | notSuccess e, notSuccess e' => e == e'
    | notFailed, notFailed => true
    | _, _ => false

end Misuse

namespace Outcome

variable {F : ErrorFamily} {ι α β : Type}

def isSuccess : Outcome F ι α → Bool
  | success _ _ => true
  | failure _ => false

def isFailure : Outcome F ι α → Bool
  | success _ _ => false
  | failure _ => true

def map (f : α → β) : Outcome F ι α → Outcome F ι β
  | success v r => success (f v) r
  | failure e => failure e

def mapRest {κ : Type} (f : ι → κ) : Outcome F ι α → Outcome F κ α
  | success v r => success v (f r)
  | failure e => failure e

def mapError (f : ParseError F → ParseError F) : Outcome F ι α → Outcome F ι α
  | success v r => success v r
  | failure e => failure (f e)

def validate (check : α → Option (ParseError F)) : Outcome F ι α → Outcome F ι α
  | success v r =>
    match check v with
    | none => success v r
    | some e => failure e
  | failure e => failure e

def value : Outcome F ι α → Except (Misuse F) α
  | success v _ => .ok v
  | failure e => .error (.notSuccess e)

def error : Outcome F ι α → Except (Misuse F) (ParseError F)
  | success _ _ => .error .notFailed
  | failure e => .ok e

def rest? : Outcome F ι α → Option ι
  | success _ r => some r
  | failure _ => none

def toExcept : Outcome F ι α → Except (ParseError F) (α × ι)
  | success v r => .ok (v, r)
  | failure e => .error e

instance [BEq ι] [BEq α] : BEq (Outcome F ι α) where
  beq
    | success v r, success v' r' => v == v' && r == r'
    | failure e, failure e' => e == e'
    | _, _ => false

instance [Describe ι] [Describe α] : Describe (Outcome F ι α) where
  describe
    | success v r => "Success \x7b result: " ++ describe v ++ ", rest: " ++ describe r ++ " \x7d"
    | failure e => "Fail(" ++ describe e ++ ")"

end Outcome

end Parsing
