import Parsing.Error

/-!
# Faults

A failed match is an ordinary answer, and another alternative may be tried after it. A fault is
not: it ends the whole parse. It says that the grammar itself is at odds with its input.
-/

namespace Parsing

/-- An error from outside that a parser ran into: its message and description, and, where it wraps
another error, that one. -/
inductive Cause
  | root (message description : String)
  | wrapping (message description : String) (source : Cause)
deriving DecidableEq

namespace Cause

def message : Cause → String
  | root m _ => m
  | wrapping m _ _ => m

def source? : Cause → Option Cause
  | root _ _ => none
  | wrapping _ _ source => some source

instance : Describe Cause where
  describe
    | root _ d => d
    | wrapping _ d _ => d

def ofError {F : ErrorFamily} (e : ParseError F) : Cause := .root e.message (describe e)

end Cause

inductive Fault
  | noProgress (count : Nat)
  | invariant (message : String)
  | custom (cause : Cause)
  /-- Rules were entered within rules beyond the limit of the run. -/
  | tooDeep
deriving DecidableEq

namespace Fault

def message : Fault → String
  | noProgress n =>
    "repeated parser succeeded without consuming input after " ++ toString n ++ " matches"
  | invariant m => "parser invariant violated: " ++ m
  | custom c => c.message
  | tooDeep => "rules nested too deeply"

def source? : Fault → Option Cause
  | custom c => c.source?
  | _ => none

instance : Describe Fault where
  describe
    | noProgress n => "NoProgress \x7b matches: " ++ toString n ++ " \x7d"
    | invariant m => "Invariant(" ++ describe m ++ ")"
    | custom c => "Custom(" ++ describe c ++ ")"
    | tooDeep => "TooDeep"

end Fault

end Parsing
