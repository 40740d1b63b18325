import Parsing.Describe

/-!
# Errors of a failed match

An error is a plain message, a mismatch between what was expected and what was found, or an error
of a kind that the user of the library brings along in an `ErrorFamily`. Every error has a code, a
message and a description. Two errors are equal when they are of one kind, with the same code and
the same payload, where each kind of the family decides which payloads count as the same.
-/

namespace Parsing

structure ErrorFamily where
  Kind : Type
  Payload : Kind → Type
  [decEqKind : DecidableEq Kind]
  code : {k : Kind} → Payload k → UInt64
  message : {k : Kind} → Payload k → String
  describe : {k : Kind} → Payload k → String
  samePayload : {k : Kind} → Payload k → Payload k → Bool

attribute [instance] ErrorFamily.decEqKind

def ErrorFamily.none : ErrorFamily where
  Kind := Empty
  Payload := nofun
  code {k} := nomatch k
  message {k} := nomatch k
  describe {k} := nomatch k
  samePayload {k} := nomatch k

/-- What a primitive matcher reports: the input ended, or an element was found that was not expected.
Both texts are descriptions. -/
inductive MatchError
  | endOfInput (expected : String)
  | unexpected (expected found : String)
deriving DecidableEq

namespace MatchError

def of {ε : Type} [Describe ε] (expected : String) (found? : Option ε) : MatchError :=
  match found? with
  | some found => .unexpected expected (Parsing.describe found)
  | none => .endOfInput expected

def code : MatchError → UInt64
  | .endOfInput _ => 1
  | .unexpected _ _ => 2

def message : MatchError → String
  | .endOfInput expected => "expected " ++ expected ++ ", but reached end of input"
  | .unexpected expected found => "expected " ++ expected ++ ", found " ++ found

instance : Describe MatchError where
  describe
    | .endOfInput expected => "EndOfInput \x7b expected: " ++ describe expected ++ " \x7d"
    | .unexpected expected found =>
      "Unexpected \x7b expected: " ++ describe expected ++ ", found: " ++ describe found ++ " \x7d"

end MatchError

inductive ParseError (F : ErrorFamily)
  | generic (message : String)
  | mismatch (error : MatchError)
  | custom (kind : F.Kind) (payload : F.Payload kind)

namespace ParseError

variable {F : ErrorFamily}

def code : ParseError F → UInt64
  | generic _ => 0
  | mismatch e => e.code
  | custom _ p => F.code p

def message : ParseError F → String
  | generic m => m
  | mismatch e => e.message
  | custom _ p => F.message p

instance : Describe (ParseError F) where
  describe
    | generic m => "GenericError \x7b message: " ++ describe m ++ " \x7d"
    | mismatch e => describe e
    | custom _ p => F.describe p

def same : ParseError F → ParseError F → Bool
  | generic m, generic m' => m == m'
  | mismatch e, mismatch e' => e == e'
  | custom k p, custom k' p' =>
    if h : k = k' then F.code p == F.code p' && F.samePayload (h ▸ p) p' else false
  | _, _ => false

instance : BEq (ParseError F) := ⟨same⟩

def isMismatch : ParseError F → Bool
  | mismatch _ => true
  | _ => false

end ParseError

end Parsing
