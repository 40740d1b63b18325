import Parsing.Error

/-!
# Errors of scripts

Scripts bring two kinds of errors along. Both have a code and a note. Errors of the kind `code` are
equal when their codes are, those of the kind `payload` when their notes are equal too.
-/

namespace Parsing.Script

inductive ErrorKind
  | code
  | payload
deriving DecidableEq

structure Coded where
  code : UInt64
  note : String
deriving DecidableEq

def ErrorKind.name : ErrorKind → String
  | code => "code"
  | payload => "payload"

def ErrorKind.label : ErrorKind → String
  | code => "CodeError"
  | payload => "PayloadError"

def errorFamily : ErrorFamily where
  Kind := ErrorKind
  Payload _ := Coded
  code p := p.code
  message {k} p := k.name ++ " " ++ toString p.code ++ ": " ++ p.note
  describe {k} p :=
    k.label ++ " \x7b code: " ++ toString p.code ++ ", note: " ++ describe p.note ++ " \x7d"
  samePayload {k} p q :=
    match k with
    | .code => true
    | .payload => p == q

abbrev Error := ParseError errorFamily

inductive ErrorTransform
  | keep
  | prepend (text : String)
  | describe
  | code
  | ifCode (code : UInt64) (error : Error)
  | ifMismatch (error : Error)
  | ifEqual (target error : Error)

def ErrorTransform.apply : ErrorTransform → Error → Error
  | keep, e => e
  | prepend text, e => .generic (text ++ e.message)
  | describe, e => .generic (Parsing.describe e)
  | code, e => .custom .code ⟨e.code, e.message⟩
  | ifCode n error, e => if e.code == n then error else e
  | ifMismatch error, e => if e.isMismatch then error else e
  | ifEqual target error, e => if e == target then error else e

end Parsing.Script
