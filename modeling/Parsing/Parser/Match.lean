import Parsing.Input.Basic
import Parsing.Parser.Basic

/-!
# Matching elements

The parsers that look at the input. A matcher reports that the input ended, or what it found in the
place of what it expected. Elements are compared by their own `==`, which need not be identity:
`element` gives the element of the input, `elements` the ones that were asked for.
-/

namespace Parsing

/-- What `x` leaves after `tokens`. Otherwise the first element that differs, or none if the input
ends before one does. -/
def Input.strip {ι ε : Type} [Input ι ε] [BEq ε] : List ε → ι → Except (Option ε) ι
  | [], x => .ok x
  | t :: ts, x =>
    match first? x with
    | some e => if e == t then strip ts (rest x) else .error (some e)
    | none => .error none

namespace Parser

open Input

variable {F : ErrorFamily} {ι ε ν : Type} [Input ι ε] [Describe ε]

def satisfy (accepts : ε → Bool) (expected : String) : Parser F ι ε ν :=
  ⟨fun x =>
    match first? x with
    | some e =>
      if accepts e then .success e (rest x)
      else .failure (.mismatch (.unexpected expected (describe e)))
    | none => .failure (.mismatch (.endOfInput expected))⟩

def anyElement : Parser F ι ε ν := satisfy (fun _ => true) "any element"

def eof : Parser F ι Unit ν :=
  ⟨fun x =>
    match first? x with
    | some e => .failure (.mismatch (.unexpected "end of input" (describe e)))
    | none => .success () x⟩

variable [BEq ε]

/-- An element equal to `token`; gives the element of the input. -/
def element (token : ε) : Parser F ι ε ν := satisfy (· == token) (describe token)

def elementOr (token : ε) (error : ParseError F) : Parser F ι ε ν :=
  ⟨fun x =>
    match first? x with
    | some e => if e == token then .success e (rest x) else .failure error
    | none => .failure error⟩

/-- Elements equal to `tokens`, one after the other; gives `tokens`. -/
def elements (tokens : List ε) : Parser F ι (List ε) ν :=
  ⟨fun x =>
    match strip tokens x with
    | .ok r => .success tokens r
    | .error found? => .failure (.mismatch (.of (describe tokens) found?))⟩

def elementsOr (tokens : List ε) (error : ParseError F) : Parser F ι (List ε) ν :=
  ⟨fun x =>
    match strip tokens x with
    | .ok r => .success tokens r
    | .error _ => .failure error⟩

def slice (tokens : List ε) (expected : String) : Parser F ι (List ε) ν :=
  ⟨fun x =>
    let found := (Input.elements x).take tokens.length
    if found == tokens then .success found (drop tokens.length x)
    else
      let differing := (found.zip tokens).find? fun p => p.1 != p.2
      .failure (.mismatch (.of expected (differing.map Prod.fst)))⟩

end Parser

end Parsing
