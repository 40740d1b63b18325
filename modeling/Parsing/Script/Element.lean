import Parsing.Script.Value

/-!
# Elements as values
-/

namespace Parsing.Script

/-- Elements that scripts can read. Each is a value, and some values are elements. -/
class Element (ε : Type) extends BEq ε, Describe ε where
  toValue : ε → Value
  ofValue? : Value → Option ε
  /-- Whether the elements are characters, so that the matchers for characters apply. -/
  chars? : Option (PLift (Char = ε)) := none

instance : Element Char where
  toValue := .char
  ofValue?
    | .char c => some c
    | _ => none
  chars? := some ⟨rfl⟩

instance : Element Int64 where
  toValue := .int
  ofValue?
    | .int n => some n
    | _ => none

instance : Element String where
  toValue := .string
  ofValue?
    | .string s => some s
    | _ => none

instance : Element Flonum where
  toValue := .float
  ofValue?
    | .float x => some x
    | _ => none

instance : Element Token where
  toValue := .token
  ofValue?
    | .token t => some t
    | _ => none

instance : Element Caseless where
  toValue := .caseless
  ofValue?
    | .caseless w => some w
    | _ => none

end Parsing.Script
