/-!
# Inputs

What a parser reads: a sequence of elements that is looked at and shortened from the front.
`elements` is the sequence itself. `size` measures how much is left; it need not count elements,
but it gets smaller with every element taken and reaches zero with the last.
-/

namespace Parsing

class Input (ι : Type) (ε : outParam Type) where
  elements : ι → List ε
  first? : ι → Option ε
  /-- What is left without the first element. An empty input stays empty. -/
  rest : ι → ι
  size : ι → Nat

namespace Input

variable {ι ε : Type} [Input ι ε]

def isEmpty (x : ι) : Bool := size x == 0

def drop : Nat → ι → ι
  | 0, x => x
  | n + 1, x => drop n (rest x)

end Input

instance {ε : Type} : Input (List ε) ε where
  elements := id
  first? := List.head?
  rest := List.tail
  size := List.length

end Parsing
