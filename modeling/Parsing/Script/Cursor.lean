import Parsing.Input.Basic

/-!
# Walking through an input

A cursor stands in an input and remembers the places it was told to save, the last one first.
-/

namespace Parsing.Script

structure Cursor (ι : Type) where
  current : ι
  saved : List ι := []

inductive Move
  | first
  | rest
  | size
  | isEmpty
  | save
  | restore

inductive Sight (ι ε : Type)
  | element (e : Option ε)
  | place (x : ι)
  | number (n : Nat)
  | truth (b : Bool)

namespace Cursor

variable {ι ε : Type} [Input ι ε]

/-- A move answers and may go on. There is no answer to restoring a place that was not saved. -/
def move (c : Cursor ι) : Move → Option (Sight ι ε × Cursor ι)
  | .first => some (.element (Input.first? c.current), c)
  | .rest => some (.place (Input.rest c.current), { c with current := Input.rest c.current })
  | .size => some (.number (Input.size c.current), c)
  | .isEmpty => some (.truth (Input.isEmpty c.current), c)
  | .save => some (.number (c.saved.length + 1), { c with saved := c.current :: c.saved })
  | .restore =>
    match c.saved with
    | [] => none
    | x :: xs => some (.place x, ⟨x, xs⟩)

def moves (c : Cursor ι) : List Move → Option (List (Sight ι ε))
  | [] => some []
  | m :: ms =>
    match c.move m with
    | none => none
    | some (a, c) => (c.moves ms).map (a :: ·)

end Cursor

end Parsing.Script
