import Parsing.Parser.Basic

/-!
# Ordered choice

The second alternative is tried only where the first fails, and on the same input.
-/

namespace Parsing

namespace Parser

variable {F : ErrorFamily} {ι α ν : Type}

def orElse (p q : Parser F ι α ν) : Parser F ι α ν :=
  ⟨fun x => (p.run x).recover fun e => (q.run x).after [.abandoned e]⟩

/-- The alternatives in order, grouped from the left. -/
def firstOf : List (Parser F ι α ν) → Parser F ι α ν
  | [] => failMessage "no alternatives to choose from"
  | p :: ps => ps.foldl orElse p

end Parser

end Parsing
