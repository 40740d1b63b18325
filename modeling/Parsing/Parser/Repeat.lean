import Parsing.Input.Basic
import Parsing.Parser.Sequence

/-!
# Repetition

`p.many` runs `p` again and again until it fails. Each match has to leave an input that is smaller
by `size`; one that does not would repeat for ever, and is a fault. This is also why the recursion
below ends.
-/

namespace Parsing

namespace Parser

open Input

variable {F : ErrorFamily} {ι ε α β ν : Type} [Input ι ε]

/-- The repetition from `x` on, after `count` matches. -/
def manyFrom (p : Parser F ι α ν) (count : Nat) (x : ι) : Run F ι (List α) ν :=
  let s := p.run x
  match s.result with
  | .ok (.success v r) =>
    if size r < size x then
      ((p.manyFrom (count + 1) r).mapOutcome (.map (v :: ·))).after s.log
    else ⟨s.log ++ [.stalled count], .error (.noProgress count)⟩
  | .ok (.failure _) => ⟨s.log, .ok (.success [] x)⟩
  | .error f => ⟨s.log, .error f⟩
termination_by size x

def many (p : Parser F ι α ν) : Parser F ι (List α) ν := ⟨p.manyFrom 0⟩

def many1 (p : Parser F ι α ν) : Parser F ι (List α) ν :=
  p.many.validate fun vs => if vs.isEmpty then some (.generic "expected at least one match") else none

/-- One or more of `item`, with a `separator` between two of them. A separator that no item follows
is left in the input. -/
def sepBy1 (item : Parser F ι α ν) (separator : Parser F ι β ν) : Parser F ι (List α) ν :=
  (item.pair (separator.seqRight item).many).map fun p => p.1 :: p.2

end Parser

end Parsing
