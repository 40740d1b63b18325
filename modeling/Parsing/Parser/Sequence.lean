import Parsing.Parser.Basic

/-!
# Sequences

Each parser runs on what the one before it left.
-/

namespace Parsing

namespace Parser

variable {F : ErrorFamily} {ι α β γ ν : Type}

def pair (p : Parser F ι α ν) (q : Parser F ι β ν) : Parser F ι (α × β) ν :=
  p.bind fun a => q.map fun b => (a, b)

def seqLeft (p : Parser F ι α ν) (q : Parser F ι β ν) : Parser F ι α ν := (p.pair q).map Prod.fst

def seqRight (p : Parser F ι α ν) (q : Parser F ι β ν) : Parser F ι β ν := p.bind fun _ => q

def between (opening : Parser F ι α ν) (p : Parser F ι β ν) (closing : Parser F ι γ ν) : Parser F ι β ν :=
  (opening.seqRight p).seqLeft closing

end Parser

end Parsing
