import Parsing.Run

/-!
# Parsers

A parser is a function from inputs to runs. This module holds the parsers that do not look at the
input, and the layers that work on the outcome of one parser.
-/

namespace Parsing

structure Parser (F : ErrorFamily) (ι α : Type) (ν : Type := String) where
  run : ι → Run F ι α ν

namespace Parser

instance {F : ErrorFamily} {ι α ν : Type} : Describe (Parser F ι α ν) :=
  ⟨fun _ => "Parser \x7b run: \"<function>\" \x7d"⟩

variable {F : ErrorFamily} {ι α β ν : Type}

def pure (value : α) : Parser F ι α ν := ⟨fun x => .success value x⟩

def fail (error : ParseError F) : Parser F ι α ν := ⟨fun _ => .failure error⟩

def failMessage (message : String) : Parser F ι α ν := fail (.generic message)

def fault (f : Fault) : Parser F ι α ν := ⟨fun _ => .fault f⟩

def map (f : α → β) (p : Parser F ι α ν) : Parser F ι β ν := ⟨fun x => (p.run x).mapOutcome (.map f)⟩

def bind (p : Parser F ι α ν) (next : α → Parser F ι β ν) : Parser F ι β ν :=
  ⟨fun x => (p.run x).andThen fun v r => (next v).run r⟩

def validate (check : α → Option (ParseError F)) (p : Parser F ι α ν) : Parser F ι α ν :=
  ⟨fun x => (p.run x).mapOutcome (.validate check)⟩

def mapError (f : ParseError F → ParseError F) (p : Parser F ι α ν) : Parser F ι α ν :=
  ⟨fun x => (p.run x).mapOutcome (.mapError f)⟩

def orFail (p : Parser F ι α ν) (error : ParseError F) : Parser F ι α ν := p.mapError fun _ => error

def noted (remark : ι → ν) (p : Parser F ι α ν) : Parser F ι α ν :=
  ⟨fun x => (p.run x).after [.note (remark x)]⟩

/-- Builds the parser anew for each run, so that a parser can refer to itself. -/
def delay (p : Unit → Parser F ι α ν) : Parser F ι α ν := ⟨fun x => (p ()).run x⟩

end Parser

end Parsing
