import Parsing.Grammar.Meaning

/-!
# Watched parsers

The parser of a grammar in which every parser, at every depth, reports that it starts and how it ends.
It is put together by the same operations as the parser of the grammar, and only its notes differ.
-/

namespace Parsing

/-- What is seen of a watched run beside the events of the library. -/
inductive Sighting (F : ErrorFamily)
  | started
  | finished (fault? : Option Fault)
  | reported (e : Event F)

variable {F : ErrorFamily} {ι ε ρ α ν : Type} {τ : ρ → Type} {π : Type → Type}

def Event.unwatched : Event F (Sighting F) → List (Event F)
  | .abandoned e => [.abandoned e]
  | .stalled n => [.stalled n]
  | .note (.reported e) => [e]
  | .note _ => []

namespace Run

def fault? (s : Run F ι α ν) : Option Fault :=
  match s.result with
  | .ok _ => none
  | .error f => some f

def unwatched (s : Run F ι α (Sighting F)) : Run F ι α := ⟨s.log.flatMap Event.unwatched, s.result⟩

end Run

namespace Parser

def watched (p : Parser F ι α (Sighting F)) : Parser F ι α (Sighting F) :=
  ⟨fun x =>
    let s := p.run x
    ⟨.note .started :: s.log ++ [.note (.finished s.fault?)], s.result⟩⟩

/-- A parser of the user's. What it does inside is not seen. -/
def reported (p : Parser F ι α) : Parser F ι α (Sighting F) :=
  ⟨fun x => ⟨(p.run x).log.map fun e => .note (.reported e), (p.run x).result⟩⟩

def unwatched (p : Parser F ι α (Sighting F)) : Parser F ι α := ⟨fun x => (p.run x).unwatched⟩

end Parser

variable [Input ι ε] [BEq ε] [Describe ε] [CustomParser F ι π]

def Grammar.watched (rules : (r : ρ) → Parser F ι (τ r) (Sighting F)) :
    {α : Type} → Grammar F ε τ π α → Parser F ι α (Sighting F)
  | _, .pure v => (Parser.pure v).watched
  | _, .fail e => (Parser.fail e).watched
  | _, .satisfy accepts expected => (Parser.satisfy accepts expected).watched
  | _, .elementOr token error => (Parser.elementOr token error).watched
  | _, .elements tokens => (Parser.elements tokens).watched
  | _, .elementsOr tokens error => (Parser.elementsOr tokens error).watched
  | _, .slice tokens expected => (Parser.slice tokens expected).watched
  | _, .eof => Parser.eof.watched
  | _, .map f g => ((g.watched rules).map f).watched
  | _, .bind g next => ((g.watched rules).bind fun v => (next v).watched rules).watched
  | _, .validate check g => ((g.watched rules).validate check).watched
  | _, .mapError f g => ((g.watched rules).mapError f).watched
  | _, .orElse g h => ((g.watched rules).orElse (h.watched rules)).watched
  | _, .many g => (g.watched rules).many.watched
  | _, .delay g => (Parser.delay fun _ => (g ()).watched rules).watched
  | _, .rule r => (Parser.delay fun _ => rules r).watched
  | _, .custom p => (CustomParser.toParser p : Parser F ι _).reported.watched

def Rules.watchedAt (R : Rules F ε τ π) : Nat → (r : ρ) → Parser F ι (τ r) (Sighting F)
  | 0, _ => .fault .tooDeep
  | n + 1, r => (R r).watched (Rules.watchedAt R n)

def Grammar.watchedAt (R : Rules F ε τ π) (n : Nat) (g : Grammar F ε τ π α) : Parser F ι α (Sighting F) :=
  g.watched (R.watchedAt n)

end Parsing
