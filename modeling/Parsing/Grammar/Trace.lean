import Parsing.Grammar.Meaning

/-!
# Traced parsers

The parser of a grammar in which a rule reports that it is entered, and on what input, and a repetition
how many times it ran its parser. It is put together by the same operations as the parser of the grammar,
and only its notes differ.
-/

namespace Parsing

inductive Step (ρ ι : Type)
  | entered (r : ρ) (x : ι)
  | lap
  | repeated (laps : Nat)

variable {F : ErrorFamily} {ι ε ρ α : Type} {τ : ρ → Type}

def Event.isLap : Event F (Step ρ ι) → Bool
  | .note .lap => true
  | _ => false

namespace Run

/-- The run with its laps counted in place of one note for each. -/
def counted (s : Run F ι α (Step ρ ι)) : Run F ι α (Step ρ ι) :=
  ⟨s.log.filter (!·.isLap) ++ [.note (.repeated (s.log.countP Event.isLap))], s.result⟩

end Run

namespace Parser

def counted (p : Parser F ι α (Step ρ ι)) : Parser F ι α (Step ρ ι) := ⟨fun x => (p.run x).counted⟩

def manyNoted [Input ι ε] (p : Parser F ι α (Step ρ ι)) : Parser F ι (List α) (Step ρ ι) :=
  (p.noted fun _ => .lap).many

end Parser

variable [Input ι ε] [BEq ε] [Describe ε]

def Grammar.traced (rules : (r : ρ) → Parser F ι (τ r) (Step ρ ι)) :
    {α : Type} → Grammar F ε τ NoCustom α → Parser F ι α (Step ρ ι)
  | _, .pure v => .pure v
  | _, .fail e => .fail e
  | _, .satisfy accepts expected => .satisfy accepts expected
  | _, .elementOr token error => .elementOr token error
  | _, .elements tokens => .elements tokens
  | _, .elementsOr tokens error => .elementsOr tokens error
  | _, .slice tokens expected => .slice tokens expected
  | _, .eof => .eof
  | _, .map f g => (g.traced rules).map f
  | _, .bind g next => (g.traced rules).bind fun v => (next v).traced rules
  | _, .validate check g => (g.traced rules).validate check
  | _, .mapError f g => (g.traced rules).mapError f
  | _, .orElse g h => (g.traced rules).orElse (h.traced rules)
  | _, .many g => (g.traced rules).manyNoted.counted
  | _, .delay g => .delay fun _ => (g ()).traced rules
  | _, .rule r => (Parser.delay fun _ => rules r).noted (.entered r)

def Rules.tracedAt (R : Rules F ε τ NoCustom) : Nat → (r : ρ) → Parser F ι (τ r) (Step ρ ι)
  | 0, _ => .fault .tooDeep
  | n + 1, r => (R r).traced (Rules.tracedAt R n)

def Grammar.tracedAt (R : Rules F ε τ NoCustom) (n : Nat) (g : Grammar F ε τ NoCustom α) :
    Parser F ι α (Step ρ ι) :=
  g.traced (R.tracedAt n)

end Parsing
