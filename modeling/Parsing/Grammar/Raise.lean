import Parsing.Grammar.Meaning

/-!
# Raised errors

The parser of a grammar in which every error is noted where it is raised, and where it is lost again. An
error is raised by a matcher that fails, by a check that rejects a value, and in the place of another error.
The parser is put together by the same operations as the parser of the grammar, and only its notes differ.
-/

namespace Parsing

inductive ErrorNote (F : ErrorFamily)
  | raised (error : ParseError F)
  /-- A repetition ends because its parser failed with `error`. -/
  | absorbed (error : ParseError F)
  /-- Another error is about to be raised in the place of `error`. -/
  | rewritten (error : ParseError F)
  | retried

variable {F : ErrorFamily} {ι ε ρ α ν : Type} {τ : ρ → Type}

namespace Parser

def noteFailure (remark : ParseError F → ν) (p : Parser F ι α ν) : Parser F ι α ν :=
  ⟨fun x => (p.run x).recover fun e => (Run.failure e).after [.note (remark e)]⟩

/-- The parser `p`, whose own failure raises an error. -/
def raising (p : Parser F ι α (ErrorNote F)) : Parser F ι α (ErrorNote F) := p.noteFailure .raised

end Parser

variable [Input ι ε] [BEq ε] [Describe ε]

def Grammar.raising (rules : (r : ρ) → Parser F ι (τ r) (ErrorNote F)) :
    {α : Type} → Grammar F ε τ NoCustom α → Parser F ι α (ErrorNote F)
  | _, .pure v => .pure v
  | _, .fail e => (Parser.fail e).raising
  | _, .satisfy accepts expected => (Parser.satisfy accepts expected).raising
  | _, .elementOr token error => (Parser.elementOr token error).raising
  | _, .elements tokens => (Parser.elements tokens).raising
  | _, .elementsOr tokens error => (Parser.elementsOr tokens error).raising
  | _, .slice tokens expected => (Parser.slice tokens expected).raising
  | _, .eof => Parser.eof.raising
  | _, .map f g => (g.raising rules).map f
  | _, .bind g next => (g.raising rules).bind fun v => (next v).raising rules
  | _, .validate check g => (g.raising rules).bind fun v => ((Parser.pure v).validate check).raising
  | _, .mapError f g => (((g.raising rules).noteFailure .rewritten).mapError f).raising
  | _, .orElse g h => (g.raising rules).orElse ((h.raising rules).noted fun _ => .retried)
  | _, .many g => ((g.raising rules).noteFailure .absorbed).many
  | _, .delay g => .delay fun _ => (g ()).raising rules
  | _, .rule r => .delay fun _ => rules r

def Rules.raisingAt (R : Rules F ε τ NoCustom) : Nat → (r : ρ) → Parser F ι (τ r) (ErrorNote F)
  | 0, _ => .fault .tooDeep
  | n + 1, r => (R r).raising (Rules.raisingAt R n)

def Grammar.raisingAt (R : Rules F ε τ NoCustom) (n : Nat) (g : Grammar F ε τ NoCustom α) :
    Parser F ι α (ErrorNote F) :=
  g.raising (R.raisingAt n)

end Parsing
