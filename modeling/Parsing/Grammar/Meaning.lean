import Parsing.Grammar.Basic
import Parsing.Parser.Choice
import Parsing.Parser.Repeat
import Parsing.Parser.Text

/-!
# The parser of a grammar

A grammar means a parser once its rules have parsers. `Rules.parserAt n` gives every rule the parser
of its own grammar, to a depth of `n` rules within rules; what lies deeper is the fault `tooDeep`.
The derived operations of grammars mean the operations of parsers of the same name.
-/

namespace Parsing

class CustomParser (F : ErrorFamily) (ι : Type) (π : Type → Type) where
  toParser : {α : Type} → π α → Parser F ι α

instance (F : ErrorFamily) (ι : Type) : CustomParser F ι NoCustom := ⟨nofun⟩

abbrev AnyParser (F : ErrorFamily) (ι α : Type) : Type := Parser F ι α

instance (F : ErrorFamily) (ι : Type) : CustomParser F ι (AnyParser F ι) := ⟨id⟩

variable {F : ErrorFamily} {ι κ ε ρ : Type} {τ : ρ → Type} {π : Type → Type} {α β γ : Type}
variable [Input ι ε] [BEq ε] [Describe ε] [CustomParser F ι π]

/-- The parser of a grammar whose rules have the parsers `rules`. A reference to a rule is followed
only when it is run. -/
def Grammar.toParser (rules : (r : ρ) → Parser F ι (τ r)) :
    {α : Type} → Grammar F ε τ π α → Parser F ι α
  | _, .pure v => .pure v
  | _, .fail e => .fail e
  | _, .satisfy accepts expected => .satisfy accepts expected
  | _, .elementOr token error => .elementOr token error
  | _, .elements tokens => .elements tokens
  | _, .elementsOr tokens error => .elementsOr tokens error
  | _, .slice tokens expected => .slice tokens expected
  | _, .eof => .eof
  | _, .map f g => (g.toParser rules).map f
  | _, .bind g next => (g.toParser rules).bind fun v => (next v).toParser rules
  | _, .validate check g => (g.toParser rules).validate check
  | _, .mapError f g => (g.toParser rules).mapError f
  | _, .orElse g h => (g.toParser rules).orElse (h.toParser rules)
  | _, .many g => (g.toParser rules).many
  | _, .delay g => .delay fun _ => (g ()).toParser rules
  | _, .rule r => .delay fun _ => rules r
  | _, .custom p => CustomParser.toParser p

def Rules.parserAt (R : Rules F ε τ π) : Nat → (r : ρ) → Parser F ι (τ r)
  | 0, _ => .fault .tooDeep
  | n + 1, r => (R r).toParser (Rules.parserAt R n)

/-- The parser of `g` under the rules `R`, to a depth of `n` rules within rules. -/
def Grammar.parserAt (R : Rules F ε τ π) (n : Nat) (g : Grammar F ε τ π α) : Parser F ι α :=
  g.toParser (R.parserAt n)

namespace Grammar

variable (rules : (r : ρ) → Parser F ι (τ r))

theorem toParser_element (token : ε) :
    (element token : Grammar F ε τ π ε).toParser rules = .element token := rfl

theorem toParser_orFail (g : Grammar F ε τ π α) (e : ParseError F) :
    (g.orFail e).toParser rules = (g.toParser rules).orFail e := rfl

theorem toParser_pair (g : Grammar F ε τ π α) (h : Grammar F ε τ π β) :
    (g.pair h).toParser rules = (g.toParser rules).pair (h.toParser rules) := rfl

theorem toParser_seqLeft (g : Grammar F ε τ π α) (h : Grammar F ε τ π β) :
    (g.seqLeft h).toParser rules = (g.toParser rules).seqLeft (h.toParser rules) := rfl

theorem toParser_seqRight (g : Grammar F ε τ π α) (h : Grammar F ε τ π β) :
    (g.seqRight h).toParser rules = (g.toParser rules).seqRight (h.toParser rules) := rfl

theorem toParser_between (o : Grammar F ε τ π α) (g : Grammar F ε τ π β) (c : Grammar F ε τ π γ) :
    (between o g c).toParser rules = .between (o.toParser rules) (g.toParser rules) (c.toParser rules) := rfl

theorem toParser_many1 (g : Grammar F ε τ π α) :
    g.many1.toParser rules = (g.toParser rules).many1 := rfl

theorem toParser_sepBy1 (g : Grammar F ε τ π α) (s : Grammar F ε τ π β) :
    (g.sepBy1 s).toParser rules = (g.toParser rules).sepBy1 (s.toParser rules) := rfl

theorem toParser_firstOf (gs : List (Grammar F ε τ π α)) :
    (firstOf gs).toParser rules = .firstOf (gs.map (toParser rules)) := by
  cases gs with
  | nil => rfl
  | cons g gs =>
    simp only [firstOf, Parser.firstOf, List.map_cons]
    induction gs generalizing g with
    | nil => rfl
    | cons h gs ih => exact ih (g.orElse h)

section
variable [Input κ Char] [CustomParser F κ π] (rules : (r : ρ) → Parser F κ (τ r))

theorem toParser_char (c : Char) :
    (char c : Grammar F Char τ π Char).toParser rules = .char c := rfl

theorem toParser_string (s : String) :
    (string s : Grammar F Char τ π String).toParser rules = .string s := rfl

end

end Grammar

end Parsing
