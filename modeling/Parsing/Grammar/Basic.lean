import Parsing.Character.Alphabetic
import Parsing.Character.Numeric
import Parsing.Character.Whitespace
import Parsing.Error

/-!
# Grammars

Parsers as syntax. A grammar is put together by the same operations as a parser, and it can name
rules: `ρ` is the type of the names and `τ r` the type of the values of rule `r`. A rule table gives
every name a grammar, so rules may refer to each other and to themselves. Parsers that the user wrote
come in as members of a family `π`; a grammar over `NoCustom` has none, and reads any input whose
elements are `ε`.
-/

namespace Parsing

inductive Grammar (F : ErrorFamily) (ε : Type) {ρ : Type} (τ : ρ → Type) (π : Type → Type) :
    Type → Type 1
  | pure {α : Type} (value : α) : Grammar F ε τ π α
  | fail {α : Type} (error : ParseError F) : Grammar F ε τ π α
  | satisfy (accepts : ε → Bool) (expected : String) : Grammar F ε τ π ε
  | elementOr (token : ε) (error : ParseError F) : Grammar F ε τ π ε
  | elements (tokens : List ε) : Grammar F ε τ π (List ε)
  | elementsOr (tokens : List ε) (error : ParseError F) : Grammar F ε τ π (List ε)
  | slice (tokens : List ε) (expected : String) : Grammar F ε τ π (List ε)
  | eof : Grammar F ε τ π Unit
  | map {α β : Type} (f : α → β) (g : Grammar F ε τ π α) : Grammar F ε τ π β
  | bind {α β : Type} (g : Grammar F ε τ π α) (next : α → Grammar F ε τ π β) : Grammar F ε τ π β
  | validate {α : Type} (check : α → Option (ParseError F)) (g : Grammar F ε τ π α) :
    Grammar F ε τ π α
  | mapError {α : Type} (f : ParseError F → ParseError F) (g : Grammar F ε τ π α) :
    Grammar F ε τ π α
  | orElse {α : Type} (g h : Grammar F ε τ π α) : Grammar F ε τ π α
  | many {α : Type} (g : Grammar F ε τ π α) : Grammar F ε τ π (List α)
  | delay {α : Type} (g : Unit → Grammar F ε τ π α) : Grammar F ε τ π α
  | rule (r : ρ) : Grammar F ε τ π (τ r)
  | custom {α : Type} (p : π α) : Grammar F ε τ π α

inductive NoCustom (α : Type) : Type

abbrev Rules (F : ErrorFamily) (ε : Type) {ρ : Type} (τ : ρ → Type) (π : Type → Type) : Type 1 :=
  (r : ρ) → Grammar F ε τ π (τ r)

namespace Grammar

variable {F : ErrorFamily} {ε ρ : Type} {τ : ρ → Type} {π : Type → Type} {α β γ : Type}

def failMessage (message : String) : Grammar F ε τ π α := fail (.generic message)

def orFail (g : Grammar F ε τ π α) (error : ParseError F) : Grammar F ε τ π α :=
  g.mapError fun _ => error

def anyElement : Grammar F ε τ π ε := satisfy (fun _ => true) "any element"

def element [BEq ε] [Describe ε] (token : ε) : Grammar F ε τ π ε :=
  satisfy (· == token) (describe token)

def firstOf : List (Grammar F ε τ π α) → Grammar F ε τ π α
  | [] => failMessage "no alternatives to choose from"
  | g :: gs => gs.foldl orElse g

theorem firstOf_cons_cons (g h : Grammar F ε τ π α) (gs : List (Grammar F ε τ π α)) :
    firstOf (g :: h :: gs) = firstOf (g.orElse h :: gs) := rfl

theorem firstOf_induction {P : Grammar F ε τ π α → Prop} (hfail : ∀ e, P (fail e))
    (horElse : ∀ g h, P g → P h → P (g.orElse h)) {gs : List (Grammar F ε τ π α)} (hgs : ∀ g ∈ gs, P g) :
    P (firstOf gs) := by
  cases gs with
  | nil => exact hfail _
  | cons g gs =>
    induction gs generalizing g with
    | nil => exact hgs g (List.mem_singleton.mpr rfl)
    | cons h gs ih =>
      obtain ⟨hg, hgs⟩ := List.forall_mem_cons.mp hgs
      obtain ⟨hh, hgs⟩ := List.forall_mem_cons.mp hgs
      rw [firstOf_cons_cons]
      exact ih (g.orElse h) (List.forall_mem_cons.mpr ⟨horElse g h hg hh, hgs⟩)

def pair (g : Grammar F ε τ π α) (h : Grammar F ε τ π β) : Grammar F ε τ π (α × β) :=
  g.bind fun a => h.map fun b => (a, b)

def seqLeft (g : Grammar F ε τ π α) (h : Grammar F ε τ π β) : Grammar F ε τ π α :=
  (g.pair h).map Prod.fst

def seqRight (g : Grammar F ε τ π α) (h : Grammar F ε τ π β) : Grammar F ε τ π β := g.bind fun _ => h

def between (opening : Grammar F ε τ π α) (g : Grammar F ε τ π β) (closing : Grammar F ε τ π γ) :
    Grammar F ε τ π β :=
  (opening.seqRight g).seqLeft closing

def many1 (g : Grammar F ε τ π α) : Grammar F ε τ π (List α) :=
  g.many.validate fun vs => if vs.isEmpty then some (.generic "expected at least one match") else none

def sepBy1 (item : Grammar F ε τ π α) (separator : Grammar F ε τ π β) : Grammar F ε τ π (List α) :=
  (item.pair (separator.seqRight item).many).map fun p => p.1 :: p.2

/-! ## Characters -/

def char (c : Char) : Grammar F Char τ π Char := element c

def anyChar : Grammar F Char τ π Char := satisfy (fun _ => true) "any character"

def digit : Grammar F Char τ π Char := satisfy isNumeric "digit"

def letter : Grammar F Char τ π Char := satisfy isAlphabetic "letter"

def whitespace : Grammar F Char τ π Char := satisfy isWhitespace "whitespace"

def string (s : String) : Grammar F Char τ π String := (slice s.toList (describe s)).map String.ofList

end Grammar

end Parsing
