import Parsing.Fault
import Parsing.Script.Condition
import Parsing.Script.Error
import Parsing.Script.Transform

/-!
# Phrases

Grammars written as data: no functions occur in them. A phrase reads elements of type `ε` from
inputs of type `ι`. It can name a grammar that was bound before it, and a rule.
-/

namespace Parsing.Script

inductive CharMatcher
  | char (c : Char)
  | string (s : String)
  | anyChar
  | digit
  | letter
  | whitespace

mutual
inductive Phrase (ι ε : Type)
  | name (n : String)
  | pure (v : Value)
  | fail (error : Error)
  | fault (f : Fault)
  | anyElement
  | eof
  | satisfy (c : Condition) (expected : String)
  | element (token : ε)
  | elementOr (token : ε) (error : Error)
  | elements (tokens : List ε)
  | elementsOr (tokens : List ε) (error : Error)
  | chars (m : CharMatcher)
  | peek
  | remaining
  | goto (x : ι)
  | noted (name : String) (p : Phrase ι ε)
  | map (f : Transform) (p : Phrase ι ε)
  | bind (p : Phrase ι ε) (next : Continuation ι ε)
  /-- Fails with the error of the first entry whose condition holds of the value. -/
  | validate (reject : List (Condition × Error)) (p : Phrase ι ε)
  | mapError (f : ErrorTransform) (p : Phrase ι ε)
  | orFail (p : Phrase ι ε) (error : Error)
  | many (p : Phrase ι ε)
  | many1 (p : Phrase ι ε)
  | orElse (p q : Phrase ι ε)
  | firstOf (ps : List (Phrase ι ε))
  | pair (p q : Phrase ι ε)
  | seqLeft (p q : Phrase ι ε)
  | seqRight (p q : Phrase ι ε)
  | sequence (ps : List (Phrase ι ε))
  | between (opening p closing : Phrase ι ε)
  | sepBy1 (item separator : Phrase ι ε)
  | rule (n : String)

inductive Continuation (ι ε : Type)
  | const (p : Phrase ι ε)
  | pure
  | fail
  | same
  | sameAll
  | pair (p : Phrase ι ε)
  /-- Runs `p` as often as the value says, at most a thousand times. -/
  | times (p : Phrase ι ε)
  /-- Repeats `p`, which has to match as often as the value says. -/
  | exactly (p : Phrase ι ε)
  | choose (c : Condition) (p : Phrase ι ε) (otherwise : Continuation ι ε)
end

end Parsing.Script
