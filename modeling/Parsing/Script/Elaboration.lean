import Parsing.Grammar.Meaning
import Parsing.Script.Element
import Parsing.Script.Phrase

/-!
# The grammar of a phrase

Names are looked up when a phrase is turned into a grammar: a name stands for the grammar that it is
bound to at that moment, and a reference to a rule remembers how many names were bound, so that the
rule is read with these bindings whenever it is run.
-/

namespace Parsing.Script

/-- A rule, and the number of bindings that it is read with. -/
structure RuleRef where
  name : String
  visible : Nat

abbrev ruleValue : RuleRef → Type := fun _ => Value

abbrev GrammarOf (ι ε α : Type) : Type 1 := Grammar errorFamily ε ruleValue (AnyParser errorFamily ι) α

abbrev ScriptGrammar (ι ε : Type) : Type 1 := GrammarOf ι ε Value

structure Scope (ι ε : Type) where
  bindings : List (String × ScriptGrammar ι ε)
  rules : List (String × Phrase ι ε)

inductive NameError
  | unboundName (name : String)
  | unknownRule (name : String)
  /-- A matcher for characters stands where other elements are read. -/
  | notCharacters

def NameError.message : NameError → String
  | unboundName n => "unbound name " ++ n
  | unknownRule n => "unknown rule " ++ n
  | notCharacters => "a matcher for characters needs an input of characters"

namespace Scope

variable {ι ε : Type}

def lookup (s : Scope ι ε) (n : String) : Except NameError (ScriptGrammar ι ε) :=
  match s.bindings.lookup n with
  | some g => .ok g
  | none => .error (.unboundName n)

def lookupRule (s : Scope ι ε) (n : String) : Except NameError (Phrase ι ε) :=
  match s.rules.lookup n with
  | some p => .ok p
  | none => .error (.unknownRule n)

def ruleRef (s : Scope ι ε) (n : String) : RuleRef := ⟨n, s.bindings.length⟩

def first (s : Scope ι ε) (n : Nat) : Scope ι ε :=
  { s with bindings := s.bindings.drop (s.bindings.length - n) }

end Scope

namespace ScriptGrammar

variable {ι ε : Type}

def sequence (gs : List (ScriptGrammar ι ε)) : ScriptGrammar ι ε :=
  (collect gs).map .list
where
  collect : List (ScriptGrammar ι ε) → GrammarOf ι ε (List Value)
    | [] => .pure []
    | g :: gs => (g.pair (collect gs)).map fun p => p.1 :: p.2

end ScriptGrammar

section
variable {ι ε : Type} [Input ι ε] [Element ε]

open Element (toValue ofValue?)

def CharMatcher.grammar : CharMatcher → ScriptGrammar ι Char
  | char c => (Grammar.char c).map .char
  | string s => (Grammar.string s).map .string
  | anyChar => Grammar.anyChar.map .char
  | digit => Grammar.digit.map .char
  | letter => Grammar.letter.map .char
  | whitespace => Grammar.whitespace.map .char

def elementValue (g : GrammarOf ι ε ε) : ScriptGrammar ι ε :=
  g.map toValue

def elementValues (g : GrammarOf ι ε (List ε)) : ScriptGrammar ι ε :=
  g.map fun es => .list (es.map toValue)

def peek : Parser errorFamily ι Value :=
  ⟨fun x =>
    match Input.first? x with
    | some e => .success (toValue e) x
    | none => .failure (.mismatch (.endOfInput "peek"))⟩

def remaining : Parser errorFamily ι Value := ⟨fun x => .success (.int (.ofNat (Input.size x))) x⟩

def goto (y : ι) : Parser errorFamily ι Value := ⟨fun _ => .success .unit y⟩

def note (name : String) : AnyParser errorFamily ι Unit :=
  (Parser.pure ()).noted fun x => name ++ "@" ++ toString (Input.size x)

def rejection (reject : List (Condition × Error)) (v : Value) : Option Error :=
  (reject.find? fun r => r.1.holds v).map Prod.snd

def matchAgain (v : Value) : ScriptGrammar ι ε :=
  match (ofValue? v : Option ε) with
  | some e => elementValue (.element e)
  | none => .failMessage "not an element"

def matchAllAgain (v : Value) : ScriptGrammar ι ε :=
  match v with
  | .list items => elementValues (.elements (items.filterMap ofValue?))
  | _ => elementValues (.elements [])

def mostRepeats : Nat := 1000

/-- As many times `g` as `v` says, up to `mostRepeats`; not once if that is negative. -/
def repeated (v : Value) (g : ScriptGrammar ι ε) : ScriptGrammar ι ε :=
  .sequence (List.replicate (min v.times.toNat mostRepeats) g)

def exactly (v : Value) (g : ScriptGrammar ι ε) : ScriptGrammar ι ε :=
  (g.many.validate fun vs =>
    if vs.length == v.times then none else some (.generic "wrong count")).map .list

mutual
def Phrase.grammar (s : Scope ι ε) : Phrase ι ε → Except NameError (ScriptGrammar ι ε)
  | .name n => s.lookup n
  | .pure v => .ok (.pure v)
  | .fail e => .ok (.fail e)
  | .fault f => .ok (.custom (Parser.fault f))
  | .anyElement => .ok (elementValue .anyElement)
  | .eof => .ok (Grammar.eof.map fun _ => .unit)
  | .satisfy c expected => .ok (elementValue (.satisfy (fun e => c.holds (toValue e)) expected))
  | .element token => .ok (elementValue (.element token))
  | .elementOr token error => .ok (elementValue (.elementOr token error))
  | .elements tokens => .ok (elementValues (.elements tokens))
  | .elementsOr tokens error => .ok (elementValues (.elementsOr tokens error))
  | .chars m =>
    match (Element.chars? : Option (PLift (Char = ε))) with
    | some ⟨h⟩ => .ok (h ▸ m.grammar)
    | none => .error .notCharacters
  | .peek => .ok (.custom Script.peek)
  | .remaining => .ok (.custom Script.remaining)
  | .goto x => .ok (.custom (Script.goto x))
  | .noted name p => return (Grammar.custom (note name)).seqRight (← p.grammar s)
  | .map f p => return (← p.grammar s).map f.apply
  | .bind p next => return (← p.grammar s).bind (← next.grammar s)
  | .validate reject p => return (← p.grammar s).validate (rejection reject)
  | .mapError f p => return (← p.grammar s).mapError f.apply
  | .orFail p e => return (← p.grammar s).orFail e
  | .many p => return (← p.grammar s).many.map .list
  | .many1 p => return (← p.grammar s).many1.map .list
  | .orElse p q => return (← p.grammar s).orElse (← q.grammar s)
  | .firstOf ps => return .firstOf (← Phrase.grammars s ps)
  | .pair p q => return ((← p.grammar s).pair (← q.grammar s)).map fun v => .pair v.1 v.2
  | .seqLeft p q => return (← p.grammar s).seqLeft (← q.grammar s)
  | .seqRight p q => return (← p.grammar s).seqRight (← q.grammar s)
  | .sequence ps => return .sequence (← Phrase.grammars s ps)
  | .between o p c => return .between (← o.grammar s) (← p.grammar s) (← c.grammar s)
  | .sepBy1 item separator => return ((← item.grammar s).sepBy1 (← separator.grammar s)).map .list
  | .rule n => (s.lookupRule n).map fun _ => .rule (s.ruleRef n)
def Phrase.grammars (s : Scope ι ε) :
    List (Phrase ι ε) → Except NameError (List (ScriptGrammar ι ε))
  | [] => .ok []
  | p :: ps => return (← p.grammar s) :: (← Phrase.grammars s ps)
def Continuation.grammar (s : Scope ι ε) :
    Continuation ι ε → Except NameError (Value → ScriptGrammar ι ε)
  | .const p => return Function.const _ (← p.grammar s)
  | .pure => .ok .pure
  | .fail => .ok fun v => .failMessage v.concat
  | .same => .ok matchAgain
  | .sameAll => .ok matchAllAgain
  | .pair p => do
    let g ← p.grammar s
    return fun v => g.map (.pair v)
  | .times p => do
    let g ← p.grammar s
    return fun v => repeated v g
  | .exactly p => do
    let g ← p.grammar s
    return fun v => exactly v g
  | .choose c p otherwise => do
    let g ← p.grammar s
    let other ← otherwise.grammar s
    return fun v => if c.holds v then g else other v
end

/-- The grammars of the rules. A rule that cannot be read is a fault where it is run. -/
def Scope.ruleTable (s : Scope ι ε) : Rules errorFamily ε ruleValue (AnyParser errorFamily ι) := fun r =>
  match s.lookupRule r.name with
  | .error e => .custom (Parser.fault (.invariant e.message))
  | .ok p =>
    match p.grammar (s.first r.visible) with
    | .error e => .custom (Parser.fault (.invariant e.message))
    | .ok g => g

end

end Parsing.Script
