import Parsing.Script.Elaboration

/-!
# Sessions

A session is a sequence of steps: binding a name to the grammar of a phrase, running a phrase on an
input, and looking at the results that were kept. What the runs report is collected in one log.
-/

namespace Parsing.Script

/-- How deep a run may go into rules within rules. -/
def depthLimit : Nat := 100000

abbrev Result (ι : Type) := Except Fault (Outcome errorFamily ι Value)

structure Comparison where
  outcome : Bool
  value : Bool
  error : Bool
  whole : Bool

def agree {α β : Type} [BEq α] [BEq β] : Except α β → Except α β → Bool
  | .ok a, .ok b => a == b
  | .error a, .error b => a == b
  | _, _ => false

def Comparison.of {ι : Type} [BEq ι] (a b : Outcome errorFamily ι Value) : Comparison where
  outcome := a == b
  value := agree a.value b.value
  error := agree a.error b.error
  whole := agree a.toExcept b.toExcept

inductive Step (ι ε : Type)
  | bind (name : String) (p : Phrase ι ε)
  | parse (p : Phrase ι ε) (x : ι) (keep : Option String)
  | compare (a b : String)
  | inspect (slot : String)
  | describeParser (p : Phrase ι ε)

inductive Answer (ι : Type)
  | bound
  | result (r : Result ι)
  | comparison (c : Comparison)
  | faulted
  | inspection (r : Result ι)
  | description (text : String)

inductive StepError
  | name (error : NameError)
  | emptySlot (slot : String)

structure Session (ι ε : Type) where
  scope : Scope ι ε
  slots : List (String × Result ι) := []
  log : List (Event errorFamily) := []

namespace Session

variable {ι ε : Type}

def start (rules : List (String × Phrase ι ε)) : Session ι ε := { scope := ⟨[], rules⟩ }

def slot (s : Session ι ε) (name : String) : Except StepError (Result ι) :=
  match s.slots.lookup name with
  | some r => .ok r
  | none => .error (.emptySlot name)

variable [Input ι ε] [Element ε]

def parser (s : Session ι ε) (g : ScriptGrammar ι ε) : Parser errorFamily ι Value :=
  g.parserAt s.scope.ruleTable depthLimit

def bind (s : Session ι ε) (name : String) (g : ScriptGrammar ι ε) : Session ι ε :=
  { s with scope := { s.scope with bindings := (name, g) :: s.scope.bindings } }

def keep (s : Session ι ε) (slot : Option String) (r : Run errorFamily ι Value) : Session ι ε :=
  { s with
    slots := (slot.toList.map fun name => (name, r.result)) ++ s.slots
    log := s.log ++ r.log }

variable [BEq ι]

def step (s : Session ι ε) : Step ι ε → Except StepError (Answer ι × Session ι ε)
  | .bind name p =>
    match p.grammar s.scope with
    | .ok g => .ok (.bound, s.bind name g)
    | .error e => .error (.name e)
  | .parse p x slot =>
    match p.grammar s.scope with
    | .ok g =>
      let r := (s.parser g).run x
      .ok (.result r.result, s.keep slot r)
    | .error e => .error (.name e)
  | .compare a b =>
    match s.slot a, s.slot b with
    | .ok (.ok a), .ok (.ok b) => .ok (.comparison (.of a b), s)
    | .ok _, .ok _ => .ok (.faulted, s)
    | .error e, _ => .error e
    | _, .error e => .error e
  | .inspect name =>
    match s.slot name with
    | .ok r => .ok (.inspection r, s)
    | .error e => .error e
  | .describeParser p =>
    match p.grammar s.scope with
    | .ok g => .ok (.description (describe (s.parser g)), s)
    | .error e => .error (.name e)

def steps (s : Session ι ε) : List (Step ι ε) → Except StepError (List (Answer ι) × Session ι ε)
  | [] => .ok ([], s)
  | t :: ts =>
    match s.step t with
    | .error e => .error e
    | .ok (a, s) =>
      match s.steps ts with
      | .error e => .error e
      | .ok (as, s) => .ok (a :: as, s)

end Session

end Parsing.Script
