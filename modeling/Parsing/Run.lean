import Parsing.Event
import Parsing.Fault
import Parsing.Outcome

/-!
# Runs

A run of a parser on an input: the events it reports, in order, and what it comes to. The
operations below are the ways in which one run follows another. None of them goes on after a fault.
-/

namespace Parsing

structure Run (F : ErrorFamily) (ι α : Type) (ν : Type := String) where
  log : List (Event F ν)
  result : Except Fault (Outcome F ι α)

namespace Run

variable {F : ErrorFamily} {ι κ α β ν : Type}

def success (value : α) (rest : ι) : Run F ι α ν := ⟨[], .ok (.success value rest)⟩

def failure (error : ParseError F) : Run F ι α ν := ⟨[], .ok (.failure error)⟩

def fault (f : Fault) : Run F ι α ν := ⟨[], .error f⟩

def after (log : List (Event F ν)) (s : Run F ι α ν) : Run F ι α ν := ⟨log ++ s.log, s.result⟩

def mapOutcome (f : Outcome F ι α → Outcome F κ β) (s : Run F ι α ν) : Run F κ β ν :=
  ⟨s.log, s.result.map f⟩

def andThen (s : Run F ι α ν) (next : α → ι → Run F κ β ν) : Run F κ β ν :=
  match s.result with
  | .ok (.success v r) => (next v r).after s.log
  | .ok (.failure e) => ⟨s.log, .ok (.failure e)⟩
  | .error f => ⟨s.log, .error f⟩

def recover (s : Run F ι α ν) (next : ParseError F → Run F ι α ν) : Run F ι α ν :=
  match s.result with
  | .ok (.success v r) => ⟨s.log, .ok (.success v r)⟩
  | .ok (.failure e) => (next e).after s.log
  | .error f => ⟨s.log, .error f⟩

end Run

end Parsing
