import Parsing.Grammar.Watch
import Parsing.Proofs.Translation

/-!
# The watch does not change a run

A watched run comes to the same result, and its log is the same once what only the watch reports is
taken out.
-/

namespace Parsing

variable {F : ErrorFamily} {ι ε ρ α β : Type} {τ : ρ → Type} {π : Type → Type}

def Sighting.told : Sighting F → List (Event F)
  | .reported e => [e]
  | _ => []

theorem Event.retold_told : Event.retold Sighting.told = Event.unwatched (F := F) := by
  funext e
  match e with
  | .abandoned _ => rfl
  | .stalled _ => rfl
  | .note .started => rfl
  | .note (.finished _) => rfl
  | .note (.reported _) => rfl

theorem Run.retold_id_told (s : Run F ι α (Sighting F)) : s.retold id Sighting.told = s.unwatched := by
  rw [retold_id, Event.retold_told, unwatched]

namespace Parser.RetoldBy

theorem watched {p : Parser F ι α (Sighting F)} {q : Parser F ι α} (h : RetoldBy id Sighting.told p q) :
    RetoldBy id Sighting.told p.watched q := by
  intro x
  rw [h x]
  simp only [Parser.watched, Run.retold, List.cons_append, List.flatMap_cons, List.flatMap_append,
    List.flatMap_nil, Event.retold, Sighting.told, List.nil_append, List.append_nil]

theorem reported (p : Parser F ι α) : RetoldBy id Sighting.told p.reported p := by
  intro x
  rw [Run.retold_id]
  simp only [Parser.reported, List.flatMap_map, Event.retold, Sighting.told, List.flatMap_singleton', id]

end Parser.RetoldBy

/-! ## Parsers that report nothing -/

namespace Parser

/-- A parser that comes to an outcome and reports nothing, whatever notes are taken. -/
def Quiet (p : (ν : Type) → Parser F ι α ν) : Prop := ∀ x, ∃ o, ∀ ν, (p ν).run x = ⟨[], .ok o⟩

theorem quiet_pure (v : α) : Quiet fun ν => (pure v : Parser F ι α ν) := fun _ => ⟨_, fun _ => rfl⟩

theorem quiet_fail (e : ParseError F) : Quiet fun ν => (fail e : Parser F ι α ν) :=
  fun _ => ⟨_, fun _ => rfl⟩

section
variable [Input ι ε] [Describe ε]

theorem quiet_satisfy (accepts : ε → Bool) (expected : String) :
    Quiet fun ν => (satisfy accepts expected : Parser F ι ε ν) := by
  intro x
  simp only [satisfy]
  cases Input.first? x with
  | none => exact ⟨_, fun _ => rfl⟩
  | some e => by_cases ha : accepts e <;> simp only [ha] <;> exact ⟨_, fun _ => rfl⟩

theorem quiet_eof : Quiet fun ν => (eof : Parser F ι Unit ν) := by
  intro x
  simp only [eof]
  cases Input.first? x <;> exact ⟨_, fun _ => rfl⟩

theorem quiet_elements [BEq ε] (tokens : List ε) :
    Quiet fun ν => (elements tokens : Parser F ι (List ε) ν) := by
  intro x
  simp only [elements]
  cases Input.strip tokens x <;> exact ⟨_, fun _ => rfl⟩

theorem quiet_slice [BEq ε] (tokens : List ε) (expected : String) :
    Quiet fun ν => (slice tokens expected : Parser F ι (List ε) ν) := by
  intro x
  simp only [slice]
  by_cases hm : (Input.elements x).take tokens.length == tokens <;> simp only [hm] <;>
    exact ⟨_, fun _ => rfl⟩

end

theorem quiet_elementOr [Input ι ε] [BEq ε] (token : ε) (error : ParseError F) :
    Quiet fun ν => (elementOr token error : Parser F ι ε ν) := by
  intro x
  simp only [elementOr]
  cases Input.first? x with
  | none => exact ⟨_, fun _ => rfl⟩
  | some e => by_cases ha : e == token <;> simp only [ha] <;> exact ⟨_, fun _ => rfl⟩

theorem quiet_elementsOr [Input ι ε] [BEq ε] (tokens : List ε) (error : ParseError F) :
    Quiet fun ν => (elementsOr tokens error : Parser F ι (List ε) ν) := by
  intro x
  simp only [elementsOr]
  cases Input.strip tokens x <;> exact ⟨_, fun _ => rfl⟩

end Parser

section
variable [Input ι ε] [BEq ε] [Describe ε] [CustomParser F ι π]

theorem Grammar.watched_retoldBy {rules : (r : ρ) → Parser F ι (τ r) (Sighting F)}
    {rules' : (r : ρ) → Parser F ι (τ r)} (hr : ∀ r, (rules r).RetoldBy id Sighting.told (rules' r))
    (g : Grammar F ε τ π α) : (g.watched rules).RetoldBy id Sighting.told (g.toParser rules') := by
  induction g with
  | pure v => exact .watched (.pure v)
  | fail e => exact .watched (.fail e)
  | satisfy accepts expected => exact .watched (.satisfy .id accepts expected)
  | elementOr token error => exact .watched (.elementOr .id token error)
  | elements tokens => exact .watched (.elements .id tokens)
  | elementsOr tokens error => exact .watched (.elementsOr .id tokens error)
  | slice tokens expected => exact .watched (.slice .id tokens expected)
  | eof => exact .watched (.eof .id)
  | map f _ ih => exact (ih.map f).watched
  | bind _ _ ih ihn => exact (ih.bind ihn).watched
  | validate check _ ih => exact (ih.validate check).watched
  | mapError f _ ih => exact (ih.mapError f).watched
  | orElse _ _ ih ihh => exact (ih.orElse ihh).watched
  | many _ ih => exact (ih.many fun _ _ _ _ => Iff.rfl).watched
  | delay g ih => exact .watched (p := .delay fun _ => (g ()).watched rules) (ih ())
  | rule r => exact .watched (p := .delay fun _ => rules r) (hr r)
  | custom p => exact (Parser.RetoldBy.reported _).watched

theorem Rules.watchedAt_retoldBy (R : Rules F ε τ π) (n : Nat) (r : ρ) :
    (R.watchedAt n r : Parser F ι (τ r) (Sighting F)).RetoldBy id Sighting.told (R.parserAt n r) := by
  induction n generalizing r with
  | zero => exact .fault .tooDeep
  | succ n ih => exact (R r).watched_retoldBy ih

theorem Grammar.unwatched_watchedAt (R : Rules F ε τ π) (n : Nat) (g : Grammar F ε τ π α) :
    (g.watchedAt R n : Parser F ι α (Sighting F)).unwatched = g.parserAt R n := by
  unfold Parser.unwatched
  congr 1
  funext x
  rw [← Run.retold_id_told]
  exact (g.watched_retoldBy (R.watchedAt_retoldBy n) x).symm

end

end Parsing
