import Parsing.Proofs.Result

/-!
# Runs in other terms

A run can be told in other terms: its inputs written down in another way, and its notes replaced. If the
other way keeps the elements, then every operation, told in other terms, is the operation on what its
parts come to. Sizes may differ, but they put the suffixes of an input in the same order.
-/

namespace Parsing

variable {F : ErrorFamily} {ι κ ε α β ν : Type}

def Event.retold (retell : ν → List (Event F)) : Event F ν → List (Event F)
  | .abandoned e => [.abandoned e]
  | .stalled n => [.stalled n]
  | .note remark => retell remark

namespace Run

def retold (f : ι → κ) (retell : ν → List (Event F)) (s : Run F ι α ν) : Run F κ α :=
  ⟨s.log.flatMap (Event.retold retell), s.result.map (.mapRest f)⟩

variable (f : ι → κ) (retell : ν → List (Event F))

theorem retold_id (s : Run F ι α ν) :
    s.retold id retell = ⟨s.log.flatMap (Event.retold retell), s.result⟩ := by
  obtain ⟨log, result⟩ := s
  rcases result with e | ⟨v, r⟩ | e <;> rfl

theorem retold_after (log : List (Event F ν)) (s : Run F ι α ν) :
    (s.after log).retold f retell = (s.retold f retell).after (log.flatMap (Event.retold retell)) := by
  simp only [retold, after, List.flatMap_append]

theorem retold_mapOutcome {g : Outcome F ι α → Outcome F ι β} {g' : Outcome F κ α → Outcome F κ β}
    (h : ∀ o, (g o).mapRest f = g' (o.mapRest f)) (s : Run F ι α ν) :
    (s.mapOutcome g).retold f retell = (s.retold f retell).mapOutcome g' := by
  obtain ⟨log, result⟩ := s
  cases result with
  | error e => rfl
  | ok o => simp only [retold, mapOutcome, Except.map, h]

theorem retold_andThen {next : α → ι → Run F ι β ν} {next' : α → κ → Run F κ β}
    (h : ∀ v r, next' v (f r) = (next v r).retold f retell) (s : Run F ι α ν) :
    (s.andThen next).retold f retell = (s.retold f retell).andThen next' := by
  obtain ⟨log, result⟩ := s
  rcases result with e | ⟨v, r⟩ | e
  · rfl
  · simp only [andThen, retold_after, ← h]
    rfl
  · rfl

theorem retold_recover {next : ParseError F → Run F ι α ν} {next' : ParseError F → Run F κ α}
    (h : ∀ e, next' e = (next e).retold f retell) (s : Run F ι α ν) :
    (s.recover next).retold f retell = (s.retold f retell).recover next' := by
  obtain ⟨log, result⟩ := s
  rcases result with e | ⟨v, r⟩ | e
  · rfl
  · rfl
  · simp only [recover, retold_after, ← h]
    rfl

end Run

namespace Input

variable [Input ι ε] [Input κ ε]

/-- `f` writes inputs down in another way: it keeps the elements, and it goes along with looking at the
first one and with taking it off. -/
structure Recoded (f : ι → κ) : Prop where
  first? (x : ι) : first? (f x) = first? x
  rest (x : ι) : rest (f x) = f (rest x)
  elements (x : ι) : elements (f x) = elements x

namespace Recoded

variable {f : ι → κ}

theorem id : Recoded (id : ι → ι) := ⟨fun _ => rfl, fun _ => rfl, fun _ => rfl⟩

theorem of_elements [LawfulInput ι] [LawfulInput κ] (hf : ∀ x, Input.elements (f x) = Input.elements x) :
    Recoded f where
  first? x := by rw [LawfulInput.first?_eq, LawfulInput.first?_eq, hf]
  rest x := by
    apply eq_of_elements
    rw [LawfulInput.elements_rest, hf, hf, LawfulInput.elements_rest]
  elements := hf

theorem drop (hf : Recoded f) (n : Nat) (x : ι) : drop n (f x) = f (drop n x) := by
  induction n generalizing x with
  | zero => rfl
  | succ n ih => rw [Input.drop, hf.rest, ih]; rfl

theorem strip [BEq ε] (hf : Recoded f) (tokens : List ε) (x : ι) :
    strip tokens (f x) = (strip tokens x).map f := by
  induction tokens generalizing x with
  | nil => rfl
  | cons t tokens ih =>
    rw [Input.strip, Input.strip, hf.first?]
    cases Input.first? x with
    | none => rfl
    | some e =>
      simp only [hf.rest, ih]
      by_cases he : e == t <;> simp only [he] <;> rfl

theorem size_lt_iff [LawfulInput ι] [LawfulInput κ] (hf : Recoded f) {x r : ι}
    (h : Input.elements r <:+ Input.elements x) : size (f r) < size (f x) ↔ size r < size x := by
  have h' : Input.elements (f r) <:+ Input.elements (f x) := by rwa [hf.elements, hf.elements]
  rw [Input.size_lt_iff h', Input.size_lt_iff h, hf.elements, hf.elements]

end Recoded

end Input

namespace Parser

/-- `q` runs on `f x` as `p` does on `x`, told in other terms. -/
def RetoldBy (f : ι → κ) (retell : ν → List (Event F)) (p : Parser F ι α ν) (q : Parser F κ α) : Prop :=
  ∀ x, q.run (f x) = (p.run x).retold f retell

namespace RetoldBy

variable {f : ι → κ} {retell : ν → List (Event F)}

section
variable {p p' : Parser F ι α ν} {q q' : Parser F κ α}

theorem succeeds (h : RetoldBy f retell p q) {x r : ι} {v : α} (hv : p.Succeeds x v r) :
    q.Succeeds (f x) v (f r) := by
  unfold Succeeds at hv ⊢
  rw [h x, Run.retold, hv]
  rfl

theorem fails (h : RetoldBy f retell p q) {x : ι} {e : ParseError F} (he : p.Fails x e) :
    q.Fails (f x) e := by
  unfold Fails at he ⊢
  rw [h x, Run.retold, he]
  rfl

theorem faults (h : RetoldBy f retell p q) {x : ι} {e : Fault} (he : p.Faults x e) :
    q.Faults (f x) e := by
  unfold Faults at he ⊢
  rw [h x, Run.retold, he]
  rfl

theorem pure (v : α) : RetoldBy f retell (pure v) (pure v) := fun _ => rfl

theorem fail (e : ParseError F) : RetoldBy f retell (fail e : Parser F ι α ν) (fail e) := fun _ => rfl

theorem fault (e : Fault) : RetoldBy f retell (fault e : Parser F ι α ν) (fault e) := fun _ => rfl

theorem map (g : α → β) (h : RetoldBy f retell p q) : RetoldBy f retell (p.map g) (q.map g) := by
  intro x
  simp only [Parser.map, h x]
  refine (Run.retold_mapOutcome f retell ?_ (p.run x)).symm
  intro o
  cases o <;> rfl

theorem bind {next : α → Parser F ι β ν} {next' : α → Parser F κ β} (h : RetoldBy f retell p q)
    (hn : ∀ v, RetoldBy f retell (next v) (next' v)) : RetoldBy f retell (p.bind next) (q.bind next') := by
  intro x
  simp only [Parser.bind, h x]
  exact (Run.retold_andThen f retell (fun v r => hn v r) (p.run x)).symm

theorem validate (check : α → Option (ParseError F)) (h : RetoldBy f retell p q) :
    RetoldBy f retell (p.validate check) (q.validate check) := by
  intro x
  simp only [Parser.validate, h x]
  refine (Run.retold_mapOutcome f retell ?_ (p.run x)).symm
  intro o
  cases o with
  | success v r => simp only [Outcome.validate, Outcome.mapRest]; cases check v <;> rfl
  | failure e => rfl

theorem mapError (t : ParseError F → ParseError F) (h : RetoldBy f retell p q) :
    RetoldBy f retell (p.mapError t) (q.mapError t) := by
  intro x
  simp only [Parser.mapError, h x]
  refine (Run.retold_mapOutcome f retell ?_ (p.run x)).symm
  intro o
  cases o <;> rfl

theorem orElse (h : RetoldBy f retell p q) (h' : RetoldBy f retell p' q') :
    RetoldBy f retell (p.orElse p') (q.orElse q') := by
  intro x
  simp only [Parser.orElse, h x]
  refine (Run.retold_recover f retell ?_ (p.run x)).symm
  intro e
  rw [h' x, Run.retold_after]
  rfl

theorem noted {q : Parser F ι α} (h : RetoldBy id retell p q) {remark : ι → ν}
    (hr : ∀ x, retell (remark x) = []) : RetoldBy id retell (p.noted remark) q := by
  intro x
  simp only [Parser.noted, Run.retold_after, ← h x, List.flatMap_singleton, Event.retold, hr]
  rfl

end

section
variable [Input ι ε] [Input κ ε] {p : Parser F ι α ν} {q : Parser F κ α}

theorem manyFrom (h : RetoldBy f retell p q)
    (hs : ∀ x v r, p.Succeeds x v r → (Input.size (f r) < Input.size (f x) ↔ Input.size r < Input.size x))
    (x : ι) (count : Nat) : q.manyFrom count (f x) = (p.manyFrom count x).retold f retell := by
  refine manyFrom_induction (P := fun x count s => q.manyFrom count (f x) = s.retold f retell)
    ?_ ?_ ?_ ?_ x count
  · intro x count v y hv hlt ih
    have hcons : ((p.manyFrom (count + 1) y).mapOutcome (.map (v :: ·))).retold f retell =
        ((p.manyFrom (count + 1) y).retold f retell).mapOutcome (.map (v :: ·)) :=
      Run.retold_mapOutcome f retell (fun o => by cases o <;> rfl) _
    rw [manyFrom_of_succeeds (h.succeeds hv) ((hs x v y hv).mpr hlt), ih, h x, Run.retold_after, hcons]
    rfl
  · intro x count v y hv hlt
    rw [manyFrom_of_stalls (h.succeeds hv) ((hs x v y hv).not.mpr hlt), h x]
    simp only [Run.retold, List.flatMap_append]
    rfl
  · intro x count e he
    rw [manyFrom_of_fails (h.fails he), h x]
    rfl
  · intro x count e he
    rw [manyFrom_of_faults (h.faults he), h x]
    rfl

theorem many (h : RetoldBy f retell p q)
    (hs : ∀ x v r, p.Succeeds x v r → (Input.size (f r) < Input.size (f x) ↔ Input.size r < Input.size x)) :
    RetoldBy f retell p.many q.many :=
  fun x => h.manyFrom hs x 0

end

/-! ## Matchers -/

variable [Input ι ε] [Input κ ε] (hf : Input.Recoded f)
include hf

theorem satisfy [Describe ε] (accepts : ε → Bool) (expected : String) :
    RetoldBy f retell (Parser.satisfy accepts expected : Parser F ι ε ν)
      (Parser.satisfy accepts expected) := by
  intro x
  simp only [Parser.satisfy, hf.first?, hf.rest]
  cases Input.first? x with
  | none => rfl
  | some e => by_cases ha : accepts e <;> simp only [ha] <;> rfl

theorem elementOr [BEq ε] (token : ε) (error : ParseError F) :
    RetoldBy f retell (Parser.elementOr token error : Parser F ι ε ν) (Parser.elementOr token error) := by
  intro x
  simp only [Parser.elementOr, hf.first?, hf.rest]
  cases Input.first? x with
  | none => rfl
  | some e => by_cases he : e == token <;> simp only [he] <;> rfl

theorem elements [BEq ε] [Describe ε] (tokens : List ε) :
    RetoldBy f retell (Parser.elements tokens : Parser F ι (List ε) ν) (Parser.elements tokens) := by
  intro x
  simp only [Parser.elements, hf.strip]
  cases Input.strip tokens x <;> rfl

theorem elementsOr [BEq ε] (tokens : List ε) (error : ParseError F) :
    RetoldBy f retell (Parser.elementsOr tokens error : Parser F ι (List ε) ν)
      (Parser.elementsOr tokens error) := by
  intro x
  simp only [Parser.elementsOr, hf.strip]
  cases Input.strip tokens x <;> rfl

theorem slice [BEq ε] [Describe ε] (tokens : List ε) (expected : String) :
    RetoldBy f retell (Parser.slice tokens expected : Parser F ι (List ε) ν)
      (Parser.slice tokens expected) := by
  intro x
  simp only [Parser.slice, hf.elements, hf.drop]
  split <;> rfl

theorem eof [Describe ε] : RetoldBy f retell (Parser.eof : Parser F ι Unit ν) Parser.eof := by
  intro x
  simp only [Parser.eof, hf.first?]
  cases Input.first? x <;> rfl

end RetoldBy

end Parser

end Parsing
