import Parsing.Proofs.Derivation

/-!
# Conservation

The operations that keep what they match keep all of it: the elements in the value, from left to right,
and then the rest are the input. So nothing is left of an alternative that was given up, or of a last
attempt at a repetition.
-/

namespace Parsing

/-! ## The elements of a value -/

class Flatten (ε α : Type) where
  flatten : α → List ε

namespace Flatten

variable {ε α β : Type}

instance (priority := low) : Flatten ε ε := ⟨fun e => [e]⟩

instance : Flatten ε Unit := ⟨fun _ => []⟩

instance [Flatten ε α] [Flatten ε β] : Flatten ε (α × β) := ⟨fun p => flatten p.1 ++ flatten p.2⟩

instance [Flatten ε α] : Flatten ε (List α) := ⟨List.flatMap flatten⟩

instance : Flatten Char String := ⟨String.toList⟩

theorem flatten_elements (es : List ε) : (flatten es : List ε) = es := List.flatMap_singleton' es

end Flatten

open Flatten

variable {F : ErrorFamily} {ι ε ρ α β : Type} {τ : ρ → Type}

/-! ## Keeping grammars -/

namespace Grammar

/-- The grammar is made of operations that keep what they match. -/
inductive Keeping [∀ r, Flatten ε (τ r)] :
    {α : Type} → [Flatten ε α] → Grammar F ε τ NoCustom α → Prop
  | fail {α : Type} [Flatten ε α] (error : ParseError F) : Keeping (fail error : Grammar F ε τ NoCustom α)
  | satisfy (accepts : ε → Bool) (expected : String) : Keeping (satisfy accepts expected)
  | elementOr (token : ε) (error : ParseError F) : Keeping (elementOr token error)
  | elements (tokens : List ε) : Keeping (elements tokens)
  | elementsOr (tokens : List ε) (error : ParseError F) : Keeping (elementsOr tokens error)
  | slice (tokens : List ε) (expected : String) : Keeping (slice tokens expected)
  | eof : Keeping eof
  | map {α β : Type} [Flatten ε α] [Flatten ε β] {f : α → β} {g : Grammar F ε τ NoCustom α} :
    (∀ v, (flatten (f v) : List ε) = flatten v) → Keeping g → Keeping (g.map f)
  | pair {α β : Type} [Flatten ε α] [Flatten ε β] {g : Grammar F ε τ NoCustom α}
    {h : Grammar F ε τ NoCustom β} : Keeping g → Keeping h → Keeping (g.pair h)
  | validate {α : Type} [Flatten ε α] {g : Grammar F ε τ NoCustom α} (check : α → Option (ParseError F)) :
    Keeping g → Keeping (g.validate check)
  | mapError {α : Type} [Flatten ε α] {g : Grammar F ε τ NoCustom α} (f : ParseError F → ParseError F) :
    Keeping g → Keeping (g.mapError f)
  | orElse {α : Type} [Flatten ε α] {g h : Grammar F ε τ NoCustom α} :
    Keeping g → Keeping h → Keeping (g.orElse h)
  | many {α : Type} [Flatten ε α] {g : Grammar F ε τ NoCustom α} : Keeping g → Keeping g.many
  | delay {α : Type} [Flatten ε α] {g : Unit → Grammar F ε τ NoCustom α} :
    Keeping (g ()) → Keeping (.delay g)
  | rule (r : ρ) : Keeping (rule r)

section
variable [∀ r, Flatten ε (τ r)] [Flatten ε α] {g : Grammar F ε τ NoCustom α}

theorem Keeping.many1 (hg : g.Keeping) : g.many1.Keeping := hg.many.validate _

theorem Keeping.firstOf {gs : List (Grammar F ε τ NoCustom α)} (hgs : ∀ g ∈ gs, g.Keeping) :
    (firstOf gs).Keeping :=
  firstOf_induction (fun e => .fail e) (fun _ _ hg hh => hg.orElse hh) hgs

end

theorem Keeping.string {τ : ρ → Type} [∀ r, Flatten Char (τ r)] (s : String) :
    (string s : Grammar F Char τ NoCustom String).Keeping := by
  refine .map (fun cs => ?_) (.slice s.toList (describe s))
  rw [flatten_elements]
  exact String.toList_ofList

end Grammar

/-! ## Parsers that conserve -/

section
variable [Input ι ε]

def Parser.Conserves [Flatten ε α] (p : Parser F ι α) : Prop :=
  ∀ x v r, p.Succeeds x v r → flatten v ++ Input.elements r = Input.elements x

theorem Input.StartsWith.append_eq [BEq ε] [LawfulBEq ε] {tokens es : List ε} {x r : ι}
    (h : StartsWith tokens x es r) : tokens ++ elements r = elements x := by
  rw [h.1, h.eq_tokens]

namespace Parser.Conserves

variable [Flatten ε α] [Flatten ε β] {p q : Parser F ι α}

theorem fault (f : Fault) : (fault f : Parser F ι α).Conserves :=
  fun _ _ _ h => absurd h not_succeeds_fault

theorem fail (e : ParseError F) : (fail e : Parser F ι α).Conserves :=
  fun _ _ _ h => absurd h not_succeeds_fail

theorem map {f : α → β} (hf : ∀ v, (flatten (f v) : List ε) = flatten v) (h : p.Conserves) :
    (p.map f).Conserves := by
  intro x w r hw
  obtain ⟨v, hv, rfl⟩ := succeeds_map.mp hw
  rw [hf]
  exact h x v r hv

theorem pair {q : Parser F ι β} (h : p.Conserves) (hq : q.Conserves) : (p.pair q).Conserves := by
  intro x w r hw
  obtain ⟨v, y, hv, hw⟩ := succeeds_bind.mp hw
  obtain ⟨u, hu, rfl⟩ := succeeds_map.mp hw
  calc flatten (v, u) ++ Input.elements r
      = flatten v ++ (flatten u ++ Input.elements r) := List.append_assoc _ _ _
    _ = flatten v ++ Input.elements y := by rw [hq y u r hu]
    _ = Input.elements x := h x v y hv

theorem validate (check : α → Option (ParseError F)) (h : p.Conserves) : (p.validate check).Conserves :=
  fun x v r hv => h x v r (succeeds_validate.mp hv).1

theorem mapError (f : ParseError F → ParseError F) (h : p.Conserves) : (p.mapError f).Conserves :=
  fun x v r hv => h x v r (succeeds_mapError.mp hv)

theorem orElse (h : p.Conserves) (hq : q.Conserves) : (p.orElse q).Conserves := by
  intro x v r hv
  rcases succeeds_orElse.mp hv with hv | ⟨-, hv⟩
  · exact h x v r hv
  · -- the second alternative starts where the first did
    exact hq x v r hv

theorem many (h : p.Conserves) : p.many.Conserves := by
  intro x
  induction x using Input.size_induction with
  | h x ih =>
    intro vs r hvs
    rcases succeeds_many.mp hvs with ⟨-, rfl, rfl⟩ | ⟨v, y, ws, hv, hs, hws, rfl⟩
    · -- what the last attempt took is given back
      rfl
    · calc flatten (v :: ws) ++ Input.elements r
          = flatten v ++ (flatten ws ++ Input.elements r) := by
            simp only [flatten, List.flatMap_cons, List.append_assoc]
        _ = flatten v ++ Input.elements y := by rw [ih y hs ws r hws]
        _ = Input.elements x := h x v y hv

variable [Describe ε] [LawfulInput ι]

theorem satisfy (accepts : ε → Bool) (expected : String) :
    (Parser.satisfy accepts expected : Parser F ι ε).Conserves :=
  fun _ _ _ h => (succeeds_satisfy.mp h).1.symm

theorem eof : (Parser.eof : Parser F ι Unit).Conserves := by
  intro x v r h
  obtain ⟨-, rfl⟩ := succeeds_eof.mp h
  rfl

variable [BEq ε]

theorem slice (tokens : List ε) (expected : String) :
    (Parser.slice tokens expected : Parser F ι (List ε)).Conserves := by
  intro x es r h
  rw [flatten_elements]
  exact (succeeds_slice.mp h).1.symm

theorem elements [LawfulBEq ε] (tokens : List ε) :
    (Parser.elements tokens : Parser F ι (List ε)).Conserves := by
  intro x ts r h
  -- the value is the tokens that were asked for, and not `es`, which were found
  obtain ⟨rfl, es, hes⟩ := succeeds_elements.mp h
  rw [flatten_elements]
  exact hes.append_eq

end Parser.Conserves

end

/-! ## Keeping grammars conserve -/

section
variable [Input ι ε] [LawfulInput ι] [BEq ε] [LawfulBEq ε] [Describe ε] [∀ r, Flatten ε (τ r)]

theorem Grammar.Keeping.conserves_of_rules {rules : (r : ρ) → Parser F ι (τ r)}
    (hr : ∀ r, (rules r).Conserves) [Flatten ε α] {g : Grammar F ε τ NoCustom α} (hg : g.Keeping) :
    (g.toParser rules).Conserves := by
  induction hg with
  | fail e => exact .fail e
  | satisfy accepts expected => exact .satisfy accepts expected
  | elementOr token error =>
    rw [toParser, Parser.elementOr_eq]
    exact .mapError _ (.satisfy _ _)
  | elements tokens => exact .elements tokens
  | elementsOr tokens error =>
    rw [toParser, Parser.elementsOr_eq]
    exact .mapError _ (.elements tokens)
  | slice tokens expected => exact .slice tokens expected
  | eof => exact .eof
  | map hf _ ih => exact ih.map hf
  | pair _ _ ih ihh => exact ih.pair ihh
  | validate check _ ih => exact ih.validate check
  | mapError f _ ih => exact ih.mapError f
  | orElse _ _ ih ihh => exact ih.orElse ihh
  | many _ ih => exact ih.many
  | delay _ ih => exact ih
  | rule r => exact hr r

variable {R : Rules F ε τ NoCustom}

theorem Rules.parserAt_conserves (hR : ∀ r, (R r).Keeping) (n : Nat) (r : ρ) :
    (R.parserAt n r : Parser F ι (τ r)).Conserves := by
  induction n generalizing r with
  | zero => exact .fault .tooDeep
  | succ n ih => exact (hR r).conserves_of_rules ih

/-- **No element is lost, doubled or moved.** If a grammar and its rules are made of operations that keep
what they match, the elements of the value, from left to right, are what was taken off the input. The operations
composed of such operations keep what they match too, and so do strings. -/
theorem Grammar.conserves (hR : ∀ r, (R r).Keeping) :
    (∀ {α : Type} [Flatten ε α] (g : Grammar F ε τ NoCustom α), g.Keeping → ∀ (x r : ι) (v : α),
      g.Returns R x (.ok (.success v r)) → flatten v ++ Input.elements r = Input.elements x) ∧
    (∀ {α : Type} [Flatten ε α] (g : Grammar F ε τ NoCustom α), g.Keeping →
      g.many1.Keeping ∧ ∀ e, (g.orFail e).Keeping) ∧
    (∀ {α : Type} [Flatten ε α] (gs : List (Grammar F ε τ NoCustom α)), (∀ g ∈ gs, g.Keeping) →
      (firstOf gs).Keeping) ∧
    ∀ {σ : ρ → Type} [∀ r, Flatten Char (σ r)] (s : String), (string s : Grammar F Char σ NoCustom String).Keeping := by
  refine ⟨fun g hg x r v h => ?_, fun g hg => ⟨hg.many1, fun e => hg.mapError _⟩, fun gs hgs => .firstOf hgs,
    fun s => .string s⟩
  obtain ⟨n, hn⟩ := returns_success.mp h
  exact hg.conserves_of_rules (Rules.parserAt_conserves hR n) x v r hn

end

open Grammar (Keeping) in
theorem copied_keeping (r : Unit) : (copied r : Grammar F Char _ NoCustom _).Keeping := by
  have hpair : (((Grammar.char '(').pair ((Grammar.rule ()).pair (.char ')'))) :
      Grammar F Char (fun _ : Unit => List Char) NoCustom (Char × List Char × Char)).Keeping :=
    .pair (.satisfy _ _) (.pair (.rule ()) (.satisfy _ _))
  unfold copied
  apply Keeping.firstOf
  refine List.forall_mem_cons.mpr ⟨?_, List.forall_mem_singleton.mpr ?_⟩
  · refine .map (fun p => ?_) hpair
    rw [flatten_elements]
    simp only [flatten, List.flatMap_singleton', List.singleton_append]
  · exact .many1 (.satisfy _ _)

open Grammar (Derives) in
/-- The third round of the repetition takes the `3` and gives it back, since no comma follows. -/
theorem conserves_copiedRow :
    (∀ r, (copied r : Grammar .none Char _ NoCustom _).Keeping) ∧
      (copiedRow : Grammar .none Char _ NoCustom _).Keeping ∧
      (copiedRow : Grammar .none Char _ NoCustom _).Returns copied (Text.ofString "1,2,3(45);")
        (.ok (.success ([('1', ','), ('2', ',')], ['3'], "(45)".toList) (Text.ofString ";"))) ∧
      flatten ([('1', ','), ('2', ',')], ['3'], "(45)".toList) ++ ";".toList = "1,2,3(45);".toList := by
  have hg : (copiedRow : Grammar .none Char _ NoCustom _).Keeping :=
    .pair (.many (.pair (.satisfy _ _) (.satisfy _ _))) (.pair (.many (.satisfy _ _)) (.rule ()))
  have hstop : Derives copied
      (Grammar.digit.pair (.char ',') : Grammar .none Char (fun _ : Unit => List Char) NoCustom _)
      (Text.ofString "3(45);") .fail :=
    .bind (.satisfy rfl rfl) (.map_fail (.satisfy_stop (x := Text.ofString "(45);") (by decide)))
  have hrounds : Derives copied
      ((Grammar.digit.pair (.char ',')).many : Grammar .none Char (fun _ : Unit => List Char) NoCustom _)
      (Text.ofString "1,2,3(45);") (.ok [('1', ','), ('2', ',')] (Text.ofString "3(45);")) :=
    .many_more (.pair (.satisfy rfl rfl) (.satisfy rfl rfl)) (by decide)
      (.many_more (.pair (.satisfy rfl rfl) (.satisfy rfl rfl)) (by decide) (.many_stop hstop))
  have hdigits : Derives copied (Grammar.digit.many : Grammar .none Char (fun _ : Unit => List Char) NoCustom _)
      (Text.ofString "3(45);") (.ok ['3'] (Text.ofString "(45);")) :=
    .many_satisfy (List.all_eq_true.mp rfl) rfl (by decide)
  have hinner : Derives copied (.rule () : Grammar .none Char (fun _ : Unit => List Char) NoCustom _)
      (Text.ofString "45);") (.ok ['4', '5'] (Text.ofString ");")) := by
    refine .rule (.orElse_right (.map_fail (.pair_fail (.satisfy_stop ?_))) (.many1 ?_ (by decide)))
    · decide
    · exact .many_satisfy (List.all_eq_true.mp rfl) rfl (by decide)
  have hrule : Derives copied (.rule () : Grammar .none Char (fun _ : Unit => List Char) NoCustom _)
      (Text.ofString "(45);") (.ok "(45)".toList (Text.ofString ";")) :=
    .rule (.orElse_left (.map (.pair (.satisfy rfl rfl) (.pair hinner (.satisfy rfl rfl)))))
  have h := Grammar.returns_success.mpr (hrounds.pair (hdigits.pair hrule)).reaches
  exact ⟨copied_keeping, hg, h, (Grammar.conserves copied_keeping).1 _ hg _ _ _ h⟩

end Parsing
