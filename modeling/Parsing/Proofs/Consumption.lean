import Parsing.Grammar.Nested
import Parsing.Proofs.Depth

/-!
# Consumption

Whatever is built from the operations alone leaves a suffix of its input. So a success leaves at most
what it was given, and it leaves as much only where it leaves the input itself.
-/

namespace Parsing

variable {F : ErrorFamily} {ι ε ρ α β : Type} {τ : ρ → Type} {π : Type → Type}

section
variable [Input ι ε]

def Parser.LeavesSuffix (p : Parser F ι α) : Prop :=
  ∀ x v r, p.Succeeds x v r → Input.elements r <:+ Input.elements x

namespace Parser.LeavesSuffix

variable {p q : Parser F ι α}

theorem pure (v : α) : (Parser.pure v : Parser F ι α).LeavesSuffix := by
  intro x w r h
  obtain ⟨-, rfl⟩ := succeeds_pure.mp h
  exact List.suffix_refl _

theorem map (f : α → β) (h : p.LeavesSuffix) : (p.map f).LeavesSuffix := by
  intro x w r hw
  obtain ⟨v, hv, -⟩ := succeeds_map.mp hw
  exact h x v r hv

theorem bind {next : α → Parser F ι β} (h : p.LeavesSuffix) (hn : ∀ v, (next v).LeavesSuffix) :
    (p.bind next).LeavesSuffix := by
  intro x w r hw
  obtain ⟨v, y, hv, hw⟩ := succeeds_bind.mp hw
  exact (hn v y w r hw).trans (h x v y hv)

theorem validate (check : α → Option (ParseError F)) (h : p.LeavesSuffix) :
    (p.validate check).LeavesSuffix := by
  intro x v r hv
  exact h x v r (succeeds_validate.mp hv).1

theorem mapError (f : ParseError F → ParseError F) (h : p.LeavesSuffix) :
    (p.mapError f).LeavesSuffix := by
  intro x v r hv
  exact h x v r (succeeds_mapError.mp hv)

theorem orElse (h : p.LeavesSuffix) (hq : q.LeavesSuffix) : (p.orElse q).LeavesSuffix := by
  intro x v r hv
  rcases succeeds_orElse.mp hv with hv | ⟨-, hv⟩
  · exact h x v r hv
  · exact hq x v r hv

theorem many (h : p.LeavesSuffix) : p.many.LeavesSuffix := by
  intro x
  induction x using Input.size_induction with
  | h x ih =>
    intro vs r hvs
    rcases succeeds_many.mp hvs with ⟨-, -, rfl⟩ | ⟨v, y, ws, hv, hs, hws, -⟩
    · exact List.suffix_refl _
    · exact (ih y hs ws r hws).trans (h x v y hv)

variable [Describe ε] [LawfulInput ι]

theorem satisfy (accepts : ε → Bool) (expected : String) :
    (Parser.satisfy accepts expected : Parser F ι ε).LeavesSuffix := by
  intro x e r h
  have hx := (succeeds_satisfy.mp h).1
  exact ⟨[e], hx.symm⟩

theorem eof : (Parser.eof : Parser F ι Unit).LeavesSuffix := by
  intro x v r h
  obtain ⟨-, rfl⟩ := succeeds_eof.mp h
  exact List.suffix_refl _

theorem elements [BEq ε] (tokens : List ε) :
    (Parser.elements tokens : Parser F ι (List ε)).LeavesSuffix := by
  intro x v r h
  obtain ⟨-, es, hes⟩ := succeeds_elements.mp h
  exact hes.suffix

theorem slice [BEq ε] (tokens : List ε) (expected : String) :
    (Parser.slice tokens expected : Parser F ι (List ε)).LeavesSuffix := by
  intro x es r h
  exact (succeeds_slice.mp h).suffix

end Parser.LeavesSuffix

end

section
variable [Input ι ε] [LawfulInput ι] [BEq ε] [Describe ε] [CustomParser F ι π]

theorem Grammar.toParser_leavesSuffix {rules : (r : ρ) → Parser F ι (τ r)}
    (hr : ∀ r, (rules r).LeavesSuffix)
    (hc : ∀ {α : Type} (p : π α), (CustomParser.toParser p : Parser F ι α).LeavesSuffix)
    (g : Grammar F ε τ π α) : (g.toParser rules).LeavesSuffix := by
  induction g with
  | pure v => exact .pure v
  | fail e => exact fun x v r h => absurd h Parser.not_succeeds_fail
  | satisfy accepts expected => exact .satisfy accepts expected
  | elementOr token error =>
    rw [toParser, Parser.elementOr_eq]
    exact .mapError _ (.satisfy _ _)
  | elements tokens => exact .elements tokens
  | elementsOr tokens error =>
    rw [toParser, Parser.elementsOr_eq]
    exact .mapError _ (.elements tokens)
  | slice tokens expected => exact .slice tokens expected
  | eof => exact .eof
  | map f _ ih => exact ih.map f
  | bind _ _ ih ihn => exact ih.bind ihn
  | validate check _ ih => exact ih.validate check
  | mapError f _ ih => exact ih.mapError f
  | orElse _ _ ih ihh => exact ih.orElse ihh
  | many _ ih => exact ih.many
  | delay _ ih => exact ih ()
  | rule r => exact hr r
  | custom p => exact hc p

theorem Grammar.leavesSuffix_of_rules {rules : (r : ρ) → Parser F ι (τ r)}
    (hr : ∀ r, (rules r).LeavesSuffix) (g : Grammar F ε τ NoCustom α) : (g.toParser rules).LeavesSuffix := by
  apply g.toParser_leavesSuffix hr
  intro β p
  cases p

theorem Rules.parserAt_leavesSuffix (R : Rules F ε τ NoCustom) (n : Nat) (r : ρ) :
    (R.parserAt n r : Parser F ι (τ r)).LeavesSuffix := by
  induction n generalizing r with
  | zero => exact fun x v y h => absurd h Parser.not_succeeds_fault
  | succ n ih => exact (R r).leavesSuffix_of_rules ih

theorem Grammar.parserAt_leavesSuffix (R : Rules F ε τ NoCustom) (g : Grammar F ε τ NoCustom α)
    (n : Nat) : (g.parserAt R n : Parser F ι α).LeavesSuffix :=
  g.leavesSuffix_of_rules (R.parserAt_leavesSuffix n)

end

section
variable [Input ι ε] [LawfulInput ι] [BEq ε] [Describe ε]

/-- **Consumption is monotone.** A success takes some whole elements off the front of the input and
leaves what follows them. -/
theorem Grammar.takes_prefix {R : Rules F ε τ NoCustom} {g : Grammar F ε τ NoCustom α} {x r : ι} {v : α}
    (h : g.Returns R x (.ok (.success v r))) :
    (∃ c, Input.elements x = c ++ Input.elements r) ∧ Input.size r ≤ Input.size x ∧
      (Input.size r = Input.size x → r = x) := by
  obtain ⟨n, hn⟩ := returns_success.mp h
  have hs := g.parserAt_leavesSuffix R n x v r hn
  refine ⟨?_, Input.size_le_of_suffix hs, fun he => Input.eq_of_size_le hs (Nat.le_of_eq he.symm)⟩
  obtain ⟨c, hc⟩ := hs
  exact ⟨c, hc.symm⟩

end

theorem takes_prefix_of_nested :
    (Grammar.rule () : Grammar .none Char (fun _ : Unit => Char) NoCustom Char).Returns nested
        (Text.ofString "(٥)é") (.ok (.success '٥' (Text.ofString "é"))) ∧
      (∃ c, "(٥)é".toList = c ++ "é".toList) ∧ 2 ≤ 6 ∧ (2 = 6 → Text.ofString "é" = Text.ofString "(٥)é") := by
  have h : (Grammar.rule () : Grammar .none Char (fun _ : Unit => Char) NoCustom Char).Returns nested
      (Text.ofString "(٥)é") (.ok (.success '٥' (Text.ofString "é"))) :=
    Grammar.returns_success.mpr ⟨2, rfl⟩
  exact ⟨h, Grammar.takes_prefix h⟩

end Parsing
