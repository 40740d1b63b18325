import Parsing.Grammar.Nested
import Parsing.Proofs.Choice
import Parsing.Proofs.Depth
import Parsing.Proofs.Sequencing

/-!
# Nested parentheses

The grammar of a digit in nested parentheses reads as many closing parentheses as there were opening ones. Where
one is missing, each level gives up and tries for a digit at its own start, so what is reported is what the
outermost level finds there, and nothing of what went wrong further in.
-/

namespace Parsing

variable {F : ErrorFamily}

/-- The characters are a digit `d` in parentheses, as many closing as opening ones, and then `rest`. -/
def Nests (cs : List Char) (d : Char) (rest : List Char) : Prop :=
  isNumeric d = true ∧ ∃ n, cs = List.replicate n '(' ++ d :: (List.replicate n ')' ++ rest)

section
variable {c d d' : Char} {cs rest rest' : List Char}

theorem not_nests_nil : ¬Nests [] d rest := by
  rintro ⟨-, n, h⟩
  simp at h

theorem nests_of_ne (hc : c ≠ '(') : Nests (c :: cs) d rest ↔ isNumeric c = true ∧ d = c ∧ rest = cs := by
  constructor
  · rintro ⟨hd, n, h⟩
    cases n with
    | zero =>
      obtain ⟨rfl, rfl⟩ := List.cons.inj h
      exact ⟨hd, rfl, rfl⟩
    | succ n =>
      rw [List.replicate_succ, List.cons_append, List.cons.injEq] at h
      exact absurd h.1 hc
  · rintro ⟨hc, rfl, rfl⟩
    exact ⟨hc, 0, rfl⟩

theorem nests_open : Nests ('(' :: cs) d rest ↔ Nests cs d (')' :: rest) := by
  have hshift : ∀ n, List.replicate (n + 1) ')' ++ rest = List.replicate n ')' ++ ')' :: rest := by
    intro n
    rw [List.replicate_succ', List.append_assoc, List.singleton_append]
  constructor
  · rintro ⟨hd, n, h⟩
    cases n with
    | zero =>
      -- a parenthesis is no digit
      obtain ⟨rfl, -⟩ := List.cons.inj h
      exact absurd hd (by decide)
    | succ n =>
      rw [hshift, List.replicate_succ, List.cons_append, List.cons.injEq] at h
      exact ⟨hd, n, h.2⟩
  · rintro ⟨hd, n, rfl⟩
    refine ⟨hd, n + 1, ?_⟩
    rw [hshift, List.replicate_succ, List.cons_append]

theorem Nests.unique (h : Nests cs d rest) (h' : Nests cs d' rest') : d' = d ∧ rest' = rest := by
  induction cs generalizing rest rest' with
  | nil => exact absurd h not_nests_nil
  | cons c cs ih =>
    by_cases hc : c = '('
    · subst hc
      obtain ⟨hd, hrest⟩ := ih (nests_open.mp h) (nests_open.mp h')
      exact ⟨hd, (List.cons.inj hrest).2⟩
    · obtain ⟨-, rfl, rfl⟩ := (nests_of_ne hc).mp h
      exact ((nests_of_ne hc).mp h').2

end

/-! ## One level -/

/-- The run reads the digit and abandons one alternative on the way, which is the parenthesis in its place. Or
there is no digit in balanced parentheses, and what is reported is that the first character is no digit. -/
inductive ReadsNested (cs : List Char) : Run F Text Char → Prop
  | reads {d : Char} {rest : List Char} : Nests cs d rest →
    ReadsNested cs ⟨[.abandoned (.mismatch (.unexpected (describe '(') (describe d)))], .ok (.success d ⟨rest⟩)⟩
  | fails {log : List (Event F)} : (∀ d rest, ¬Nests cs d rest) →
    ReadsNested cs ⟨log, .ok (.failure (.mismatch (.of "digit" cs.head?)))⟩

namespace ReadsNested

variable {cs : List Char} {s : Run F Text Char} {d : Char} {r : Text} {e : ParseError F}

theorem result_ne_error (h : ReadsNested cs s) (f : Fault) : s.result ≠ .error f := by
  cases h <;> simp

theorem result_eq_success_iff (h : ReadsNested cs s) : s.result = .ok (.success d r) ↔ Nests cs d r.chars := by
  cases h with
  | reads hd =>
    constructor
    · intro hs
      cases hs
      exact hd
    · intro hd'
      obtain ⟨rfl, rfl⟩ := hd.unique hd'
      rfl
  | fails hn => exact ⟨fun hs => (nomatch hs), fun hd => absurd hd (hn d r.chars)⟩

theorem result_eq_failure_iff (h : ReadsNested cs s) : s.result = .ok (.failure e) ↔
    (∀ d rest, ¬Nests cs d rest) ∧ e = .mismatch (.of "digit" cs.head?) := by
  cases h with
  | reads hd => exact ⟨fun hs => (nomatch hs), fun hn => absurd hd (hn.1 _ _)⟩
  | fails hn => simpa [hn] using eq_comm

theorem log_eq (h : ReadsNested cs s) (hs : s.result = .ok (.success d r)) :
    s.log = [.abandoned (.mismatch (.unexpected (describe '(') (describe d)))] := by
  cases h with
  | reads hd =>
    cases hs
    rfl
  | fails hn => cases hs

end ReadsNested

namespace Parser

def nestedLevel (inner : Parser F Text Char) : Parser F Text Char :=
  (between (char '(') inner (char ')')).orElse digit

section
variable {c d : Char} {cs rest : List Char} {e : ParseError F}

theorem run_digit (c : Char) (cs : List Char) : (digit : Parser F Text Char).run ⟨c :: cs⟩ =
    if isNumeric c then .success c ⟨cs⟩ else .failure (.mismatch (.unexpected "digit" (describe c))) := rfl

theorem fails_char_of_head?_ne (h : cs.head? ≠ some c) :
    (char c : Parser F Text Char).Fails ⟨cs⟩ (.mismatch (.of (describe c) cs.head?)) :=
  fails_element.mpr ⟨h, rfl⟩

variable (inner : Parser F Text Char)

theorem run_between_open (cs : List Char) : (between (char '(') inner (char ')')).run ⟨'(' :: cs⟩ =
    (inner.run ⟨cs⟩).andThen fun d r => ((char ')').map fun _ => d).run r := by
  rw [between_eq_bind]
  exact run_bind_of_succeeds (succeeds_element.mpr ⟨rfl, rfl⟩)

theorem run_between_of_ne (cs : List Char) (hc : c ≠ '(') : (between (char '(') inner (char ')')).run ⟨c :: cs⟩ =
    .failure (.mismatch (.unexpected (describe '(') (describe c))) := by
  have hhead : (c :: cs).head? ≠ some '(' := by simpa using hc
  rw [between_eq_bind, run_bind_of_fails (fails_char_of_head?_ne hhead), char, element, log_satisfy]
  rfl

theorem readsNested_of_fails_open (he : (between (char '(') inner (char ')')).Fails ⟨'(' :: cs⟩ e)
    (hn : ∀ d rest, ¬Nests ('(' :: cs) d rest) : ReadsNested ('(' :: cs) ((nestedLevel inner).run ⟨'(' :: cs⟩) := by
  have hdigit : (digit : Parser F Text Char).run ⟨'(' :: cs⟩ =
      .failure (.mismatch (.unexpected "digit" (describe '('))) := by
    rw [run_digit, if_neg (by decide)]
  rw [nestedLevel, run_orElse_of_fails he, hdigit]
  exact .fails hn

theorem readsNested_nil : ReadsNested [] ((nestedLevel inner).run ⟨[]⟩) := .fails fun _ _ => not_nests_nil

theorem readsNested_of_ne (cs : List Char) (hc : c ≠ '(') :
    ReadsNested (c :: cs) ((nestedLevel inner).run ⟨c :: cs⟩) := by
  have hopen := run_between_of_ne inner cs hc
  rw [nestedLevel, run_orElse_of_fails (congrArg Run.result hopen), hopen, run_digit]
  by_cases hd : isNumeric c
  · rw [if_pos hd]
    exact .reads ((nests_of_ne hc).mpr ⟨hd, rfl, rfl⟩)
  · rw [if_neg hd]
    exact .fails fun d rest h => hd ((nests_of_ne hc).mp h).1

theorem readsNested_open (h : ReadsNested cs (inner.run ⟨cs⟩)) :
    ReadsNested ('(' :: cs) ((nestedLevel inner).run ⟨'(' :: cs⟩) := by
  have hrun := run_between_open inner cs
  generalize inner.run ⟨cs⟩ = s at h hrun
  cases h with
  | @reads d rest hd =>
    by_cases hrest : rest.head? = some ')'
    · obtain ⟨rest, rfl⟩ := List.head?_eq_some_iff.mp hrest
      have hv : (between (char '(') inner (char ')')).Succeeds ⟨'(' :: cs⟩ d ⟨rest⟩ := congrArg Run.result hrun
      rw [nestedLevel, run_orElse_of_not_fails fun e => hv.not_fails, hrun]
      exact .reads (nests_open.mpr hd)
    · have he : (between (char '(') inner (char ')')).Fails ⟨'(' :: cs⟩ (.mismatch (.of (describe ')') rest.head?)) := by
        rw [Fails, hrun]
        exact fails_map.mpr (fails_char_of_head?_ne hrest)
      refine readsNested_of_fails_open inner he fun d' rest' h => ?_
      obtain ⟨-, rfl⟩ := hd.unique (nests_open.mp h)
      exact hrest rfl
  | fails hn =>
    exact readsNested_of_fails_open inner (congrArg Run.result hrun) fun d rest h => hn d _ (nests_open.mp h)

end

end Parser

/-! ## All levels -/

theorem parserAt_succ_nested (n : Nat) :
    (Rules.parserAt (nested : Rules F Char (fun _ : Unit => Char) NoCustom) (n + 1) () : Parser F Text Char) =
      .nestedLevel (Rules.parserAt (nested : Rules F Char (fun _ : Unit => Char) NoCustom) n ()) := rfl

theorem readsNested_run (cs : List Char) {n : Nat} (h : cs.length ≤ n) :
    ReadsNested cs
      ((Rules.parserAt (nested : Rules F Char (fun _ : Unit => Char) NoCustom) (n + 1) ()).run ⟨cs⟩) := by
  -- a level for each character is more than the parentheses need
  induction cs generalizing n with
  | nil =>
    rw [parserAt_succ_nested]
    exact Parser.readsNested_nil _
  | cons c cs ih =>
    rw [parserAt_succ_nested]
    by_cases hc : c = '('
    · subst hc
      obtain ⟨n, rfl⟩ := Nat.exists_eq_add_of_le' h
      exact Parser.readsNested_open _ (ih (Nat.le_add_left _ _))
    · exact Parser.readsNested_of_ne _ cs hc

/-- **Nested parentheses are balanced.** The parse comes back on every text and does not fault. It reads the digit `d`
and leaves `r` where the text is `d` in as many closing parentheses as opening ones, and then `r`, and it abandons one
alternative on the way. On every other text it fails, and whatever went wrong further in, it reports what stands in
the place of a digit at the beginning of the text, or that the text is empty. -/
theorem nested_reads_balanced (x : Text) :
    let g : Grammar F Char (fun _ : Unit => Char) NoCustom Char := nested ()
    (∃ s, g.Parses nested x s ∧ ∀ f, s.result ≠ .error f) ∧
    (∀ d r, g.Returns nested x (.ok (.success d r)) ↔ Nests x.chars d r.chars) ∧
    (∀ s d r, g.Parses nested x s → s.result = .ok (.success d r) →
      s.log = [.abandoned (.mismatch (.unexpected (describe '(') (describe d)))]) ∧
    ∀ e, g.Returns nested x (.ok (.failure e)) ↔ (∀ d rest, ¬Nests x.chars d rest) ∧
      ((∃ c cs, x.chars = c :: cs ∧ e = .mismatch (.unexpected "digit" (describe c))) ∨
        x.chars = [] ∧ e = .mismatch (.endOfInput "digit")) := by
  intro g
  obtain ⟨s, hs, hread⟩ : ∃ s, g.Parses nested x s ∧ ReadsNested x.chars s := by
    have hread := readsNested_run (F := F) x.chars (Nat.le_refl _)
    exact ⟨_, ⟨hread.result_ne_error .tooDeep, _, rfl⟩, hread⟩
  have hreturns : ∀ result, g.Returns nested x result ↔ s.result = result := by
    intro result
    refine ⟨fun h => Grammar.Returns.unique ⟨s.log, hs⟩ h, ?_⟩
    rintro rfl
    exact ⟨s.log, hs⟩
  refine ⟨⟨s, hs, hread.result_ne_error⟩, fun d r => ?_, fun t d r ht h => ?_, fun e => ?_⟩
  · rw [hreturns, hread.result_eq_success_iff]
  · obtain rfl := hs.unique ht
    exact hread.log_eq h
  · rw [hreturns, hread.result_eq_failure_iff]
    cases x.chars <;> simp [MatchError.of]

theorem nested_reads_balanced_sevens :
    let g : Grammar .none Char (fun _ : Unit => Char) NoCustom Char := nested ()
    g.Returns nested (Text.ofString "((7))x") (.ok (.success '7' (.ofString "x"))) ∧
      (∀ s, g.Parses nested (Text.ofString "((7))x") s → s.result = .ok (.success '7' (.ofString "x")) →
        s.log = [.abandoned (.mismatch (.unexpected (describe '(') (describe '7')))]) ∧
      g.Returns nested (Text.ofString "((7)") (.ok (.failure (.mismatch (.unexpected "digit" (describe '('))))) := by
  intro g
  have hbalanced : Nests ['(', '(', '7', ')', ')', 'x'] '7' ['x'] := ⟨by decide, 2, rfl⟩
  have hmissing : ∀ d rest, ¬Nests ['(', '(', '7', ')'] d rest := by
    intro d rest h
    obtain ⟨-, -, hrest⟩ := (nests_of_ne (by decide)).mp (nests_open.mp (nests_open.mp h))
    simp at hrest
  obtain ⟨-, hreads, hlog, -⟩ := nested_reads_balanced (F := .none) (Text.ofString "((7))x")
  obtain ⟨-, -, -, hfails⟩ := nested_reads_balanced (F := .none) (Text.ofString "((7)")
  refine ⟨(hreads _ _).mpr hbalanced, fun s hs h => hlog s _ _ hs h, (hfails _).mpr ⟨hmissing, .inl ?_⟩⟩
  exact ⟨'(', _, rfl, rfl⟩

end Parsing
