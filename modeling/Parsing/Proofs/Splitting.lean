import Parsing.Parser.Text
import Parsing.Proofs.Munch

/-!
# Splitting and joining

Words with a separator between them are split where they were joined. The list takes its words as long as they
go and gives back a separator that no word follows, so what it leaves is the end, a character that belongs to
neither, or such a separator.
-/

namespace Parsing

open Grammar (Stops)

variable {F : ErrorFamily} {ι : Type}

/-- At least one word, and every word is a character or more, all accepted. -/
structure IsWordList (accepts : Char → Bool) (ws : List (List Char)) : Prop where
  ne_nil : ws ≠ []
  words : ∀ w ∈ ws, w ≠ [] ∧ ∀ d ∈ w, accepts d = true

/-- What may come after a list of words with `c` between them. -/
inductive Leftover (accepts : Char → Bool) (c : Char) : List Char → Prop
  | nil : Leftover accepts c []
  | other {d : Char} {cs : List Char} : accepts d = false → d ≠ c → Leftover accepts c (d :: cs)
  | separator {cs : List Char} : Stops accepts cs → Leftover accepts c (c :: cs)

section
variable {accepts : Char → Bool} {c : Char}

theorem stops_separator (hc : accepts c = false) (cs : List Char) : Stops accepts (c :: cs) := by
  intro e he
  cases he
  exact hc

theorem leftover_iff (hc : accepts c = false) {cs : List Char} :
    Leftover accepts c cs ↔ Stops accepts cs ∧ ∀ ds, cs = c :: ds → Stops accepts ds := by
  constructor
  · intro h
    cases h with
    | nil => exact ⟨fun e he => (nomatch he), fun ds h => nomatch h⟩
    | @other d cs hd hne =>
      refine ⟨fun e he => ?_, fun ds h => ?_⟩
      · cases he
        exact hd
      · cases h
        exact absurd rfl hne
    | separator hcs =>
      refine ⟨stops_separator hc _, fun ds h => ?_⟩
      cases h
      exact hcs
  · rintro ⟨hcs, hsep⟩
    cases cs with
    | nil => exact .nil
    | cons d cs =>
      by_cases hd : d = c
      · subst hd
        exact .separator (hsep cs rfl)
      · exact .other (hcs d rfl) hd

theorem intercalate_cons (c : Char) (w : List Char) (ws : List (List Char)) :
    [c].intercalate (w :: ws) = w ++ ws.flatMap (c :: ·) := by
  induction ws generalizing w with
  | nil => simp
  | cons v ws ih => rw [List.intercalate_cons_cons, ih v, List.flatMap_cons, List.append_assoc, List.singleton_append,
      List.cons_append]

end

namespace Parser

variable [Input ι Char]

/-- Words of accepted characters with `c` between them. -/
def splitting (accepts : Char → Bool) (expected : String) (c : Char) : Parser F ι (List (List Char)) :=
  (satisfy accepts expected).many1.sepBy1 (char c)

def nextWord (accepts : Char → Bool) (expected : String) (c : Char) : Parser F ι (List Char) :=
  (char c).seqRight (satisfy accepts expected).many1

variable [LawfulInput ι] {accepts : Char → Bool} {expected : String} {c : Char} {x y r : ι} {w : List Char}
variable {ws : List (List Char)} {f : Fault}

/-! ## A separator and a word -/

theorem succeeds_nextWord : (nextWord accepts expected c : Parser F ι _).Succeeds y w r ↔
    Input.elements y = c :: (w ++ Input.elements r) ∧ w ≠ [] ∧ (∀ d ∈ w, accepts d = true) ∧
      Stops accepts (Input.elements r) := by
  refine succeeds_bind.trans ⟨?_, ?_⟩
  · rintro ⟨d, z, hd, hw⟩
    obtain ⟨hy, -⟩ := succeeds_element.mp hd
    obtain ⟨hz, hne⟩ := succeeds_many1_satisfy.mp hw
    rw [hy, hz.split]
    exact ⟨rfl, hne, hz.accepted, hz.stops⟩
  · rintro ⟨hy, hne, hacc, hstops⟩
    have hz : Input.elements (Input.rest y) = w ++ Input.elements r := Input.elements_rest hy
    refine ⟨c, _, succeeds_element.mpr ⟨?_, rfl⟩, succeeds_many1_satisfy.mpr ⟨⟨hz, hacc, hstops⟩, hne⟩⟩
    rw [hy, hz]

theorem not_faults_nextWord : ¬(nextWord accepts expected c : Parser F ι _).Faults y f := by
  intro hf
  rcases faults_bind.mp hf with hf | ⟨d, z, -, hf⟩
  · exact not_faults_satisfy hf
  · exact not_faults_many1_satisfy hf

theorem fails_nextWord_iff : (∃ e, (nextWord accepts expected c : Parser F ι _).Fails y e) ↔
    ∀ ds, Input.elements y = c :: ds → Stops accepts ds := by
  rw [exists_fails_iff fun f => not_faults_nextWord]
  constructor
  · -- if the characters after the separator did not stop, there would be a word
    intro hn ds hy
    have hz : Input.elements (Input.rest y) = ds := Input.elements_rest hy
    obtain ⟨w, r, hw⟩ := exists_succeeds_many_satisfy (F := F) accepts expected (Input.rest y)
    have hlongest := succeeds_many_satisfy.mp hw
    by_contra hds
    rw [← hz, ← hlongest.ne_nil_iff] at hds
    refine hn ⟨w, r, succeeds_nextWord.mpr ⟨?_, hds, hlongest.accepted, hlongest.stops⟩⟩
    rw [hy, ← hlongest.split, hz]
  · rintro hstops ⟨w, r, hw⟩
    obtain ⟨hy, hne, hacc, -⟩ := succeeds_nextWord.mp hw
    obtain ⟨d, w, rfl⟩ := List.exists_cons_of_ne_nil hne
    have hd : accepts d = false := hstops _ hy d rfl
    rw [hacc d List.mem_cons_self] at hd
    cases hd

theorem size_lt_of_succeeds_nextWord (h : (nextWord accepts expected c : Parser F ι _).Succeeds y w r) :
    Input.size r < Input.size y := by
  obtain ⟨d, z, hd, hw⟩ := succeeds_bind.mp h
  exact Nat.lt_trans (Consumes.many1 _ z w r hw) (Consumes.satisfy _ _ y d z hd)

/-! ## Further words -/

theorem succeeds_nextWords (hc : accepts c = false) :
    Stops accepts (Input.elements y) ∧ (nextWord accepts expected c : Parser F ι _).many.Succeeds y ws r ↔
      Input.elements y = ws.flatMap (c :: ·) ++ Input.elements r ∧
        (∀ w ∈ ws, w ≠ [] ∧ ∀ d ∈ w, accepts d = true) ∧ Leftover accepts c (Input.elements r) := by
  induction ws generalizing y with
  | nil =>
    rw [succeeds_many_nil, fails_nextWord_iff, leftover_iff hc]
    constructor
    · rintro ⟨hstops, hsep, rfl⟩
      exact ⟨rfl, by simp, hstops, hsep⟩
    · rintro ⟨hy, -, hstops, hsep⟩
      obtain rfl : y = r := Input.eq_of_elements hy
      exact ⟨hstops, hsep, rfl⟩
  | cons w ws ih =>
    rw [succeeds_many]
    constructor
    · rintro ⟨-, ⟨-, hws, -⟩ | ⟨w, z, ws, hw, -, hws, heq⟩⟩
      · cases hws
      · cases heq
        obtain ⟨hy, hne, hacc, hstops⟩ := succeeds_nextWord.mp hw
        obtain ⟨hz, hall, hleft⟩ := ih.mp ⟨hstops, hws⟩
        refine ⟨?_, List.forall_mem_cons.mpr ⟨⟨hne, hacc⟩, hall⟩, hleft⟩
        rw [hy, hz, List.flatMap_cons, List.cons_append, List.cons_append, List.append_assoc]
    · rintro ⟨hy, hall, hleft⟩
      obtain ⟨⟨hne, hacc⟩, hall⟩ := List.forall_mem_cons.mp hall
      rw [List.flatMap_cons, List.append_assoc, List.cons_append] at hy
      obtain ⟨z, hz⟩ := Input.exists_elements_eq (c := c :: w) hy
      obtain ⟨hstops, hws⟩ := ih.mpr ⟨hz, hall, hleft⟩
      have hw : (nextWord accepts expected c : Parser F ι _).Succeeds y w z := by
        refine succeeds_nextWord.mpr ⟨?_, hne, hacc, hstops⟩
        rw [hy, hz]
      refine ⟨?_, .inr ⟨w, z, ws, hw, size_lt_of_succeeds_nextWord hw, hws, rfl⟩⟩
      rw [hy]
      -- the separator is not accepted, so it ends the word in front of it
      exact stops_separator hc _

/-! ## The list -/

theorem succeeds_splitting (hc : accepts c = false) :
    (splitting accepts expected c : Parser F ι _).Succeeds x ws r ↔
      IsWordList accepts ws ∧ Input.elements x = [c].intercalate ws ++ Input.elements r ∧
        Leftover accepts c (Input.elements r) := by
  rw [splitting, succeeds_sepBy1]
  constructor
  · rintro ⟨w, y, ws, hw, hws, rfl⟩
    obtain ⟨hx, hne⟩ := succeeds_many1_satisfy.mp hw
    obtain ⟨hy, hall, hleft⟩ := (succeeds_nextWords hc).mp ⟨hx.stops, hws⟩
    refine ⟨⟨by simp, List.forall_mem_cons.mpr ⟨⟨hne, hx.accepted⟩, hall⟩⟩, ?_, hleft⟩
    rw [intercalate_cons, hx.split, hy, List.append_assoc]
  · rintro ⟨⟨hne, hall⟩, hx, hleft⟩
    obtain ⟨w, ws, rfl⟩ := List.exists_cons_of_ne_nil hne
    obtain ⟨⟨hw, hacc⟩, hall⟩ := List.forall_mem_cons.mp hall
    rw [intercalate_cons, List.append_assoc] at hx
    obtain ⟨y, hy⟩ := Input.exists_elements_eq hx
    obtain ⟨hstops, hws⟩ : Stops accepts (Input.elements y) ∧
        (nextWord accepts expected c : Parser F ι _).many.Succeeds y ws r :=
      (succeeds_nextWords hc).mpr ⟨hy, hall, hleft⟩
    rw [← hy] at hx
    exact ⟨w, y, ws, succeeds_many1_satisfy.mpr ⟨⟨hx, hacc, hstops⟩, hw⟩, hws, rfl⟩

theorem not_faults_splitting : ¬(splitting accepts expected c : Parser F ι _).Faults x f := by
  rw [splitting, faults_sepBy1]
  rintro (hf | ⟨w, y, -, hf⟩)
  · exact not_faults_many1_satisfy hf
  · obtain ⟨ws, r, hws⟩ := exists_succeeds_many (p := (nextWord accepts expected c : Parser F ι _))
      (fun _ _ => not_faults_nextWord) (fun _ _ _ => size_lt_of_succeeds_nextWord) y
    exact hws.not_faults hf

theorem exists_succeeds_splitting_iff :
    (∃ ws r, (splitting accepts expected c : Parser F ι _).Succeeds x ws r) ↔
      ¬Stops accepts (Input.elements x) := by
  rw [← not_iff_not, not_not, ← exists_fails_iff fun f => not_faults_splitting]
  simp only [splitting, fails_sepBy1, fails_many1_satisfy, exists_and_left, exists_eq, and_true]

/-- **Splitting inverts joining.** The separator is no character of the words. Then the list never faults, and
it succeeds where the text begins with a character of a word. Its words, joined, and what it leaves make up the
text, and it leaves the end, a character of neither kind, or a separator with no word after it. And whatever words
are joined before such a leftover, these words and this leftover are what it gives. -/
theorem splitting_inverts_joining (accepts : Char → Bool) (expected : String) (c : Char) (hc : accepts c = false) :
    let p : Parser F Text (List (List Char)) := splitting accepts expected c
    (∀ x f, ¬p.Faults x f) ∧
    (∀ x, (∃ ws r, p.Succeeds x ws r) ↔ ∃ d cs, x.chars = d :: cs ∧ accepts d = true) ∧
    (∀ x ws r, p.Succeeds x ws r →
      IsWordList accepts ws ∧ [c].intercalate ws ++ r.chars = x.chars ∧ Leftover accepts c r.chars) ∧
    ∀ ws tail, IsWordList accepts ws → Leftover accepts c tail →
      p.Succeeds ⟨[c].intercalate ws ++ tail⟩ ws ⟨tail⟩ := by
  refine ⟨fun x f => not_faults_splitting, fun x => exists_succeeds_splitting_iff.trans ?_, ?_, ?_⟩
  · obtain ⟨cs⟩ := x
    cases cs <;> simp [Stops, Input.elements]
  · intro x ws r h
    obtain ⟨hws, hx, hleft⟩ := (succeeds_splitting hc).mp h
    exact ⟨hws, hx.symm, hleft⟩
  · intro ws tail hws hleft
    exact (succeeds_splitting hc).mpr ⟨hws, rfl, hleft⟩

theorem splitting_inverts_joining_commas :
    let accepts : Char → Bool := (· != ',')
    accepts ',' = false ∧ IsWordList accepts [['a', 'b'], ['é']] ∧ Leftover accepts ',' [',', ',', 'c'] ∧
      (splitting accepts "no comma" ',' : Parser .none Text (List (List Char))).Succeeds (.ofString "ab,é,,c")
        [['a', 'b'], ['é']] (.ofString ",,c") := by
  intro accepts
  have hc : accepts ',' = false := rfl
  have hws : IsWordList accepts [['a', 'b'], ['é']] := ⟨by simp, by simp [accepts]⟩
  have hleft : Leftover accepts ',' [',', ',', 'c'] := .separator (by decide)
  obtain ⟨-, -, -, hjoin⟩ := splitting_inverts_joining (F := .none) accepts "no comma" ',' hc
  exact ⟨hc, hws, hleft, hjoin _ _ hws hleft⟩

end Parser

end Parsing
