import Parsing.Proofs.Bytes
import Parsing.Proofs.Choice

/-!
# Keyword tables

A choice between strings takes the first one in the table that the text begins with. Where none begins with
another one, the order of the table does not matter; where one does, the longer one has to stand in front.
-/

namespace Parsing

variable {F : ErrorFamily} {ι : Type}

/-- `s` stands at the index `i` of the table, and the characters begin with it and go on with `rest`. They
begin with no string that stands in front of it. -/
structure LeadsAt (table : List String) (cs : List Char) (i : Nat) (s : String) (rest : List Char) : Prop where
  here : table[i]? = some s
  split : cs = s.toList ++ rest
  first : ∀ t ∈ table.take i, ¬t.toList <+: cs

section
variable {table table' : List String} {cs rest : List Char} {i j : Nat} {s t : String}

theorem not_leadsAt_nil : ¬LeadsAt [] cs i s rest := fun h => nomatch h.here

theorem LeadsAt.isPrefix (h : LeadsAt table cs i s rest) : s.toList <+: cs := ⟨rest, h.split.symm⟩

theorem leadsAt_zero : LeadsAt (t :: table) cs 0 s rest ↔ s = t ∧ cs = s.toList ++ rest := by
  constructor
  · intro h
    exact ⟨(Option.some.inj h.here).symm, h.split⟩
  · rintro ⟨rfl, hcs⟩
    exact ⟨rfl, hcs, by simp⟩

theorem leadsAt_succ :
    LeadsAt (t :: table) cs (i + 1) s rest ↔ ¬t.toList <+: cs ∧ LeadsAt table cs i s rest := by
  constructor
  · intro h
    have hfirst := h.first
    rw [List.take_succ_cons] at hfirst
    obtain ⟨ht, hfirst⟩ := List.forall_mem_cons.mp hfirst
    exact ⟨ht, h.here, h.split, hfirst⟩
  · rintro ⟨ht, h⟩
    refine ⟨h.here, h.split, ?_⟩
    rw [List.take_succ_cons]
    exact List.forall_mem_cons.mpr ⟨ht, h.first⟩

theorem exists_leadsAt_iff : (∃ i s rest, LeadsAt table cs i s rest) ↔ ∃ s ∈ table, s.toList <+: cs := by
  induction table with
  | nil => simp [not_leadsAt_nil]
  | cons t table ih =>
    by_cases ht : t.toList <+: cs
    · obtain ⟨rest, hrest⟩ := id ht
      exact ⟨fun _ => ⟨t, List.mem_cons_self, ht⟩, fun _ => ⟨0, t, rest, leadsAt_zero.mpr ⟨rfl, hrest.symm⟩⟩⟩
    · constructor
      · rintro ⟨i, s, rest, h⟩
        exact ⟨s, List.mem_of_getElem? h.here, h.isPrefix⟩
      · rintro ⟨s, hs, hcs⟩
        have hs : s ∈ table := (List.mem_cons.mp hs).resolve_left fun hst => ht (hst ▸ hcs)
        obtain ⟨i, s, rest, h⟩ := ih.mpr ⟨s, hs, hcs⟩
        exact ⟨i + 1, s, rest, leadsAt_succ.mpr ⟨ht, h⟩⟩

/-! ## Strings that begin with others -/

theorem mem_take_of_lt (hij : i < j) (hs : table[i]? = some s) : s ∈ table.take j := by
  apply List.mem_of_getElem? (i := i)
  rw [List.getElem?_take_of_lt hij, hs]

theorem not_leadsAt_of_isPrefix (hij : i < j) (hs : table[i]? = some s) (ht : table[j]? = some t)
    (hst : s.toList <+: t.toList) {v : String} : ¬LeadsAt table cs j v rest := by
  intro h
  obtain rfl : t = v := Option.some.inj (ht.symm.trans h.here)
  exact h.first s (mem_take_of_lt hij hs) (hst.trans h.isPrefix)

theorem LeadsAt.mem_take_of_isPrefix (h : LeadsAt table cs j t rest) (hs : table[i]? = some s)
    (hst : s.toList <+: t.toList) (hne : s ≠ t) : t ∈ table.take i := by
  have hji : j < i := by
    rcases Nat.lt_trichotomy j i with hlt | rfl | hlt
    · exact hlt
    · exact absurd (Option.some.inj (hs.symm.trans h.here)) hne
    · exact absurd h (not_leadsAt_of_isPrefix hlt hs h.here hst)
  exact mem_take_of_lt hji h.here

/-- No string of the table begins with another one. -/
def PrefixFree (table : List String) : Prop := ∀ s ∈ table, ∀ t ∈ table, s.toList <+: t.toList → s = t

instance (table : List String) : Decidable (PrefixFree table) :=
  inferInstanceAs (Decidable (∀ s ∈ table, ∀ t ∈ table, s.toList <+: t.toList → s = t))

theorem PrefixFree.of_perm (h : PrefixFree table) (hp : table'.Perm table) : PrefixFree table' := by
  intro s hs t ht
  exact h s (hp.mem_iff.mp hs) t (hp.mem_iff.mp ht)

theorem PrefixFree.exists_leadsAt_iff (h : PrefixFree table) :
    (∃ i, LeadsAt table cs i s rest) ↔ s ∈ table ∧ cs = s.toList ++ rest := by
  constructor
  · rintro ⟨i, hi⟩
    exact ⟨List.mem_of_getElem? hi.here, hi.split⟩
  · rintro ⟨hs, hcs⟩
    have hsc : s.toList <+: cs := ⟨rest, hcs.symm⟩
    obtain ⟨i, t, rest', ht⟩ := Parsing.exists_leadsAt_iff.mpr ⟨s, hs, hsc⟩
    have hmem : t ∈ table := List.mem_of_getElem? ht.here
    -- the string that comes first and `s` are both read from `cs`, so one begins with the other
    have heq : s = t := by
      rcases List.prefix_or_prefix_of_prefix hsc ht.isPrefix with hst | hts
      · exact h s hs t hmem hst
      · exact (h t hmem s hs hts).symm
    subst heq
    obtain rfl : rest = rest' := List.append_cancel_left (hcs.symm.trans ht.split)
    exact ⟨i, ht⟩

end

/-! ## The choice -/

namespace Parser

variable [Input ι Char]

def keywords (table : List String) : Parser F ι String := firstOf (table.map string)

variable {table : List String} {x r : ι} {i : Nat} {s v : String} {f : Fault}

theorem not_faults_string : ¬(string s : Parser F ι String).Faults x f := by
  rw [string, faults_map]
  exact not_faults_slice

theorem not_faults_keywords : ¬(keywords table : Parser F ι String).Faults x f := by
  refine not_faults_firstOf fun p hp => ?_
  obtain ⟨s, -, rfl⟩ := List.mem_map.mp hp
  exact not_faults_string

variable [LawfulInput ι]

theorem log_string (s : String) (x : ι) : ((string s : Parser F ι String).run x).log = [] := by
  rw [run_string]
  cases Input.strip s.toList x <;> rfl

theorem exists_fails_string_iff : (∃ e, (string s : Parser F ι String).Fails x e) ↔
    ¬s.toList <+: Input.elements x := by
  rw [exists_fails_iff fun f => not_faults_string, not_iff_not]
  constructor
  · rintro ⟨v, r, h⟩
    exact ⟨Input.elements r, (succeeds_string.mp h).2.symm⟩
  · rintro ⟨cs, hcs⟩
    obtain ⟨r, rfl⟩ := Input.exists_elements_eq hcs.symm
    exact ⟨s, r, succeeds_string.mpr ⟨rfl, hcs.symm⟩⟩

section
variable {t : String}

theorem run_keywords_of_isPrefix (ht : t.toList <+: Input.elements x) :
    (keywords (t :: table) : Parser F ι String).run x = (string t).run x := by
  have hnever : ∀ e, ¬(string t : Parser F ι String).Fails x e :=
    fun e he => exists_fails_string_iff.mp ⟨e, he⟩ ht
  rw [keywords, List.map_cons, run_firstOf_cons_of_not_fails hnever]

theorem run_keywords_of_not_isPrefix (ht : ¬t.toList <+: Input.elements x) (hne : table ≠ []) :
    ∃ e, (keywords (t :: table) : Parser F ι String).run x = ((keywords table).run x).after [.abandoned e] := by
  obtain ⟨e, he⟩ : ∃ e, (string t : Parser F ι String).Fails x e := exists_fails_string_iff.mpr ht
  have hmap : table.map (string : String → Parser F ι String) ≠ [] := by simpa using hne
  refine ⟨e, ?_⟩
  rw [keywords, List.map_cons, run_firstOf_cons_of_fails he hmap, log_string, List.nil_append, keywords]

end

/-- Each string in front of the first one is tried and abandoned, and the log says so. -/
theorem succeeds_keywords_at :
    (keywords table : Parser F ι String).Succeeds x v r ∧
        ((keywords table : Parser F ι String).run x).log.length = i ↔
      LeadsAt table (Input.elements x) i v (Input.elements r) := by
  induction table generalizing i with
  | nil => exact ⟨fun h => absurd h.1 not_succeeds_firstOf_nil, fun h => absurd h not_leadsAt_nil⟩
  | cons t table ih =>
    by_cases ht : t.toList <+: Input.elements x
    · rw [Succeeds, run_keywords_of_isPrefix ht, log_string]
      cases i with
      | zero =>
        rw [leadsAt_zero, List.length_nil, and_iff_left rfl]
        refine succeeds_string.trans (and_congr_right fun hv => ?_)
        rw [hv]
      | succ i => simp [leadsAt_succ, ht]
    · by_cases hne : table = []
      · subst hne
        obtain ⟨e, he⟩ : ∃ e, (string t : Parser F ι String).Fails x e := exists_fails_string_iff.mpr ht
        refine ⟨fun h => absurd he h.1.not_fails, fun h => absurd ?_ ht⟩
        obtain ⟨s, hs, hcs⟩ := exists_leadsAt_iff.mp ⟨i, v, _, h⟩
        rwa [← List.mem_singleton.mp hs]
      · obtain ⟨e, hrun⟩ := run_keywords_of_not_isPrefix (F := F) ht hne
        rw [Succeeds, hrun]
        cases i with
        | zero =>
          have hno : ¬LeadsAt (t :: table) (Input.elements x) 0 v (Input.elements r) := by
            intro h
            obtain ⟨rfl, -⟩ := leadsAt_zero.mp h
            exact ht h.isPrefix
          simp [Run.after, hno]
        | succ i =>
          rw [leadsAt_succ, and_iff_right ht, ← ih]
          simp [Run.after, Succeeds]

theorem succeeds_keywords :
    (keywords table : Parser F ι String).Succeeds x v r ↔
      ∃ i, LeadsAt table (Input.elements x) i v (Input.elements r) := by
  simp only [← succeeds_keywords_at (F := F), exists_and_left, exists_eq', and_true]

theorem exists_succeeds_keywords_iff : (∃ v r, (keywords table : Parser F ι String).Succeeds x v r) ↔
    ∃ s ∈ table, s.toList <+: Input.elements x := by
  rw [← exists_leadsAt_iff]
  constructor
  · rintro ⟨v, r, h⟩
    obtain ⟨i, hi⟩ := succeeds_keywords.mp h
    exact ⟨i, v, _, hi⟩
  · rintro ⟨i, s, rest, h⟩
    obtain ⟨r, rfl⟩ := Input.exists_elements_eq h.split
    exact ⟨s, r, succeeds_keywords.mpr ⟨i, h⟩⟩

/-- **The first keyword wins.** The choice between the strings of a table never faults, and it succeeds where
the text begins with one of them. It gives the first that the text begins with and leaves what follows it, and
the log has one record for each string in front of that one. So if none begins with another one, any order of
the table gives the same values and rests and fails on the same texts. And a string that stands behind a
beginning of it is not the one that is given there: it comes back only if it stands in front of that beginning
as well. -/
theorem first_keyword_wins (table : List String) :
    let p : Parser F Text String := keywords table
    (∀ x f, ¬p.Faults x f) ∧
    (∀ x, (∃ v r, p.Succeeds x v r) ↔ ∃ s ∈ table, s.toList <+: x.chars) ∧
    (∀ x i v r, p.Succeeds x v r ∧ (p.run x).log.length = i ↔ LeadsAt table x.chars i v r.chars) ∧
    (PrefixFree table → ∀ table' : List String, table'.Perm table → ∀ x,
      (∀ v r, (keywords table' : Parser F Text String).Succeeds x v r ↔ p.Succeeds x v r) ∧
        ((∃ e, (keywords table' : Parser F Text String).Fails x e) ↔ ∃ e, p.Fails x e)) ∧
    ∀ i j s t, i < j → table[i]? = some s → table[j]? = some t → s.toList <+: t.toList → s ≠ t →
      (∀ x v r, p.Succeeds x v r → (p.run x).log.length ≠ j) ∧
        (t ∉ table.take i → ∀ x r, ¬p.Succeeds x t r) := by
  refine ⟨fun x f => not_faults_keywords, fun x => exists_succeeds_keywords_iff,
    fun x i v r => succeeds_keywords_at, ?_, ?_⟩
  · intro hfree table' hperm x
    refine ⟨fun v r => ?_, ?_⟩
    · rw [succeeds_keywords, succeeds_keywords, hfree.exists_leadsAt_iff, (hfree.of_perm hperm).exists_leadsAt_iff,
        hperm.mem_iff]
    · rw [exists_fails_iff fun f => not_faults_keywords, exists_fails_iff fun f => not_faults_keywords,
        exists_succeeds_keywords_iff, exists_succeeds_keywords_iff]
      simp only [hperm.mem_iff]
  · intro i j s t hij hs ht hst hne
    refine ⟨fun x v r hv hj => ?_, fun hmem x r hv => ?_⟩
    · exact not_leadsAt_of_isPrefix hij hs ht hst (succeeds_keywords_at.mp ⟨hv, hj⟩)
    · obtain ⟨k, hk⟩ := succeeds_keywords.mp hv
      exact hmem (hk.mem_take_of_isPrefix hs hst hne)

theorem first_keyword_wins_words :
    PrefixFree ["let", "fn", "if"] ∧
      (keywords ["if", "fn", "let"] : Parser .none Text String).Succeeds (.ofString "fn main") "fn"
        (.ofString " main") ∧
      "in".toList <+: "int".toList ∧
      ∀ x r, ¬(keywords ["in", "int"] : Parser .none Text String).Succeeds x "int" r := by
  have hfree : PrefixFree ["let", "fn", "if"] := by decide
  have hperm : ["if", "fn", "let"].Perm ["let", "fn", "if"] :=
    List.reverse_perm ["let", "fn", "if"]
  have hin : "in".toList <+: "int".toList := by decide
  obtain ⟨-, -, -, horder, -⟩ := first_keyword_wins (F := .none) ["let", "fn", "if"]
  obtain ⟨-, -, -, -, hshadow⟩ := first_keyword_wins (F := .none) ["in", "int"]
  obtain ⟨hvalues, -⟩ := horder hfree _ hperm (.ofString "fn main")
  obtain ⟨-, hnever⟩ := hshadow 0 1 "in" "int" Nat.zero_lt_one rfl rfl hin (by decide)
  exact ⟨hfree, (hvalues _ _).mpr rfl, hin, hnever (by decide)⟩

/-- It does come back where it stands in front too: the third word of the table is the first one again. -/
theorem keyword_behind_its_beginning :
    ¬∀ (table : List String) (i j : Nat) (s t : String), i < j → table[i]? = some s → table[j]? = some t →
      s.toList <+: t.toList → s ≠ t → ∀ x r, ¬(keywords table : Parser .none Text String).Succeeds x t r := by
  intro h
  have hin : "in".toList <+: "int".toList := by decide
  have hfirst : (keywords ["int", "in", "int"] : Parser .none Text String).Succeeds (.ofString "int") "int"
      (.ofString "") := rfl
  exact h ["int", "in", "int"] 1 2 "in" "int" (by decide) rfl rfl hin (by decide) _ _ hfirst

end Parser

end Parsing
