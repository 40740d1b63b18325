import Parsing.Proofs.Bytes

/-!
# Reading an input

Looking at the first element of an input and taking it off, over and over, gives its elements in order and then
stops. Every step makes the input smaller, a list by one and a text by the bytes of its first character. Among
the suffixes of one text, the numbers of bytes and the numbers of characters are in the same order, and tell
which suffix lies within which. Between unrelated texts this fails: the one with more bytes may have fewer
characters.
-/

namespace Parsing

variable {ι ε : Type} [Input ι ε]

namespace Input

/-! ## The loop -/

section
variable [LawfulInput ι]

theorem first?_eq_some {x : ι} {e : ε} : first? x = some e ↔ elements x = e :: elements (rest x) := by
  rw [LawfulInput.first?_eq, LawfulInput.elements_rest]
  cases elements x <;> simp

theorem first?_eq_none {x : ι} : first? x = none ↔ elements x = [] := by
  rw [LawfulInput.first?_eq, List.head?_eq_none_iff]

theorem rest_of_first?_eq_none {x : ι} (h : first? x = none) : rest x = x := by
  apply eq_of_elements
  rw [LawfulInput.elements_rest, first?_eq_none.mp h]
  rfl

theorem first?_drop (n : Nat) (x : ι) : first? (drop n x) = (elements x)[n]? := by
  rw [LawfulInput.first?_eq, elements_drop, List.head?_drop]

end

def readAll [LawfulInput ι] (x : ι) : List ε :=
  match _h : first? x with
  | some e => e :: readAll (rest x)
  | none => []
termination_by size x
decreasing_by
  apply LawfulInput.size_rest_lt
  rw [first?_eq_some.mp _h]
  exact List.cons_ne_nil _ _

theorem readAll_eq_elements [LawfulInput ι] (x : ι) : readAll x = elements x := by
  fun_induction readAll x with
  | case1 x e h ih => rw [ih, first?_eq_some.mp h]
  | case2 x h => rw [first?_eq_none.mp h]

/-! ## Weights -/

/-- Sizes are measured in the weights of the elements. Every element has some weight. -/
structure Weighed (ι : Type) {ε : Type} [Input ι ε] (weight : ε → Nat) : Prop where
  size_of_none {x : ι} : first? x = none → size x = 0
  size_rest_add {x : ι} {e : ε} : first? x = some e → size (rest x) + weight e = size x
  pos (e : ε) : 0 < weight e

variable {weight : ε → Nat}

theorem Weighed.size_rest_lt (h : Weighed ι weight) {x : ι} {e : ε} (he : first? x = some e) :
    size (rest x) < size x := by
  have hs := h.size_rest_add he
  have hpos := h.pos e
  omega

theorem Weighed.first?_eq_none_iff (h : Weighed ι weight) (x : ι) : first? x = none ↔ size x = 0 := by
  refine ⟨h.size_of_none, fun hs => ?_⟩
  cases hx : first? x with
  | none => rfl
  | some e =>
    have hlt := h.size_rest_lt hx
    omega

/-- What looking at the first element of `x` and taking it off come to. -/
structure Reads [LawfulInput ι] (weight : ε → Nat) (x : ι) : Prop where
  first?_eq_none_iff : first? x = none ↔ size x = 0
  rest_of_none : first? x = none → rest x = x
  size_rest_lt {e : ε} : first? x = some e → size (rest x) < size x
  size_rest_add {e : ε} : first? x = some e → size (rest x) + weight e = size x
  /-- After `n` steps the next element is the one at `n`, and after all of them there is none. -/
  first?_drop (n : Nat) : first? (drop n x) = (elements x)[n]?
  readAll_eq : readAll x = elements x

variable [LawfulInput ι]

theorem Weighed.reads (h : Weighed ι weight) (x : ι) : Reads weight x where
  first?_eq_none_iff := h.first?_eq_none_iff x
  rest_of_none := rest_of_first?_eq_none
  size_rest_lt := h.size_rest_lt
  size_rest_add := h.size_rest_add
  first?_drop n := Input.first?_drop n x
  readAll_eq := readAll_eq_elements x

/-! ## Suffixes -/

section
variable {x a b : ι}

theorem length_lt_iff_of_suffix (ha : elements a <:+ elements x) (hb : elements b <:+ elements x) :
    (elements a).length < (elements b).length ↔ elements a <:+ elements b ∧ a ≠ b := by
  constructor
  · intro hlt
    refine ⟨List.suffix_of_suffix_length_le ha hb (Nat.le_of_lt hlt), ?_⟩
    rintro rfl
    exact Nat.lt_irrefl _ hlt
  · rintro ⟨hab, hne⟩
    apply Nat.lt_of_le_of_ne hab.length_le
    exact fun hl => hne (eq_of_elements (hab.eq_of_length hl))

theorem size_lt_iff_of_suffix (ha : elements a <:+ elements x) (hb : elements b <:+ elements x) :
    size a < size b ↔ (elements a).length < (elements b).length := by
  rcases List.suffix_or_suffix_of_suffix ha hb with hab | hba
  · exact size_lt_iff hab
  · have hs := size_le_of_suffix hba
    have hl := hba.length_le
    exact ⟨fun h => absurd h (by omega), fun h => absurd h (by omega)⟩

theorem size_eq_iff_of_suffix (ha : elements a <:+ elements x) (hb : elements b <:+ elements x) :
    size a = size b ↔ a = b := by
  refine ⟨fun hs => ?_, fun h => by rw [h]⟩
  rcases List.suffix_or_suffix_of_suffix ha hb with hab | hba
  · exact eq_of_size_le hab (Nat.le_of_eq hs.symm)
  · exact (eq_of_size_le hba (Nat.le_of_eq hs)).symm

end

/-! ## Lists and texts -/

theorem weighed_list (ε : Type) : Weighed (List ε) fun _ => 1 where
  size_of_none {x} h := by
    cases x with
    | nil => rfl
    | cons e x => cases h
  size_rest_add {x e} h := by
    cases x with
    | nil => cases h
    | cons e x => rfl
  pos _ := Nat.one_pos

theorem weighed_text : Weighed Text Char.utf8Size where
  size_of_none {x} h := by
    obtain ⟨cs⟩ := x
    cases cs with
    | nil => rfl
    | cons c cs => cases h
  size_rest_add {x c} h := by
    obtain ⟨cs⟩ := x
    cases cs with
    | nil => cases h
    | cons d cs =>
      cases h
      exact Nat.add_comm (utf8Length cs) c.utf8Size
  pos := Char.utf8Size_pos

end Input

namespace Text

/-- The bytes of a text are those of its first character and then those of the rest. -/
theorem utf8_toString {x : Text} {c : Char} (h : Input.first? x = some c) :
    utf8 x.toString = utf8 c.toString ++ utf8 (Input.rest x).toString := by
  have hx : x.chars = c.toString.toList ++ (Input.rest x).chars := by
    rw [Char.toString, String.toList_singleton]
    exact Input.first?_eq_some.mp h
  rw [toString_eq_append hx, utf8_append]

theorem length_utf8 (s : String) : (utf8 s).length = s.utf8ByteSize := by
  rw [utf8, Array.length_toList, ← String.size_toByteArray]
  rfl

theorem byteSize_eq_length_utf8 (x : Text) : x.byteSize = (utf8 x.toString).length := by
  obtain ⟨cs⟩ := x
  induction cs with
  | nil => rfl
  | cons c cs ih =>
    have hc : (utf8 c.toString).length = c.utf8Size := by
      rw [length_utf8, Char.toString, String.utf8ByteSize_singleton]
    rw [utf8_toString (x := ⟨c :: cs⟩) rfl, List.length_append, hc]
    exact congrArg (c.utf8Size + ·) ih

end Text

/-- **Reading takes every element once, in order, and comes to an end.** There is no first element exactly where
the size is zero, and then the rest is the input itself. Otherwise taking the first element off makes the input
smaller, a text by the bytes of the character and a list by one. Of two suffixes of one text, the one with fewer
bytes has fewer characters and is a proper suffix of the other; with as many bytes they are the same. -/
theorem Input.reads_in_order :
    (∀ x : Text, Reads Char.utf8Size x ∧ x.byteSize = (utf8 x.toString).length ∧
      ∀ c, first? x = some c → utf8 x.toString = utf8 c.toString ++ utf8 (rest x).toString) ∧
    (∀ {ε : Type} (x : List ε), Reads (fun _ => 1) x) ∧
    ∀ x a b : Text, a.chars <:+ x.chars → b.chars <:+ x.chars →
      (a.byteSize < b.byteSize ↔ a.chars.length < b.chars.length) ∧
        (a.chars.length < b.chars.length ↔ a.chars <:+ b.chars ∧ a ≠ b) ∧
        (a.byteSize = b.byteSize ↔ a = b) := by
  refine ⟨fun x => ⟨weighed_text.reads x, x.byteSize_eq_length_utf8, fun c => Text.utf8_toString⟩,
    fun x => (weighed_list _).reads x, fun x a b ha hb => ?_⟩
  refine ⟨size_lt_iff_of_suffix (x := x) ha hb, ?_, ?_⟩
  · exact length_lt_iff_of_suffix (x := x) (a := a) (b := b) ha hb
  · exact size_eq_iff_of_suffix (x := x) (a := a) (b := b) ha hb

theorem Input.reads_in_order_accents :
    let x := Text.ofString "aé中"
    let a := Text.ofString "中"
    let b := Text.ofString "é中"
    (size b + 1 = size x ∧ size a + 2 = size b ∧ readAll x = ['a', 'é', '中']) ∧
      (a.chars <:+ x.chars ∧ b.chars <:+ x.chars) ∧ a.chars.length < b.chars.length ∧ a.byteSize < b.byteSize := by
  intro x a b
  obtain ⟨htext, -, horder⟩ := reads_in_order
  have hx := (htext x).1
  have hb := (htext b).1
  have ha : a.chars <:+ x.chars := ⟨['a', 'é'], rfl⟩
  have hb' : b.chars <:+ x.chars := ⟨['a'], rfl⟩
  have hl : a.chars.length < b.chars.length := by decide
  exact ⟨⟨hx.size_rest_add (e := 'a') rfl, hb.size_rest_add (e := 'é') rfl, hx.readAll_eq⟩, ⟨ha, hb'⟩, hl,
    (horder x a b ha hb').1.mpr hl⟩

end Parsing
