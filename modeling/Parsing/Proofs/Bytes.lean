import Parsing.Parser.Text
import Parsing.Proofs.Spelling

/-!
# Text and its bytes

A string is matched at once: the input is cut after it, and only if the cut does not equal the string is the
first difference looked for. This comes to the same as a walk over the elements. On texts it also comes to
the same as a comparison of bytes with a cut after as many bytes: the bytes of one text begin with those of
another only where its characters do, so the cut is never within a character.
-/

namespace Parsing

variable {F : ErrorFamily} {ι ε α β ν : Type}

/-! ## Cutting and searching -/

section
variable [BEq ε] {es ts us : List ε} {j n : Nat} {e : ε}

theorem AgreeBelow.append (h : AgreeBelow n es ts) (hn : n ≤ es.length) : AgreeBelow n (es ++ us) ts := by
  intro i hi a t ha ht
  rw [List.getElem?_append_left (Nat.lt_of_lt_of_le hi hn)] at ha
  exact h i hi a t ha ht

theorem FirstDifference.append (h : FirstDifference es ts j e) : FirstDifference (es ++ us) ts j e := by
  obtain ⟨hj, -⟩ := List.getElem?_eq_some_iff.mp h.here
  refine ⟨?_, h.differs, h.before.append (Nat.le_of_lt hj)⟩
  rw [List.getElem?_append_left hj]
  exact h.here

theorem AgreeBelow.isPrefix [LawfulBEq ε] (h : AgreeBelow es.length es ts) (hl : es.length ≤ ts.length) :
    es <+: ts := by
  rw [List.prefix_iff_getElem?]
  intro i hi
  have hi' : i < ts.length := Nat.lt_of_lt_of_le hi hl
  have heq : (es[i] == ts[i]) = true := h i hi _ _ (List.getElem?_eq_getElem hi) (List.getElem?_eq_getElem hi')
  rw [List.getElem?_eq_getElem hi', eq_of_beq heq]

end

theorem zip_take_length (es : List α) (ts : List β) : (es.take ts.length).zip ts = es.zip ts := by
  have hlen : (es.zip ts).length ≤ ts.length := by
    rw [List.length_zip]
    exact Nat.min_le_right _ _
  calc (es.take ts.length).zip ts
    _ = (es.take ts.length).zip (ts.take ts.length) := by rw [List.take_length]
    _ = (es.zip ts).take ts.length := List.take_zipWith.symm
    _ = es.zip ts := List.take_of_length_le hlen

namespace Input

variable [Input ι ε] [LawfulInput ι] [BEq ε]

theorem strip_eq_cut (ts : List ε) (x : ι) :
    strip ts x =
      if (elements x).take ts.length == ts then .ok (drop ts.length x)
      else .error ((((elements x).take ts.length).zip ts).find? (fun p => p.1 != p.2) |>.map Prod.fst) := by
  induction ts generalizing x with
  | nil => simp [strip, drop]
  | cons t ts ih =>
    rw [strip, LawfulInput.first?_eq]
    cases hx : elements x with
    | nil => simp
    | cons e es =>
      have hr : elements (rest x) = es := elements_rest hx
      by_cases he : e == t
      · simp [he, ih, hr, drop, bne]
      · simp [he, bne]

theorem strip_eq_append [LawfulBEq ε] {ts : List ε} {x r : ι} :
    strip ts x = .ok r ↔ elements x = ts ++ elements r := by
  rw [strip_eq_ok]
  constructor
  · rintro ⟨es, hx, hes⟩
    have heq : es = ts := eq_of_beq (beq_iff_forall₂.mpr hes)
    rw [hx, heq]
  · intro hx
    exact ⟨ts, hx, beq_iff_forall₂.mp (BEq.refl ts)⟩

end Input

namespace Parser

section
variable [Input ι ε] [LawfulInput ι] [BEq ε] [Describe ε] {ts : List ε} {x : ι} {expected : String}

theorem run_slice (ts : List ε) (expected : String) (x : ι) :
    (slice ts expected : Parser F ι (List ε) ν).run x =
      match Input.strip ts x with
      | .ok r => .success ((Input.elements x).take ts.length) r
      | .error found? => .failure (.mismatch (.of expected found?)) := by
  rw [Input.strip_eq_cut]
  by_cases h : (Input.elements x).take ts.length == ts
  · simp only [slice, h, if_true]
  · simp only [slice, h]
    rfl

theorem Spells.slice (ts : List ε) (expected : String) :
    Spells ts (Parser.slice ts expected : Parser F ι (List ε) ν) where
  succeeds {x r} h := by
    simp only [Succeeds, run_slice, h]
    exact ⟨_, rfl⟩
  fails {x found?} h := by
    simp only [Fails, run_slice, h]
    exact ⟨_, rfl⟩

end

theorem Spells.map [Input ι ε] [BEq ε] [Describe ε] {ts : List ε} {p : Parser F ι α ν} (hp : Spells ts p)
    (f : α → β) : Spells ts (p.map f) where
  succeeds {x r} h := by
    obtain ⟨v, hv⟩ := hp.succeeds h
    exact ⟨f v, succeeds_map.mpr ⟨v, hv, rfl⟩⟩
  fails {x found?} h := by
    obtain ⟨expected, he⟩ := hp.fails h
    exact ⟨expected, fails_map.mpr he⟩

/-! ## Strings -/

section
variable [Input ι Char] [LawfulInput ι] {s v : String} {x r : ι}

theorem run_string (s : String) (x : ι) :
    (string s : Parser F ι String ν).run x =
      match Input.strip s.toList x with
      | .ok r => .success s r
      | .error found? => .failure (.mismatch (.of (describe s) found?)) := by
  simp only [string, map, run_slice]
  cases h : Input.strip s.toList x with
  | error found? => rfl
  | ok r =>
    have htake : (Input.elements x).take s.toList.length = s.toList := by
      rw [Input.strip_eq_append.mp h, List.take_left]
    have hs : String.ofList s.toList = s := String.ofList_toList
    simp only [htake, Run.mapOutcome, Run.success, Except.map, Outcome.map, hs]

theorem Spells.string (s : String) : Spells s.toList (Parser.string s : Parser F ι String ν) :=
  (Spells.slice _ _).map _

theorem succeeds_string :
    (string s : Parser F ι String ν).Succeeds x v r ↔ v = s ∧ Input.elements x = s.toList ++ Input.elements r := by
  rw [← Input.strip_eq_append, Succeeds, run_string]
  cases Input.strip s.toList x with
  | error found? => simp [Run.failure]
  | ok y => simp [Run.success, eq_comm]

theorem fails_string {e : ParseError F} : (string s : Parser F ι String ν).Fails x e ↔
    (∃ j c, FirstDifference (Input.elements x) s.toList j c ∧
        e = .mismatch (.unexpected (describe s) (describe c))) ∨
      (¬∃ j c, FirstDifference (Input.elements x) s.toList j c) ∧
        (Input.elements x).length < s.toList.length ∧ e = .mismatch (.endOfInput (describe s)) := by
  have hfails : (string s : Parser F ι String ν).Fails x e ↔
      ∃ found?, Input.strip s.toList x = .error found? ∧ e = .mismatch (.of (describe s) found?) := by
    rw [Fails, run_string]
    cases Input.strip s.toList x <;> simp [Run.success, Run.failure, eq_comm]
  exact hfails.trans Input.exists_strip_eq_error

end

end Parser

/-! ## Bytes -/

def utf8 (s : String) : List UInt8 := s.toByteArray.data.toList

theorem utf8_append (s t : String) : utf8 (s ++ t) = utf8 s ++ utf8 t := by
  simp [utf8]

/-- The bytes of a character are no beginning of those of another one, so what begins alike in bytes begins
alike in characters. -/
theorem utf8_prefix_iff {s t : String} : utf8 s <+: utf8 t ↔ s.toList <+: t.toList := by
  constructor
  · rintro ⟨bs, h⟩
    have hb : s.toByteArray ++ bs.toByteArray = t.toByteArray :=
      ByteArray.ext (Array.toList_inj.mp (by simpa [utf8] using h))
    rw [← String.utf8Encode_toList, ← String.utf8Encode_toList] at hb
    exact List.isPrefix_of_utf8Encode_append_eq_utf8Encode _ hb
  · rintro ⟨cs, h⟩
    have ht : t = s ++ String.ofList cs := by
      rw [← String.ofList_toList (s := t), ← h, String.ofList_append, String.ofList_toList]
    rw [ht, utf8_append]
    exact List.prefix_append _ _

namespace Text

instance : Append Text := ⟨fun x y => ⟨x.chars ++ y.chars⟩⟩

theorem elements_append (x y : Text) :
    Input.elements (x ++ y) = Input.elements x ++ Input.elements y := rfl

theorem toString_eq_append {x r : Text} {s : String} (h : x.chars = s.toList ++ r.chars) :
    x.toString = s ++ r.toString := by
  rw [toString, h, String.ofList_append, String.ofList_toList, toString]

theorem toList_toString (x : Text) : x.toString.toList = x.chars := String.toList_ofList

theorem ofString_toString (x : Text) : ofString x.toString = x := by
  rw [ofString, toList_toString]

theorem isValid_of_eq_append {x r : Text} {s : String} (h : x.chars = s.toList ++ r.chars) :
    s.rawEndPos.IsValid x.toString := by
  rw [toString_eq_append h]
  exact String.Pos.Raw.isValid_rawEndPos.append_right _

theorem cut_of_eq_append {x r : Text} {s : String} (h : x.chars = s.toList ++ r.chars)
    (hv : s.rawEndPos.IsValid x.toString) :
    (x.toString.sliceTo (x.toString.pos s.rawEndPos hv)).copy = s ∧
      ofString (x.toString.sliceFrom (x.toString.pos s.rawEndPos hv)).copy = r := by
  have hp : (x.toString.pos s.rawEndPos hv).Splits s r.toString := ⟨toString_eq_append h, String.offset_pos⟩
  obtain ⟨hs, hr⟩ := (String.Pos.splits _).eq hp
  exact ⟨hs, by rw [hr, ofString_toString]⟩

end Text

namespace Parser

/-- The match of `s` decided on bytes. What begins with the bytes of `s` is cut after as many bytes, and there
is no cut within a character. -/
def stringOnBytes (s : String) : Parser F Text String ν :=
  ⟨fun x =>
    let t := x.toString
    if utf8 s <+: utf8 t then
      if h : s.rawEndPos.IsValid t then
        .success (t.sliceTo (t.pos s.rawEndPos h)).copy (.ofString (t.sliceFrom (t.pos s.rawEndPos h)).copy)
      else .fault (.invariant "not at the boundary of a character")
    else
      let differing := (t.toList.zip s.toList).find? fun p => p.1 != p.2
      .failure (.mismatch (.of (describe s) (differing.map Prod.fst)))⟩

theorem string_eq_stringOnBytes (s : String) : (string s : Parser F Text String ν) = stringOnBytes s := by
  refine eq_of_run fun x => ?_
  have hiff : utf8 s <+: utf8 x.toString ↔ s.toList <+: x.chars := by
    rw [utf8_prefix_iff, Text.toList_toString]
  rw [run_string]
  by_cases h : s.toList <+: x.chars
  · obtain ⟨cs, hcs⟩ := h
    have hx : x.chars = s.toList ++ (Text.mk cs).chars := hcs.symm
    have hv := Text.isValid_of_eq_append hx
    obtain ⟨hs, hr⟩ := Text.cut_of_eq_append hx hv
    have hstrip : Input.strip s.toList x = .ok ⟨cs⟩ := Input.strip_eq_append.mpr hx
    simp only [stringOnBytes, hstrip, if_pos (hiff.mpr ⟨cs, hcs⟩), dif_pos hv, hs, hr]
  · have htake : (x.chars.take s.toList.length == s.toList) = false := by
      rw [beq_eq_false_iff_ne]
      exact fun heq => h (List.prefix_iff_eq_take.mpr heq.symm)
    have hstrip : Input.strip s.toList x =
        .error (((x.chars.zip s.toList).find? fun p => p.1 != p.2).map Prod.fst) := by
      rw [Input.strip_eq_cut, zip_take_length]
      exact if_neg (Bool.eq_false_iff.mp htake)
    simp only [stringOnBytes, hstrip, if_neg (hiff.not.mpr h), Text.toList_toString]

/-! ## Extensions of a text -/

section
variable {s : String} {x : Text} {e : ParseError F}

theorem exists_append_succeeds (h : x.chars <+: s.toList) (hl : x.chars.length < s.toList.length) :
    ∃ y : Text, y.chars ≠ [] ∧ ∃ v r, (string s : Parser F Text String ν).Succeeds (x ++ y) v r := by
  obtain ⟨cs, hcs⟩ := h
  refine ⟨⟨cs⟩, ?_, s, ⟨[]⟩, succeeds_string.mpr ⟨rfl, ?_⟩⟩
  · rintro rfl
    rw [← hcs, List.append_nil] at hl
    exact Nat.lt_irrefl _ hl
  · rw [← hcs]
    exact (List.append_nil _).symm

theorem not_append_succeeds {j : Nat} {c : Char} (h : FirstDifference x.chars s.toList j c) (y : Text)
    (v : String) (r : Text) : ¬(string s : Parser F Text String ν).Succeeds (x ++ y) v r := by
  have hy : FirstDifference (Input.elements (x ++ y)) s.toList j c := by
    rw [Text.elements_append]
    exact h.append
  intro hv
  exact hv.not_fails (fails_string.mpr (.inl ⟨j, c, hy, rfl⟩))

end

/-- **Matching a string agrees with matching its characters.** Whether it is decided on the bytes or on the
characters makes no difference, and where the bytes are those of the string, the cut after them is at the
boundary of a character. It succeeds where the matcher of the characters does, with the string as its value,
and leaves the same rest. Where it fails, so does the other, with an error of the same kind that found the
same: the first character that differs from the string at its place, or if there is none, the end of the
text. It reports the end of the text if and only if there is a continuation with which it succeeds. -/
theorem string_agrees_with_elements (s : String) (x : Text) :
    let p : Parser F Text String ν := string s
    let q : Parser F Text (List Char) ν := elements s.toList
    p = stringOnBytes s ∧
    (∀ v r, p.Succeeds x v r ↔ v = s ∧ q.Succeeds x s.toList r) ∧
    (∀ v r, p.Succeeds x v r → v.toList ++ r.chars = x.chars ∧ s.rawEndPos.IsValid x.toString) ∧
    (∀ e, p.Fails x e ↔
      (∃ j c, FirstDifference x.chars s.toList j c ∧ e = .mismatch (.unexpected (describe s) (describe c))) ∨
        (¬∃ j c, FirstDifference x.chars s.toList j c) ∧ x.chars.length < s.toList.length ∧
          e = .mismatch (.endOfInput (describe s))) ∧
    SameMatch (p.run x).result (q.run x).result ∧
    ∀ e, p.Fails x e →
      ((∃ expected, e = .mismatch (.endOfInput expected)) ↔
        ∃ y : Text, y.chars ≠ [] ∧ ∃ v r, p.Succeeds (x ++ y) v r) ∧
      ((∃ expected found, e = .mismatch (.unexpected expected found)) ↔
        ∀ (y : Text) v r, ¬p.Succeeds (x ++ y) v r) := by
  refine ⟨string_eq_stringOnBytes s, fun v r => ?_, fun v r h => ?_, fun e => fails_string,
    (Spells.string s).sameMatch (.elements _) x, fun e he => ?_⟩
  · rw [succeeds_string, succeeds_elements, ← Input.strip_eq_ok, Input.strip_eq_append, and_iff_right rfl]
  · obtain ⟨rfl, hx⟩ := succeeds_string.mp h
    exact ⟨hx.symm, Text.isValid_of_eq_append hx⟩
  · rcases fails_string.mp he with ⟨j, c, h, rfl⟩ | ⟨hnone, hl, rfl⟩
    · refine ⟨⟨fun ⟨_, he⟩ => (by cases he), ?_⟩, ⟨fun _ => not_append_succeeds h, fun _ => ⟨_, _, rfl⟩⟩⟩
      rintro ⟨y, -, v, r, hv⟩
      exact absurd hv (not_append_succeeds h y v r)
    · have h := (agreeBelow_or_firstDifference x.chars s.toList).resolve_right hnone
      have hy := exists_append_succeeds (F := F) (ν := ν) (h.isPrefix (Nat.le_of_lt hl)) hl
      refine ⟨⟨fun _ => hy, fun _ => ⟨_, rfl⟩⟩, ⟨fun ⟨_, _, he⟩ => (by cases he), fun hn => ?_⟩⟩
      obtain ⟨y, -, v, r, hv⟩ := hy
      exact absurd hv (hn y v r)

theorem string_agrees_with_elements_accents :
    let p : Parser .none Text String := string "éa"
    let e : ParseError .none := .mismatch (.unexpected (describe "éa") (describe 'è'))
    (utf8 "éa").head? = (utf8 "è").head? ∧ p.Fails (.ofString "è") e ∧
      (∀ (y : Text) v r, ¬p.Succeeds (.ofString "è" ++ y) v r) ∧
      p.Fails (.ofString "é") (.mismatch (.endOfInput (describe "éa"))) ∧
      (∃ y : Text, y.chars ≠ [] ∧ ∃ v r, p.Succeeds (.ofString "é" ++ y) v r) := by
  intro p e
  obtain ⟨-, -, -, -, -, hx⟩ := string_agrees_with_elements (F := .none) (ν := String) "éa" (.ofString "è")
  obtain ⟨-, -, -, -, -, hy⟩ := string_agrees_with_elements (F := .none) (ν := String) "éa" (.ofString "é")
  have he : p.Fails (.ofString "è") e := rfl
  have he' : p.Fails (.ofString "é") (.mismatch (.endOfInput (describe "éa"))) := rfl
  refine ⟨by decide, he, (hx e he).2.mp ⟨_, _, rfl⟩, he', (hy _ he').1.mp ⟨_, rfl⟩⟩

end Parser

end Parsing
