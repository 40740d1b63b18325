import Parsing.Character.Unprintable

/-!
# Describing values in messages

`describe` gives the text by which a value is named in messages: characters and strings are
quoted, lists stand in brackets, pairs in parentheses. Quoting escapes what could not be told
apart or seen otherwise.
-/

namespace Parsing

class Describe (α : Type) where
  describe : α → String

export Describe (describe)

/-- How `c` stands between two marks `mark`. -/
def escaped (mark c : Char) : String :=
  match c with
  | '\x00' => "\\0"
  | '\t' => "\\t"
  | '\n' => "\\n"
  | '\r' => "\\r"
  | '\\' => "\\\\"
  | c =>
    if c == mark then String.ofList ['\\', c]
    else if isUnprintable c then "\\u\x7b" ++ String.ofList (Nat.toDigits 16 c.toNat) ++ "\x7d"
    else c.toString

def quoted (mark : Char) (cs : List Char) : String :=
  mark.toString ++ String.join (cs.map (escaped mark)) ++ mark.toString

def listed (items : List String) : String := "[" ++ ", ".intercalate items ++ "]"

instance : Describe Char := ⟨fun c => quoted '\'' [c]⟩

instance : Describe String := ⟨fun s => quoted '"' s.toList⟩

instance : Describe Unit := ⟨fun _ => "()"⟩

instance : Describe Bool := ⟨fun b => if b then "true" else "false"⟩

instance : Describe Int64 := ⟨fun n => toString n.toInt⟩

instance {α : Type} [Describe α] : Describe (List α) := ⟨fun xs => listed (xs.map describe)⟩

instance {α β : Type} [Describe α] [Describe β] : Describe (α × β) :=
  ⟨fun p => "(" ++ describe p.1 ++ ", " ++ describe p.2 ++ ")"⟩

end Parsing
