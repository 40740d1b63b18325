import Parsing.Describe
import Parsing.Input.Basic

/-!
# Text as input

The elements of a text are its characters. Its size is counted in bytes of UTF-8.
-/

namespace Parsing

def utf8Length : List Char → Nat
  | [] => 0
  | c :: cs => c.utf8Size + utf8Length cs

structure Text where
  chars : List Char
deriving DecidableEq

namespace Text

def ofString (s : String) : Text := ⟨s.toList⟩

def toString (t : Text) : String := String.ofList t.chars

def byteSize (t : Text) : Nat := utf8Length t.chars

instance : Input Text Char where
  elements := Text.chars
  first? t := t.chars.head?
  rest t := ⟨t.chars.tail⟩
  size := byteSize

instance : Describe Text := ⟨fun t => describe t.toString⟩

end Text

end Parsing
