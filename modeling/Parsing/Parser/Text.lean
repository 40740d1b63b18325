import Parsing.Character.Alphabetic
import Parsing.Character.Numeric
import Parsing.Character.Whitespace
import Parsing.Parser.Match

/-!
# Matching characters

Parsers for inputs of characters, above all for `Text`.
-/

namespace Parsing

namespace Parser

variable {F : ErrorFamily} {ι ν : Type} [Input ι Char]

def char (c : Char) : Parser F ι Char ν := element c

def anyChar : Parser F ι Char ν := satisfy (fun _ => true) "any character"

def digit : Parser F ι Char ν := satisfy isNumeric "digit"

def letter : Parser F ι Char ν := satisfy isAlphabetic "letter"

def whitespace : Parser F ι Char ν := satisfy isWhitespace "whitespace"

def string (s : String) : Parser F ι String ν := (slice s.toList (describe s)).map String.ofList

end Parser

end Parsing
