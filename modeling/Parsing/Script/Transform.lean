import Parsing.Script.Value

/-!
# Functions on values

A function that expects values of a certain shape gives any other value back unchanged.
-/

namespace Parsing.Script

inductive Transform
  | keep
  | const (v : Value)
  | count
  | number
  | concat
  | bytes
  | codepoint
  | add (n : Int64)
  | mul (n : Int64)
  | tag (name : String)
  | first
  | second
  | reverse
  | cons
  | arith
  | compose (fs : List Transform)

namespace Transform

def operate (n : Int64) : Value → Int64
  | .pair op (.int m) =>
    match op.concat with
    | "+" => n + m
    | "-" => n - m
    | "*" => n * m
    | _ => n
  | _ => n

mutual
def apply : Transform → Value → Value
  | keep, v => v
  | const w, _ => w
  | count, v => .int (.ofNat v.count)
  | number, v => .int v.number
  | concat, v => .string v.concat
  | bytes, v => .int (.ofNat v.concat.utf8ByteSize)
  | codepoint, .char c => .int (.ofNat c.toNat)
  | add n, .int m => .int (m + n)
  | mul n, .int m => .int (m * n)
  | tag name, v => .pair (.string name) v
  | first, .pair a _ => a
  | second, .pair _ b => b
  | reverse, .list items => .list items.reverse
  | cons, .pair a (.list items) => .list (a :: items)
  | arith, .pair (.int n) (.list items) => .int (items.foldl operate n)
  | compose fs, v => applyAll fs v
  | _, v => v
def applyAll : List Transform → Value → Value
  | [], v => v
  | f :: fs, v => applyAll fs (apply f v)
end

end Transform

end Parsing.Script
