import SketchGen.Json.Display

namespace SketchGen.Json

open SketchGen.Number

/-! JSON text. Strings escape the quote, the backslash and control characters, and, when only
ASCII may appear, every other character beyond ASCII as one or two `\u` escapes of lowercase
hexadecimal digits. Doubles use their shortest form, with `NaN` and `Infinity` for the special
values. -/

def hex4 (n : Nat) : String := String.ofList (Text.hexDigits 4 n)

def escapeChar (asciiOnly : Bool) (c : Char) : String :=
  if c = '"' then "\\\""
  else if c = '\\' then "\\\\"
  else if c = '\n' then "\\n"
  else if c = '\r' then "\\r"
  else if c = '\t' then "\\t"
  else if c = '\x08' then "\\b"
  else if c = '\x0c' then "\\f"
  else if c.toNat < 0x20 then "\\u" ++ hex4 c.toNat
  else if asciiOnly ∧ c.toNat > 0x7E then
    if c.toNat < 0x10000 then "\\u" ++ hex4 c.toNat
    else
      let n := c.toNat - 0x10000
      "\\u" ++ hex4 (0xD800 + n / 0x400) ++ "\\u" ++ hex4 (0xDC00 + n % 0x400)
  else String.singleton c

def stringLiteral (asciiOnly : Bool) (s : String) : String :=
  "\"" ++ String.join (s.toList.map (escapeChar asciiOnly)) ++ "\""

def floatLiteral : Binary64 → String
  | .nan => "NaN"
  | .infinite false => "Infinity"
  | .infinite true => "-Infinity"
  | x => x.text

def sortMembers (ms : List (String × Value)) : List (String × Value) :=
  ms.mergeSort fun a b => decide (a.1 ≤ b.1)

mutual

def Value.sortKeys : Value → Value
  | .arr items => .arr (sortKeysItems items)
  | .obj members => .obj (sortMembers (sortKeysMembers members))
  | v => v

def sortKeysItems : List Value → List Value
  | [] => []
  | v :: vs => v.sortKeys :: sortKeysItems vs

def sortKeysMembers : List (String × Value) → List (String × Value)
  | [] => []
  | (k, v) :: ms => (k, v.sortKeys) :: sortKeysMembers ms

end

mutual

def Value.compact (asciiOnly : Bool) : Value → String
  | .null => "null"
  | .bool true => "true"
  | .bool false => "false"
  | .int i => intText i
  | .float x => floatLiteral x
  | .str s => stringLiteral asciiOnly s
  | .arr items => "[" ++ compactItems asciiOnly items ++ "]"
  | .obj members => "\x7b" ++ compactMembers asciiOnly members ++ "\x7d"

def compactItems (asciiOnly : Bool) : List Value → String
  | [] => ""
  | [v] => v.compact asciiOnly
  | v :: vs => v.compact asciiOnly ++ "," ++ compactItems asciiOnly vs

def compactMembers (asciiOnly : Bool) : List (String × Value) → String
  | [] => ""
  | [(k, v)] => stringLiteral asciiOnly k ++ ":" ++ v.compact asciiOnly
  | (k, v) :: ms =>
    stringLiteral asciiOnly k ++ ":" ++ v.compact asciiOnly ++ "," ++ compactMembers asciiOnly ms

end

end SketchGen.Json
