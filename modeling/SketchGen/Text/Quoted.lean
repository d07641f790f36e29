import SketchGen.Text.PrintableTable

namespace SketchGen.Text

/-! Quoted text, as error messages and rendered lists show a string. The text stands between
single quotes, or between double quotes when it holds a single quote and no double quote. A
backslash and the chosen quote are escaped with a backslash; tab, line feed and carriage
return are written by name; every other non-printable character becomes a hexadecimal escape
of two, four or eight lowercase digits. -/

def isPrintable (c : Char) : Bool := CodeRange.memTable printableRanges c

def hexDigits (width n : Nat) : List Char :=
  (List.range width).reverse.map fun i => Nat.digitChar (n / Nat.pow 16 i % 16)

def hexEscape (c : Char) : List Char :=
  let n := c.toNat
  if n < 0x100 then '\\' :: 'x' :: hexDigits 2 n
  else if n < 0x10000 then '\\' :: 'u' :: hexDigits 4 n
  else '\\' :: 'U' :: hexDigits 8 n

def quoteChar (quote c : Char) : List Char :=
  if c = quote ∨ c = '\\' then ['\\', c]
  else if c = '\t' then ['\\', 't']
  else if c = '\n' then ['\\', 'n']
  else if c = '\r' then ['\\', 'r']
  else if c.toNat < 0x20 ∨ c.toNat = 0x7F then hexEscape c
  else if c.toNat < 0x7F ∨ isPrintable c then [c]
  else hexEscape c

/-- The quote that encloses a text: double only for a text with a single quote and no double
quote. -/
def quoteFor (s : String) : Char :=
  if s.toList.contains '\'' && !s.toList.contains '"' then '"' else '\''

def quoted (s : String) : String :=
  let q := quoteFor s
  String.ofList (q :: (s.toList.flatMap (quoteChar q)) ++ [q])

end SketchGen.Text
