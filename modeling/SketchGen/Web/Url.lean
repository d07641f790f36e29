namespace SketchGen.Web

/-! The parts of a request target, and percent escapes. A target's path ends at its query (`?`)
or fragment (`#`); a target that starts with `//` names a host first, which is not part of the
path. In a path or a form field, `%` with two hexadecimal digits stands for one byte, and runs
of such bytes are read as UTF-8 (a run that is not UTF-8 reads as one replacement character).
Form fields are `name=value` pairs separated by `&`, with `+` for a blank. -/

def hexValue? (c : Char) : Option Nat :=
  if '0' ≤ c ∧ c ≤ '9' then some (c.toNat - '0'.toNat)
  else if 'a' ≤ c ∧ c ≤ 'f' then some (c.toNat - 'a'.toNat + 10)
  else if 'A' ≤ c ∧ c ≤ 'F' then some (c.toNat - 'A'.toNat + 10)
  else none

def readUtf8 (bytes : List UInt8) : String :=
  if bytes.isEmpty then ""
  else (String.fromUTF8? (ByteArray.mk bytes.toArray)).getD "�"

def percentDecodeFrom (pending : List UInt8) : List Char → String
  | [] => readUtf8 pending
  | '%' :: a :: b :: more =>
    match hexValue? a, hexValue? b with
    | some x, some y => percentDecodeFrom (pending ++ [UInt8.ofNat (16 * x + y)]) more
    | _, _ => readUtf8 pending ++ "%" ++ percentDecodeFrom [] (a :: b :: more)
  | c :: rest => readUtf8 pending ++ String.singleton c ++ percentDecodeFrom [] rest
termination_by cs => cs.length

def percentDecode (s : String) : String := percentDecodeFrom [] s.toList

def targetPath (target : String) : String :=
  let beforeFragment := target.toList.takeWhile (· ≠ '#')
  let path := beforeFragment.takeWhile (· ≠ '?')
  match path with
  | '/' :: '/' :: rest => String.ofList (rest.dropWhile (· ≠ '/'))
  | _ => String.ofList path

def formField (piece : String) : String × String :=
  let cs := piece.toList
  let name := cs.takeWhile (· ≠ '=')
  let value := (cs.dropWhile (· ≠ '=')).drop 1
  let plain (xs : List Char) := percentDecode (String.ofList (xs.map fun c => if c = '+' then ' ' else c))
  (plain name, plain value)

def formFields (body : String) : List (String × String) :=
  ((body.splitOn "&").filter (!·.isEmpty)).map formField

theorem percentDecodeFrom_nil (pending : List UInt8) :
    percentDecodeFrom pending [] = readUtf8 pending := by
  simp [percentDecodeFrom]

end SketchGen.Web
