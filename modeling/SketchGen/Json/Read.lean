import SketchGen.Json.Value

namespace SketchGen.Json

open SketchGen.Number

/-! Reading JSON text. The grammar is JSON's, with three extra words (`NaN`, `Infinity`,
`-Infinity`); a string may not hold a raw control character. A failure names what was
expected and the position where reading stopped, counted in characters, with its line and
column. A failure inside a nested value is reported where the innermost reading stopped.
Integers are exact but may not have more than 4300 digits; fractions are rounded to the
nearest double. -/

/-- What was wrong where reading stopped. -/
inductive Problem where
  | expectingValue
  | extraData
  | expectingName
  | expectingColon
  | expectingComma
  | controlCharacter
  | unterminatedString
  | badEscape
  | badUnicodeEscape
  | byteOrderMark
deriving Repr, DecidableEq

def Problem.text : Problem → String
  | .expectingValue => "Expecting value"
  | .extraData => "Extra data"
  | .expectingName => "Expecting property name enclosed in double quotes"
  | .expectingColon => "Expecting ':' delimiter"
  | .expectingComma => "Expecting ',' delimiter"
  | .controlCharacter => "Invalid control character at"
  | .unterminatedString => "Unterminated string starting at"
  | .badEscape => "Invalid \\escape"
  | .badUnicodeEscape => "Invalid \\uXXXX escape"
  | .byteOrderMark => "Unexpected UTF-8 BOM (decode using utf-8-sig)"

def digitLimit : Nat := 4300

/-- Why a text is not read as a value. -/
inductive ReadError where
  | invalid (problem : Problem) (pos line column : Nat)
  | tooManyDigits (digits : Nat)
deriving Repr, DecidableEq

def ReadError.message : ReadError → String
  | .invalid p pos line column =>
    p.text ++ ": line " ++ toString line ++ " column " ++ toString column ++
      " (char " ++ toString pos ++ ")"
  | .tooManyDigits n =>
    "Exceeds the limit (" ++ toString digitLimit ++
      " digits) for integer string conversion: value has " ++ toString n ++
      " digits; use sys.set_int_max_str_digits() to increase the limit"

/-- A failure before line and column are known. -/
inductive Halt where
  | at (problem : Problem) (pos : Nat)
  | digits (count : Nat)

/-- What remains to be read, and its position in the whole text. -/
structure Cursor where
  rest : List Char
  pos : Nat

abbrev Step (α : Type) := Except Halt (α × Cursor)

def isJsonBlank (c : Char) : Bool := c = ' ' || c = '\t' || c = '\n' || c = '\r'

def Cursor.skipBlanks (c : Cursor) : Cursor :=
  ⟨c.rest.dropWhile isJsonBlank, c.pos + (c.rest.takeWhile isJsonBlank).length⟩

def hexValue (c : Char) : Option Nat :=
  if '0' ≤ c ∧ c ≤ '9' then some (c.toNat - '0'.toNat)
  else if 'a' ≤ c ∧ c ≤ 'f' then some (c.toNat - 'a'.toNat + 10)
  else if 'A' ≤ c ∧ c ≤ 'F' then some (c.toNat - 'A'.toNat + 10)
  else none

def hexQuad : List Char → Option Nat
  | [a, b, c, d] => do
    let a ← hexValue a; let b ← hexValue b; let c ← hexValue c; let d ← hexValue d
    pure (((a * 16 + b) * 16 + c) * 16 + d)
  | _ => none

def simpleEscape : Char → Option Char
  | '"' => some '"'
  | '\\' => some '\\'
  | '/' => some '/'
  | 'b' => some '\x08'
  | 'f' => some '\x0c'
  | 'n' => some '\n'
  | 'r' => some '\r'
  | 't' => some '\t'
  | _ => none

/-- A code point from an escape; a surrogate standing alone becomes the replacement
character. -/
def escapedChar (n : Nat) : Char :=
  if 0xD800 ≤ n ∧ n < 0xE000 then '�' else Char.ofNat n

/-- Reads a `\u` escape whose `u` is at position `u`, after the `u`. Four digits must follow,
and then at least one more character. A high surrogate directly followed by an escaped low
surrogate makes one character. -/
def readUnicodeEscape (cs : List Char) (u : Nat) : Except Halt (Char × Cursor) :=
  if cs.length ≤ 4 then .error (.at .badUnicodeEscape u)
  else
    match hexQuad (cs.take 4) with
    | none => .error (.at .badUnicodeEscape u)
    | some hi =>
      let after := cs.drop 4
      if 0xD800 ≤ hi ∧ hi < 0xDC00 ∧ after.length > 6 then
        match after with
        | '\\' :: 'u' :: more =>
          match hexQuad (more.take 4) with
          | none => .error (.at .badUnicodeEscape (u + 6))
          | some lo =>
            if 0xDC00 ≤ lo ∧ lo < 0xE000 then
              .ok (Char.ofNat (0x10000 + (hi - 0xD800) * 0x400 + (lo - 0xDC00)),
                ⟨more.drop 4, u + 11⟩)
            else .ok (escapedChar hi, ⟨after, u + 5⟩)
        | _ => .ok (escapedChar hi, ⟨after, u + 5⟩)
      else .ok (escapedChar hi, ⟨after, u + 5⟩)

/-- Reads the rest of a string whose opening quote is at `start`; `acc` holds the characters
read so far, in reverse. -/
def readStringFrom (start : Nat) (acc : List Char) : Nat → Cursor → Step String
  | 0, _ => .error (.at .unterminatedString start)
  | fuel + 1, ⟨cs, p⟩ =>
    match cs with
    | [] => .error (.at .unterminatedString start)
    | '"' :: rest => .ok (String.ofList acc.reverse, ⟨rest, p + 1⟩)
    | '\\' :: rest =>
      match rest with
      | [] => .error (.at .unterminatedString start)
      | 'u' :: digits =>
        match readUnicodeEscape digits (p + 1) with
        | .error e => .error e
        | .ok (ch, cur) => readStringFrom start (ch :: acc) fuel cur
      | e :: more =>
        match simpleEscape e with
        | some ch => readStringFrom start (ch :: acc) fuel ⟨more, p + 2⟩
        | none => .error (.at .badEscape p)
    | c :: rest =>
      if c.toNat ≤ 0x1F then .error (.at .controlCharacter p)
      else readStringFrom start (c :: acc) fuel ⟨rest, p + 1⟩

def readString (start : Nat) (c : Cursor) : Step String :=
  readStringFrom start [] (c.rest.length + 1) c

def leadingDigits (cs : List Char) : List Char := cs.takeWhile Char.isDigit

def digitsValue (ds : List Char) : Nat :=
  ds.foldl (fun n d => n * 10 + (d.toNat - '0'.toNat)) 0

/-- The parts of a number's text: integer digits, fraction digits, the exponent (if any) with
its sign, and how many characters the whole text takes. -/
structure NumberText where
  negative : Bool
  whole : List Char
  fraction : Option (List Char)
  exponent : Option (Bool × List Char)
  size : Nat

def NumberText.isFraction (n : NumberText) : Bool := n.fraction.isSome || n.exponent.isSome

/-- The exponent part of a number: a mark, a sign that is not the last character, and
digits; without a digit there is no exponent. Returns the sign and digits, and how many
characters the part takes. -/
def exponentPart : List Char → Option (Bool × List Char × Nat)
  | m :: rest =>
    if (m = 'e' ∨ m = 'E') ∧ rest ≠ [] then
      match rest with
      | s :: more =>
        if (s = '-' ∨ s = '+') ∧ more ≠ [] then
          let ds := leadingDigits more
          if ds.isEmpty then none else some (s = '-', ds, ds.length + 2)
        else
          let ds := leadingDigits rest
          if ds.isEmpty then none else some (false, ds, ds.length + 1)
      | [] => none
    else none
  | [] => none

/-- A number's text from its sign, integer digits and what follows them. A point needs a digit
after it. -/
def NumberText.finish (negative : Bool) (whole : List Char) (rest : List Char) : NumberText :=
  let (fraction, rest) := match rest with
    | '.' :: d :: more =>
      if d.isDigit then
        let fs := d :: leadingDigits more
        (some fs, rest.drop (fs.length + 1))
      else (none, rest)
    | _ => (none, rest)
  let exp := exponentPart rest
  let size := (if negative then 1 else 0) + whole.length +
    (match fraction with | some f => f.length + 1 | none => 0) +
    (match exp with | some (_, _, k) => k | none => 0)
  ⟨negative, whole, fraction, exp.map fun (neg, ds, _) => (neg, ds), size⟩

/-- The text of a number at the front of `cs`, if one starts there. A leading zero stands
alone. -/
def numberText (cs : List Char) : Option NumberText :=
  let (negative, body) := match cs with
    | '-' :: rest => (true, rest)
    | _ => (false, cs)
  match body with
  | '0' :: rest => some (NumberText.finish negative ['0'] rest)
  | d :: rest =>
    if '1' ≤ d ∧ d ≤ '9' then
      let ds := d :: leadingDigits rest
      some (NumberText.finish negative ds (rest.drop (ds.length - 1)))
    else none
  | [] => none

def NumberText.value (n : NumberText) : Except Halt Value :=
  if n.isFraction then
    let fs := n.fraction.getD []
    let m := digitsValue (n.whole ++ fs)
    let e : Int := match n.exponent with
      | some (true, ds) => -(digitsValue ds : Int)
      | some (false, ds) => digitsValue ds
      | none => 0
    .ok (.float (Binary64.ofDecimal n.negative m (e - fs.length)))
  else if n.whole.length > digitLimit then .error (.digits n.whole.length)
  else
    let m : Int := digitsValue n.whole
    .ok (.int (if n.negative then -m else m))

def startsWith (cs word : List Char) : Bool := cs.take word.length == word

mutual

def readValue : Nat → Cursor → Step Value
  | 0, c => .error (.at .expectingValue c.pos)
  | fuel + 1, ⟨cs, p⟩ =>
    match cs with
    | '"' :: rest =>
      match readString p ⟨rest, p + 1⟩ with
      | .ok (s, cur) => .ok (.str s, cur)
      | .error e => .error e
    | '{' :: rest => readMembers fuel [] true (Cursor.skipBlanks ⟨rest, p + 1⟩)
    | '[' :: rest => readItems fuel [] true (Cursor.skipBlanks ⟨rest, p + 1⟩)
    | _ =>
      if startsWith cs "null".toList then .ok (.null, ⟨cs.drop 4, p + 4⟩)
      else if startsWith cs "true".toList then .ok (.bool true, ⟨cs.drop 4, p + 4⟩)
      else if startsWith cs "false".toList then .ok (.bool false, ⟨cs.drop 5, p + 5⟩)
      else if startsWith cs "NaN".toList then .ok (.float .nan, ⟨cs.drop 3, p + 3⟩)
      else if startsWith cs "Infinity".toList then
        .ok (.float (.infinite false), ⟨cs.drop 8, p + 8⟩)
      else if startsWith cs "-Infinity".toList then
        .ok (.float (.infinite true), ⟨cs.drop 9, p + 9⟩)
      else
        match numberText cs with
        | none => .error (.at .expectingValue p)
        | some n =>
          match n.value with
          | .ok v => .ok (v, ⟨cs.drop n.size, p + n.size⟩)
          | .error e => .error e

/-- Reads the items of an array after its opening bracket and blanks; `first` tells whether
no item has been read yet. -/
def readItems : Nat → List Value → Bool → Cursor → Step Value
  | 0, _, _, c => .error (.at .expectingValue c.pos)
  | fuel + 1, acc, first, c =>
    match c.rest with
    | ']' :: rest =>
      if first then .ok (.arr [], ⟨rest, c.pos + 1⟩)
      else .error (.at .expectingValue c.pos)
    | _ =>
      match readValue fuel c with
      | .error e => .error e
      | .ok (v, cur) =>
        let cur := cur.skipBlanks
        match cur.rest with
        | ']' :: rest => .ok (.arr (v :: acc).reverse, ⟨rest, cur.pos + 1⟩)
        | ',' :: rest => readItems fuel (v :: acc) false (Cursor.skipBlanks ⟨rest, cur.pos + 1⟩)
        | _ => .error (.at .expectingComma cur.pos)

/-- Reads the members of an object after its opening brace and blanks. A repeated key keeps
its first place and takes the last value. -/
def readMembers : Nat → List (String × Value) → Bool → Cursor → Step Value
  | 0, _, _, c => .error (.at .expectingValue c.pos)
  | fuel + 1, acc, first, c =>
    match c.rest with
    | '}' :: rest =>
      if first then .ok (.obj [], ⟨rest, c.pos + 1⟩)
      else .error (.at .expectingName c.pos)
    | '"' :: rest =>
      match readString c.pos ⟨rest, c.pos + 1⟩ with
      | .error e => .error e
      | .ok (key, cur) =>
        let cur := cur.skipBlanks
        match cur.rest with
        | ':' :: rest =>
          match readValue fuel (Cursor.skipBlanks ⟨rest, cur.pos + 1⟩) with
          | .error e => .error e
          | .ok (v, cur) =>
            let acc := setMember acc key v
            let cur := cur.skipBlanks
            match cur.rest with
            | '}' :: rest => .ok (.obj acc, ⟨rest, cur.pos + 1⟩)
            | ',' :: rest => readMembers fuel acc false (Cursor.skipBlanks ⟨rest, cur.pos + 1⟩)
            | _ => .error (.at .expectingComma cur.pos)
        | _ => .error (.at .expectingColon cur.pos)
    | _ => .error (.at .expectingName c.pos)

end

/-- Line and column of a position: lines are counted by line feeds before it, and the column
is the distance from the last of them (from the start, plus one, on the first line). -/
def lineColumn (cs : List Char) (pos : Nat) : Nat × Nat :=
  let before := cs.take pos
  let line := before.count '\n' + 1
  let column := match (before.reverse.findIdx? (· = '\n')) with
    | some k => k + 1
    | none => pos + 1
  (line, column)

def Halt.locate (cs : List Char) : Halt → ReadError
  | .at p pos => let (l, c) := lineColumn cs pos; .invalid p pos l c
  | .digits n => .tooManyDigits n

def read (s : String) : Except ReadError Value :=
  let cs := s.toList
  match cs with
  | '﻿' :: _ => .error (Halt.locate cs (.at .byteOrderMark 0))
  | _ =>
    let start := Cursor.skipBlanks ⟨cs, 0⟩
    match readValue (2 * cs.length + 2) start with
    | .error h => .error (h.locate cs)
    | .ok (v, cur) =>
      let cur := cur.skipBlanks
      if cur.rest.isEmpty then .ok v else .error (Halt.locate cs (.at .extraData cur.pos))

end SketchGen.Json
