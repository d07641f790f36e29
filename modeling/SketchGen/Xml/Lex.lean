import SketchGen.Xml.Char
import SketchGen.Xml.Error

namespace SketchGen.Xml

/-! The pieces of markup shared by all parts of a document: names, references and blanks.
Input is a list of characters, each with the position it is reported at; characters that come
from an entity's replacement text all carry the position of the reference. A scanner either
returns what it read and the rest, or a failure; running out of input inside a token is
reported at the token's start, which the caller gives. -/

abbrev Src := List (Char × Nat)

abbrev Scan (α : Type) := Except Failure (α × Src)

def Src.ofList (cs : List Char) (start : Nat) : Src :=
  (List.range cs.length).zip cs |>.map fun (i, c) => (c, start + i)

def dropBlanks : Src → Src
  | [] => []
  | (c, p) :: rest => if isXmlBlank c then dropBlanks rest else (c, p) :: rest

/-- The characters of a name after its first, stopping at the first character that cannot
continue it. A colon must be followed by a character that can begin a name, and may appear
once; otherwise the token is invalid where the rule breaks. -/
def nameRest (start : Nat) (hadColon : Bool) (acc : List Char) : Src → Scan String
  | [] => .ok (String.ofList acc.reverse, [])
  | (c, p) :: rest =>
    if isNameChar c then nameRest start hadColon (c :: acc) rest
    else if c = ':' then
      if hadColon then .error ⟨.invalidToken, p⟩
      else match rest with
        | [] => .error ⟨.unclosedToken, start⟩
        | (d, q) :: more =>
          if isNameStart d then nameRest start true (d :: ':' :: acc) more
          else .error ⟨.invalidToken, q⟩
    else .ok (String.ofList acc.reverse, (c, p) :: rest)

/-- A name at the front of the input, which must begin there; `start` is where the enclosing
token begins. -/
def scanName (start : Nat) : Src → Scan String
  | [] => .error ⟨.unclosedToken, start⟩
  | (c, p) :: rest =>
    if isNameStart c then nameRest start false [c] rest else .error ⟨.invalidToken, p⟩

/-- A reference after its ampersand: a character number or an entity name. -/
inductive Ref where
  | char (code : Nat)
  | entity (name : String)
deriving Repr, DecidableEq

def digitIn (hex : Bool) (c : Char) : Option Nat :=
  if c.isDigit then some (c.toNat - '0'.toNat)
  else if hex ∧ 'a' ≤ c ∧ c ≤ 'f' then some (c.toNat - 'a'.toNat + 10)
  else if hex ∧ 'A' ≤ c ∧ c ≤ 'F' then some (c.toNat - 'A'.toNat + 10)
  else none

def charRefDigits (start : Nat) (hex : Bool) (acc : Nat) : Src → Scan Ref
  | [] => .error ⟨.unclosedToken, start⟩
  | (c, p) :: rest =>
    if c = ';' then .ok (.char acc, rest)
    else match digitIn hex c with
      | some d => charRefDigits start hex (acc * (if hex then 16 else 10) + d) rest
      | none => .error ⟨.invalidToken, p⟩

def charRefFirst (start : Nat) (hex : Bool) : Src → Scan Ref
  | [] => .error ⟨.unclosedToken, start⟩
  | (d, p) :: rest =>
    match digitIn hex d with
    | some v => charRefDigits start hex v rest
    | none => .error ⟨.invalidToken, p⟩

/-- A character reference after `&#`: decimal digits, or `x` and hexadecimal digits, then a
semicolon. -/
def scanCharRef (start : Nat) : Src → Scan Ref
  | ('x', _) :: rest => charRefFirst start true rest
  | src => charRefFirst start false src

def entityRefRest (start : Nat) (acc : List Char) : Src → Scan Ref
  | [] => .error ⟨.unclosedToken, start⟩
  | (c, p) :: rest =>
    if c = ';' then .ok (.entity (String.ofList acc.reverse), rest)
    else if isNameChar c ∨ c = ':' then entityRefRest start (c :: acc) rest
    else .error ⟨.invalidToken, p⟩

def scanRef (start : Nat) : Src → Scan Ref
  | [] => .error ⟨.unclosedToken, start⟩
  | (c, p) :: rest =>
    if c = '#' then scanCharRef start rest
    else if isNameStart c then entityRefRest start [c] rest
    else .error ⟨.invalidToken, p⟩

def charOfRef (n : Nat) : Option Char :=
  let c := Char.ofNat n
  if c.toNat = n ∧ isDocumentChar c then some c else none

def predefinedEntity : String → Option Char
  | "lt" => some '<'
  | "gt" => some '>'
  | "amp" => some '&'
  | "apos" => some '\''
  | "quot" => some '"'
  | _ => none

end SketchGen.Xml
