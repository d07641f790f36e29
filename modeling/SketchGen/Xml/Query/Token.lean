import SketchGen.Text.Blank
import SketchGen.Text.Quoted

namespace SketchGen.Xml.Query

open SketchGen.Text

/-! Tokens of an element path. Scanning goes left to right, and at each place the first rule
that applies wins: a quoted literal (single or double quotes, closed); one of the operators
`::`, `//`, `/`, `..`, `()`, `!=`; one of the characters `/ . * : [ ] ( ) @ =`; a name, which is
an optional `{…}` namespace followed by characters other than `/ [ ] ( ) @ ! =` and blanks; or a
run of blanks. A character that starts none of these is skipped. A name with a colon and no
namespace names a prefix, and no prefix is known. -/

/-- A token: an operator (or a quoted literal with its quotes) and a name; one of them is empty,
and a run of blanks has both empty. -/
structure PathToken where
  op : String
  name : String
deriving Repr, DecidableEq, Inhabited

/-- Why a path cannot be used. -/
inductive PathError where
  | invalid (reason : String)
  | missingStep
  | unknownStep (op : String)
  | empty
deriving Repr, DecidableEq

def isNameChar (c : Char) : Bool :=
  !(c = '/' || c = '[' || c = ']' || c = '(' || c = ')' || c = '@' || c = '!' || c = '=' ||
    isBlank c)

def isOpChar (c : Char) : Bool :=
  c = '/' || c = '.' || c = '*' || c = ':' || c = '[' || c = ']' || c = '(' || c = ')' ||
    c = '@' || c = '='

/-- A quoted literal at the front, closed by the same quote: its text with quotes, and the
rest. -/
def quotedLiteral (q : Char) (cs : List Char) : Option (String × List Char) :=
  match cs.findIdx? (· = q) with
  | some i => some (String.ofList (q :: cs.take i ++ [q]), cs.drop (i + 1))
  | none => none

/-- A namespace in braces at the front, with at least one character inside, followed by a
name character. -/
def bracedPrefix (cs : List Char) : Option (List Char × List Char) :=
  match cs.findIdx? (· = '}') with
  | some i =>
    if i = 0 then none
    else match cs.drop (i + 1) with
      | c :: _ => if isNameChar c then some ('{' :: cs.take (i + 1), cs.drop (i + 1)) else none
      | [] => none
  | none => none

def frontToken : List Char → Option PathToken × List Char
  | [] => (none, [])
  | c :: rest =>
    let op (s : String) (r : List Char) : Option PathToken × List Char := (some ⟨s, ""⟩, r)
    let quoted := if c = '\'' ∨ c = '"' then quotedLiteral c rest else none
    match quoted with
    | some (s, r) => op s r
    | none =>
      match c, rest with
      | ':', ':' :: r => op "::" r
      | '/', '/' :: r => op "//" r
      | '.', '.' :: r => op ".." r
      | '(', ')' :: r => op "()" r
      | '!', '=' :: r => op "!=" r
      | _, _ =>
        if isOpChar c then op (String.singleton c) rest
        else if isNameChar c then
          let (pre, body) := if c = '{' then (bracedPrefix rest).getD ([], c :: rest) else ([], c :: rest)
          let name := body.takeWhile isNameChar
          let r := body.dropWhile isNameChar
          (some ⟨"", String.ofList (pre ++ name)⟩, r)
        else if isBlank c then
          let r := rest.dropWhile isBlank
          (some ⟨"", ""⟩, r)
        else (none, rest)

/-- A token checked for a prefix: a name with a colon and no namespace refers to a prefix,
which is unknown. -/
def checkPrefix (t : PathToken) : Except PathError PathToken :=
  match t.name.toList with
  | [] => .ok t
  | '{' :: _ => .ok t
  | cs =>
    if cs.contains ':' then
      .error (.invalid ("prefix " ++ Text.quoted (String.ofList (cs.takeWhile (· ≠ ':'))) ++
        " not found in prefix map"))
    else .ok t

/-- The tokens of a path, in order; a token that refers to a prefix ends the list with the
failure. -/
def tokenize : Nat → List Char → List (Except PathError PathToken)
  | 0, _ => []
  | _ + 1, [] => []
  | fuel + 1, cs =>
    match frontToken cs with
    | (some t, rest) =>
      match checkPrefix t with
      | .ok t => .ok t :: tokenize fuel rest
      | .error e => [.error e]
    | (none, rest) => tokenize fuel rest

def tokens (path : String) : List (Except PathError PathToken) :=
  tokenize (path.length + 1) path.toList

end SketchGen.Xml.Query
