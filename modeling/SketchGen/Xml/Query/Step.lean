import SketchGen.Xml.Query.Token
import SketchGen.Text.Digit

namespace SketchGen.Xml.Query

open SketchGen.Text

/-! Steps of an element path, compiled from its tokens. A name selects children with that tag,
`*` all children, `.` the elements themselves, `..` their parents, `//` and a name (or `*`)
all descendants with that tag; a predicate in brackets keeps the elements that have an
attribute, an attribute with a given value (or another value), a child with a tag, a child
(or the element itself) with a given text, or a given position among the siblings of their
tag. A step that the path ends before completing is missing; a token that starts no step is
refused. -/

/-- A step of a path. -/
inductive Step where
  | child (tag : String)
  | children
  | self
  | parent
  | descendant (tag : String)
  | hasAttr (key : String)
  | attrEq (key value : String)
  | attrNe (key value : String)
  | hasChild (tag : String)
  | childTextEq (tag value : String)
  | childTextNe (tag value : String)
  | ownTextEq (value : String)
  | ownTextNe (value : String)
  | position (index : Int)
  | missing
deriving Repr, DecidableEq

abbrev TokenStream := List (Except PathError PathToken)

def TokenStream.next : TokenStream → Except PathError (Option (PathToken × TokenStream))
  | [] => .ok none
  | .error e :: _ => .error e
  | .ok t :: rest => .ok (some (t, rest))

def descendantStep (ts : TokenStream) : Except PathError (Step × TokenStream) := do
  match ← ts.next with
  | none => pure (.missing, [])
  | some (t, rest) =>
    if t.op = "*" then pure (.descendant "*", rest)
    else if t.op.isEmpty then pure (.descendant t.name, rest)
    else throw (.invalid "invalid descendant")

/-- Reads a predicate's tokens up to `]`: the signature (one mark per token: its operator, `'`
for a literal, `-` for a name) and the names (a literal gives its text). Blanks are skipped.
Nothing is returned when the tokens end first. -/
def predicateTokens : Nat → List Char → List String → TokenStream →
    Except PathError (Option (List Char × List String × TokenStream))
  | 0, _, _, _ => .ok none
  | fuel + 1, sig, parts, ts => do
    match ← ts.next with
    | none => pure none
    | some (t, rest) =>
      if t.op = "]" then pure (some (sig.reverse, parts.reverse, rest))
      else if t.op.isEmpty ∧ t.name.isEmpty then predicateTokens fuel sig parts rest
      else match t.op.toList with
        | q :: inner =>
          if q = '\'' ∨ q = '"' then
            predicateTokens fuel ('\'' :: sig) (String.ofList (inner.dropLast) :: parts) rest
          else predicateTokens fuel (t.op.toList.reverse ++ sig) (t.name :: parts) rest
        | [] => predicateTokens fuel ('-' :: sig) (t.name :: parts) rest

def isSignedDigits (s : String) : Bool :=
  match s.toList with
  | '-' :: ds => !ds.isEmpty && ds.all isDecimalDigit
  | ds => !ds.isEmpty && ds.all isDecimalDigit

/-- The value of decimal digits of any script, with single underscores allowed between
digits. -/
def digitsWithUnderscores : List Char → Option Nat
  | [] => none
  | c :: rest =>
    match digitValue? c with
    | none => none
    | some d => go d rest
where
  go (acc : Nat) : List Char → Option Nat
    | [] => some acc
    | '_' :: c :: rest =>
      match digitValue? c with
      | some d => go (acc * 10 + d) rest
      | none => none
    | c :: rest =>
      match digitValue? c with
      | some d => go (acc * 10 + d) rest
      | none => none

/-- An integer written in decimal: blanks around it, an optional sign, digits of any script
with single underscores between them. -/
def integerOf? (s : String) : Option Int :=
  let cs := ((s.toList.dropWhile isBlank).reverse.dropWhile isBlank).reverse
  match cs with
  | '-' :: ds => (digitsWithUnderscores ds).map fun n => -(n : Int)
  | '+' :: ds => (digitsWithUnderscores ds).map fun n => (n : Int)
  | ds => (digitsWithUnderscores ds).map fun n => (n : Int)

def predicateStep (sig : String) (parts : List String) : Except PathError Step :=
  let part (i : Nat) := parts.getD i ""
  let last := parts.getLastD ""
  if sig = "@-" then .ok (.hasAttr (part 1))
  else if sig = "@-='" then .ok (.attrEq (part 1) last)
  else if sig = "@-!='" then .ok (.attrNe (part 1) last)
  else if sig = "-" ∧ !isSignedDigits (part 0) then .ok (.hasChild (part 0))
  else if sig = ".='" ∨ ((sig = "-='") ∧ !isSignedDigits (part 0)) then
    .ok (if (part 0).isEmpty then .ownTextEq last else .childTextEq (part 0) last)
  else if sig = ".!='" ∨ ((sig = "-!='") ∧ !isSignedDigits (part 0)) then
    .ok (if (part 0).isEmpty then .ownTextNe last else .childTextNe (part 0) last)
  else if sig = "-" then
    let index := ((integerOf? (part 0)).getD 0) - 1
    if index < 0 then .error (.invalid "XPath position >= 1 expected") else .ok (.position index)
  else if sig = "-()" ∨ sig = "-()-" then
    if part 0 ≠ "last" then .error (.invalid "unsupported function")
    else if sig = "-()" then .ok (.position (-1))
    else
      match integerOf? (part 2) with
      | none => .error (.invalid "unsupported expression")
      | some n =>
        if n - 1 > -2 then .error (.invalid "XPath offset from last() must be negative")
        else .ok (.position (n - 1))
  else .error (.invalid "invalid predicate")

/-- The steps of a path from its tokens, each step's token first. After a step, a single `/`
is passed over. -/
def compileFrom : Nat → PathToken → TokenStream → Except PathError (List Step)
  | 0, _, _ => .ok []
  | fuel + 1, t, ts => do
    let (step, ts) ← match t.op with
      | "" => pure (Step.child t.name, ts)
      | "*" => pure (Step.children, ts)
      | "." => pure (Step.self, ts)
      | ".." => pure (Step.parent, ts)
      | "//" => descendantStep ts
      | "[" => do
        match ← predicateTokens (ts.length + 1) [] [] ts with
        | none => pure (Step.missing, [])
        | some (sig, parts, rest) => pure (← predicateStep (String.ofList sig) parts, rest)
      | op => throw (.unknownStep op)
    match ← ts.next with
    | none => pure [step]
    | some (t, rest) =>
      if t.op = "/" then
        match ← rest.next with
        | none => pure [step]
        | some (t, rest) => return step :: (← compileFrom fuel t rest)
      else return step :: (← compileFrom fuel t rest)

/-- The steps of a path. A path that ends in `/` selects all children there; a path that starts
with `/` is refused. -/
def compile (path : String) : Except PathError (List Step) := do
  let path := if path.toList.getLast? = some '/' then path ++ "*" else path
  if path.toList.head? = some '/' then throw (.invalid "cannot use absolute path on element")
  let ts : TokenStream := tokens path
  match ← ts.next with
  | none => throw PathError.empty
  | some (t, rest) => compileFrom (ts.length + 1) t rest

end SketchGen.Xml.Query
