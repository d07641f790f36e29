import SketchGen.Xml.Dtd

namespace SketchGen.Xml

/-! The parts of a document outside its root element: the declaration at its very start, the
document type with its declarations, comments, processing instructions and blanks. They are
read as a sequence of tokens; a token that cannot stand where it is found is a syntax error
at its start, and a character that begins no token is an invalid token where it stands. -/

/-- A token outside the root element. -/
inductive PTok where
  | blank
  | comment
  | pi
  | xmlDecl
  | declOpen (keyword : String)
  | instanceStart
  | name (s : String)
  | nmtoken (s : String)
  | literal (value : Src)
  | poundName (s : String)
  | paramRef (s : String)
  | punct (c : Char)

/-- A token, where it starts, and the input after it. -/
structure PLex where
  tok : PTok
  start : Nat
  rest : Src

def commentBody (start : Nat) : Src → Except Failure Src
  | [] => .error ⟨.unclosedToken, start⟩
  | ('-', _) :: ('-', _) :: rest =>
    match rest with
    | ('>', _) :: more => .ok more
    | (_, p) :: _ => .error ⟨.invalidToken, p⟩
    | [] => .error ⟨.unclosedToken, start⟩
  | (c, p) :: rest => if isDocumentChar c then commentBody start rest else .error ⟨.invalidToken, p⟩

def piBody (start : Nat) : Src → Except Failure Src
  | [] => .error ⟨.unclosedToken, start⟩
  | ('?', _) :: ('>', _) :: rest => .ok rest
  | (c, p) :: rest => if isDocumentChar c then piBody start rest else .error ⟨.invalidToken, p⟩

def plainNameRest (acc : List Char) : Src → String × Src
  | [] => (String.ofList acc.reverse, [])
  | (c, p) :: rest =>
    if isNameChar c ∨ c = ':' then plainNameRest (c :: acc) rest
    else (String.ofList acc.reverse, (c, p) :: rest)

def isXmlTarget (s : String) : Bool := s.toList.map Char.toLower == "xml".toList

/-- A processing instruction after `<?`: its target and then a blank or `?>`. The target `xml`
in another case is refused. -/
def scanPi (start : Nat) : Src → Except Failure PLex
  | [] => .error ⟨.unclosedToken, start⟩
  | (c, p) :: rest =>
    if !isNameStart c then .error ⟨.invalidToken, p⟩
    else
      let (target, after) := plainNameRest [c] rest
      let kind := if target = "xml" then PTok.xmlDecl else PTok.pi
      if isXmlTarget target ∧ target ≠ "xml" then
        match after with
        | [] => .error ⟨.unclosedToken, start⟩
        | (_, q) :: _ => .error ⟨.invalidToken, q⟩
      else
        match after with
        | [] => .error ⟨.unclosedToken, start⟩
        | ('?', _) :: more =>
          match more with
          | ('>', _) :: r => .ok ⟨kind, start, r⟩
          | (_, q) :: _ => .error ⟨.invalidToken, q⟩
          | [] => .error ⟨.unclosedToken, start⟩
        | (d, q) :: more =>
          if isXmlBlank d then (piBody start more).map fun r => ⟨kind, start, r⟩
          else .error ⟨.invalidToken, q⟩

/-- The letters of a declaration keyword after `<!`, which must be followed by a blank or
`%`. -/
def keywordRest (start : Nat) (acc : List Char) : Src → Except Failure PLex
  | [] => .error ⟨.unclosedToken, start⟩
  | (c, p) :: rest =>
    if isAsciiLetter c then keywordRest start (c :: acc) rest
    else if isXmlBlank c ∨ c = '%' then .ok ⟨.declOpen (String.ofList acc.reverse), start, (c, p) :: rest⟩
    else .error ⟨.invalidToken, p⟩

def scanBang (start : Nat) : Src → Except Failure PLex
  | [] => .error ⟨.unclosedToken, start⟩
  | ('-', _) :: rest =>
    match rest with
    | ('-', _) :: body => (commentBody start body).map fun r => ⟨.comment, start, r⟩
    | (_, q) :: _ => .error ⟨.invalidToken, q⟩
    | [] => .error ⟨.unclosedToken, start⟩
  | (c, p) :: rest =>
    if isAsciiLetter c then keywordRest start [c] rest else .error ⟨.invalidToken, p⟩

/-- The check after a name-like token: it ends at a blank, a bracket, a bar, a comma, `>`,
`%` or the end; an occurrence mark is part of it. -/
def endNameToken (tok : PTok) (start : Nat) : Src → Except Failure PLex
  | [] => .ok ⟨tok, start, []⟩
  | (c, p) :: rest =>
    if isXmlBlank c ∨ c = '>' ∨ c = ')' ∨ c = ',' ∨ c = '|' ∨ c = '[' ∨ c = '%' then
      .ok ⟨tok, start, (c, p) :: rest⟩
    else if c = '?' ∨ c = '*' ∨ c = '+' then .ok ⟨tok, start, rest⟩
    else .error ⟨.invalidToken, p⟩

def literalBody (start : Nat) (q : Char) (acc : Src) : Src → Except Failure (Src × Src)
  | [] => .error ⟨.unclosedToken, start⟩
  | (c, p) :: rest =>
    if c = q then .ok (acc.reverse, rest)
    else if isDocumentChar c then literalBody start q ((c, p) :: acc) rest
    else .error ⟨.invalidToken, p⟩

def endLiteral (value : Src) (start : Nat) : Src → Except Failure PLex
  | [] => .ok ⟨.literal value, start, []⟩
  | (c, p) :: rest =>
    if isXmlBlank c ∨ c = '>' ∨ c = '%' ∨ c = '[' then .ok ⟨.literal value, start, (c, p) :: rest⟩
    else .error ⟨.invalidToken, p⟩

def lexProlog : Src → Except Failure (Option PLex)
  | [] => .ok none
  | (c, p) :: rest =>
    if isXmlBlank c then .ok (some ⟨.blank, p, dropBlanks rest⟩)
    else if c = '<' then
      match rest with
      | [] => .error ⟨.unclosedToken, p⟩
      | ('?', _) :: more => (scanPi p more).map some
      | ('!', _) :: more => (scanBang p more).map some
      | (d, q) :: _ =>
        if isNameStart d then .ok (some ⟨.instanceStart, p, (c, p) :: rest⟩)
        else .error ⟨.invalidToken, q⟩
    else if c = '"' ∨ c = '\'' then
      match literalBody p c [] rest with
      | .ok (v, after) => (endLiteral v p after).map some
      | .error e => .error e
    else if c = '#' then
      match rest with
      | [] => .error ⟨.unclosedToken, p⟩
      | (d, q) :: more =>
        if isNameStart d then
          let (s, after) := plainNameRest [d] more
          (endNameToken (.poundName s) p after).map some
        else .error ⟨.invalidToken, q⟩
    else if c = '%' then
      match rest with
      | [] => .ok (some ⟨.punct '%', p, []⟩)
      | (d, q) :: more =>
        if isNameStart d then
          let (s, after) := plainNameRest [d] more
          match after with
          | (';', _) :: r => .ok (some ⟨.paramRef s, p, r⟩)
          | (_, r) :: _ => .error ⟨.invalidToken, r⟩
          | [] => .error ⟨.unclosedToken, p⟩
        else if isXmlBlank d then .ok (some ⟨.punct '%', p, rest⟩)
        else .error ⟨.invalidToken, q⟩
    else if c = ')' then
      match rest with
      | (d, _) :: more =>
        if d = '?' ∨ d = '*' ∨ d = '+' then .ok (some ⟨.punct ')', p, more⟩)
        else .ok (some ⟨.punct ')', p, rest⟩)
      | [] => .ok (some ⟨.punct ')', p, []⟩)
    else if c = '[' ∨ c = ']' ∨ c = '(' ∨ c = '|' ∨ c = ',' ∨ c = '>' then
      .ok (some ⟨.punct c, p, rest⟩)
    else if isNameStart c ∨ c = ':' then
      let (s, after) := plainNameRest [c] rest
      (endNameToken (.name s) p after).map some
    else if isNameChar c then
      let (s, after) := plainNameRest [c] rest
      (endNameToken (.nmtoken s) p after).map some
    else .error ⟨.invalidToken, p⟩

def nextToken : Nat → Src → Except Failure (Option PLex)
  | 0, _ => .ok none
  | fuel + 1, src =>
    match lexProlog src with
    | .ok (some ⟨.blank, _, rest⟩) => nextToken fuel rest
    | other => other

/-! ### The declaration at the start -/

/-- A pseudo-attribute of the declaration at the start: its name and value with their
positions. -/
structure Pseudo where
  name : String
  namePos : Nat
  value : String
  valuePos : Nat

def isDeclBlank (c : Char) : Bool := c = ' ' || c = '\t' || c = '\n' || c = '\r'

def isDeclValueChar (c : Char) : Bool :=
  isAsciiLetter c || c.isDigit || c = '.' || c = '-' || c = '_'

/-- The value of a pseudo-attribute up to its closing quote; a failure gives the position of
the offending character. -/
def declValue (q : Char) (endPos : Nat) (acc : List Char) : Src → Except Nat (String × Src)
  | [] => .error endPos
  | (c, p) :: rest =>
    if c = q then .ok (String.ofList acc.reverse, rest)
    else if isDeclValueChar c then declValue q endPos (c :: acc) rest
    else .error p

def declName (endPos : Nat) (acc : List Char) : Src → Except Nat (String × Src)
  | [] => .error endPos
  | (c, p) :: rest =>
    if c = '=' ∨ isDeclBlank c then .ok (String.ofList acc.reverse, (c, p) :: rest)
    else if c.toNat < 0x80 then declName endPos (c :: acc) rest
    else .error p

/-- The next pseudo-attribute of the declaration, nothing when only blanks remain, or the
position of what is wrong. Each pseudo-attribute follows a blank. -/
def pseudoAttribute (endPos : Nat) : Src → Except Nat (Option (Pseudo × Src))
  | [] => .ok none
  | (c, p) :: rest =>
    if !isDeclBlank c then .error p
    else
      match dropBlanks rest with
      | [] => .ok none
      | (d, q) :: more =>
        match declName endPos [] ((d, q) :: more) with
        | .error e => .error e
        | .ok (name, after) =>
          if name.isEmpty then .error q
          else
            match dropBlanks after with
            | ('=', _) :: afterEq =>
              match dropBlanks afterEq with
              | (o, r) :: body =>
                if o = '"' ∨ o = '\'' then
                  match body with
                  | [] => .error endPos
                  | (_, vp) :: _ =>
                    match declValue o endPos [] body with
                    | .ok (v, tail) => .ok (some (⟨name, q, v, vp⟩, tail))
                    | .error e => .error e
                else .error r
              | [] => .error endPos
            | (_, r) :: _ => .error r
            | [] => .error endPos

/-- The settings of the declaration at the start. -/
structure Declaration where
  encoding : Option Pseudo := none
  standalone : Bool := false

/-- Reads the pseudo-attributes of the declaration at the start: a version, then optionally
an encoding that begins with a letter, then optionally `standalone` with `yes` or `no`. -/
def readDeclaration (endPos : Nat) (body : Src) : Except Failure Declaration :=
  let bad (p : Nat) : Except Failure Declaration := .error ⟨.badDeclaration, p⟩
  match pseudoAttribute endPos body with
  | .error p => bad p
  | .ok none => bad endPos
  | .ok (some (v, rest)) =>
    if v.name ≠ "version" then bad v.namePos
    else
      match pseudoAttribute endPos rest with
      | .error p => bad p
      | .ok none => .ok {}
      | .ok (some (a, rest)) =>
        let withEncoding : Except Failure (Declaration × Option (Pseudo × Src)) :=
          if a.name = "encoding" then
            match a.value.toList with
            | c :: _ =>
              if isAsciiLetter c then
                match pseudoAttribute endPos rest with
                | .error p => .error ⟨.badDeclaration, p⟩
                | .ok next => .ok ({ encoding := some a }, next)
              else .error ⟨.badDeclaration, a.valuePos⟩
            | [] => .error ⟨.badDeclaration, a.valuePos⟩
          else .ok ({}, some (a, rest))
        match withEncoding with
        | .error e => .error e
        | .ok (d, none) => .ok d
        | .ok (d, some (s, rest)) =>
          if s.name ≠ "standalone" then bad s.namePos
          else if s.value ≠ "yes" ∧ s.value ≠ "no" then bad s.valuePos
          else
            match pseudoAttribute endPos rest with
            | .ok none => .ok { d with standalone := s.value = "yes" }
            | .ok (some (x, _)) => bad x.namePos
            | .error _ => bad s.namePos

/-- The characters of the declaration at the start between `<?xml` and `?>`, the position of
the `?`, and the input after the declaration. -/
def declarationSpan (acc : Src) : Src → Except Failure (Src × Nat × Src)
  | [] => .error ⟨.unclosedToken, 0⟩
  | ('?', p) :: ('>', _) :: rest => .ok (acc.reverse, p, rest)
  | (c, p) :: rest =>
    if isDocumentChar c then declarationSpan ((c, p) :: acc) rest
    else .error ⟨.invalidToken, p⟩

def startsWithDeclaration : Src → Bool
  | ('<', _) :: ('?', _) :: ('x', _) :: ('m', _) :: ('l', _) :: (c, _) :: _ =>
    isXmlBlank c || c = '?'
  | _ => false

def leadingDeclaration (src : Src) : Except Failure (Option Declaration × Src) :=
  if startsWithDeclaration src then
    match declarationSpan [] (src.drop 5) with
    | .error e => .error e
    | .ok (body, endPos, rest) => (readDeclaration endPos body).map fun d => (some d, rest)
  else .ok (none, src)

end SketchGen.Xml
