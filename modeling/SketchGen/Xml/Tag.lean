import SketchGen.Xml.Lex

namespace SketchGen.Xml

/-! Start and end tags as written. A start tag is a name, attributes each preceded by a blank,
and `>` or `/>`; an attribute is a name, `=`, and a quoted value. In a value, a tab, a line
feed, a carriage return (or a carriage return and a line feed together) each become one
space, `<` is refused, and references are kept apart for later. A whole tag is read before
anything in it is checked against the declarations. -/

/-- A piece of an attribute value as written. -/
inductive ValuePart where
  | chars (cs : List Char)
  | charRef (code : Nat) (pos : Nat)
  | entityRef (name : String) (pos : Nat)

/-- An attribute as written: its name, where the name starts, and its value's pieces. -/
structure RawAttribute where
  name : String
  pos : Nat
  value : List ValuePart

/-- A start tag as written. -/
structure StartTag where
  name : String
  pos : Nat
  attrs : List RawAttribute
  selfClosing : Bool

/-- The pieces of an attribute value up to its closing quote `q`; `tagPos` is where the tag
starts. -/
def valueParts (tagPos : Nat) (q : Char) : Nat → List ValuePart → Src → Scan (List ValuePart)
  | 0, _, _ => .error ⟨.unclosedToken, tagPos⟩
  | _ + 1, _, [] => .error ⟨.unclosedToken, tagPos⟩
  | fuel + 1, acc, (c, p) :: rest =>
    if c = q then .ok (acc.reverse, rest)
    else if c = '<' then .error ⟨.invalidToken, p⟩
    else if c = '&' then
      match scanRef tagPos rest with
      | .error e => .error e
      | .ok (.char n, after) => valueParts tagPos q fuel (.charRef n p :: acc) after
      | .ok (.entity name, after) => valueParts tagPos q fuel (.entityRef name p :: acc) after
    else if c = '\r' then
      match rest with
      | ('\n', _) :: more => valueParts tagPos q fuel (.chars [' '] :: acc) more
      | _ => valueParts tagPos q fuel (.chars [' '] :: acc) rest
    else if c = '\n' ∨ c = '\t' then valueParts tagPos q fuel (.chars [' '] :: acc) rest
    else if isDocumentChar c then valueParts tagPos q fuel (.chars [c] :: acc) rest
    else .error ⟨.invalidToken, p⟩

def attributeValue (tagPos : Nat) (src : Src) : Scan (List ValuePart) :=
  match (dropBlanks src) with
  | [] => .error ⟨.unclosedToken, tagPos⟩
  | ('=', _) :: rest =>
    match (dropBlanks rest) with
    | [] => .error ⟨.unclosedToken, tagPos⟩
    | (q, p) :: body =>
      if q = '"' ∨ q = '\'' then valueParts tagPos q (body.length + 1) [] body else .error ⟨.invalidToken, p⟩
  | (_, p) :: _ => .error ⟨.invalidToken, p⟩

def tagRest (tagPos : Nat) (name : String) : Nat → List RawAttribute → Src → Scan StartTag
  | 0, _, _ => .error ⟨.unclosedToken, tagPos⟩
  | fuel + 1, acc, src =>
    match src with
    | [] => .error ⟨.unclosedToken, tagPos⟩
    | ('>', _) :: rest => .ok (⟨name, tagPos, acc.reverse, false⟩, rest)
    | ('/', _) :: rest =>
      match rest with
      | ('>', _) :: more => .ok (⟨name, tagPos, acc.reverse, true⟩, more)
      | (_, p) :: _ => .error ⟨.invalidToken, p⟩
      | [] => .error ⟨.unclosedToken, tagPos⟩
    | (c, p) :: rest =>
      if !isXmlBlank c then .error ⟨.invalidToken, p⟩
      else
        match (dropBlanks rest) with
        | [] => .error ⟨.unclosedToken, tagPos⟩
        | (d, q) :: more =>
          if d = '>' ∨ d = '/' then tagRest tagPos name fuel acc ((d, q) :: more)
          else if isNameStart d then
            match nameRest tagPos false [d] more with
            | .error e => .error e
            | .ok (attr, after) =>
              match attributeValue tagPos after with
              | .error e => .error e
              | .ok (value, after) => tagRest tagPos name fuel (⟨attr, q, value⟩ :: acc) after
          else .error ⟨.invalidToken, q⟩

def scanStartTag : Src → Scan StartTag
  | ('<', p) :: rest =>
    match scanName p rest with
    | .error e => .error e
    | .ok (name, after) => tagRest p name (after.length + 1) [] after
  | (_, p) :: _ => .error ⟨.invalidToken, p⟩
  | [] => .error ⟨.unclosedToken, 0⟩

/-- An end tag after its `</` (at `tagPos`): its name, where the name starts, and the input
after its `>`. -/
def scanEndTag (tagPos : Nat) (src : Src) : Scan (String × Nat) :=
  let namePos := match src with
    | (_, p) :: _ => p
    | [] => tagPos
  match scanName tagPos src with
  | .error e => .error e
  | .ok (name, after) =>
    match (dropBlanks after) with
    | ('>', _) :: rest => .ok ((name, namePos), rest)
    | (_, p) :: _ => .error ⟨.invalidToken, p⟩
    | [] => .error ⟨.unclosedToken, tagPos⟩

end SketchGen.Xml
