import SketchGen.Xml.Prolog

namespace SketchGen.Xml

/-! The document type declaration: a name, an optional external identifier, and an optional
internal subset of entity, attribute-list, element and notation declarations. An entity's
literal value has its character references replaced when it is declared; its entity
references stay and are replaced where the entity is used. A parameter entity reference in
the subset makes the document open-ended. -/

/-- A failure at the start of a token that is not expected there, or at the end of the
input when the declaration is cut short. -/
def unexpected (endPos : Nat) : Option PLex → Except Failure α
  | some t => .error ⟨.malformed, t.start⟩
  | none => .error ⟨.noElement, endPos⟩

/-- The replacement text of an entity's literal value: character references replaced, entity
references kept as written, parameter entity references refused, and line ends made line
feeds. -/
def entityText : Nat → Src → Except Failure (List Char)
  | 0, _ => .ok []
  | _ + 1, [] => .ok []
  | fuel + 1, (c, p) :: rest =>
    if c = '&' then
      match scanRef p rest with
      | .error e => .error e
      | .ok (.char n, after) =>
        match charOfRef n with
        | some ch => (entityText fuel after).map (ch :: ·)
        | none => .error ⟨.badCharRef, p⟩
      | .ok (.entity name, after) =>
        (entityText fuel after).map fun t => ('&' :: name.toList) ++ ';' :: t
    else if c = '%' then .error ⟨.paramEntityRef, p⟩
    else if c = '\r' then
      match rest with
      | ('\n', _) :: more => (entityText fuel more).map ('\n' :: ·)
      | _ => (entityText fuel rest).map ('\n' :: ·)
    else (entityText fuel rest).map (c :: ·)

/-- The tail of an external identifier: a system literal, after a public literal when
`isPublic`. -/
def externalId (fuel endPos : Nat) (isPublic : Bool) (src : Src) : Except Failure Src :=
  match nextToken fuel src with
  | .ok (some ⟨.literal _, _, rest⟩) =>
    if isPublic then
      match nextToken fuel rest with
      | .ok (some ⟨.literal _, _, rest⟩) => .ok rest
      | .ok t => unexpected endPos t
      | .error e => .error e
    else .ok rest
  | .ok t => unexpected endPos t
  | .error e => .error e

def closeDecl (fuel endPos : Nat) (src : Src) : Except Failure Src :=
  match nextToken fuel src with
  | .ok (some ⟨.punct '>', _, rest⟩) => .ok rest
  | .ok t => unexpected endPos t
  | .error e => .error e

def entityDecl (fuel endPos : Nat) (dtd : Dtd) (src : Src) : Except Failure (Dtd × Src) := do
  let t ← nextToken fuel src
  let (isParam, t) ← match t with
    | some ⟨.punct '%', _, rest⟩ => do pure (true, ← nextToken fuel rest)
    | _ => pure (false, t)
  match t with
  | some ⟨.name n, _, rest⟩ =>
    match ← nextToken fuel rest with
    | some ⟨.literal v, _, rest⟩ =>
      let text ← entityText (v.length + 1) v
      let rest ← closeDecl fuel endPos rest
      pure (if isParam then dtd else dtd.declareEntity n (.internal text), rest)
    | some ⟨.name kw, s, rest⟩ =>
      if kw = "SYSTEM" ∨ kw = "PUBLIC" then
        let rest ← externalId fuel endPos (kw = "PUBLIC") rest
        match ← nextToken fuel rest with
        | some ⟨.punct '>', _, rest⟩ =>
          pure (if isParam then dtd else dtd.declareEntity n .external, rest)
        | some ⟨.name "NDATA", s, rest⟩ =>
          if isParam then .error ⟨.malformed, s⟩
          else
            match ← nextToken fuel rest with
            | some ⟨.name _, _, rest⟩ =>
              let rest ← closeDecl fuel endPos rest
              pure (dtd.declareEntity n .unparsed, rest)
            | t => unexpected endPos t
        | t => unexpected endPos t
      else .error ⟨.malformed, s⟩
    | t => unexpected endPos t
  | t => unexpected endPos t

def skipDecl (endPos : Nat) : Nat → Src → Except Failure Src
  | 0, _ => .error ⟨.noElement, endPos⟩
  | fuel + 1, src =>
    match nextToken (src.length + 1) src with
    | .ok (some ⟨.punct '>', _, rest⟩) => .ok rest
    | .ok (some ⟨_, _, rest⟩) => skipDecl endPos fuel rest
    | .ok none => .error ⟨.noElement, endPos⟩
    | .error e => .error e

def tokenizedType (kw : String) : Option Bool :=
  if kw = "CDATA" then some false
  else if ["ID", "IDREF", "IDREFS", "ENTITY", "ENTITIES", "NMTOKEN", "NMTOKENS"].contains kw then
    some true
  else none

def skipEnumeration (endPos : Nat) : Nat → Src → Except Failure Src
  | 0, _ => .error ⟨.noElement, endPos⟩
  | fuel + 1, src =>
    match nextToken (src.length + 1) src with
    | .ok (some ⟨.punct ')', _, rest⟩) => .ok rest
    | .ok (some ⟨.name _, _, rest⟩) => skipEnumeration endPos fuel rest
    | .ok (some ⟨.nmtoken _, _, rest⟩) => skipEnumeration endPos fuel rest
    | .ok (some ⟨.punct '|', _, rest⟩) => skipEnumeration endPos fuel rest
    | .ok t => unexpected endPos t
    | .error e => .error e

def attributeType (fuel endPos : Nat) (src : Src) : Except Failure (Bool × Src) := do
  match ← nextToken fuel src with
  | some ⟨.name kw, s, rest⟩ =>
    if kw = "NOTATION" then
      match ← nextToken fuel rest with
      | some ⟨.punct '(', _, rest⟩ => pure (true, ← skipEnumeration endPos fuel rest)
      | t => unexpected endPos t
    else
      match tokenizedType kw with
      | some b => pure (b, rest)
      | none => .error ⟨.malformed, s⟩
  | some ⟨.punct '(', _, rest⟩ => pure (true, ← skipEnumeration endPos fuel rest)
  | t => unexpected endPos t

def attributeDefault (fuel endPos : Nat) (src : Src) : Except Failure (Option Src × Src) := do
  match ← nextToken fuel src with
  | some ⟨.poundName kw, s, rest⟩ =>
    if kw = "REQUIRED" ∨ kw = "IMPLIED" then pure (none, rest)
    else if kw = "FIXED" then
      match ← nextToken fuel rest with
      | some ⟨.literal v, _, rest⟩ => pure (some v, rest)
      | t => unexpected endPos t
    else .error ⟨.malformed, s⟩
  | some ⟨.literal v, _, rest⟩ => pure (some v, rest)
  | t => unexpected endPos t

def attributeDefs (endPos : Nat) (element : String) : Nat → Dtd → Src → Except Failure (Dtd × Src)
  | 0, _, _ => .error ⟨.noElement, endPos⟩
  | fuel + 1, dtd, src => do
    let budget := src.length + 1
    match ← nextToken budget src with
    | some ⟨.punct '>', _, rest⟩ => pure (dtd, rest)
    | some ⟨.name attr, _, rest⟩ =>
      let (tokenized, rest) ← attributeType budget endPos rest
      let (dflt, rest) ← attributeDefault budget endPos rest
      attributeDefs endPos element fuel (dtd.declareAttribute ⟨element, attr, tokenized, dflt⟩) rest
    | t => unexpected endPos t

def attlistDecl (fuel endPos : Nat) (dtd : Dtd) (src : Src) : Except Failure (Dtd × Src) := do
  match ← nextToken fuel src with
  | some ⟨.name element, _, rest⟩ => attributeDefs endPos element (rest.length + 1) dtd rest
  | t => unexpected endPos t

def internalSubset (endPos : Nat) : Nat → Dtd → Src → Except Failure (Dtd × Src)
  | 0, _, _ => .error ⟨.noElement, endPos⟩
  | fuel + 1, dtd, src => do
    let budget := src.length + 1
    match ← nextToken budget src with
    | some ⟨.punct ']', _, rest⟩ => pure (dtd, rest)
    | some ⟨.comment, _, rest⟩ => internalSubset endPos fuel dtd rest
    | some ⟨.pi, _, rest⟩ => internalSubset endPos fuel dtd rest
    | some ⟨.xmlDecl, s, _⟩ => .error ⟨.misplacedDeclaration, s⟩
    | some ⟨.paramRef _, _, rest⟩ =>
      internalSubset endPos fuel
        { dtd with openEnded := true, keepProcessing := dtd.standalone } rest
    | some ⟨.declOpen kw, s, rest⟩ =>
      if kw = "ENTITY" then
        let (dtd, rest) ← entityDecl budget endPos dtd rest
        internalSubset endPos fuel dtd rest
      else if kw = "ATTLIST" then
        let (dtd, rest) ← attlistDecl budget endPos dtd rest
        internalSubset endPos fuel dtd rest
      else if kw = "ELEMENT" ∨ kw = "NOTATION" then
        internalSubset endPos fuel dtd (← skipDecl endPos budget rest)
      else .error ⟨.malformed, s⟩
    | t => unexpected endPos t

def doctypeDecl (endPos : Nat) (dtd : Dtd) (src : Src) : Except Failure (Dtd × Src) := do
  let budget := src.length + 1
  match ← nextToken budget src with
  | some ⟨.name _, _, rest⟩ =>
    let (dtd, next) ← match ← nextToken budget rest with
      | some ⟨.name kw, s, rest⟩ =>
        if kw = "SYSTEM" ∨ kw = "PUBLIC" then do
          let rest ← externalId budget endPos (kw = "PUBLIC") rest
          pure ({ dtd with openEnded := true }, ← nextToken budget rest)
        else .error ⟨.malformed, s⟩
      | t => pure (dtd, t)
    match next with
    | some ⟨.punct '>', _, rest⟩ => pure (dtd, rest)
    | some ⟨.punct '[', _, rest⟩ =>
      let (dtd, rest) ← internalSubset endPos (rest.length + 1) dtd rest
      let rest ← closeDecl budget endPos rest
      pure (dtd, rest)
    | t => unexpected endPos t
  | t => unexpected endPos t

/-- The parts of a document before its root element: the declarations it makes, and the input
from the root's `<` on. -/
def prologLoop (endPos : Nat) (seenDoctype : Bool) : Nat → Dtd → Src → Except Failure (Dtd × Src)
  | 0, _, _ => .error ⟨.noElement, endPos⟩
  | fuel + 1, dtd, src => do
    match ← lexProlog src with
    | none => .error ⟨.noElement, endPos⟩
    | some ⟨.blank, _, rest⟩ => prologLoop endPos seenDoctype fuel dtd rest
    | some ⟨.comment, _, rest⟩ => prologLoop endPos seenDoctype fuel dtd rest
    | some ⟨.pi, _, rest⟩ => prologLoop endPos seenDoctype fuel dtd rest
    | some ⟨.xmlDecl, s, _⟩ => .error ⟨.misplacedDeclaration, s⟩
    | some ⟨.declOpen kw, s, rest⟩ =>
      if kw = "DOCTYPE" ∧ !seenDoctype then
        let (dtd, rest) ← doctypeDecl endPos dtd rest
        prologLoop endPos true fuel dtd rest
      else .error ⟨.malformed, s⟩
    | some ⟨.instanceStart, _, rest⟩ => pure (dtd, rest)
    | some ⟨.paramRef _, s, _⟩ => .error ⟨.paramEntityRef, s⟩
    | some t => .error ⟨.malformed, t.start⟩

end SketchGen.Xml
