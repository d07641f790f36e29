import SketchGen.Xml.Element
import SketchGen.Xml.Doctype
import SketchGen.Xml.Attribute
import SketchGen.Xml.Namespace

namespace SketchGen.Xml

/-! Reading a document into its root element. After the declarations comes exactly one root
element; its content is character data, references, child elements, comments, processing
instructions and character data sections; after it only blanks, comments and processing
instructions may follow. The first fault in document order is the one reported. Line ends in
character data become line feeds. An entity's replacement text is read as content in place of
its reference, and must open and close the same elements. -/

/-- An element whose content is being read. -/
structure Frame where
  key : Nat
  tag : String
  rawName : String
  attrs : List (String × String)
  text : String
  children : List Element
  scope : Scope

/-- The elements being read, innermost first, and the key for the next element. -/
structure Builder where
  frames : List Frame
  nextKey : Nat
  root : Option Element

/-- What reading content needs to know: the declarations, where the document ends, the
entities being replaced, and, inside replacement text, the depth and position of the
reference. -/
structure Context where
  dtd : Dtd
  endPos : Nat
  opened : List String
  entity : Option (Nat × Nat)

/-- Character data added to the innermost element: to its text before any child, else to the
tail of its last child. -/
def Builder.addText (b : Builder) (s : String) : Builder :=
  match b.frames with
  | [] => b
  | f :: fs =>
    let f := match f.children with
      | [] => { f with text := f.text ++ s }
      | c :: cs => { f with children := { c with tail := c.tail ++ s } :: cs }
    { b with frames := f :: fs }

def Builder.close (b : Builder) : Builder :=
  match b.frames with
  | [] => b
  | f :: fs =>
    let e : Element := ⟨f.key, f.tag, f.attrs, f.text, f.children.reverse, ""⟩
    match fs with
    | [] => { b with frames := [], root := some e }
    | p :: ps => { b with frames := { p with children := e :: p.children } :: ps }

def Builder.scope (b : Builder) : Scope :=
  match b.frames with
  | f :: _ => f.scope
  | [] => {}

def textRun (acc : List Char) : Src → Except Failure (String × Src)
  | [] => .ok (String.ofList acc.reverse, [])
  | (']', _) :: (']', _) :: ('>', q) :: _ => .error ⟨.invalidToken, q⟩
  | ('\r', _) :: ('\n', _) :: rest => textRun ('\n' :: acc) rest
  | (c, p) :: rest =>
    if c = '<' ∨ c = '&' then .ok (String.ofList acc.reverse, (c, p) :: rest)
    else if c = '\r' then textRun ('\n' :: acc) rest
    else if isDocumentChar c then textRun (c :: acc) rest
    else .error ⟨.invalidToken, p⟩

def cdataBody (endPos : Nat) (acc : List Char) : Src → Except Failure (String × Src)
  | [] => .error ⟨.unclosedCdata, endPos⟩
  | (']', _) :: (']', _) :: ('>', _) :: rest => .ok (String.ofList acc.reverse, rest)
  | ('\r', _) :: ('\n', _) :: rest => cdataBody endPos ('\n' :: acc) rest
  | (c, p) :: rest =>
    if c = '\r' then cdataBody endPos ('\n' :: acc) rest
    else if isDocumentChar c then cdataBody endPos (c :: acc) rest
    else .error ⟨.invalidToken, p⟩

def cdataOpen (start : Nat) : List Char → Src → Except Failure Src
  | [], src => .ok src
  | _ :: _, [] => .error ⟨.unclosedToken, start⟩
  | w :: ws, (c, p) :: rest =>
    if c = w then cdataOpen start ws rest else .error ⟨.invalidToken, p⟩

/-- The attributes of a start tag checked and made final, in order: no name twice, references
replaced, namespace declarations taken into the scope; then the declared defaults that are
missing; then the names expanded. -/
def tagAttributes (dtd : Dtd) (outer : Scope) (tag : StartTag) :
    Except Failure (Scope × List (String × String)) := do
  let decls := dtd.attributesOf tag.name
  let tokenizedOf (n : String) := (decls.find? (·.name == n)).any (·.tokenized)
  let fail (p : Problem) : Except Failure (Scope × List (String × String)) :=
    .error ⟨p, tag.pos⟩
  let step (acc : Scope × List (String × String) × List String) (a : RawAttribute) :
      Except Failure (Scope × List (String × String) × List String) := do
    let (scope, kept, seen) := acc
    if seen.contains a.name then throw ⟨.duplicateAttribute, a.pos⟩
    let v ← attributeText dtd tag.pos (tokenizedOf a.name) a.value
    match declaredPrefix a.name with
    | some pfx =>
      match scope.bind pfx v with
      | .ok scope => pure (scope, kept, a.name :: seen)
      | .error p => throw ⟨p, tag.pos⟩
    | none => pure (scope, kept ++ [(a.name, v)], a.name :: seen)
  let (scope, kept, seen) ← tag.attrs.foldlM step (outer, [], [])
  let addDefault (acc : Scope × List (String × String)) (d : AttributeDecl) :
      Except Failure (Scope × List (String × String)) := do
    let (scope, kept) := acc
    match d.default with
    | none => pure acc
    | some lit =>
      if seen.contains d.name then pure acc
      else
        let v ← attributeText dtd tag.pos d.tokenized (literalParts (lit.length + 1) lit)
        match declaredPrefix d.name with
        | some pfx =>
          match scope.bind pfx v with
          | .ok scope => pure (scope, kept)
          | .error p => throw ⟨p, tag.pos⟩
        | none => pure (scope, kept ++ [(d.name, v)])
  let (scope, kept) ← decls.foldlM addDefault (scope, kept)
  let expanded ← kept.mapM fun (n, v) =>
    match scope.attributeName n with
    | some en => pure (en, v)
    | none => throw ⟨.unboundPrefix, tag.pos⟩
  let names := expanded.map (·.1)
  if names.eraseDups.length ≠ names.length then fail .duplicateAttribute
  else pure (scope, expanded)

/-- A start tag taken into the builder: a new innermost element, closed at once when the tag
ends in `/>`. -/
def openElement (dtd : Dtd) (b : Builder) (tag : StartTag) : Except Failure Builder := do
  let (scope, attrs) ← tagAttributes dtd b.scope tag
  match scope.elementName tag.name with
  | none => .error ⟨.unboundPrefix, tag.pos⟩
  | some name =>
    let frame : Frame := ⟨b.nextKey, name, tag.name, attrs, "", [], scope⟩
    let b := { b with frames := frame :: b.frames, nextKey := b.nextKey + 1 }
    pure (if tag.selfClosing then b.close else b)

/-- Reads content until the root element closes (in the document) or the input ends (in
replacement text). -/
def content : Nat → Context → Builder → Src → Except Failure (Builder × Src)
  | 0, ctx, _, _ => .error ⟨.amplification, ctx.endPos⟩
  | fuel + 1, ctx, b, src =>
    match src with
    | [] =>
      match ctx.entity with
      | some (depth, ref) =>
        if b.frames.length = depth then .ok (b, []) else .error ⟨.asyncEntity, ref⟩
      | none => .error ⟨.noElement, ctx.endPos⟩
    | ('<', p) :: rest =>
      match rest with
      | [] => .error ⟨.unclosedToken, p⟩
      | ('/', _) :: more =>
        match scanEndTag p more with
        | .error e => .error e
        | .ok ((name, namePos), after) =>
          match ctx.entity with
          | some (depth, ref) =>
            if b.frames.length = depth then .error ⟨.asyncEntity, ref⟩
            else closeTag fuel ctx b name namePos after
          | none => closeTag fuel ctx b name namePos after
      | ('!', _) :: more =>
        match more with
        | ('-', _) :: ('-', _) :: body =>
          match commentBody p body with
          | .ok after => content fuel ctx b after
          | .error e => .error e
        | ('-', _) :: (_, q) :: _ => .error ⟨.invalidToken, q⟩
        | ('[', _) :: after =>
          match cdataOpen p "CDATA[".toList after with
          | .error e => .error e
          | .ok body =>
            match cdataBody ctx.endPos [] body with
            | .ok (s, after) => content fuel ctx (b.addText s) after
            | .error e => .error e
        | (_, q) :: _ :: _ => .error ⟨.invalidToken, q⟩
        | _ => .error ⟨.unclosedToken, p⟩
      | ('?', _) :: more =>
        match scanPi p more with
        | .ok ⟨.xmlDecl, _, _⟩ => .error ⟨.misplacedDeclaration, p⟩
        | .ok lex => content fuel ctx b lex.rest
        | .error e => .error e
      | (d, q) :: _ =>
        if isNameStart d then
          match scanStartTag src with
          | .error e => .error e
          | .ok (tag, after) =>
            match openElement ctx.dtd b tag with
            | .error e => .error e
            | .ok b =>
              if b.root.isSome then .ok (b, after) else content fuel ctx b after
        else .error ⟨.invalidToken, q⟩
    | ('&', p) :: rest =>
      match scanRef p rest with
      | .error e => .error e
      | .ok (.char n, after) =>
        match charOfRef n with
        | some c => content fuel ctx (b.addText (String.singleton c)) after
        | none => .error ⟨.badCharRef, p⟩
      | .ok (.entity name, after) =>
        match predefinedEntity name with
        | some c => content fuel ctx (b.addText (String.singleton c)) after
        | none =>
          match ctx.dtd.entity? name with
          | none =>
            if ctx.dtd.strict then .error ⟨.undefinedEntity, p⟩
            else .error ⟨.skippedEntity ("&" ++ name ++ ";"), p⟩
          | some .unparsed => .error ⟨.binaryEntityRef, p⟩
          | some .external => .error ⟨.skippedEntity ("&" ++ name ++ ";"), p⟩
          | some (.internal text) =>
            if ctx.opened.contains name then .error ⟨.recursiveEntity, p⟩
            else
              let inner : Context :=
                { ctx with opened := name :: ctx.opened, entity := some (b.frames.length, p) }
              match content fuel inner b (text.map (·, p)) with
              | .error e => .error e
              | .ok (b, _) => content fuel ctx b after
    | _ =>
      match textRun [] src with
      | .error e => .error e
      | .ok (s, after) => content fuel ctx (b.addText s) after
where
  closeTag (fuel : Nat) (ctx : Context) (b : Builder) (name : String) (namePos : Nat)
      (after : Src) : Except Failure (Builder × Src) :=
    match b.frames with
    | f :: _ =>
      if f.rawName = name then
        let b := b.close
        if b.root.isSome then .ok (b, after) else content fuel ctx b after
      else .error ⟨.mismatchedTag, namePos⟩
    | [] => .error ⟨.mismatchedTag, namePos⟩

def epilog : Nat → Src → Except Failure Unit
  | 0, _ => .ok ()
  | fuel + 1, src =>
    match lexProlog src with
    | .error e => .error e
    | .ok none => .ok ()
    | .ok (some ⟨.blank, _, rest⟩) => epilog fuel rest
    | .ok (some ⟨.comment, _, rest⟩) => epilog fuel rest
    | .ok (some ⟨.pi, _, rest⟩) => epilog fuel rest
    | .ok (some t) => .error ⟨.junkAfterRoot, t.start⟩

def readSrc (src : Src) (endPos : Nat) : Except Failure Element := do
  let (decl, rest) ← leadingDeclaration src
  let dtd : Dtd := { standalone := (decl.map (·.standalone)).getD false }
  let (dtd, rest) ← prologLoop endPos false (rest.length + 1) dtd rest
  let ctx : Context := ⟨dtd, endPos, [], none⟩
  let fuel := 16 * (rest.length + 1) + 16 * (dtd.entities.length + 1) * (rest.length + 1)
  let (b, after) ← content fuel ctx ⟨[], 0, none⟩ rest
  epilog (after.length + 1) after
  match b.root with
  | some e => pure e
  | none => .error ⟨.noElement, endPos⟩

/-- Reads a document; a byte order mark at its start is passed over, though it still counts
as a column. -/
def Document.read (text : String) : Except ReadError Element :=
  let cs := text.toList
  let src := match cs with
    | '﻿' :: rest => Src.ofList rest 1
    | _ => Src.ofList cs 0
  match readSrc src cs.length with
  | .ok e => .ok e
  | .error f => .error (f.locate cs)

end SketchGen.Xml
