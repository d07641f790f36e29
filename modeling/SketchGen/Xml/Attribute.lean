import SketchGen.Xml.Tag
import SketchGen.Xml.Dtd

namespace SketchGen.Xml

/-! Attribute values with their references replaced. A character reference gives its
character as is; an entity reference gives its replacement text, read again as a value, so
its own blanks become spaces and its references are replaced in turn. An entity may not refer
to itself, and an entity that is not text may not appear. A failure inside replacement text is
reported at the tag; one in the tag's own text at the reference. A tokenized value is then
trimmed and its runs of spaces collapsed. -/

/-- The pieces of an entity's replacement text read as an attribute value. Any `<` or bad
reference in it is reported at the tag. -/
def entityValueParts (tagPos : Nat) : Nat → List Char → Except Failure (List ValuePart)
  | 0, _ => .ok []
  | _ + 1, [] => .ok []
  | fuel + 1, c :: rest =>
    if c = '<' then .error ⟨.invalidToken, tagPos⟩
    else if c = '&' then
      match scanRef tagPos (rest.map (·, tagPos)) with
      | .error _ => .error ⟨.invalidToken, tagPos⟩
      | .ok (r, after) =>
        let part := match r with
          | .char n => ValuePart.charRef n tagPos
          | .entity name => ValuePart.entityRef name tagPos
        (entityValueParts tagPos fuel (after.map (·.1))).map (part :: ·)
    else if isXmlBlank c then (entityValueParts tagPos fuel rest).map (.chars [' '] :: ·)
    else (entityValueParts tagPos fuel rest).map (.chars [c] :: ·)

/-- The characters of an attribute value. `nested` tells whether the pieces come from
replacement text, and `open` holds the entities being replaced. -/
def expandValue (dtd : Dtd) (tagPos : Nat) : Nat → List String → Bool → List ValuePart →
    Except Failure (List Char)
  | 0, _, _, _ => .error ⟨.amplification, tagPos⟩
  | _ + 1, _, _, [] => .ok []
  | fuel + 1, opened, nested, part :: rest => do
    let here (p : Nat) := if nested then tagPos else p
    let head ← match part with
      | .chars cs => pure cs
      | .charRef n p =>
        match charOfRef n with
        | some c => pure [c]
        | none => .error ⟨.badCharRef, here p⟩
      | .entityRef name p =>
        match predefinedEntity name with
        | some c => pure [c]
        | none =>
          match dtd.entity? name with
          | none => if dtd.strict then .error ⟨.undefinedEntity, tagPos⟩ else pure []
          | some body =>
            if opened.contains name then .error ⟨.recursiveEntity, here p⟩
            else match body with
              | .unparsed => .error ⟨.binaryEntityRef, here p⟩
              | .external => .error ⟨.externalEntityInAttribute, here p⟩
              | .internal text => do
                let parts ← entityValueParts tagPos (text.length + 1) text
                expandValue dtd tagPos fuel (name :: opened) true parts
    let tail ← expandValue dtd tagPos fuel opened nested rest
    pure (head ++ tail)

def collapseSpaces (cs : List Char) : List Char :=
  " ".toList.intercalate ((cs.splitOn ' ').filter (!·.isEmpty))

/-- The value of an attribute as written, with references replaced and, for a tokenized
type, spaces collapsed. -/
def attributeText (dtd : Dtd) (tagPos : Nat) (tokenized : Bool) (parts : List ValuePart) :
    Except Failure String := do
  let fuel := 64 * (parts.length + 1) + dtd.entities.length * 64
  let cs ← expandValue dtd tagPos fuel [] false parts
  pure (String.ofList (if tokenized then collapseSpaces cs else cs))

/-- The pieces of a default value written in a declaration; a reference that cannot be read
stays as its characters. -/
def literalParts : Nat → Src → List ValuePart
  | 0, _ => []
  | _ + 1, [] => []
  | fuel + 1, (c, p) :: rest =>
    if c = '&' then
      match scanRef p rest with
      | .ok (.char n, after) => .charRef n p :: literalParts fuel after
      | .ok (.entity name, after) => .entityRef name p :: literalParts fuel after
      | .error _ => .chars [c] :: literalParts fuel rest
    else if isXmlBlank c then .chars [' '] :: literalParts fuel rest
    else .chars [c] :: literalParts fuel rest

end SketchGen.Xml
