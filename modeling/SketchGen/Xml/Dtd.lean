import SketchGen.Xml.Lex

namespace SketchGen.Xml

/-! What a document type declares for the rest of the document: general entities and
attribute defaults. The first declaration of an entity, or of an attribute of an element,
is the one that counts. A document whose declarations may lie partly outside it (an external
subset, or a parameter entity reference) is open-ended: a reference to an entity it does not
declare is then skipped instead of refused. -/

/-- What an entity stands for. -/
inductive EntityBody where
  | internal (text : List Char)
  | external
  | unparsed
deriving Repr, DecidableEq

/-- A declared attribute of an element: whether its type is tokenized (anything but
character data, so its value is trimmed and its blank runs collapsed) and its default. -/
structure AttributeDecl where
  element : String
  name : String
  tokenized : Bool
  default : Option Src

/-- The declarations of a document type. -/
structure Dtd where
  entities : List (String × EntityBody) := []
  attributes : List AttributeDecl := []
  openEnded : Bool := false
  standalone : Bool := false
  keepProcessing : Bool := true

namespace Dtd

def entity? (d : Dtd) (name : String) : Option EntityBody :=
  (d.entities.find? (·.1 == name)).map (·.2)

def declareEntity (d : Dtd) (name : String) (body : EntityBody) : Dtd :=
  if !d.keepProcessing || (d.entities.any (·.1 == name)) then d
  else { d with entities := d.entities ++ [(name, body)] }

def declareAttribute (d : Dtd) (a : AttributeDecl) : Dtd :=
  if !d.keepProcessing || d.attributes.any (fun b => b.element == a.element && b.name == a.name)
  then d
  else { d with attributes := d.attributes ++ [a] }

def attributesOf (d : Dtd) (element : String) : List AttributeDecl :=
  d.attributes.filter (·.element == element)

def strict (d : Dtd) : Bool := !d.openEnded || d.standalone

end Dtd

end SketchGen.Xml
