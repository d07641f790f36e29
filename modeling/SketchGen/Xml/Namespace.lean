import SketchGen.Xml.Error

namespace SketchGen.Xml

/-! Namespaces. An attribute `xmlns` sets the default namespace of an element and its
descendants (an empty value removes it); `xmlns:p` binds the prefix `p`, which may not be bound
to the empty name. The prefix `xml` is bound to its reserved name and to nothing else, the
prefix `xmlns` is never bound, and no other prefix is bound to either reserved name. A
prefixed name becomes `{uri}localPart`; an unprefixed element name takes the default namespace,
an unprefixed attribute name none. -/

def xmlNamespace : String := "http://www.w3.org/XML/1998/namespace"

def xmlnsNamespace : String := "http://www.w3.org/2000/xmlns/"

/-- The namespaces in force inside an element. -/
structure Scope where
  default : Option String := none
  prefixes : List (String × String) := [("xml", xmlNamespace)]

def Scope.lookup (s : Scope) (pfx : String) : Option String :=
  (s.prefixes.find? (·.1 == pfx)).map (·.2)

def splitQName (name : String) : Option (String × String) :=
  match name.splitOn ":" with
  | [pfx, localPart] => some (pfx, localPart)
  | _ => none

/-- The prefix that an attribute name declares: the default namespace for `xmlns`, a prefix
for `xmlns:p`, or nothing for any other attribute. -/
def declaredPrefix (attr : String) : Option (Option String) :=
  if attr = "xmlns" then some none
  else match splitQName attr with
    | some ("xmlns", p) => some (some p)
    | _ => none

def Scope.bind (s : Scope) (pfx : Option String) (uri : String) : Except Problem Scope :=
  match pfx with
  | none =>
    if uri = xmlNamespace ∨ uri = xmlnsNamespace then .error .reservedNamespace
    else .ok { s with default := if uri.isEmpty then none else some uri }
  | some p =>
    if uri.isEmpty then .error .undeclaringPrefix
    else if p = "xmlns" then .error .reservedXmlnsPrefix
    else if p = "xml" then
      if uri = xmlNamespace then .ok s else .error .reservedXmlPrefix
    else if uri = xmlNamespace ∨ uri = xmlnsNamespace then .error .reservedNamespace
    else .ok { s with prefixes := (p, uri) :: s.prefixes }

def Scope.elementName (s : Scope) (name : String) : Option String :=
  match splitQName name with
  | some (p, localPart) => (s.lookup p).map fun uri => "\x7b" ++ uri ++ "\x7d" ++ localPart
  | none =>
    match s.default with
    | some uri => some ("\x7b" ++ uri ++ "\x7d" ++ name)
    | none => some name

def Scope.attributeName (s : Scope) (name : String) : Option String :=
  match splitQName name with
  | some (p, localPart) => (s.lookup p).map fun uri => "\x7b" ++ uri ++ "\x7d" ++ localPart
  | none => some name

end SketchGen.Xml
