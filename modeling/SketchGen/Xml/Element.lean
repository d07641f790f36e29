namespace SketchGen.Xml

/-! Elements of a read document. An element has a tag (`{uri}local` when it is in a
namespace), its attributes in document order, the text before its first child, its children,
and the text that follows it inside its parent. Every element of a document carries a distinct
key, its position in document order, which tells two equal-looking elements apart. -/

/-- An element and its subtree. -/
structure Element where
  key : Nat
  tag : String
  attrs : List (String × String)
  text : String
  children : List Element
  tail : String
deriving Repr, Inhabited

namespace Element

def get? (e : Element) (name : String) : Option String :=
  (e.attrs.find? (·.1 == name)).map (·.2)

def childrenTagged (e : Element) (tag : String) : List Element :=
  e.children.filter (·.tag == tag)

mutual

def subtree : Element → List Element
  | e@⟨_, _, _, _, children, _⟩ => e :: subtreeOfList children

def subtreeOfList : List Element → List Element
  | [] => []
  | e :: es => subtree e ++ subtreeOfList es

end

mutual

def innerText : Element → String
  | ⟨_, _, _, text, children, _⟩ => text ++ innerTextOfList children

def innerTextOfList : List Element → String
  | [] => ""
  | e :: es => innerText e ++ e.tail ++ innerTextOfList es

end

def parentLinks (e : Element) : List (Element × Element) :=
  e.subtree.flatMap fun p => p.children.map fun c => (p, c)

def parentIn? (root : Element) (e : Element) : Option Element :=
  ((root.parentLinks).find? (·.2.key == e.key)).map (·.1)

theorem subtree_head (e : Element) : (e.subtree).head? = some e := by
  cases e; simp [subtree]

end Element

end SketchGen.Xml
