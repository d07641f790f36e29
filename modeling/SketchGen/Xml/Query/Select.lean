import SketchGen.Xml.Query.Step
import SketchGen.Xml.Element

namespace SketchGen.Xml.Query

open SketchGen.Xml

/-! Evaluating a path from an element. The steps run in order, each on the elements selected
so far, keeping document order and any repetition; the first step starts from the element
itself. A tag pattern matches a tag when they are equal, and `{*}name`, `{uri}*`, `{*}*` and
`{}*` match names in any namespace, any name in one namespace, anything, and names in no
namespace. A path that holds none of `/ * [ @ .` outside braces is a plain tag: it selects the
children with exactly that tag. -/

def tagMatches (pattern tag : String) : Bool :=
  if pattern.startsWith "\x7b*\x7d" ∨ pattern.endsWith "\x7d*" then
    if pattern = "\x7b*\x7d*" then true
    else if pattern = "\x7b\x7d*" then !tag.startsWith "\x7b"
    else if pattern.startsWith "\x7b*\x7d" then
      let name := String.ofList (pattern.toList.drop 3)
      tag = name ∨ tag.endsWith ("\x7d" ++ name)
    else tag.startsWith (String.ofList pattern.toList.dropLast)
  else
    let p := if pattern.startsWith "\x7b\x7d" then String.ofList (pattern.toList.drop 2) else pattern
    tag = p

def descendantMatches (pattern tag : String) : Bool :=
  pattern = "*" ∨ tagMatches pattern tag

def distinctFrom (seen : List Nat) : List Element → List Element
  | [] => []
  | e :: es =>
    if seen.contains e.key then distinctFrom seen es else e :: distinctFrom (e.key :: seen) es

def atPosition (root : Element) (index : Int) (e : Element) : Bool :=
  match root.parentIn? e with
  | none => false
  | some p =>
    let sibs := p.children.filter (·.tag == e.tag)
    let i : Int := if index ≥ 0 then index else sibs.length + index
    if i < 0 then false else (sibs[i.toNat]?).any (·.key == e.key)

def Step.apply (root : Element) (input : List Element) : Step → Except PathError (List Element)
  | .child t => .ok (input.flatMap fun e => e.children.filter (tagMatches t ·.tag))
  | .children => .ok (input.flatMap (·.children))
  | .self => .ok input
  | .parent => .ok (distinctFrom [] (input.filterMap root.parentIn?))
  | .descendant t => .ok (input.flatMap fun e => (e.subtree.drop 1).filter (descendantMatches t ·.tag))
  | .hasAttr k => .ok (input.filter fun e => (e.get? k).isSome)
  | .attrEq k v => .ok (input.filter fun e => e.get? k == some v)
  | .attrNe k v => .ok (input.filter fun e => match e.get? k with
      | some a => a != v
      | none => false)
  | .hasChild t => .ok (input.filter fun e => e.children.any (tagMatches t ·.tag))
  | .childTextEq t v =>
    .ok (input.filter fun e => (e.children.filter (tagMatches t ·.tag)).any (·.innerText == v))
  | .childTextNe t v =>
    .ok (input.filter fun e => (e.children.filter (tagMatches t ·.tag)).any (·.innerText != v))
  | .ownTextEq v => .ok (input.filter (·.innerText == v))
  | .ownTextNe v => .ok (input.filter (·.innerText != v))
  | .position i => .ok (input.filter (atPosition root i))
  | .missing => .error .missingStep

def run (root : Element) : List Step → List Element → Except PathError (List Element)
  | [], sel => .ok sel
  | s :: rest, sel => do run root rest (← s.apply root sel)

def isPlainTag (path : String) : Bool :=
  let cs := path.toList
  let wildcard := match cs with
    | '{' :: '}' :: _ :: _ => true
    | '{' :: '*' :: '}' :: _ => true
    | _ => false
  !wildcard && go true cs
where
  go (check : Bool) : List Char → Bool
    | [] => true
    | c :: rest =>
      if c = '{' then go false rest
      else if c = '}' then go true rest
      else if check ∧ (c = '/' ∨ c = '*' ∨ c = '[' ∨ c = '@' ∨ c = '.') then false
      else go check rest

end Query

namespace Element

def findAll (e : Element) (path : String) : Except Query.PathError (List Element) :=
  if Query.isPlainTag path then .ok (e.childrenTagged path)
  else do Query.run e (← Query.compile path) [e]

def find? (e : Element) (path : String) : Except Query.PathError (Option Element) :=
  (e.findAll path).map (·.head?)

end Element

end SketchGen.Xml
