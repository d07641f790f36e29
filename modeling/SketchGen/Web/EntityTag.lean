import SketchGen.Text.Blank

namespace SketchGen.Web

open SketchGen.Text

/-! Entity-tag lists, as conditional requests carry them. A list holds tags divided by a comma
with blanks around it; a tag may be marked weak by `W/`, and is either quoted or bare. A quoted
tag ends at the first closing quote that a divider or the end of the list follows; a bare tag
runs to the first divider. The files served here carry a tag that no client can know, so the
one tag of a list that can match them is the bare wildcard `*`: what a list decides is whether
it is given and whether it holds the wildcard. -/

def afterDivider (cs : List Char) : Option (List Char) :=
  match cs.dropWhile isBlank with
  | ',' :: rest => some (rest.dropWhile isBlank)
  | _ => if cs.isEmpty then some [] else none

def afterQuoted : List Char → Option (List Char)
  | [] => none
  | c :: rest => if c = '"' then afterDivider rest <|> afterQuoted rest else afterQuoted rest

def bareTag : List Char → List Char × List Char
  | [] => ([], [])
  | c :: rest =>
    match afterDivider (c :: rest) with
    | some r => ([], r)
    | none => let (t, r) := bareTag rest; (c :: t, r)

def dropWeakMark : List Char → List Char
  | 'W' :: '/' :: rest => rest
  | 'w' :: '/' :: rest => rest
  | cs => cs

def hasWildcardFrom : Nat → List Char → Bool
  | 0, _ => false
  | _, [] => false
  | fuel + 1, cs =>
    let body := dropWeakMark cs
    let bare := fun (_ : Unit) =>
      let (t, rest) := bareTag body
      t == ['*'] || hasWildcardFrom fuel rest
    match body with
    | '"' :: r =>
      match afterQuoted r with
      | some rest => hasWildcardFrom fuel rest
      | none => bare ()
    | _ => bare ()

/-- Whether an entity-tag list holds the wildcard. Every tag takes at least one character, so
as many steps as characters read the whole list. -/
def hasWildcard (s : String) : Bool := hasWildcardFrom (s.length + 1) s.toList

/-- The one tag of an `If-Range` header: without the blanks around it, its weakness mark and one
pair of quotes. -/
def rangeTag (s : String) : String :=
  let cs := (strip s).toList
  let cs := match cs with
    | 'W' :: '/' :: rest => rest
    | 'w' :: '/' :: rest => rest
    | cs => cs
  let cs := if cs.head? = some '"' ∧ cs.getLast? = some '"' then (cs.drop 1).dropLast else cs
  String.ofList cs

def listed (h : Option String) : Bool := h.any (!·.isEmpty)

/-- Whether a file counts as unchanged under `If-None-Match` and `If-Match`. An `If-None-Match`
list finds it unchanged when it holds the wildcard; any `If-Match` list does, and overrides it,
since the file's own tag is never among its strong tags. -/
def unchangedByTags (noneMatch ifMatch : Option String) : Bool :=
  listed ifMatch || (listed noneMatch && hasWildcard (noneMatch.getD ""))

/-- Whether a `Range` header is honoured under an `If-Range` header. An empty one leaves the
question to `If-None-Match` and `If-Match`; any other names a tag, honoured when its list holds
the wildcard. -/
def rangeHonoured (ifRange noneMatch ifMatch : Option String) : Bool :=
  match ifRange with
  | none => true
  | some "" => unchangedByTags noneMatch ifMatch
  | some v => hasWildcard (rangeTag v)

theorem hasWildcard_empty : hasWildcard "" = false := rfl

theorem unchangedByTags_of_listed (noneMatch ifMatch : Option String) (h : listed ifMatch = true) :
    unchangedByTags noneMatch ifMatch = true := by
  simp [unchangedByTags, h]

end SketchGen.Web
