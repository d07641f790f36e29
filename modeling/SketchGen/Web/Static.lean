import SketchGen.Web.Asset.Rules
import SketchGen.Web.Asset.Script
import SketchGen.Web.Asset.Style
import SketchGen.Web.Asset.Stylesheets
import SketchGen.Web.EntityTag
import SketchGen.Web.Http
import SketchGen.Web.Range

namespace SketchGen.Web

open SketchGen.Web.Asset

/-! Static files of the front end. A file is asked for by a path below the static folder; the
path is normalised first (`.` and empty parts dropped, `..` taking back the part before it), and
a path that is absolute or climbs out of the folder names no file. A file is served inline under
its own name, with a content type by its extension and a note that it must be revalidated; a
`Range` header asks for part of it, and entity-tag conditions may answer without it. -/

def staticFiles : List (String × String) :=
  [("css/styles.css", styleSheet),
   ("input/json/CIM-PIM-Rules.json", cimPimRules),
   ("input/json/PIM-PSM-Rules.json", pimPsmRules),
   ("input/xsl/CIM-PIM-Aux.xsl", cimPimAuxStylesheet),
   ("input/xsl/CIM-PIM.xsl", cimPimStylesheet),
   ("input/xsl/PIM-PSM.xsl", pimPsmStylesheet),
   ("js/jsonProcessor.js", ruleScript),
   ("js/script.js", pageScript)]

def normalParts (kept : List String) : List String → List String
  | [] => kept.reverse
  | part :: rest =>
    if part.isEmpty ∨ part = "." then normalParts kept rest
    else if part = ".." then
      match kept with
      | [] => normalParts [part] rest
      | k :: ks => if k = ".." then normalParts (part :: kept) rest else normalParts ks rest
    else normalParts (part :: kept) rest

/-- A path with `.` and empty parts dropped and each `..` taking back the part before it; an
absolute path keeps its leading slash (two when it starts with exactly two). -/
def normalizePath (p : String) : String :=
  if p.isEmpty then "."
  else
    let lead :=
      if p.startsWith "///" then "/"
      else if p.startsWith "//" then "//"
      else if p.startsWith "/" then "/"
      else ""
    let parts := (p.splitOn "/").filter (!·.isEmpty)
    let kept := if lead.isEmpty then normalParts [] parts
      else (normalParts [] parts).filter (· != "..")
    let body := "/".intercalate kept
    if lead.isEmpty ∧ body.isEmpty then "." else lead ++ body

def staticPath? (name : String) : Option String :=
  let p := normalizePath name
  if p.startsWith "/" ∨ p = ".." ∨ p.startsWith "../" then none else some p

def contentTypeOf (name : String) : String :=
  if name.endsWith ".css" then "text/css; charset=utf-8"
  else if name.endsWith ".js" then "text/javascript; charset=utf-8"
  else if name.endsWith ".json" then "application/json"
  else if name.endsWith ".xsl" then "application/xslt+xml; charset=utf-8"
  else "application/octet-stream"

def baseName (p : String) : String := ((p.splitOn "/").getLastD "")

/-- The response that serves a static file. A `Range` header asks for part of it, when the file
is not empty and an `If-Range` header does not refuse; otherwise `If-None-Match` and `If-Match`
may find the file unchanged, which is answered "not modified" with no content, or, under
`If-Match`, "precondition failed" with the whole file. -/
def serveFile (path content : String) (r : Request) : Except Failure Response := do
  let bytes := content.toUTF8
  let length := bytes.size
  let name := baseName path
  let disposition := ("Content-Disposition", "inline; filename=" ++ name)
  let base := [disposition, ("Content-Type", contentTypeOf name)]
  let whole : Response :=
    ⟨200, base ++ [("Content-Length", toString length), ("Cache-Control", "no-cache")], bytes⟩
  let noneMatch := r.header? "If-None-Match"
  let ifMatch := r.header? "If-Match"
  let checked : Response :=
    if unchangedByTags noneMatch ifMatch then
      if listed ifMatch then { whole with status := 412 }
      else ⟨304, [disposition, ("Cache-Control", "no-cache")], ByteArray.empty⟩
    else whole
  match r.header? "Range" with
  | none => pure checked
  | some value =>
    if length ≠ 0 ∧ rangeHonoured (r.header? "If-Range") noneMatch ifMatch then
      match (RangeHeader.parse? value).bind (·.select length) with
      | none => throw (.rangeNotSatisfiable length)
      | some (start, stop) =>
        pure ⟨206, base ++ [("Content-Length", toString (stop - start)),
          ("Cache-Control", "no-cache"), ("Accept-Ranges", "bytes"),
          ("Content-Range", contentRange start stop length)], bytes.extract start stop⟩
    else pure checked

def staticResponse (name : String) (r : Request) : Except Failure Response :=
  match staticPath? name with
  | none => .error .notFound
  | some p =>
    match staticFiles.lookup p with
    | none => .error .notFound
    | some content => serveFile p content r

theorem normalParts_nil (kept : List String) : normalParts kept [] = kept.reverse := rfl

end SketchGen.Web
