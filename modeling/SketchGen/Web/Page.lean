import SketchGen.Web.Asset.Page

namespace SketchGen.Web

open SketchGen.Web.Asset

/-! The front page. Its template links the static files through placeholders
`url_for('static', filename=...)` in double braces; rendering puts the file's path below
`/static/` in each. -/

def staticLinkOpen : String := "\x7b\x7b url_for('static', filename='"

def staticLinkClose : String := "') \x7d\x7d"

def renderLinks (template : String) : String :=
  match template.splitOn staticLinkOpen with
  | [] => ""
  | first :: rest =>
    first ++ String.join (rest.map fun piece =>
      match piece.splitOn staticLinkClose with
      | name :: after => "/static/" ++ name ++ staticLinkClose.intercalate after
      | [] => piece)

def frontPage : String := renderLinks pageTemplate

end SketchGen.Web
