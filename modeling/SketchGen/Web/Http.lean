import SketchGen.Json.Value

namespace SketchGen.Web

open SketchGen.Json

/-! Requests and responses of the two web services, and the standard failure responses. A
failure response is a small HTML page that names the status and describes it; the text of a
failure, as a service reports a caught one, is its code, name and description on one line. -/

/-- What a request carries as its body: nothing, a JSON value, form fields, or raw text with the
content type the client names. -/
inductive Body where
  | empty
  | json (v : Value)
  | form (fields : List (String × String))
  | raw (text : String)

/-- A request: its method in upper case, its target (a path, escaped, perhaps with a query),
its headers, the content type set for it apart from them (which wins over theirs), and its
body. -/
structure Request where
  method : String
  path : String
  headers : List (String × String)
  contentType : Option String
  body : Body

def asciiUpper (s : String) : String := String.ofList (s.toList.map Char.toUpper)

def headerKey (name : String) : String :=
  String.ofList ((asciiUpper name).toList.map fun c => if c = '-' then '_' else c)

/-- A request header as the server sees it: names are compared by their keys, and of two
headers with one key the later one wins. -/
def Request.header? (r : Request) (name : String) : Option String :=
  (r.headers.reverse.find? fun h => headerKey h.1 == headerKey name).map (·.2)

/-- The content type a request's headers declare: the first header named `Content-Type` in
any case. -/
def Request.declaredType? (r : Request) : Option String :=
  (r.headers.find? fun h => asciiUpper h.1 == "CONTENT-TYPE").map (·.2)

/-- A response: status, headers in the order they are set, and body bytes. -/
structure Response where
  status : Nat
  headers : List (String × String)
  body : ByteArray

def htmlType : String := "text/html; charset=utf-8"

def Response.ofText (status : Nat) (contentType text : String)
    (extra : List (String × String)) : Response :=
  let body := text.toUTF8
  ⟨status, [("Content-Type", contentType), ("Content-Length", toString body.size)] ++ extra, body⟩

/-- A standard failure of a request. -/
inductive Failure where
  | badRequest
  | notFound
  | methodNotAllowed (allowed : List String)
  | unsupportedMediaType
  | rangeNotSatisfiable (length : Nat)

def Failure.code : Failure → Nat
  | .badRequest => 400
  | .notFound => 404
  | .methodNotAllowed _ => 405
  | .unsupportedMediaType => 415
  | .rangeNotSatisfiable _ => 416

def Failure.name : Failure → String
  | .badRequest => "Bad Request"
  | .notFound => "Not Found"
  | .methodNotAllowed _ => "Method Not Allowed"
  | .unsupportedMediaType => "Unsupported Media Type"
  | .rangeNotSatisfiable _ => "Requested Range Not Satisfiable"

def Failure.description : Failure → String
  | .badRequest => "The browser (or proxy) sent a request that this server could not understand."
  | .notFound =>
    "The requested URL was not found on the server. If you entered the URL manually please " ++
    "check your spelling and try again."
  | .methodNotAllowed _ => "The method is not allowed for the requested URL."
  | .unsupportedMediaType =>
    "Did not attempt to load JSON data because the request Content-Type was not " ++
    "'application/json'."
  | .rangeNotSatisfiable _ => "The server cannot provide the requested range."

def Failure.text (f : Failure) : String :=
  toString f.code ++ " " ++ f.name ++ ": " ++ f.description

def escapeHtml (s : String) : String :=
  String.join (s.toList.map fun c =>
    match c with
    | '&' => "&amp;"
    | '<' => "&lt;"
    | '>' => "&gt;"
    | '"' => "&quot;"
    | '\'' => "&#39;"
    | c => String.singleton c)

def Failure.page (f : Failure) : String :=
  "<!doctype html>\n" ++
  "<html lang=en>\n" ++
  "<title>" ++ toString f.code ++ " " ++ escapeHtml f.name ++ "</title>\n" ++
  "<h1>" ++ escapeHtml f.name ++ "</h1>\n" ++
  "<p>" ++ escapeHtml f.description ++ "</p>\n"

def Failure.extraHeaders : Failure → List (String × String)
  | .methodNotAllowed allowed => [("Allow", ", ".intercalate allowed)]
  | .rangeNotSatisfiable length => [("Content-Range", "bytes */" ++ toString length)]
  | _ => []

def Failure.response (f : Failure) : Response :=
  Response.ofText f.code htmlType f.page f.extraHeaders

def Response.headOnly (r : Response) : Response := { r with body := ByteArray.empty }

theorem Failure.code_notFound : Failure.notFound.code = 404 := rfl

end SketchGen.Web
