import SketchGen.Fault
import SketchGen.Json.Access
import SketchGen.Json.Read
import SketchGen.Json.Write
import SketchGen.Text.Blank
import SketchGen.Text.Case
import SketchGen.Web.Page
import SketchGen.Web.Static
import SketchGen.Web.Url

namespace SketchGen.Web

open SketchGen SketchGen.Json SketchGen.Text

/-! The two web services. The front end serves its page at `/`, its static files below
`/static/`, and takes a transformation form at `/transform`; the back end takes a transformation
request as JSON at `/transform`. A path that no route takes is not found; a route asked with a
method it does not take answers with the methods it takes, and `OPTIONS` lists them. A `HEAD`
request gets the headers of the `GET` answer. A request with everything a transformation needs
is passed on to the transformation engine, which lies outside this library. -/

/-- What a service does with a request: answer it, or pass it on to the transformation engine. -/
inductive Outcome where
  | respond (r : Response)
  | forward

/-- The two services. -/
inductive Service where
  | frontend
  | backend

/-- A route of a service. -/
inductive Route where
  | page
  | staticFile (name : String)
  | transform

def Route.methods : Route → List String
  | .page => ["GET", "HEAD", "OPTIONS"]
  | .staticFile _ => ["GET", "HEAD", "OPTIONS"]
  | .transform => ["POST", "OPTIONS"]

/-- The path a service routes: the decoded path of the target, slashes at its front counting
as one. -/
def routedPath (target : String) : String :=
  "/" ++ String.ofList ((percentDecode (targetPath target)).toList.dropWhile (· = '/'))

/-- The route a service takes for a path. A static file name must not start with a slash or
hold a line break. -/
def Service.route? : Service → String → Option Route
  | .frontend, p =>
    if p = "/" then some .page
    else if p = "/transform" then some .transform
    else if p.startsWith "/static/" then
      let name := String.ofList (p.toList.drop 8)
      if name.isEmpty ∨ name.startsWith "/" ∨ name.toList.contains '\n' then none
      else some (.staticFile name)
    else none
  | .backend, p => if p = "/transform" then some .transform else none

def mediaType (contentType : String) : String :=
  lower (strip (String.ofList (contentType.toList.takeWhile (· ≠ ';'))))

/-- The content type a request declares: its own, else the one its headers name, else the one
of its body kind. -/
def Request.effectiveType (r : Request) : String :=
  match r.contentType <|> r.declaredType? with
  | some t => t
  | none =>
    match r.body with
    | .json _ => "application/json"
    | .form _ => "application/x-www-form-urlencoded"
    | _ => ""

def Request.bodyText (r : Request) : String :=
  match r.body with
  | .empty => ""
  | .json v => v.compact true
  | .form fields => "&".intercalate (fields.map fun f => f.1 ++ "=" ++ f.2)
  | .raw text => text

def Request.formFields (r : Request) : List (String × String) :=
  if mediaType r.effectiveType != "application/x-www-form-urlencoded" then []
  else match r.body with
    | .form fields => fields
    | _ => Web.formFields r.bodyText

def isJsonType (t : String) : Bool :=
  t == "application/json" || (t.startsWith "application/" && t.endsWith "+json")

def jsonResponse (status : Nat) (v : Value) : Response :=
  Response.ofText status "application/json" ((v.sortKeys.compact true) ++ "\n") []

def errorResponse (status : Nat) (text : String) : Response :=
  jsonResponse status (.obj [("error", .str text)])

/-- The JSON body of a request, as the back end reads it: the request must declare JSON, and
its body must be JSON text (a leading byte order mark aside). -/
def Request.json (r : Request) : Except Failure Value :=
  if !isJsonType (mediaType r.effectiveType) then .error .unsupportedMediaType
  else
    let text := r.bodyText
    let text := if text.startsWith "﻿" then String.ofList (text.toList.drop 1) else text
    if (text.toList.take 2).contains '\x00' then .error .badRequest
    else match Json.read text with
      | .ok v => .ok v
      | .error _ => .error .badRequest

/-- The back end's answer to a transformation request: both inputs must be present and count as
true. -/
def backendTransform (r : Request) : Outcome :=
  match r.json with
  | .error f => .respond (errorResponse 500 f.text)
  | .ok body =>
    match body.get "inputXML", body.get "xslTransformation" with
    | .ok source, .ok stylesheet =>
      if source.truthy && stylesheet.truthy then .forward
      else .respond (errorResponse 400 "Both inputXML and xslTransformation are required.")
    | .error fault, _ => .respond (errorResponse 500 fault.message)
    | _, .error fault => .respond (errorResponse 500 fault.message)

def frontendTransform (r : Request) : Outcome :=
  let fields := r.formFields
  if (fields.lookup "inputXML").isSome && (fields.lookup "xslFile").isSome then .forward
  else .respond Failure.badRequest.response

def Service.answer (s : Service) (r : Request) : Route → Outcome
  | .page => .respond (Response.ofText 200 htmlType frontPage [])
  | .staticFile name =>
    match staticResponse name r with
    | .ok resp => .respond resp
    | .error f => .respond f.response
  | .transform =>
    match s with
    | .frontend => frontendTransform r
    | .backend => backendTransform r

def Service.handle (s : Service) (r : Request) : Outcome :=
  let outcome : Outcome := match s.route? (routedPath r.path) with
    | none => .respond Failure.notFound.response
    | some route =>
      if r.method = "OPTIONS" then
        .respond (Response.ofText 200 htmlType "" [("Allow", ", ".intercalate route.methods)])
      else if route.methods.contains r.method then s.answer r route
      else .respond (Failure.methodNotAllowed route.methods).response
  match outcome with
  | .respond resp => .respond (if r.method = "HEAD" then resp.headOnly else resp)
  | .forward => .forward

end SketchGen.Web
