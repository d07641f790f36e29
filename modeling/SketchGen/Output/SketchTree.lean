import SketchGen.Output.Tree
import SketchGen.Sketch.Program
import SketchGen.Xml.Charset

namespace SketchGen.Output

open SketchGen SketchGen.Json SketchGen.Xml SketchGen.Sketch

/-! The files written for a model. The system's id joins the identifiers of the model root's id
and name; each component directly below the root gets a directory `output/<name>` with its
sketch and the two headers. A later component of the same name writes over an earlier one's
files, and the first fault stops the whole run. -/

/-- A name below a directory: a name from `/` stands alone, any other follows the directory
after one `/`. -/
def joinPath (dir name : String) : String :=
  if name.startsWith "/" then name
  else if dir.isEmpty ∨ dir.endsWith "/" then dir ++ name
  else dir ++ "/" ++ name

def onFiles {α : Type} : Except FileError α → Gen α
  | .ok a => .ok a
  | .error e => .error (.file e)

def Tree.writeSketch (t : Tree) (systemId : String) (cpc : Element) (dir : String) :
    Gen Tree := do
  let text ← sketchText systemId cpc
  let name ← sketchFileName cpc
  onFiles (t.write (joinPath dir name) text)

def componentDir (cpc : Element) : Gen String :=
  match cpc.get? "name" with
  | some name => pure (joinPath "output" name)
  | none => throw .missingPathPart

/-- The steps that write one component: its directory (with missing parents), its sketch,
then the two headers. -/
def componentSteps (systemId : String) (cpc : Element) : List (Tree → Gen Tree) :=
  [fun t => do
      let dir ← componentDir cpc
      onFiles (t.makeDirs (dir.length + 1) dir),
    fun t => do t.writeSketch systemId cpc (← componentDir cpc),
    fun t => do onFiles (t.write (joinPath (← componentDir cpc) "secrets.h") secretsText),
    fun t => do onFiles (t.write (joinPath (← componentDir cpc) "comm_utils.h") connectivityText)]

/-- Runs steps in order; the first step that fails stops the run, and the tree stays as the
steps before it left it. -/
def Tree.runSteps : Tree → List (Tree → Gen Tree) → Tree × Option Fault
  | t, [] => (t, none)
  | t, step :: rest =>
    match step t with
    | .ok t' => t'.runSteps rest
    | .error f => (t, some f)

def systemIdOf (root : Element) : Gen String := do
  let id ← identOf root "id"
  let name ← identOf root "name"
  pure (id ++ "_" ++ name)

/-- Writes the files of a model: the tree as far as the run got, and the fault that stopped
it, if one did. Nothing is written when the system id cannot be made. -/
def Tree.writeModel (t : Tree) (root : Element) : Tree × Option Fault :=
  match systemIdOf root with
  | .error f => (t, some f)
  | .ok systemId => t.runSteps ((root.childrenTagged "cpc").flatMap (componentSteps systemId))

def Tree.listingUnder (t : Tree) (dir : String) : List (String × String) :=
  t.listing.filterMap fun (p, content) =>
    if dir.isEmpty then some (p, content)
    else if p.startsWith (dir ++ "/") then some (String.ofList (p.toList.drop (dir.length + 1)), content)
    else none

def modelRoot (document : List UInt8) : Gen Element :=
  match Document.readBytes document with
  | .ok root => pure root
  | .error (.malformed e) => throw (.xml e)
  | .error (.unknownCharset name) => throw (.unknownCharset name)
  | .error .multiByte => throw .multiByteCharset

/-- The files a run over a model document leaves, sorted by path, and the fault that stopped
the run, if one did. -/
def modelRun (document : List UInt8) : List (String × String) × Option Fault :=
  match modelRoot document with
  | .error f => ([], some f)
  | .ok root =>
    let (t, fault) := ({} : Tree).writeModel root
    (t.listing, fault)

/-- The files written for a model document given as bytes, sorted by path, if the run ends
normally. -/
def modelFiles (document : List UInt8) : Gen (List (String × String)) :=
  match modelRun document with
  | (files, none) => .ok files
  | (_, some f) => .error f

def sketchFiles (systemId : String) (cpc : Element) (dir : String) :
    Gen (List (String × String)) := do
  let t ← ({ dirs := ["", dir] } : Tree).writeSketch systemId cpc dir
  pure (t.listingUnder dir)

end SketchGen.Output
