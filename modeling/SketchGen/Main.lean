import SketchGen.Output.SketchTree

open SketchGen SketchGen.Output

/-! The command line: `sketchgen MODEL.xml` writes the sketch files of the model below
`output/` in the working directory, one directory per component, and names each file it
writes. When generation fails, the files of the components before the failing one are
written, and the failure is reported. -/

def parentOf (path : String) : String :=
  "/".intercalate ((path.splitOn "/").dropLast)

def writeFiles (files : List (String × String)) : IO Unit := do
  for (path, content) in files do
    let dir := parentOf path
    if !dir.isEmpty then IO.FS.createDirAll dir
    IO.FS.writeFile path content
    IO.println ("Generated " ++ ((path.splitOn "/").getLastD path) ++ " in " ++ dir)

def main (args : List String) : IO UInt32 := do
  match args with
  | [model] =>
    let bytes ← IO.FS.readBinFile model
    let (files, fault) := modelRun bytes.toList
    writeFiles files
    match fault with
    | none => return 0
    | some fault =>
      IO.eprintln ("error: " ++ fault.message)
      return 1
  | _ =>
    IO.eprintln "usage: sketchgen MODEL.xml"
    return 2
