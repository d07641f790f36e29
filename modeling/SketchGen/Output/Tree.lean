import SketchGen.Text.Blank
import SketchGen.Text.Quoted

namespace SketchGen.Output

/-! A tree of directories and files written below one root, with the rules of a POSIX file
system for the few operations the generator uses: making a directory (and its missing
parents), and writing a file. A path is walked component by component; every component before
the last must be an existing directory, `.` stays and `..` goes up. A path that leaves the root
reaches places this tree does not track: operations there succeed and record nothing. -/

/-- Why an operation on the tree fails, with the path as it was given. -/
inductive FileError where
  | missing (path : String)
  | notDirectory (path : String)
  | isDirectory (path : String)
  | alreadyExists (path : String)
  | nameTooLong (path : String)
deriving Repr, DecidableEq

/-- The message of a file system failure: its error number, its description and the path in
quotes. -/
def FileError.message : FileError → String
  | .missing p => "[Errno 2] No such file or directory: " ++ Text.quoted p
  | .notDirectory p => "[Errno 20] Not a directory: " ++ Text.quoted p
  | .isDirectory p => "[Errno 21] Is a directory: " ++ Text.quoted p
  | .alreadyExists p => "[Errno 17] File exists: " ++ Text.quoted p
  | .nameTooLong p => "[Errno 36] File name too long: " ++ Text.quoted p

/-- Directories and files below the root, by their paths from it (the root is `""`). -/
structure Tree where
  dirs : List String := [""]
  files : List (String × String) := []
deriving Repr

/-- What a path names. -/
inductive Node where
  | dir
  | file
  | absent
deriving Repr, DecidableEq

abbrev Place := Option (List String)

def pathOf (cs : List String) : String := "/".intercalate cs

def Tree.nodeAt (t : Tree) : Place → Node
  | none => .dir
  | some cs =>
    let p := pathOf cs
    if t.dirs.contains p then .dir
    else if t.files.any (·.1 == p) then .file
    else .absent

def maxComponent : Nat := 255

/-- The walk of the components of a path before its last, from a place. Each must name a
directory. -/
def Tree.walk (t : Tree) (shown : String) : Place → List String → Except FileError Place
  | here, [] => .ok here
  | here, c :: rest =>
    if c.utf8ByteSize > maxComponent then .error (.nameTooLong shown)
    else if c.isEmpty ∨ c = "." then t.walk shown here rest
    else match here with
      | none => t.walk shown none rest
      | some cs =>
        if c = ".." then t.walk shown (if cs.isEmpty then none else some cs.dropLast) rest
        else
          match t.nodeAt (some (cs ++ [c])) with
          | .dir => t.walk shown (some (cs ++ [c])) rest
          | .file => .error (.notDirectory shown)
          | .absent => .error (.missing shown)

/-- A path split into the components before the last and the last; a path from `/` starts
outside the root. -/
def splitPath (p : String) : Place × List String × String :=
  let parts := Text.piecesAt '/' p
  let start : Place := if p.startsWith "/" then none else some []
  (start, parts.dropLast, parts.getLastD "")

/-- The place a final component leads to from its directory, and whether it is one of the
names that always exist (`.`, `..` or empty). -/
def stepInto (here : Place) (last : String) : Place × Bool :=
  match here with
  | none => (none, true)
  | some cs =>
    if last.isEmpty ∨ last = "." then (some cs, true)
    else if last = ".." then ((if cs.isEmpty then none else some cs.dropLast), true)
    else (some (cs ++ [last]), false)

def dropTrailingSlashes (p : String) : String :=
  let kept := (p.toList.reverse.dropWhile (· = '/')).reverse
  if kept.isEmpty then p else String.ofList kept

def Tree.mkdir (t : Tree) (p : String) : Except FileError Tree := do
  let (start, front, last) := splitPath (dropTrailingSlashes p)
  let here ← t.walk p start front
  if last.utf8ByteSize > maxComponent then throw (.nameTooLong p)
  let (target, always) := stepInto here last
  if always then throw (.alreadyExists p)
  match t.nodeAt target with
  | .absent =>
    match target with
    | some cs => pure { t with dirs := t.dirs ++ [pathOf cs] }
    | none => pure t
  | _ => throw (.alreadyExists p)

/-- What a path names, or nothing when it cannot be reached; a path with a trailing slash
names directories only. -/
def Tree.lookup (t : Tree) (p : String) : Node :=
  let q := dropTrailingSlashes p
  let (start, front, last) := splitPath q
  match t.walk p start front with
  | .error _ => .absent
  | .ok here =>
    if last.utf8ByteSize > maxComponent then .absent
    else match t.nodeAt (stepInto here last).1 with
      | .file => if q.length < p.length then .absent else .file
      | n => n

/-- A path's head and tail: the tail follows the last `/`, and the head is what comes before,
without its trailing slashes unless it is only slashes. -/
def splitHeadTail (p : String) : String × String :=
  let cs := p.toList
  match cs.reverse.findIdx? (· = '/') with
  | none => ("", p)
  | some k =>
    let i := cs.length - k
    let head := cs.take i
    let tail := cs.drop i
    let trimmed := (head.reverse.dropWhile (· = '/')).reverse
    (String.ofList (if trimmed.isEmpty then head else trimmed), String.ofList tail)

/-- Makes a directory and its missing parents; an existing directory is no failure. The
parents are made first when the head of the path does not exist; a path ending in `.` is then
complete. -/
def Tree.makeDirs (t : Tree) : Nat → String → Except FileError Tree
  | 0, _ => .ok t
  | fuel + 1, p =>
    let (head, tail) := splitHeadTail p
    let (head, tail) := if tail.isEmpty then splitHeadTail head else (head, tail)
    let parents : Except FileError (Tree × Bool) :=
      if !head.isEmpty ∧ !tail.isEmpty ∧ t.lookup head = .absent then
        let made : Except FileError Tree := match t.makeDirs fuel head with
          | .error (.alreadyExists _) => .ok t
          | other => other
        made.map fun t => (t, tail = ".")
      else .ok (t, false)
    match parents with
    | .error e => .error e
    | .ok (t, true) => .ok t
    | .ok (t, false) =>
      match t.mkdir p with
      | .ok t => .ok t
      | .error e => if t.lookup p = .dir then .ok t else .error e

def Tree.write (t : Tree) (p : String) (content : String) : Except FileError Tree := do
  let (start, front, last) := splitPath p
  let here ← t.walk p start front
  if last.utf8ByteSize > maxComponent then throw (.nameTooLong p)
  let (target, always) := stepInto here last
  if always then throw (.isDirectory p)
  match target with
  | none => pure t
  | some cs =>
    match t.nodeAt target with
    | .dir => throw (.isDirectory p)
    | _ =>
      let key := pathOf cs
      pure { t with files := (t.files.filter (·.1 != key)) ++ [(key, content)] }

def Tree.listing (t : Tree) : List (String × String) :=
  t.files.mergeSort fun a b => decide (a.1 ≤ b.1)

end SketchGen.Output
