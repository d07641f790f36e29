namespace SketchGen.Text

/-! Sets and maps of code points as short lists of runs. A character property is a list of
inclusive ranges; a one-to-one case mapping is a list of runs that add the same offset to
evenly spaced code points. Lookups scan the list, so each table is its own specification. -/

/-- The code points from `lo` to `hi`, both included. -/
structure CodeRange where
  lo : Nat
  hi : Nat
deriving Repr, DecidableEq

def CodeRange.contains (r : CodeRange) (n : Nat) : Bool :=
  r.lo ≤ n && n ≤ r.hi

def CodeRange.memTable (table : List CodeRange) (c : Char) : Bool :=
  table.any (·.contains c.toNat)

/-- `count` code points from `start`, `stride` apart, each mapped to the code point `delta`
further on. -/
structure CaseRun where
  start : Nat
  count : Nat
  stride : Nat
  delta : Int
deriving Repr, DecidableEq

def CaseRun.covers (r : CaseRun) (n : Nat) : Bool :=
  r.start ≤ n && n < r.start + r.count * r.stride && (n - r.start) % r.stride == 0

def CaseRun.lookup (table : List CaseRun) (c : Char) : Option Char :=
  (table.find? (·.covers c.toNat)).map fun r => Char.ofNat ((c.toNat : Int) + r.delta).toNat

def CaseRun.expand (table : List (Nat × List Nat)) (c : Char) : Option (List Char) :=
  (table.find? (·.1 == c.toNat)).map fun e => e.2.map Char.ofNat

theorem CodeRange.memTable_cons (r : CodeRange) (rs : List CodeRange) (c : Char) :
    memTable (r :: rs) c = (r.contains c.toNat || memTable rs c) := by
  simp [memTable, List.any_cons]

end SketchGen.Text
