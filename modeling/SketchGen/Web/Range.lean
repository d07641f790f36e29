import SketchGen.Text.Blank
import SketchGen.Text.Case

namespace SketchGen.Web

open SketchGen.Text

/-! Byte ranges of a `Range` header. The header names a unit and a comma-separated list of
spans `first-last`, `first-` or `-count`. A span is kept half-open: its start and, unless it
runs to the end, its stop, one past the last byte the header names; a start below zero counts
from the end. Spans must come in increasing order, and a span to the end or from the end must
be the last. A resource is served in part only for one span in bytes that starts inside it;
anything else cannot be satisfied. -/

/-- A span of bytes: the start (below zero: from the end) and the stop, when there is one. -/
structure ByteSpan where
  start : Int
  stop : Option Int
deriving DecidableEq, Repr

/-- A `Range` header: its unit in lower case and its spans. -/
structure RangeHeader where
  unit : String
  spans : List ByteSpan
deriving DecidableEq, Repr

def plainInt? (s : String) : Option Int :=
  let digitsValue (ds : List Char) : Option Nat :=
    if !ds.isEmpty ∧ ds.all Char.isDigit then
      some (ds.foldl (fun n d => 10 * n + (d.toNat - '0'.toNat)) 0)
    else none
  match (strip s).toList with
  | '-' :: ds => (digitsValue ds).map fun n => -(n : Int)
  | ds => (digitsValue ds).map fun n => (n : Int)

/-- The span of one item of a header, given the stop of the span before (below zero when that
one ran to the end), with the stop the next item sees. -/
def readSpan (lastStop : Int) (item : String) : Option (ByteSpan × Int) :=
  let cs := (strip item).toList
  if !cs.contains '-' then none
  else match cs with
    | '-' :: _ =>
      if lastStop < 0 then none
      else (plainInt? (String.ofList cs)).map fun start => (⟨start, none⟩, -1)
    | _ => do
      let start ← plainInt? (String.ofList (cs.takeWhile (· ≠ '-')))
      if start < lastStop ∨ lastStop < 0 then none
      let stopText := strip (String.ofList ((cs.dropWhile (· ≠ '-')).drop 1))
      if stopText.isEmpty then pure (⟨start, none⟩, -1)
      else
        let stop := (← plainInt? stopText) + 1
        if start ≥ stop then none else pure (⟨start, some stop⟩, stop)

def readSpans (lastStop : Int) : List String → Option (List ByteSpan)
  | [] => some []
  | item :: rest => do
    let (span, stop) ← readSpan lastStop item
    let spans ← readSpans stop rest
    pure (span :: spans)

def RangeHeader.parse? (value : String) : Option RangeHeader :=
  if value.isEmpty ∨ !value.toList.contains '=' then none
  else
    let cs := value.toList
    let unit := lower (strip (String.ofList (cs.takeWhile (· ≠ '='))))
    let items := (String.ofList ((cs.dropWhile (· ≠ '=')).drop 1)).splitOn ","
    (readSpans 0 items).map fun spans => ⟨unit, spans⟩

/-- The bytes from `start` to before `stop` of a resource of a length that a header selects:
one span in bytes, starting inside the resource, cut at its end. -/
def RangeHeader.select (h : RangeHeader) (length : Nat) : Option (Nat × Nat) :=
  if h.unit != "bytes" then none
  else match h.spans with
    | [⟨start, stop⟩] =>
      let (start, stop) := match stop with
        | some stop => (start, stop)
        | none => (if start < 0 then start + length else start, (length : Int))
      if start ≥ stop ∨ start < 0 ∨ start ≥ length then none
      else some (start.toNat, (min stop length).toNat)
    | _ => none

def contentRange (start stop length : Nat) : String :=
  "bytes " ++ toString start ++ "-" ++ toString (stop - 1) ++ "/" ++ toString length

theorem RangeHeader.select_lt {h : RangeHeader} {length start stop : Nat}
    (hs : h.select length = some (start, stop)) : start < stop ∧ stop ≤ length := by
  unfold RangeHeader.select at hs
  split at hs
  · simp at hs
  · split at hs
    · simp at hs
      omega
    · simp at hs

end SketchGen.Web
