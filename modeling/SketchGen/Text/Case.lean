import SketchGen.Text.CaseTable

namespace SketchGen.Text

/-! Full case mapping. Lowercasing maps every code point through the lowercase tables, except
the capital sigma, which becomes the final form when a cased letter precedes it and none
follows it (case-ignorable characters between are skipped on both sides). Capitalising
titlecases the first code point and lowercases the rest by the same rule. -/

def isCased (c : Char) : Bool := CodeRange.memTable casedRanges c

def isCaseIgnorable (c : Char) : Bool := CodeRange.memTable caseIgnorableRanges c

def lowerChar (c : Char) : List Char :=
  match CaseRun.expand lowerExpansions c with
  | some cs => cs
  | none => [(CaseRun.lookup lowerRuns c).getD c]

def titleChar (c : Char) : List Char :=
  match CaseRun.expand titleExpansions c with
  | some cs => cs
  | none => [(CaseRun.lookup titleRuns c).getD c]

/-- A capital sigma ends a word when, skipping case-ignorable characters, a cased letter comes
before it and no cased letter comes after it. `before` is the text before it, nearest first. -/
def endsWord (before after : List Char) : Bool :=
  match before.dropWhile isCaseIgnorable with
  | [] => false
  | b :: _ =>
    isCased b &&
      match after.dropWhile isCaseIgnorable with
      | [] => true
      | a :: _ => !isCased a

/-- Lowercase of the rest of a text; `before` holds the characters already passed, nearest
first. -/
def lowerFrom (before : List Char) : List Char → List Char
  | [] => []
  | c :: rest =>
    let mapped :=
      if c = 'Σ' then [if endsWord before rest then 'ς' else 'σ'] else lowerChar c
    mapped ++ lowerFrom (c :: before) rest

def lower (s : String) : String := String.ofList (lowerFrom [] s.toList)

def capitalize (s : String) : String :=
  match s.toList with
  | [] => ""
  | c :: rest => String.ofList (titleChar c ++ lowerFrom [c] rest)

theorem lowerFrom_nil (before : List Char) : lowerFrom before [] = [] := rfl

end SketchGen.Text
