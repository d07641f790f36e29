import SketchGen.Text.CodeRange

namespace SketchGen.Text

/-! Blanks and line breaks. A blank is a character of the Unicode space separators, or one
whose bidirectional class is a segment, paragraph or white-space separator; a line break is
one of the ten characters that end a line. Words, stripping and lines are defined on them. -/

/-- The blank code points: tab to carriage return, the four information separators, space,
next line, no-break space, ogham space, the typographic spaces, the two Unicode line and
paragraph separators, narrow no-break space, medium mathematical space and ideographic space. -/
def blankRanges : List CodeRange :=
  [⟨0x9, 0xD⟩, ⟨0x1C, 0x20⟩, ⟨0x85, 0x85⟩, ⟨0xA0, 0xA0⟩, ⟨0x1680, 0x1680⟩, ⟨0x2000, 0x200A⟩,
    ⟨0x2028, 0x2029⟩, ⟨0x202F, 0x202F⟩, ⟨0x205F, 0x205F⟩, ⟨0x3000, 0x3000⟩]

/-- The code points that end a line: line feed to carriage return, the file, group and record
separators, next line, and the Unicode line and paragraph separators. -/
def lineBreakRanges : List CodeRange :=
  [⟨0xA, 0xD⟩, ⟨0x1C, 0x1E⟩, ⟨0x85, 0x85⟩, ⟨0x2028, 0x2029⟩]

def isBlank (c : Char) : Bool := CodeRange.memTable blankRanges c

def isLineBreak (c : Char) : Bool := CodeRange.memTable lineBreakRanges c

def wordsFrom : List Char → List Char → List String
  | current, [] => if current.isEmpty then [] else [String.ofList current.reverse]
  | current, c :: rest =>
    if isBlank c then
      if current.isEmpty then wordsFrom [] rest
      else String.ofList current.reverse :: wordsFrom [] rest
    else wordsFrom (c :: current) rest

def words (s : String) : List String := wordsFrom [] s.toList

def strip (s : String) : String :=
  String.ofList ((s.toList.dropWhile isBlank).reverse.dropWhile isBlank).reverse

/-- Lines of the rest of a text, given the characters of the current line in reverse. A carriage
return followed by a line feed ends one line. -/
def linesFrom : List Char → List Char → List String
  | current, [] => if current.isEmpty then [] else [String.ofList current.reverse]
  | current, '\r' :: '\n' :: rest => String.ofList current.reverse :: linesFrom [] rest
  | current, c :: rest =>
    if isLineBreak c then String.ofList current.reverse :: linesFrom [] rest
    else linesFrom (c :: current) rest

/-- The lines of a text without their line breaks; a break at the very end opens no further
line, so the empty text has no lines. -/
def splitLines (s : String) : List String := linesFrom [] s.toList

/-- The pieces of a text between the occurrences of a separator, in order: a text with `n`
separators has `n + 1` pieces, any of which may be empty. -/
def piecesAt (separator : Char) (s : String) : List String :=
  (s.toList.splitOn separator).map String.ofList

theorem wordsFrom_nil_nil : wordsFrom [] [] = [] := rfl

end SketchGen.Text
