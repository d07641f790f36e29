import SketchGen.Text.Blank

namespace SketchGen.Text

/-! Indentation of a block of text. Every line that holds more than blanks gets the prefix; a
blank line stays as it is. Lines are rejoined with line feeds, so the block loses a final
line break and its carriage returns. -/

def indentLine (pre line : String) : String :=
  if (strip line).isEmpty then line else pre ++ line

def indentLines (pre text : String) : String :=
  "\n".intercalate ((splitLines text).map (indentLine pre))

end SketchGen.Text
