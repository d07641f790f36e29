namespace SketchGen.Text

/-! Removal of markup tags. A tag runs from a `<` to the nearest `>` on the same line, and tags
are found from left to right. A `<` with no `>` before the end of its line starts no tag and
stays, and so does everything up to that line break. -/

/-- The text after markup removal, given the characters of an open tag in reverse, if one is
open. -/
def untagFrom : Option (List Char) → List Char → List Char
  | none, [] => []
  | some pending, [] => pending.reverse
  | none, c :: rest => if c = '<' then untagFrom (some ['<']) rest else c :: untagFrom none rest
  | some pending, c :: rest =>
    if c = '>' then untagFrom none rest
    else if c = '\n' then pending.reverse ++ c :: untagFrom none rest
    else untagFrom (some (c :: pending)) rest

def stripTags (s : String) : String := String.ofList (untagFrom none s.toList)

theorem untagFrom_none_cons_of_ne (c : Char) (rest : List Char) (h : c ≠ '<') :
    untagFrom none (c :: rest) = c :: untagFrom none rest := by
  simp [untagFrom, h]

end SketchGen.Text
