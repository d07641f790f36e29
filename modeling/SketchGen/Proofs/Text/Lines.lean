import Mathlib.Data.List.TakeWhile
import SketchGen.Text.Layout

namespace SketchGen.Text

/-! Texts made of lines. A text written line by line, each line followed by a line feed and
none holding a line break, splits back into its lines; indenting it puts the prefix before each
line that is not blank and joins the lines with line feeds. -/

def OneLine (line : String) : Prop := ∀ c ∈ line.toList, isLineBreak c = false

instance : DecidablePred OneLine := fun line =>
  List.decidableBAll (fun c => isLineBreak c = false) line.toList

theorem OneLine.append {a b : String} (left : OneLine a) (right : OneLine b) :
    OneLine (a ++ b) := by
  intro c hc
  rw [String.toList_append, List.mem_append] at hc
  exact hc.elim (left c) (right c)

theorem isLineBreak_carriageReturn : isLineBreak '\r' = true := by decide

theorem isLineBreak_newline' : isLineBreak '\n' = true := by decide

theorem linesFrom_cons_of_not_break {c : Char} (hc : isLineBreak c = false)
    (current rest : List Char) : linesFrom current (c :: rest) = linesFrom (c :: current) rest := by
  have notReturn : c ≠ '\r' := fun heq => by simp [heq, isLineBreak_carriageReturn] at hc
  rw [linesFrom.eq_def]
  split
  · rename_i h; simp at h
  · rename_i h; exact absurd (List.cons.inj h).1 notReturn
  · rename_i h
    obtain ⟨rfl, rfl⟩ := List.cons.inj h
    simp [hc]

theorem linesFrom_newline (current rest : List Char) :
    linesFrom current ('\n' :: rest) = String.ofList current.reverse :: linesFrom [] rest := by
  rw [linesFrom.eq_def]
  split
  · rename_i h; simp at h
  · rename_i h; simp at h
  · rename_i h
    obtain ⟨rfl, rfl⟩ := List.cons.inj h
    simp [isLineBreak_newline']

theorem linesFrom_of_oneLine : ∀ {cs : List Char}, (∀ c ∈ cs, isLineBreak c = false) →
    ∀ (current rest : List Char),
      linesFrom current (cs ++ rest) = linesFrom (cs.reverse ++ current) rest
  | [], _, current, rest => rfl
  | c :: cs, h, current, rest => by
    rw [List.cons_append, linesFrom_cons_of_not_break (h c (by simp)),
      linesFrom_of_oneLine (fun d hd => h d (by simp [hd]))]
    simp

theorem linesFrom_line {line : String} (one : OneLine line) (rest : List Char) :
    linesFrom [] (line.toList ++ '\n' :: rest) = line :: linesFrom [] rest := by
  rw [linesFrom_of_oneLine one, linesFrom_newline]
  simp

theorem splitLines_join_lines : ∀ {lines : List String}, (∀ l ∈ lines, OneLine l) →
    splitLines (String.join (lines.map (· ++ "\n"))) = lines
  | [], _ => rfl
  | l :: ls, h => by
    have rest := splitLines_join_lines fun m hm => h m (List.mem_cons_of_mem _ hm)
    unfold splitLines at rest ⊢
    rw [List.map_cons, String.join_cons, String.toList_append, String.toList_append]
    rw [show ("\n" : String).toList = ['\n'] from rfl, List.append_assoc, List.singleton_append,
      linesFrom_line (h l (by simp)), rest]

theorem splitLines_intercalate : ∀ {lines : List String}, (∀ l ∈ lines, OneLine l) →
    lines.getLast? ≠ some "" → splitLines ("\n".intercalate lines) = lines
  | [], _, _ => rfl
  | [l], h, last => by
    unfold splitLines
    rw [String.intercalate_singleton, ← List.append_nil l.toList, linesFrom_of_oneLine (h l (by simp))]
    have : l ≠ "" := fun heq => last (by simp [heq])
    simp [linesFrom, String.toList_eq_nil_iff, this]
  | l :: m :: ls, h, last => by
    have rest := @splitLines_intercalate (m :: ls)
      (fun n hn => h n (List.mem_cons_of_mem _ hn)) (by simpa using last)
    unfold splitLines at rest ⊢
    rw [String.intercalate_cons_cons, String.toList_append, String.toList_append]
    rw [show ("\n" : String).toList = ['\n'] from rfl, List.append_assoc, List.singleton_append,
      linesFrom_line (h l (by simp)), rest]

/-! ### Indentation -/

theorem strip_isEmpty_iff (s : String) :
    (strip s).isEmpty = true ↔ ∀ c ∈ s.toList, isBlank c = true := by
  have dropped : ∀ l : List Char, (∀ c ∈ l.dropWhile isBlank, isBlank c = true) ↔
      ∀ c ∈ l, isBlank c = true := by
    intro l
    constructor
    · intro h
      have : l.dropWhile isBlank = [] := by
        cases hd : l.dropWhile isBlank with
        | nil => rfl
        | cons c cs =>
          have := @List.head_dropWhile_not _ isBlank l (by simp [hd])
          simp only [hd, List.head_cons] at this
          exact absurd (h c (by simp [hd])) (by simpa using this)
      exact List.dropWhile_eq_nil_iff.mp this
    · intro h c hc
      exact h c ((List.dropWhile_suffix isBlank).subset hc)
  unfold strip
  rw [String.isEmpty_iff, ← String.toList_inj, String.toList_ofList, String.toList_empty,
    List.reverse_eq_nil_iff, List.dropWhile_eq_nil_iff]
  simp only [List.mem_reverse]
  exact dropped _

theorem indentLine_of_filled {line : String} {c : Char} (mem : c ∈ line.toList)
    (filled : isBlank c = false) (pre : String) : indentLine pre line = pre ++ line := by
  have : (strip line).isEmpty = false := by
    cases h : (strip line).isEmpty
    · rfl
    · simp [(strip_isEmpty_iff line).mp h c mem] at filled
  simp [indentLine, this]

theorem indentLine_of_blanks {line : String} (blanks : ∀ c ∈ line.toList, isBlank c = true)
    (pre : String) : indentLine pre line = line := by
  simp [indentLine, (strip_isEmpty_iff line).mpr blanks]

theorem indentLines_join_lines (pre : String) {lines : List String}
    (one : ∀ l ∈ lines, OneLine l) :
    indentLines pre (String.join (lines.map (· ++ "\n"))) =
      "\n".intercalate (lines.map (indentLine pre)) := by
  rw [indentLines, splitLines_join_lines one]

theorem indentLines_intercalate (pre : String) {lines : List String}
    (one : ∀ l ∈ lines, OneLine l) (last : lines.getLast? ≠ some "") :
    indentLines pre ("\n".intercalate lines) = "\n".intercalate (lines.map (indentLine pre)) := by
  rw [indentLines, splitLines_intercalate one last]

/-! ### Indenting twice -/

def dropEmptyLast (lines : List String) : List String :=
  if lines.getLast? = some "" then lines.dropLast else lines

theorem oneLine_of_mem_linesFrom (current cs : List Char) :
    (∀ c ∈ current, isLineBreak c = false) → ∀ l ∈ linesFrom current cs, OneLine l := by
  induction current, cs using linesFrom.induct with
  | case1 current empty => simp [linesFrom, empty]
  | case2 current filled =>
    intro held l hl
    rw [linesFrom.eq_1, if_neg filled, List.mem_singleton] at hl
    subst hl
    simpa [OneLine] using held
  | case3 current rest ih =>
    intro held l hl
    rw [linesFrom.eq_2] at hl
    rcases List.mem_cons.mp hl with rfl | hl
    · simpa [OneLine] using held
    · exact ih (by simp) l hl
  | case4 current c rest notCrLf broken ih =>
    intro held l hl
    rw [linesFrom.eq_3 _ _ _ notCrLf, if_pos broken] at hl
    rcases List.mem_cons.mp hl with rfl | hl
    · simpa [OneLine] using held
    · exact ih (by simp) l hl
  | case5 current c rest notCrLf kept ih =>
    intro held l hl
    rw [linesFrom.eq_3 _ _ _ notCrLf, if_neg kept] at hl
    exact ih (by simpa [kept] using held) l hl

theorem oneLine_of_mem_splitLines {text l : String} (h : l ∈ splitLines text) : OneLine l :=
  oneLine_of_mem_linesFrom [] text.toList (by simp) l h

theorem intercalate_append_empty : ∀ lines : List String,
    "\n".intercalate (lines ++ [""]) = String.join (lines.map (· ++ "\n"))
  | [] => rfl
  | l :: ls => by
    rw [List.cons_append, String.intercalate_cons_of_ne_nil (by simp), intercalate_append_empty ls,
      List.map_cons, String.join_cons, String.append_assoc]

theorem splitLines_intercalate_eq {lines : List String} (one : ∀ l ∈ lines, OneLine l) :
    splitLines ("\n".intercalate lines) = dropEmptyLast lines := by
  unfold dropEmptyLast
  split
  · rename_i last
    obtain ⟨init, rfl⟩ := List.getLast?_eq_some_iff.mp last
    rw [intercalate_append_empty, List.dropLast_concat,
      splitLines_join_lines fun l hl => one l (List.mem_append_left _ hl)]
  · rename_i last
    exact splitLines_intercalate one last

theorem intercalate_dropEmptyLast (lines : List String) :
    "\n".intercalate (dropEmptyLast lines) ++
        (if 2 ≤ lines.length ∧ lines.getLast? = some "" then "\n" else "") =
      "\n".intercalate lines := by
  unfold dropEmptyLast
  by_cases last : lines.getLast? = some ""
  · obtain ⟨init, rfl⟩ := List.getLast?_eq_some_iff.mp last
    rw [if_pos last, List.dropLast_concat]
    cases init with
    | nil => rfl
    | cons l ls =>
      rw [if_pos ⟨by simp, last⟩, String.intercalate_append_of_ne_nil (by simp) (by simp),
        String.intercalate_singleton, String.append_empty]
  · simp [last]

theorem indentLine_eq_empty_iff (pre line : String) : indentLine pre line = "" ↔ line = "" := by
  unfold indentLine
  split
  · rfl
  · rename_i filled
    constructor
    · intro joined
      exact (String.append_eq_empty_iff.mp joined).2
    · rintro rfl
      exact absurd (by decide) filled

theorem dropEmptyLast_map {f : String → String} (keep : ∀ l, f l = "" ↔ l = "")
    (lines : List String) : dropEmptyLast (lines.map f) = (dropEmptyLast lines).map f := by
  have last : (lines.map f).getLast? = some "" ↔ lines.getLast? = some "" := by
    rw [List.getLast?_map]
    cases lines.getLast? with
    | none => simp
    | some l => simpa using keep l
  unfold dropEmptyLast
  by_cases ends : lines.getLast? = some ""
  · rw [if_pos (last.mpr ends), if_pos ends, List.map_dropLast]
  · rw [if_neg (mt last.mp ends), if_neg ends]

theorem indentLine_indentLine (outer inner line : String) :
    indentLine outer (indentLine inner line) = indentLine (outer ++ inner) line := by
  by_cases blank : (strip line).isEmpty
  · simp [indentLine, blank]
  · -- a character other than a blank keeps the line from being blank once prefixed
    have notAll : ¬∀ c ∈ line.toList, isBlank c = true := fun all =>
      blank ((strip_isEmpty_iff line).mpr all)
    simp only [not_forall, Bool.not_eq_true] at notAll
    obtain ⟨c, mem, filled⟩ := notAll
    rw [indentLine_of_filled mem filled inner,
      indentLine_of_filled (by simp [mem] : c ∈ (inner ++ line).toList) filled outer,
      indentLine_of_filled mem filled (outer ++ inner), String.append_assoc]

theorem OneLine.indentLine {pre line : String} (prefixOne : OneLine pre) (lineOne : OneLine line) :
    OneLine (indentLine pre line) := by
  unfold Text.indentLine
  split
  · exact lineOne
  · exact prefixOne.append lineOne

/-- Indenting a text by a prefix without line breaks splits into the text's lines, each indented
unless blank, less an empty last line; indenting it again by an outer prefix is indenting the text
once by both, but for the line feed that ended a text whose last line was empty. -/
theorem indentLines_indentLines (text outer inner : String) (one : OneLine inner) :
    splitLines (indentLines inner text) = dropEmptyLast ((splitLines text).map (indentLine inner)) ∧
    indentLines outer (indentLines inner text) ++
        (if 2 ≤ (splitLines text).length ∧ (splitLines text).getLast? = some "" then "\n" else "") =
      indentLines (outer ++ inner) text := by
  have split : splitLines (indentLines inner text) =
      dropEmptyLast ((splitLines text).map (indentLine inner)) := by
    rw [indentLines, splitLines_intercalate_eq fun l hl => by
      obtain ⟨m, hm, rfl⟩ := List.mem_map.mp hl
      exact one.indentLine (oneLine_of_mem_splitLines hm)]
  refine ⟨split, ?_⟩
  -- the outer indentation keeps which lines are empty, so it passes the dropped line through
  have twice : (splitLines (indentLines inner text)).map (indentLine outer) =
      dropEmptyLast ((splitLines text).map (indentLine (outer ++ inner))) := by
    have compose : ((splitLines text).map (indentLine inner)).map (indentLine outer) =
        (splitLines text).map (indentLine (outer ++ inner)) := by
      rw [List.map_map]
      exact List.map_congr_left fun line _ => by
        rw [Function.comp_apply, indentLine_indentLine]
    rw [split, ← @dropEmptyLast_map (indentLine outer) (indentLine_eq_empty_iff outer), compose]
  have same : 2 ≤ (splitLines text).length ∧ (splitLines text).getLast? = some "" ↔
      2 ≤ ((splitLines text).map (indentLine (outer ++ inner))).length ∧
        ((splitLines text).map (indentLine (outer ++ inner))).getLast? = some "" := by
    rw [List.length_map, List.getLast?_map]
    refine and_congr_right fun _ => ?_
    cases (splitLines text).getLast? with
    | none => simp
    | some l => simpa using (indentLine_eq_empty_iff (outer ++ inner) l).symm
  rw [indentLines.eq_1 outer, twice, if_congr same rfl rfl, intercalate_dropEmptyLast,
    indentLines.eq_1 (outer ++ inner)]

/-- A block with a carriage return, a line of blanks and an empty last line, indented by four
spaces and then by a tab. -/
theorem crlfBlock_indentLines :
    OneLine "    " ∧
      splitLines (indentLines "    " "x\r\n  \ny\n\n") =
        dropEmptyLast ((splitLines "x\r\n  \ny\n\n").map (indentLine "    ")) ∧
      indentLines "\t" (indentLines "    " "x\r\n  \ny\n\n") ++
          (if 2 ≤ (splitLines "x\r\n  \ny\n\n").length ∧
            (splitLines "x\r\n  \ny\n\n").getLast? = some "" then "\n" else "") =
        indentLines ("\t" ++ "    ") "x\r\n  \ny\n\n" :=
  have one : OneLine "    " := by decide
  ⟨one, indentLines_indentLines "x\r\n  \ny\n\n" "\t" "    " one⟩

end SketchGen.Text
