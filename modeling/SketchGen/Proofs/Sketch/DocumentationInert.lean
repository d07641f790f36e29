import SketchGen.Proofs.Sketch.DocumentationSlots
import SketchGen.Proofs.Sketch.DocumentationTwins
import SketchGen.Proofs.Text.IdentifierShape

/-! Documentation is inert. Run on twin components, every step that makes a sketch gives equal
results or twins, whenever both runs succeed, provided the documentation is tidy: no value
breaks a line or ends with a backslash, lists of qualifications and contributions have a single
entry, and the values that stand in code or in queries are plain. The sketches are then twins,
and so equal once their line comments are removed. -/

namespace SketchGen.Sketch

open SketchGen.Cpp SketchGen.Json SketchGen.Xml SketchGen.Xml.Query SketchGen.Text

/-! ### Text that stays on its line -/

theorem isBlank_of_isLineBreak {c : Char} (broken : isLineBreak c = true) : isBlank c = true := by
  rw [isLineBreak, CodeRange.memTable_iff] at broken
  rw [isBlank, CodeRange.memTable_iff]
  -- every line break is a blank, as the code points of the two tables show
  have covered : ∀ n ∈ lineBreakRanges.flatMap CodeRange.codes,
      n ∈ blankRanges.flatMap CodeRange.codes := by decide
  exact covered _ broken

theorem oneLine_of_identifierOf {v : Value} {i : String} (made : identifierOf v = .ok i) :
    OneLine i := by
  obtain ⟨s, rfl, named⟩ := identifierOf_eq_ok made
  intro c member
  -- an identifier holds no blank, and every line break is a blank
  cases broken : isLineBreak c
  · rfl
  · have clear := identifier?_not_blank named c member
    rw [isBlank_of_isLineBreak broken] at clear
    cases clear

theorem CommentSafe.of_oneLine_append {a b : String} (one : OneLine a) (safe : CommentSafe b)
    (filled : b ≠ "") : CommentSafe (a ++ b) :=
  ⟨OneLine.append one safe.1, EndsClean.append_right a safe.2 filled⟩

theorem mem_of_mem_strip {s : String} {c : Char} (member : c ∈ (strip s).toList) : c ∈ s.toList := by
  simp only [strip, String.toList_ofList, List.mem_reverse] at member
  exact (List.dropWhile_sublist _).subset
    (List.mem_reverse.mp ((List.dropWhile_sublist _).subset member))

theorem mem_of_mem_untagFrom {c : Char} (pending : Option (List Char)) (cs : List Char) :
    c ∈ untagFrom pending cs → c ∈ cs ∨ c ∈ pending.getD [] := by
  fun_induction untagFrom pending cs <;> grind

theorem OneLine.stripTags {s : String} (one : OneLine s) : OneLine (stripTags s) := by
  intro c member
  rcases mem_of_mem_untagFrom none s.toList (by simpa [Text.stripTags] using member) with mem | mem
  · exact one c mem
  · cases mem

theorem bullets_safe {s : String} (safe : CommentSafe s) (single : ';' ∉ s.toList) :
    CommentSafe (bullets s) := by
  have whole : piecesAt ';' s = [s] := by
    simp only [piecesAt, List.splitOn]
    rw [List.splitOnP_eq_singleton fun c member => by
      simpa using fun same : c = ';' => single (same ▸ member)]
    simp
  rw [bullets, whole, List.map_singleton, String.intercalate_singleton]
  refine CommentSafe.of_oneLine_append (OneLine.append (by decide) fun c member =>
    safe.1 c (mem_of_mem_strip member)) (by decide) (by decide)

theorem noneSpecified_safe : CommentSafe noneSpecified := by decide

theorem listNote_safe {o : Option String} (safe : ∀ s ∈ o, CommentSafe s)
    (single : ∀ s ∈ o, ';' ∉ s.toList) : CommentSafe (listNote o) := by
  cases o with
  | none => exact noneSpecified_safe
  | some s =>
    show CommentSafe (if s.isEmpty then noneSpecified else bullets s)
    split
    · exact noneSpecified_safe
    · exact bullets_safe (safe s rfl) (single s rfl)

theorem markedListNote_safe {o : Option String} (safe : ∀ s ∈ o, CommentSafe s)
    (single : ∀ s ∈ o, ';' ∉ s.toList) {note : String} (made : markedListNote o = .ok note) :
    CommentSafe note := by
  cases o with
  | none => cases made
  | some s =>
    obtain rfl := Except.ok.inj made
    split
    · exact noneSpecified_safe
    · exact bullets_safe (safe s rfl) (single s rfl)

theorem Tidy.listNote_safe {x : Element} (tidy : Tidy x) {key : String} (listed : key ∈ listKeys) :
    CommentSafe (listNote (x.get? key)) :=
  Sketch.listNote_safe (tidy.get?_safe key) (tidy.single key listed)

theorem Tidy.markedListNote_safe {x : Element} (tidy : Tidy x) {key : String} (listed : key ∈ listKeys)
    {note : String} (made : markedListNote (x.get? key) = .ok note) : CommentSafe note :=
  Sketch.markedListNote_safe (tidy.get?_safe key) (tidy.single key listed) made

theorem Plain.quoteless {v : String} (plain : Plain v) : '\'' ∉ v.toList :=
  fun member => (plain _ member).2.1 rfl

/-! ### Blocks of comment lines -/

def CommentHead (head : String) : Prop :=
  ∃ pre rest, head = pre ++ "//" ++ rest ∧ (∀ ch ∈ pre.toList, ch = ' ') ∧ CommentSafe rest

namespace CommentLine.Twin

theorem of_head {head c c' : String} (start : CommentHead head) (safe : CommentSafe c)
    (safe' : CommentSafe c') : Twin (head ++ c) (head ++ c') := by
  obtain ⟨pre, rest, rfl, spaces, restSafe⟩ := start
  simpa only [String.append_assoc] using
    @Twin.comment pre (rest ++ c) (rest ++ c') spaces (restSafe.append safe) (restSafe.append safe')

theorem fixed {head : String} (start : CommentHead head) : Twin head head := by
  have empty : CommentSafe "" := by decide
  simpa only [String.append_empty] using of_head start empty empty

end CommentLine.Twin

/-- Two blocks of comment lines, each ended by a line feed, alike but for the text of their
comments. -/
def CommentBlock (b b' : String) : Prop :=
  ∃ ls ls', b = String.join (ls.map (· ++ "\n")) ∧ b' = String.join (ls'.map (· ++ "\n")) ∧
    List.Forall₂ CommentLine.Twin ls ls'

namespace CommentBlock

variable {a a' b b' : String}

theorem empty : CommentBlock "" "" := ⟨[], [], rfl, rfl, .nil⟩

theorem line {l l' : String} (twin : CommentLine.Twin l l') : CommentBlock (l ++ "\n") (l' ++ "\n") :=
  ⟨[l], [l'], by simp, by simp, .cons twin .nil⟩

theorem append (first : CommentBlock a a') (second : CommentBlock b b') :
    CommentBlock (a ++ b) (a' ++ b') := by
  obtain ⟨ls, ls', rfl, rfl, twins⟩ := first
  obtain ⟨ms, ms', rfl, rfl, twins'⟩ := second
  exact ⟨ls ++ ms, ls' ++ ms', by simp [String.join_append], by simp [String.join_append],
    List.rel_append twins twins'⟩

theorem join : ∀ {bs bs' : List String}, List.Forall₂ CommentBlock bs bs' →
    CommentBlock (String.join bs) (String.join bs')
  | [], [], .nil => empty
  | _ :: _, _ :: _, .cons first rest => by
    simpa only [String.join_cons] using first.append (join rest)

theorem reads (block : CommentBlock b b') :
    Reads (.among [Scan.start]) (.among [Scan.start]) b b' := by
  obtain ⟨ls, ls', rfl, rfl, twins⟩ := block
  exact CommentLine.reads_join twins

theorem reads_indentLines (block : CommentBlock b b') {p : String}
    (spaces : ∀ ch ∈ p.toList, ch = ' ') :
    Reads (.among [Scan.start]) (.among [Scan.start, Scan.inComment])
      (indentLines p b) (indentLines p b') := by
  obtain ⟨ls, ls', rfl, rfl, twins⟩ := block
  exact CommentLine.reads_indentLines twins spaces

end CommentBlock

theorem blanks_four : ∀ ch ∈ "    ".toList, ch = ' ' := @of_decide_eq_true _ (List.decidableBAll _ _) rfl

theorem indentLine_ne_empty {pre line : String} (filled : line ≠ "") : indentLine pre line ≠ "" := by
  unfold indentLine
  split
  · exact filled
  · simp [String.append_eq_empty_iff, filled]

def NotesTwin (n n' : String) : Prop :=
  ∃ ls ls', n = indentLines "    " (String.join (ls.map (· ++ "\n"))) ∧
    n' = indentLines "    " (String.join (ls'.map (· ++ "\n"))) ∧
    List.Forall₂ CommentLine.Twin ls ls' ∧ ls.getLast? ≠ some ""

namespace NotesTwin

variable {n n' : String}

theorem reads (notes : NotesTwin n n') :
    Reads (.among [Scan.start]) (.among [Scan.start, Scan.inComment]) n n' := by
  obtain ⟨ls, ls', rfl, rfl, twins, _⟩ := notes
  exact CommentLine.reads_indentLines twins blanks_four

theorem reads_indented (notes : NotesTwin n n') :
    Reads (.among [Scan.start]) (.among [Scan.start, Scan.inComment])
      (indentLines "    " n) (indentLines "    " n') := by
  obtain ⟨ls, ls', rfl, rfl, twins, last⟩ := notes
  rw [indentLines_join_lines "    " (CommentLine.oneLine_left twins),
    indentLines_join_lines "    " (CommentLine.oneLine_right twins)]
  refine CommentLine.reads_indentLines_intercalate (CommentLine.indent_all twins blanks_four)
    blanks_four ?_
  rw [List.getLast?_map]
  intro indented
  obtain ⟨l, found, same⟩ := Option.map_eq_some_iff.mp indented
  exact indentLine_ne_empty (fun empty => last (empty ▸ found)) same

end NotesTwin

/-! ### Steps of a run -/

theorem Gen.ok_bind {α β : Type} (a : α) (f : α → Gen β) : (Except.ok a >>= f : Gen β) = f a := rfl

theorem around_some (pre v post : String) : around pre (some v) post = .ok (pre ++ v ++ post) := rfl

theorem Tidy.hardwareName_oneLine {x : Element} (tidy : Tidy x) :
    OneLine (displayOption ((x.get? "name").map stripTags)) := by
  cases found : x.get? "name" with
  | none => decide
  | some s => exact OneLine.stripTags (tidy.get?_safe "name" s found).1

theorem partnerPhrase_safe {e : Element} {phrase : String} (made : partnerPhrase e = .ok phrase) :
    CommentSafe phrase := by
  unfold partnerPhrase at made
  split at made <;> simp only [Gen.bind_eq_ok, Gen.pure_eq_ok] at made
  · obtain ⟨i, named, rfl⟩ := made
    exact CommentSafe.of_oneLine_append ((by decide : OneLine "function ").append
      (oneLine_of_identifierOf named)) (by decide) (by decide)
  · obtain ⟨i, named, rfl⟩ := made
    exact CommentSafe.of_oneLine_append ((by decide : OneLine "thread ").append
      (oneLine_of_identifierOf named)) (by decide) (by decide)
  · obtain ⟨i, named, rfl⟩ := made
    exact CommentSafe.of_oneLine_append ((by decide : OneLine "hardware resource \"").append
      (oneLine_of_identifierOf named)) (by decide) (by decide)
  · obtain ⟨i, named, rfl⟩ := made
    exact CommentSafe.of_oneLine_append ((by decide : OneLine "software resource \"").append
      (oneLine_of_identifierOf named)) (by decide) (by decide)
  · rw [← made]
    decide

/-! ### Notes on hardware resources -/

def hardwareLines (name id parent description : String) : List String :=
  ["    " ++ "//" ++ (" " ++ name ++ ":"), "    " ++ "//" ++ ("     ID: " ++ id),
    "    " ++ "//" ++ ("     Parent ID: " ++ parent),
    "    " ++ "//" ++ ("     Description: " ++ description)]

theorem hardwareNote_text (name id parent description : String) :
    "    // " ++ name ++ ":\n" ++ "    //     ID: " ++ id ++ "\n" ++ "    //     Parent ID: " ++ parent ++
      "\n" ++ "    //     Description: " ++ description ++ "\n" =
      String.join ((hardwareLines name id parent description).map (· ++ "\n")) := by
  simp [hardwareLines, ← String.toList_inj]

theorem hardwareLines_twin {name name' id parent parent' description description' : String}
    (named : OneLine name) (named' : OneLine name') (identified : CommentSafe id)
    (parented : CommentSafe parent) (parented' : CommentSafe parent')
    (described : CommentSafe description) (described' : CommentSafe description') :
    List.Forall₂ CommentLine.Twin (hardwareLines name id parent description)
      (hardwareLines name' id parent' description') := by
  have title : ∀ {n : String}, OneLine n → CommentSafe (" " ++ n ++ ":") := fun one =>
    CommentSafe.of_oneLine_append ((by decide : OneLine " ").append one) (by decide) (by decide)
  refine .cons (.comment blanks_four (title named) (title named')) (.cons ?_ (.cons ?_ (.cons ?_ .nil)))
  · exact .comment blanks_four ((by decide : CommentSafe "     ID: ").append identified)
      ((by decide : CommentSafe "     ID: ").append identified)
  · exact .comment blanks_four ((by decide : CommentSafe "     Parent ID: ").append parented)
      ((by decide : CommentSafe "     Parent ID: ").append parented')
  · exact .comment blanks_four ((by decide : CommentSafe "     Description: ").append described)
      ((by decide : CommentSafe "     Description: ").append described')

/-! ### Notes on publishers and subscribers -/

theorem CommentLine.Twin.bare : CommentLine.Twin "//" "//" := by
  have empty : CommentSafe "" := by decide
  simpa using CommentLine.Twin.comment_left empty empty

/-- The texts of the comments of the notes on a publisher or subscriber, each written after its
`//`. -/
def noteComments (role : ThreadRole)
    (name id routine dependum phrase qualifications contributions : String) : List String :=
  ["", " --- " ++ role.title ++ " Information ---", " Name: " ++ name, " ID: " ++ id,
    " Description: This " ++ role.title ++ " is responsible for " ++ role.duty ++
      " the dependum: " ++ dependum,
    "", " Original Element in PIM: " ++ name, " Transformed To: Function `" ++ routine ++ "`", "",
    " Note for Developers:", " The `dependum` data " ++ role.handover ++ " " ++ phrase ++ ".",
    " Ensure the function completes its operation and " ++ role.exchange ++ " the required data ",
    " in the appropriate format for " ++ role.purpose ++ ".", " ", " Qualification Array:",
    " " ++ qualifications, " ", " Contribution Array:", " " ++ contributions, " ", ""]

/-- The lines of the notes on a publisher or subscriber, before they are indented: an empty
line, then the comments. -/
def noteLines (role : ThreadRole)
    (name id routine dependum phrase qualifications contributions : String) : List String :=
  "" :: (noteComments role name id routine dependum phrase qualifications contributions).map
    ("//" ++ ·)

theorem threadNotes_text (role : ThreadRole)
    (name id routine dependum phrase qualifications contributions : String) :
    "\n" ++
    "//\n" ++
    "// --- " ++ role.title ++ " Information ---\n" ++
    "// Name: " ++ name ++ "\n" ++
    "// ID: " ++ id ++ "\n" ++
    "// Description: This " ++ role.title ++ " is responsible for " ++ role.duty ++
      " the dependum: " ++ dependum ++ "\n" ++
    "//\n" ++
    "// Original Element in PIM: " ++ name ++ "\n" ++
    "// Transformed To: Function `" ++ routine ++ "`\n" ++
    "//\n" ++
    "// Note for Developers:\n" ++
    "// The `dependum` data " ++ role.handover ++ " " ++ phrase ++ ".\n" ++
    "// Ensure the function completes its operation and " ++ role.exchange ++
      " the required data \n" ++
    "// in the appropriate format for " ++ role.purpose ++ ".\n" ++
    "// \n" ++
    "// Qualification Array:\n" ++
    "// " ++ qualifications ++ "\n" ++
    "// \n" ++
    "// Contribution Array:\n" ++
    "// " ++ contributions ++ "\n" ++
    "// \n" ++
    "//\n" =
      String.join ((noteLines role name id routine dependum phrase qualifications
        contributions).map (· ++ "\n")) := by
  rw [← String.toList_inj]
  simp only [noteLines, noteComments, List.map_cons, List.map_nil, String.join_cons,
    String.join_nil, String.toList_append, String.toList_empty, List.append_assoc,
    List.nil_append, List.append_nil]
  simp

theorem CommentLine.forall₂_comments : ∀ {cs cs' : List String}, cs.length = cs'.length →
    (∀ c ∈ cs, CommentSafe c) → (∀ c ∈ cs', CommentSafe c) →
      List.Forall₂ CommentLine.Twin (cs.map ("//" ++ ·)) (cs'.map ("//" ++ ·))
  | [], [], _, _, _ => .nil
  | c :: _, c' :: _, same, safe, safe' =>
    .cons (CommentLine.Twin.comment_left (safe c List.mem_cons_self) (safe' c' List.mem_cons_self))
      (forall₂_comments (Nat.succ.inj same) (fun d member => safe d (List.mem_cons_of_mem _ member))
        fun d member => safe' d (List.mem_cons_of_mem _ member))

theorem noteComments_safe {role : ThreadRole}
    (wording : ∀ t ∈ [role.title, role.duty, role.handover, role.exchange, role.purpose],
      CommentSafe t)
    {name id routine dependum phrase qualifications contributions : String}
    (safe : ∀ t ∈ [name, id, routine, dependum, phrase, qualifications, contributions], CommentSafe t) :
    ∀ c ∈ noteComments role name id routine dependum phrase qualifications contributions,
      CommentSafe c := by
  have title := wording role.title (by simp)
  have duty := wording role.duty (by simp)
  have handover := wording role.handover (by simp)
  have exchange := wording role.exchange (by simp)
  have purpose := wording role.purpose (by simp)
  have named := safe name (by simp)
  have identified := safe id (by simp)
  have routed := safe routine (by simp)
  have depended := safe dependum (by simp)
  have phrased := safe phrase (by simp)
  have qualified := safe qualifications (by simp)
  have contributed := safe contributions (by simp)
  intro c member
  simp only [noteComments, List.mem_cons, List.not_mem_nil, or_false] at member
  rcases member with rfl | rfl | rfl | rfl | rfl | rfl | rfl | rfl | rfl | rfl | rfl | rfl | rfl |
    rfl | rfl | rfl | rfl | rfl | rfl | rfl | rfl <;>
  -- matched syntactically: unfolding the texts to compare them is what is slow
  repeat' first
    | with_reducible assumption
    | with_reducible refine CommentSafe.append ?_ ?_
    | decide

theorem noteLines_twin {role : ThreadRole}
    (wording : ∀ t ∈ [role.title, role.duty, role.handover, role.exchange, role.purpose],
      CommentSafe t)
    {name id routine dependum phrase qualifications contributions : String}
    {name' id' routine' dependum' phrase' qualifications' contributions' : String}
    (safe : ∀ t ∈ [name, id, routine, dependum, phrase, qualifications, contributions], CommentSafe t)
    (safe' : ∀ t ∈ [name', id', routine', dependum', phrase', qualifications', contributions'],
      CommentSafe t) :
    List.Forall₂ CommentLine.Twin
      (noteLines role name id routine dependum phrase qualifications contributions)
      (noteLines role name' id' routine' dependum' phrase' qualifications' contributions') :=
  .cons .empty (CommentLine.forall₂_comments (by simp [noteComments])
    (noteComments_safe wording safe) (noteComments_safe wording safe'))

theorem threadNotes_agree {role : ThreadRole}
    (wording : ∀ t ∈ [role.title, role.duty, role.handover, role.exchange, role.purpose],
      CommentSafe t)
    {thread thread' : Element} (threadTwin : TidyTwin thread thread')
    (notHardware : thread.tag ≠ "hw_resource") (cpc cpc' : Element) :
    Gen.Agree NotesTwin (threadNotes role thread cpc) (threadNotes role thread' cpc') := by
  intro n n' made made'
  simp only [threadNotes, Gen.bind_eq_ok, Gen.pure_eq_ok] at made made'
  obtain ⟨i, named, j, named₂, p, partnered, phrase, phrased, rfl⟩ := made
  obtain ⟨i', named', j', named₂', p', partnered', phrase', phrased', rfl⟩ := made'
  obtain rfl : j = i := Except.ok.inj (named₂.symm.trans named)
  obtain rfl : j' = i' := Except.ok.inj (named₂'.symm.trans named')
  have identPlain := threadTwin.tidy.nameIdent_plain notHardware named
  have identPlain' := threadTwin.tidy'.nameIdent_plain (threadTwin.twin.tag_eq ▸ notHardware) named'
  have ident : ∀ {k : String}, Plain k → ∀ t ∈ [k ++ "()", k ++ "_data_structure"], CommentSafe t := by
    intro k plain t member
    simp only [List.mem_cons, List.not_mem_nil, or_false] at member
    rcases member with rfl | rfl
    · exact (plain.append (by decide)).commentSafe
    · exact (plain.append (by decide)).commentSafe
  refine ⟨_, _, by rw [threadNotes_text], by rw [threadNotes_text], noteLines_twin wording ?_ ?_,
    by simp [noteLines, noteComments]⟩
  · intro t member
    simp only [List.mem_cons, List.not_mem_nil, or_false] at member
    rcases member with rfl | rfl | rfl | rfl | rfl | rfl | rfl
    · exact threadTwin.tidy.shown_safe _
    · exact threadTwin.tidy.shown_safe _
    · exact ident identPlain _ (by simp)
    · exact ident identPlain _ (by simp)
    · exact partnerPhrase_safe phrased
    · exact threadTwin.tidy.listNote_safe (by simp [listKeys])
    · exact threadTwin.tidy.listNote_safe (by simp [listKeys])
  · intro t member
    simp only [List.mem_cons, List.not_mem_nil, or_false] at member
    rcases member with rfl | rfl | rfl | rfl | rfl | rfl | rfl
    · exact threadTwin.tidy'.shown_safe _
    · exact threadTwin.tidy'.shown_safe _
    · exact ident identPlain' _ (by simp)
    · exact ident identPlain' _ (by simp)
    · exact partnerPhrase_safe phrased'
    · exact threadTwin.tidy'.listNote_safe (by simp [listKeys])
    · exact threadTwin.tidy'.listNote_safe (by simp [listKeys])

section Component

variable {cpc cpc' : Element} (twin : DocTwin cpc cpc') (tidy : ∀ x ∈ cpc.subtree, Tidy x)
  (tidy' : ∀ x ∈ cpc'.subtree, Tidy x)

include twin tidy tidy'

theorem hardwareNote_agree {id : Option String} (plain : ∀ v ∈ id, Plain v) :
    Gen.Agree CommentBlock (hardwareNote cpc id) (hardwareNote cpc' id) := by
  cases id with
  | none => intro _ _ made; cases made
  | some v =>
    obtain ⟨o, o', found, found', hardware⟩ := twin.findIn_tidy tidy tidy'
      (.inr (by decide : PlainName "hw_resource"))
      (readable_single (by decide : PlainName "id") (Plain.quoteless (plain v rfl)))
      (by simp [splicedKeys])
    simp only [hardwareNote, around_some, Gen.ok_bind, hardwarePath_eq, found, found']
    cases hardware with
    | none => exact Gen.Agree.pure CommentBlock.empty
    | @some hw hw' hwTwin =>
      refine Gen.Agree.pure ⟨_, _, hardwareNote_text .., hardwareNote_text .., ?_⟩
      exact hardwareLines_twin hwTwin.tidy.hardwareName_oneLine hwTwin.tidy'.hardwareName_oneLine
        (Plain.commentSafe (plain v rfl)) (hwTwin.tidy.shown_safe _) (hwTwin.tidy'.shown_safe _)
        (hwTwin.tidy.shown_safe _) (hwTwin.tidy'.shown_safe _)

theorem hardwareNotes_agree {routine routine' : Element} (routineTwin : TidyTwin routine routine') :
    Gen.Agree CommentBlock (hardwareNotes routine cpc) (hardwareNotes routine' cpc') := by
  have ids : routine'.get? "id" = routine.get? "id" :=
    routineTwin.twin.get?_eq (by simp [mem_docKeys]) rfl
  unfold hardwareNotes
  rw [ids]
  cases found : routine.get? "id" with
  | none => intro _ _ made; cases made
  | some v =>
    have plain := routineTwin.tidy.plain "id" (by simp) (by simp [mem_docKeys]) v found
    obtain ⟨rs, rs', listed, listed', relations⟩ := twin.findAllIn_tidy tidy tidy'
      (.inr (by decide : PlainName "relation"))
      (readable_single (by decide : PlainName "target") (Plain.quoteless plain))
      (by simp [splicedKeys])
    simp only [around_some, Gen.ok_bind, targetPath_eq, listed, listed']
    refine Gen.Agree.bind (Gen.Agree.mapM relations (fun r _ r' relation => ?_) :
      Gen.Agree (List.Forall₂ CommentBlock) _ _) fun ns ns' notes => Gen.Agree.pure ?_
    · rw [relation.twin.get?_eq (by simp [mem_docKeys]) rfl]
      exact hardwareNote_agree twin tidy tidy'
        (relation.tidy.plain "source" (by simp) (by simp [mem_docKeys]))
    · have heading : CommentLine.Twin ("//" ++ " Hardware Resource Assigned:")
          ("//" ++ " Hardware Resource Assigned:") :=
        CommentLine.Twin.comment_left (by decide) (by decide)
      exact (CommentBlock.line heading).append (CommentBlock.join notes)

end Component

end SketchGen.Sketch
