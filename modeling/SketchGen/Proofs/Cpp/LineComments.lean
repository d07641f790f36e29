import Mathlib.Data.List.Forall2
import SketchGen.Text.Blank

namespace SketchGen.Cpp

open SketchGen.Text

/-! Line comments of C++ source, removed as the translation phases remove them: a backslash
right before a line feed joins the two lines (phase 2), and a `//` outside a string or
character literal starts a comment that runs to the end of its line (phase 3). A literal ends
at its closing quote, or at the end of its line when it is not closed. The scanner reads one
character at a time and holds a backslash back until the next character shows whether it
joins two lines. -/

/-- Where the scanner stands, line joins apart. -/
inductive Mode where
  | code
  | slash
  | literal (quote : Char)
  | escape (quote : Char)
  | comment
deriving DecidableEq, Repr

/-- The scanner's state: its mode, and whether it holds a backslash back. -/
structure Scan where
  mode : Mode
  held : Bool
deriving DecidableEq, Repr

def readCode (c : Char) : Mode × List Char :=
  if c = '/' then (.slash, [])
  else if c = '"' ∨ c = '\'' then (.literal c, [c])
  else (.code, [c])

def Mode.read : Mode → Char → Mode × List Char
  | .code, c => readCode c
  | .slash, c => if c = '/' then (.comment, []) else ((readCode c).1, '/' :: (readCode c).2)
  | .literal q, c =>
    if c = '\\' then (.escape q, [c])
    else if c = q ∨ c = '\n' then (.code, [c])
    else (.literal q, [c])
  | .escape q, c => if c = '\n' then (.code, [c]) else (.literal q, [c])
  | .comment, c => if c = '\n' then (.code, [c]) else (.comment, [])

namespace Scan

def start : Scan := ⟨.code, false⟩

def inComment : Scan := ⟨.comment, false⟩

def release (s : Scan) : Mode × List Char :=
  if s.held then s.mode.read '\\' else (s.mode, [])

/-- One character read: a held backslash and a line feed vanish together; any other character
first releases the held backslash, and a backslash is held in its turn. -/
def step (s : Scan) (c : Char) : Scan × List Char :=
  if s.held ∧ c = '\n' then (⟨s.mode, false⟩, [])
  else if c = '\\' then (⟨s.release.1, true⟩, s.release.2)
  else (⟨(s.release.1.read c).1, false⟩, s.release.2 ++ (s.release.1.read c).2)

def run : Scan → List Char → Scan × List Char
  | s, [] => (s, [])
  | s, c :: cs => (((s.step c).1.run cs).1, (s.step c).2 ++ ((s.step c).1.run cs).2)

def feed (s : Scan) (text : String) : Scan × List Char := s.run text.toList

def finish (s : Scan) : List Char :=
  s.release.2 ++ if s.release.1 = .slash then ['/'] else []

end Scan

def stripLineComments (text : String) : String :=
  String.ofList ((Scan.start.feed text).2 ++ (Scan.start.feed text).1.finish)

/-! ### Reading texts one after another -/

theorem Mode.read_newline (m : Mode) : (m.read '\n').1 = .code := by
  cases m <;> simp [Mode.read, readCode]

namespace Scan

@[simp] theorem run_nil (s : Scan) : s.run [] = (s, []) := rfl

theorem run_cons (s : Scan) (c : Char) (cs : List Char) :
    s.run (c :: cs) = (((s.step c).1.run cs).1, (s.step c).2 ++ ((s.step c).1.run cs).2) := rfl

theorem run_append (s : Scan) (xs ys : List Char) :
    s.run (xs ++ ys) = (((s.run xs).1.run ys).1, (s.run xs).2 ++ ((s.run xs).1.run ys).2) := by
  induction xs generalizing s with
  | nil => simp
  | cons c cs ih => simp [run_cons, ih, List.append_assoc]

theorem feed_append (s : Scan) (a b : String) :
    s.feed (a ++ b) = (((s.feed a).1.feed b).1, (s.feed a).2 ++ ((s.feed a).1.feed b).2) := by
  simp only [feed, String.toList_append, run_append]

@[simp] theorem feed_empty (s : Scan) : s.feed "" = (s, []) := rfl

theorem step_newline {s : Scan} (settled : s.held = false) : (s.step '\n').1 = start := by
  simp [step, release, settled, Mode.read_newline, start]

theorem held_step (s : Scan) (c : Char) : (s.step c).1.held = (c == '\\') := by
  unfold step
  split
  · rename_i h
    simp [h.2]
  · split <;> simp_all

theorem held_run (s : Scan) (cs : List Char) :
    (s.run cs).1.held = ((cs.getLast?.map (· == '\\')).getD s.held) := by
  induction cs generalizing s with
  | nil => rfl
  | cons c cs ih =>
    rw [run_cons, ih]
    cases cs with
    | nil => simp [held_step]
    | cons d ds => simp [List.getLast?_cons]

end Scan

/-- A text whose last character is no backslash, so that it never joins the next line to its
own. -/
def EndsClean (text : String) : Prop := text.toList.getLast? ≠ some '\\'

instance : DecidablePred EndsClean := fun _ => inferInstanceAs (Decidable (_ ≠ _))

theorem EndsClean.empty : EndsClean "" := by decide

theorem EndsClean.append {a b : String} (left : EndsClean a) (right : EndsClean b) :
    EndsClean (a ++ b) := by
  unfold EndsClean at *
  rw [String.toList_append, List.getLast?_append]
  cases h : b.toList.getLast? with
  | none => simpa using left
  | some c => simpa [h] using right

theorem EndsClean.append_right (a : String) {b : String} (right : EndsClean b) (nonempty : b ≠ "") :
    EndsClean (a ++ b) := by
  unfold EndsClean at *
  rw [String.toList_append, List.getLast?_append]
  cases h : b.toList.getLast? with
  | none => exact absurd (String.toList_eq_nil_iff.mp (List.getLast?_eq_none_iff.mp h)) nonempty
  | some c => simpa [h] using right

theorem EndsClean.join : ∀ {texts : List String}, (∀ t ∈ texts, EndsClean t) →
    EndsClean (String.join texts)
  | [], _ => EndsClean.empty
  | t :: ts, h => by
    rw [String.join_cons]
    exact (h t (by simp)).append (EndsClean.join fun u hu => h u (by simp [hu]))

theorem EndsClean.intercalate {sep : String} (clean : EndsClean sep) :
    ∀ {texts : List String}, (∀ t ∈ texts, EndsClean t) → EndsClean (sep.intercalate texts)
  | [], _ => EndsClean.empty
  | [t], h => by simpa [String.intercalate_singleton] using h t (by simp)
  | t :: u :: ts, h => by
    rw [String.intercalate_cons_cons]
    exact ((h t (by simp)).append clean).append
      (EndsClean.intercalate clean fun v hv => h v (List.mem_cons_of_mem _ hv))

theorem Scan.held_feed_of_endsClean {s : Scan} {text : String} (settled : s.held = false)
    (clean : EndsClean text) : (s.feed text).1.held = false := by
  unfold feed
  rw [held_run]
  cases h : text.toList.getLast? with
  | none => simpa using settled
  | some c =>
    have : c ≠ '\\' := fun hc => clean (hc ▸ h)
    simpa using this

/-- The rest of a text after the first line feed that brings the scanner to the start of a
line whatever its mode: one read while no backslash is held. `held` says whether one is held
before the text. -/
def resync : Bool → List Char → Option (List Char)
  | false, '\n' :: rest => some rest
  | true, '\n' :: rest => resync false rest
  | _, c :: rest => resync (c == '\\') rest
  | _, [] => none

theorem resync_cons_of_ne {held : Bool} {c : Char} (hc : c ≠ '\n') (rest : List Char) :
    resync held (c :: rest) = resync (c == '\\') rest := by
  cases held <;> simp [resync, hc]

theorem Scan.run_of_resync {s : Scan} {cs rest : List Char} (h : resync s.held cs = some rest) :
    (s.run cs).1 = (start.run rest).1 := by
  induction cs generalizing s with
  | nil => simp [resync] at h
  | cons c cs ih =>
    rw [run_cons]
    by_cases hc : c = '\n'
    · subst hc
      cases hs : s.held
      · simp only [resync, hs, Option.some.injEq] at h
        rw [step_newline hs, h]
      · rw [hs] at h
        have joined : (s.step '\n').1 = ⟨s.mode, false⟩ := by simp [step, hs]
        exact ih (by rw [joined]; simpa [resync] using h)
    · rw [resync_cons_of_ne hc] at h
      exact ih (by rw [held_step]; exact h)

/-! ### Documentation inside a comment -/

/-- Documentation fit to stand in a line comment: it breaks no line and ends with no
backslash. -/
def CommentSafe (text : String) : Prop :=
  (∀ c ∈ text.toList, isLineBreak c = false) ∧ EndsClean text

theorem isLineBreak_newline : isLineBreak '\n' = true := by decide

theorem Scan.step_comment {c : Char} (hc : c ≠ '\n') (held : Bool) :
    (⟨.comment, held⟩ : Scan).step c = (⟨.comment, c == '\\'⟩, []) := by
  by_cases hb : c = '\\'
  · subst hb
    cases held <;> simp [step, release, Mode.read]
  · cases held <;> simp [step, release, Mode.read, hb, hc]

theorem Scan.run_comment {cs : List Char} (h : ∀ c ∈ cs, c ≠ '\n') (held : Bool) :
    (⟨.comment, held⟩ : Scan).run cs =
      (⟨.comment, (cs.getLast?.map (· == '\\')).getD held⟩, []) := by
  induction cs generalizing held with
  | nil => rfl
  | cons c cs ih =>
    rw [run_cons, step_comment (h c (by simp)), ih (fun d hd => h d (by simp [hd]))]
    cases cs with
    | nil => simp
    | cons d ds => simp [List.getLast?_cons]

theorem Scan.feed_inComment {text : String} (safe : CommentSafe text) :
    inComment.feed text = (inComment, []) := by
  have noFeed : ∀ c ∈ text.toList, c ≠ '\n' := fun c hc heq =>
    by simpa [heq, isLineBreak_newline] using safe.1 c hc
  unfold feed inComment
  rw [run_comment noFeed]
  cases h : text.toList.getLast? with
  | none => rfl
  | some c =>
    have : c ≠ '\\' := fun hc => safe.2 (hc ▸ h)
    simp [this]

/-! ### Plain values in code -/

def PlainChar (c : Char) : Prop := c ≠ '"' ∧ c ≠ '\'' ∧ c ≠ '\\' ∧ isLineBreak c = false

def Plain (text : String) : Prop := ∀ c ∈ text.toList, PlainChar c

instance : DecidablePred PlainChar := fun _ => inferInstanceAs (Decidable (_ ∧ _))

theorem Plain.append {a b : String} (left : Plain a) (right : Plain b) : Plain (a ++ b) := by
  intro c hc
  rw [String.toList_append, List.mem_append] at hc
  exact hc.elim (left c) (right c)

theorem Plain.join : ∀ {texts : List String}, (∀ t ∈ texts, Plain t) → Plain (String.join texts)
  | [], _ => fun _ h => by simp at h
  | t :: ts, h => by
    rw [String.join_cons]
    exact (h t (by simp)).append (Plain.join fun u hu => h u (by simp [hu]))

theorem PlainChar.ne_newline {c : Char} (h : PlainChar c) : c ≠ '\n' := fun heq => by
  simpa [heq, isLineBreak_newline] using h.2.2.2

def codeStates : List Scan := [⟨.code, false⟩, ⟨.slash, false⟩, ⟨.comment, false⟩]

def Mode.afterPlain : Mode → List Scan
  | .comment => [Scan.inComment]
  | .literal q | .escape q => ⟨.literal q, false⟩ :: codeStates
  | _ => codeStates

def Scan.afterPlain (s : Scan) : List Scan := s :: s.mode.afterPlain

theorem readCode_mem_codeStates {c : Char} (hc : PlainChar c) :
    (⟨(readCode c).1, false⟩ : Scan) ∈ codeStates := by
  obtain ⟨h1, h2, -, -⟩ := hc
  by_cases hs : c = '/' <;> simp [readCode, hs, h1, h2, codeStates]

theorem Scan.step_mem_codeStates {t : Scan} (ht : t ∈ codeStates) {c : Char} (hc : PlainChar c) :
    (t.step c).1 ∈ codeStates := by
  have hn := hc.ne_newline
  have hb := hc.2.2.1
  simp only [codeStates, List.mem_cons, List.not_mem_nil, or_false] at ht
  rcases ht with rfl | rfl | rfl
  · simpa [step, release, Mode.read, hb] using readCode_mem_codeStates hc
  · by_cases hs : c = '/'
    · simp [step, release, Mode.read, hs, codeStates]
    · simpa [step, release, Mode.read, hb, hs] using readCode_mem_codeStates hc
  · simp [step, release, Mode.read, hb, hn, codeStates]

theorem Scan.step_mem_afterPlain_mode {m : Mode} {t : Scan} (ht : t ∈ m.afterPlain) {c : Char}
    (hc : PlainChar c) : (t.step c).1 ∈ m.afterPlain := by
  have hn := hc.ne_newline
  have hb := hc.2.2.1
  cases m with
  | comment =>
    simp only [Mode.afterPlain, List.mem_singleton] at ht ⊢
    subst ht
    simp [inComment, step, release, Mode.read, hb, hn]
  | literal q | escape q =>
    simp only [Mode.afterPlain, List.mem_cons] at ht ⊢
    rcases ht with rfl | ht
    · by_cases hq : c = q
      · subst hq
        exact .inr (by simp [step, release, Mode.read, hb, codeStates])
      · exact .inl (by simp [step, release, Mode.read, hb, hn, hq])
    · exact .inr (step_mem_codeStates ht hc)
  | code | slash => exact step_mem_codeStates ht hc

theorem Scan.step_mem_afterPlain_self (s : Scan) {c : Char} (hc : PlainChar c) :
    (s.step c).1 ∈ s.mode.afterPlain := by
  have hn := hc.ne_newline
  have hb := hc.2.2.1
  obtain ⟨m, held⟩ := s
  cases held
  · -- nothing held: the character is read in the mode itself, which is among its own
    -- successors but after an escape
    cases m
    case escape q => simp [step, release, Mode.read, hb, hn, Mode.afterPlain]
    all_goals exact step_mem_afterPlain_mode (by simp [Mode.afterPlain, codeStates, inComment]) hc
  · -- a held backslash is released first
    cases m with
    | code | slash =>
      simpa [step, release, Mode.read, readCode, hb, hn, Mode.afterPlain] using
        readCode_mem_codeStates hc
    | literal q =>
      simp [step, release, Mode.read, hb, hn, Mode.afterPlain]
    | escape q =>
      by_cases hq : c = q
      · subst hq
        simp [step, release, Mode.read, hb, hn, Mode.afterPlain, codeStates]
      · simp [step, release, Mode.read, hb, hn, hq, Mode.afterPlain]
    | comment => simp [step, release, Mode.read, hb, hn, Mode.afterPlain, inComment]

theorem Scan.feed_plain_mem (s : Scan) {text : String} (plain : Plain text) :
    (s.feed text).1 ∈ s.afterPlain := by
  unfold feed
  have : ∀ (cs : List Char) (t : Scan), (∀ c ∈ cs, PlainChar c) → t ∈ s.afterPlain →
      (t.run cs).1 ∈ s.afterPlain := by
    intro cs
    induction cs with
    | nil => intro t _ ht; exact ht
    | cons c cs ih =>
      intro t hcs ht
      rw [run_cons]
      apply ih _ (fun d hd => hcs d (by simp [hd]))
      have hc := hcs c (by simp)
      simp only [afterPlain, List.mem_cons] at ht ⊢
      rcases ht with rfl | ht
      · exact .inr (step_mem_afterPlain_self t hc)
      · exact .inr (step_mem_afterPlain_mode ht hc)
  exact this _ s plain (by simp [afterPlain])

theorem Plain.endsClean {text : String} (plain : Plain text) : EndsClean text := by
  unfold EndsClean
  intro h
  exact (plain _ (List.mem_of_getLast? h)).2.2.1 rfl

theorem Plain.commentSafe {text : String} (plain : Plain text) : CommentSafe text :=
  ⟨fun c hc => (plain c hc).2.2.2, plain.endsClean⟩

theorem CommentSafe.append {a b : String} (left : CommentSafe a) (right : CommentSafe b) :
    CommentSafe (a ++ b) := by
  refine ⟨fun c hc => ?_, left.2.append right.2⟩
  rw [String.toList_append, List.mem_append] at hc
  exact hc.elim (left.1 c) (right.1 c)

-- decided along the characters, as `PlainName` is
instance : DecidablePred Plain := fun text => List.decidableBAll PlainChar text.toList

instance : DecidablePred CommentSafe := fun text =>
  @instDecidableAnd _ _ (List.decidableBAll (fun c => isLineBreak c = false) text.toList)
    inferInstance

theorem Scan.feed_spaces {pre : String} (spaces : ∀ ch ∈ pre.toList, ch = ' ') :
    start.feed pre = (start, pre.toList) := by
  unfold feed
  generalize pre.toList = cs at spaces ⊢
  induction cs with
  | nil => rfl
  | cons c cs ih =>
    have blank : c = ' ' := spaces c List.mem_cons_self
    subst blank
    rw [run_cons, show start.step ' ' = (start, [' ']) from rfl,
      ih fun ch member => spaces ch (List.mem_cons_of_mem _ member)]
    rfl

theorem Scan.feed_commentLine {pre text : String} (spaces : ∀ ch ∈ pre.toList, ch = ' ')
    (safe : CommentSafe text) : start.feed (pre ++ "//" ++ text) = (inComment, pre.toList) := by
  have opening : start.feed "//" = (inComment, []) := rfl
  rw [feed_append, feed_append, feed_spaces spaces, opening, feed_inComment safe]
  simp

/-! ### What is known of the scanner along a template

Two instances of one template differ only where documentation stands. They read alike when
the scanner is inside a comment at each piece of documentation; what the scanner's state is
there is computed along the template from what is known of it: nothing, that it holds no
backslash, or that it is one of a few states. -/

/-- What is known of the scanner's state at a point of a text. -/
inductive Known where
  | any
  | settled
  | among (states : List Scan)
deriving DecidableEq

namespace Known

def Holds : Known → Scan → Prop
  | any, _ => True
  | settled, s => s.held = false
  | among states, s => s ∈ states

def within : Known → Known → Bool
  | _, any => true
  | any, _ => false
  | among states, among others => states.all others.contains
  | among states, settled => states.all (!·.held)
  | settled, settled => true
  | settled, among _ => false

theorem Holds.of_within {k k' : Known} (hw : k.within k' = true) {s : Scan} (h : k.Holds s) :
    k'.Holds s := by
  cases k' with
  | any => trivial
  | settled =>
    cases k with
    | any => simp [within] at hw
    | settled => exact h
    | among states =>
      simp only [within, List.all_eq_true, Bool.not_eq_eq_eq_not, Bool.not_true] at hw
      exact hw s h
  | among others =>
    cases k with
    | any => simp [within] at hw
    | settled => simp [within] at hw
    | among states =>
      simp only [within, List.all_eq_true, List.contains_iff_mem] at hw
      exact hw s h

theorem within_refl (k : Known) : k.within k = true := by
  cases k <;> simp [within]

end Known

/-- Two texts read alike from every state `entry` allows: they write the same and leave the
same state, which `exit` allows. -/
def Reads (entry exit : Known) (text text' : String) : Prop :=
  ∀ s, entry.Holds s → s.feed text = s.feed text' ∧ exit.Holds (s.feed text).1

theorem Reads.empty (k : Known) : Reads k k "" "" := fun _ h => ⟨rfl, h⟩

theorem Reads.append {k₁ k₂ k₃ : Known} {a a' b b' : String} (first : Reads k₁ k₂ a a')
    (second : Reads k₂ k₃ b b') : Reads k₁ k₃ (a ++ b) (a' ++ b') := by
  intro s hs
  obtain ⟨sameA, afterA⟩ := first s hs
  obtain ⟨sameB, afterB⟩ := second _ afterA
  rw [Scan.feed_append, Scan.feed_append, ← sameA, ← sameB]
  exact ⟨rfl, afterB⟩

theorem Reads.mono {k₁ k₂ k₁' k₂' : Known} {a a' : String} (reads : Reads k₁ k₂ a a')
    (pre : k₁'.within k₁ = true) (post : k₂.within k₂' = true) : Reads k₁' k₂' a a' :=
  fun s hs =>
    let r := reads s (hs.of_within pre)
    ⟨r.1, r.2.of_within post⟩

theorem Reads.join {k : Known} :
    ∀ {texts texts' : List String}, List.Forall₂ (Reads k k) texts texts' →
      Reads k k (String.join texts) (String.join texts')
  | [], [], .nil => Reads.empty k
  | _ :: _, _ :: _, .cons head rest => by
    simp only [String.join_cons]
    exact head.append (Reads.join rest)

theorem stripLineComments_eq_of_reads {k : Known} {text text' : String}
    (reads : Reads (.among [Scan.start]) k text text') :
    stripLineComments text = stripLineComments text' := by
  unfold stripLineComments
  rw [(reads Scan.start (List.mem_singleton_self _)).1]

/-- The part a piece plays in a template whose two instances are compared. -/
inductive Shape where
  | fixed (text : String)
  | plain
  | code
  | same
  | doc
  | part (entry exit : Known)

/-- What is known after characters read from a state that holds no backslash: a line feed
resets the scanner, and the characters after it lead on to one state. -/
def Known.afterSettled (cs : List Char) : Known :=
  match resync false cs with
  | some rest => among [(Scan.start.run rest).1]
  | none => if cs.getLast? = some '\\' then any else settled

/-- What is known after characters read from any state: the first character that is no
backslash leaves no backslash held. -/
def Known.afterAny : List Char → Known
  | [] => any
  | c :: cs => if c = '\\' then afterAny cs else afterSettled cs

/-- What is known after a fixed text: from a few states, the states it leads them to; from any
other state, what is known once a character has left no backslash held. -/
def Known.afterFixed (text : String) : Known → Known
  | among states => among (states.map fun s => (s.feed text).1)
  | settled => afterSettled text.toList
  | any => afterAny text.toList

def Shape.next : Shape → Known → Option Known
  | .fixed text, k => some (k.afterFixed text)
  | .plain, .among states => some (.among (states.flatMap Scan.afterPlain))
  | .plain, k => some k
  | .code, k => some (if k.within .settled then .settled else .any)
  | .same, _ => some .any
  | .doc, k => if k.within (.among [Scan.inComment]) then some k else none
  | .part entry exit, k => if k.within entry then some exit else none

def check : List Shape → Known → Option Known
  | [], k => some k
  | shape :: rest, k => (shape.next k).bind (check rest)

/-- A piece of a template's instance: its shape and its text. -/
structure Piece where
  shape : Shape
  text : String

def render (pieces : List Piece) : String := String.join (pieces.map (·.text))

/-- Two pieces of one shape, as two instances of a template hold them. -/
inductive Piece.Twin : Piece → Piece → Prop
  | fixed (text : String) : Twin ⟨.fixed text, text⟩ ⟨.fixed text, text⟩
  | plain {v : String} (plain : Plain v) : Twin ⟨.plain, v⟩ ⟨.plain, v⟩
  | code {v : String} (clean : EndsClean v) : Twin ⟨.code, v⟩ ⟨.code, v⟩
  | same (v : String) : Twin ⟨.same, v⟩ ⟨.same, v⟩
  | doc {d d' : String} (safe : CommentSafe d) (safe' : CommentSafe d') :
      Twin ⟨.doc, d⟩ ⟨.doc, d'⟩
  | part {v v' : String} {entry exit : Known} (reads : Reads entry exit v v') :
      Twin ⟨.part entry exit, v⟩ ⟨.part entry exit, v'⟩

theorem Known.afterSettled_holds {s : Scan} (settled : s.held = false) (cs : List Char) :
    (afterSettled cs).Holds (s.run cs).1 := by
  unfold afterSettled
  split
  · rename_i rest hrest
    have : (s.run cs).1 = (Scan.start.run rest).1 :=
      Scan.run_of_resync (by rw [settled]; exact hrest)
    simp [Holds, this]
  · split
    · trivial
    · rename_i notBackslash
      show (s.run cs).1.held = false
      rw [Scan.held_run]
      cases h : cs.getLast? with
      | none => simpa using settled
      | some c =>
        have : c ≠ '\\' := fun hc => notBackslash (hc ▸ h)
        simpa using this

theorem Known.afterAny_holds (s : Scan) (cs : List Char) : (afterAny cs).Holds (s.run cs).1 := by
  induction cs generalizing s with
  | nil => trivial
  | cons c cs ih =>
    rw [Scan.run_cons]
    unfold afterAny
    split
    · exact ih _
    · rename_i notBackslash
      exact afterSettled_holds (by rw [Scan.held_step]; simpa using notBackslash) cs

theorem Known.afterFixed_holds {text : String} (k : Known) {s : Scan} (hs : k.Holds s) :
    (k.afterFixed text).Holds (s.feed text).1 := by
  cases k with
  | among states => exact List.mem_map_of_mem hs
  | settled => exact afterSettled_holds hs _
  | any => exact afterAny_holds s _

theorem Piece.Twin.reads {p q : Piece} (twin : p.Twin q) {k k' : Known}
    (h : p.shape.next k = some k') : Reads k k' p.text q.text := by
  cases twin with
  | fixed text =>
    simp only [Shape.next, Option.some.injEq] at h
    subst h
    exact fun s hs => ⟨rfl, Known.afterFixed_holds k hs⟩
  | plain plain =>
    intro s hs
    refine ⟨rfl, ?_⟩
    cases k with
    | among states =>
      simp only [Shape.next, Option.some.injEq] at h
      subst h
      exact List.mem_flatMap.mpr ⟨s, hs, Scan.feed_plain_mem s plain⟩
    | settled =>
      simp only [Shape.next, Option.some.injEq] at h
      subst h
      exact Scan.held_feed_of_endsClean hs plain.endsClean
    | any =>
      simp only [Shape.next, Option.some.injEq] at h
      subst h
      trivial
  | code clean =>
    intro s hs
    refine ⟨rfl, ?_⟩
    simp only [Shape.next, Option.some.injEq] at h
    subst h
    split
    · rename_i hw
      exact Scan.held_feed_of_endsClean (hs.of_within hw) clean
    · trivial
  | same v =>
    simp only [Shape.next, Option.some.injEq] at h
    subst h
    exact fun _ _ => ⟨rfl, trivial⟩
  | doc safe safe' =>
    intro s hs
    simp only [Shape.next] at h
    split at h
    · rename_i hw
      simp only [Option.some.injEq] at h
      subst h
      have inside : s = Scan.inComment := by simpa [Known.Holds] using hs.of_within hw
      subst inside
      rw [Scan.feed_inComment safe, Scan.feed_inComment safe']
      exact ⟨rfl, hs⟩
    · simp at h
  | part reads =>
    simp only [Shape.next] at h
    split at h
    · rename_i hw
      simp only [Option.some.injEq] at h
      subst h
      exact reads.mono hw (Known.within_refl _)
    · simp at h

namespace Piece

def lit (text : String) : Piece := ⟨.fixed text, text⟩

def value (text : String) : Piece := ⟨.plain, text⟩

def code (text : String) : Piece := ⟨.code, text⟩

def same (text : String) : Piece := ⟨.same, text⟩

def doc (text : String) : Piece := ⟨.doc, text⟩

def part (entry exit : Known) (text : String) : Piece := ⟨.part entry exit, text⟩

@[simp] theorem twin_lit (text : String) : Twin (lit text) (lit text) ↔ True :=
  ⟨fun _ => trivial, fun _ => .fixed text⟩

@[simp] theorem twin_value (v : String) : Twin (value v) (value v) ↔ Plain v :=
  ⟨fun h => by cases h; assumption, fun h => .plain h⟩

@[simp] theorem twin_code (v : String) : Twin (code v) (code v) ↔ EndsClean v :=
  ⟨fun h => by cases h; assumption, fun h => .code h⟩

@[simp] theorem twin_same (v : String) : Twin (same v) (same v) ↔ True :=
  ⟨fun _ => trivial, fun _ => .same v⟩

@[simp] theorem twin_doc (d d' : String) :
    Twin (doc d) (doc d') ↔ CommentSafe d ∧ CommentSafe d' :=
  ⟨fun h => by cases h; exact ⟨‹_›, ‹_›⟩, fun h => .doc h.1 h.2⟩

@[simp] theorem twin_part (entry exit : Known) (v v' : String) :
    Twin (part entry exit v) (part entry exit v') ↔ Reads entry exit v v' :=
  ⟨fun h => by cases h; assumption, fun h => .part h⟩

end Piece

/-- Two instances of a template read alike when their pieces are twins and each piece may stand
where it does: the state the scanner is in at every piece of documentation is a comment. -/
theorem reads_of_check :
    ∀ {ps qs : List Piece}, List.Forall₂ Piece.Twin ps qs → ∀ {k k' : Known},
      check (ps.map (·.shape)) k = some k' → Reads k k' (render ps) (render qs)
  | [], [], .nil, k, k', h => by
    simp only [List.map_nil, check, Option.some.injEq] at h
    subst h
    exact Reads.empty k
  | p :: ps, q :: qs, .cons twin rest, k, k', h => by
    simp only [List.map_cons, check, Option.bind_eq_some_iff] at h
    obtain ⟨middle, first, others⟩ := h
    simp only [render, List.map_cons, String.join_cons]
    exact (twin.reads first).append (reads_of_check rest others)

/-- Texts joined by a separator read alike when the texts do and the separator leads back to
where each text starts. -/
theorem Reads.intercalate {k₁ k₂ : Known} {sep : String} (between : Reads k₂ k₁ sep sep)
    (within : k₁.within k₂ = true) :
    ∀ {xs ys : List String}, List.Forall₂ (Reads k₁ k₂) xs ys →
      Reads k₁ k₂ (sep.intercalate xs) (sep.intercalate ys)
  | [], [], .nil => (Reads.empty k₁).mono (Known.within_refl _) within
  | [_], [_], .cons head .nil => by simpa [String.intercalate_singleton] using head
  | _ :: _ :: _, _ :: _ :: _, .cons head (.cons next rest) => by
    rw [String.intercalate_cons_cons, String.intercalate_cons_cons]
    exact (head.append between).append (Reads.intercalate between within (.cons next rest))

/-! ### Code that keeps out of literals -/

/-- Code that leaves the scanner in plain code, outside literals and holding nothing, wherever
plain code left it. -/
def Calm (text : String) : Prop := ∀ s ∈ codeStates, (s.feed text).1 ∈ codeStates

instance : DecidablePred Calm := fun _ => inferInstanceAs (Decidable (∀ _ ∈ codeStates, _))

theorem Calm.append {a b : String} (first : Calm a) (second : Calm b) : Calm (a ++ b) :=
  fun s hs => by
    rw [Scan.feed_append]
    exact second _ (first s hs)

theorem Plain.calm {text : String} (plain : Plain text) : Calm text := by
  intro s hs
  have covered : ∀ t ∈ s.afterPlain, t ∈ codeStates := by
    simp only [codeStates, List.mem_cons, List.not_mem_nil, or_false] at hs
    rcases hs with rfl | rfl | rfl <;> decide
  exact covered _ (Scan.feed_plain_mem s plain)

theorem Reads.of_calm {text : String} (calm : Calm text) :
    Reads (.among codeStates) (.among codeStates) text text :=
  fun s hs => ⟨rfl, calm s hs⟩

abbrev Checked (entry exit : Known) (ps : List Piece) : Prop :=
  (check (ps.map (·.shape)) entry).any (·.within exit) = true

theorem reads_of_check_within {ps qs : List Piece} (twins : List.Forall₂ Piece.Twin ps qs)
    {entry exit : Known} (h : Checked entry exit ps) :
    Reads entry exit (render ps) (render qs) := by
  unfold Checked at h
  cases hc : check (ps.map (·.shape)) entry with
  | none => simp [hc] at h
  | some k =>
    simp only [hc, Option.any_some] at h
    exact (reads_of_check twins hc).mono (Known.within_refl _) h

end SketchGen.Cpp
