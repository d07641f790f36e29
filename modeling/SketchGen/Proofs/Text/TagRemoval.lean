import Mathlib.Data.List.TakeWhile
import SketchGen.Text.Markup

/-! Tag removal leaves no tag. A text holds a tag when a `<` is followed later on its line by a
`>`. Removal scans from left to right and drops each `<` together with everything up to the
nearest `>` on its line; a `<` with no `>` left on its line stays, and so does the rest of that
line. Main statements: the result of removal holds no tag, and the texts that removal leaves as
they are are exactly those that hold none, so removing tags twice is removing them once. -/

namespace SketchGen.Text

def restOfLine (cs : List Char) : List Char := cs.takeWhile (· ≠ '\n')

@[simp] theorem restOfLine_nil : restOfLine [] = [] := rfl

@[simp] theorem restOfLine_newline (cs : List Char) : restOfLine ('\n' :: cs) = [] := by
  simp [restOfLine]

@[simp] theorem restOfLine_cons_of_ne {c : Char} (cs : List Char) (h : c ≠ '\n') :
    restOfLine (c :: cs) = c :: restOfLine cs := by
  simp [restOfLine, h]

theorem restOfLine_append_of_not_mem {xs : List Char} (ys : List Char) (h : '\n' ∉ xs) :
    restOfLine (xs ++ ys) = xs ++ restOfLine ys :=
  List.takeWhile_append_of_pos fun c mem => by simpa using fun same : c = '\n' => h (same ▸ mem)

theorem restOfLine_append_newline (xs ys : List Char) :
    restOfLine (xs ++ '\n' :: ys) = restOfLine xs := by
  induction xs with
  | nil => simp
  | cons c xs ih => by_cases h : c = '\n' <;> simp [h, ih]

def HasTag (cs : List Char) : Prop :=
  ∃ before inside after, cs = before ++ '<' :: (inside ++ '>' :: after) ∧ '\n' ∉ inside

theorem not_hasTag_nil : ¬HasTag [] := by
  rintro ⟨before, inside, after, h, -⟩
  simp at h

theorem not_hasTag_of_not_mem {cs : List Char} (h : '>' ∉ cs) : ¬HasTag cs := by
  rintro ⟨before, inside, after, rfl, -⟩
  simp at h

theorem hasTag_cons {c : Char} {cs : List Char} :
    HasTag (c :: cs) ↔ (c = '<' ∧ '>' ∈ restOfLine cs) ∨ HasTag cs := by
  constructor
  · rintro ⟨before, inside, after, h, clear⟩
    cases before with
    | nil =>
      obtain ⟨rfl, rfl⟩ := List.cons.inj h
      left
      simp [restOfLine_append_of_not_mem _ clear]
    | cons b before => exact .inr ⟨before, inside, after, (List.cons.inj h).2, clear⟩
  · rintro (⟨rfl, closed⟩ | ⟨before, inside, after, rfl, clear⟩)
    · -- the tag runs to the first `>` of the line
      obtain ⟨inside, after, split⟩ := List.append_of_mem closed
      have clear : '\n' ∉ inside := fun mem => by
        have := List.mem_takeWhile_imp (split ▸ List.mem_append_left _ mem : '\n' ∈ restOfLine cs)
        simp at this
      refine ⟨[], inside, after ++ cs.dropWhile (· ≠ '\n'), ?_, clear⟩
      calc '<' :: cs = '<' :: (restOfLine cs ++ cs.dropWhile (· ≠ '\n')) := by
            rw [restOfLine, List.takeWhile_append_dropWhile]
        _ = [] ++ '<' :: (inside ++ '>' :: (after ++ cs.dropWhile (· ≠ '\n'))) := by simp [split]
    · exact ⟨c :: before, inside, after, rfl, clear⟩

theorem hasTag_append_newline {xs ys : List Char} :
    HasTag (xs ++ '\n' :: ys) ↔ HasTag xs ∨ HasTag ys := by
  induction xs with
  | nil => simp [hasTag_cons, not_hasTag_nil]
  | cons c xs ih => simp [hasTag_cons, ih, restOfLine_append_newline, or_assoc]

instance decidableHasTag : DecidablePred HasTag
  | [] => isFalse not_hasTag_nil
  | _ :: cs =>
    haveI := decidableHasTag cs
    decidable_of_iff _ hasTag_cons.symm

/-! ### Removal -/

/-- Removal leaves no tag, provided the open tag holds no `>` and no line feed. An open tag is
given back only at a line feed or at the end of the text, so a `<` that stays has no `>` after
it on its line. -/
theorem not_hasTag_untagFrom (pending : Option (List Char)) (cs : List Char)
    (clean : ∀ c ∈ pending.getD [], c ≠ '>' ∧ c ≠ '\n') : ¬HasTag (untagFrom pending cs) := by
  fun_induction untagFrom pending cs with
  | case1 => exact not_hasTag_nil
  | case2 pending => exact not_hasTag_of_not_mem fun mem => (clean '>' (by simpa using mem)).1 rfl
  | case3 rest ih => exact ih (by simp)
  | case4 c rest opens ih => simpa [hasTag_cons, opens] using ih clean
  | case5 pending rest ih => exact ih (by simp)
  | case6 pending rest closes ih =>
    rw [hasTag_append_newline, not_or]
    exact ⟨not_hasTag_of_not_mem fun mem => (clean '>' (by simpa using mem)).1 rfl, ih (by simp)⟩
  | case7 pending c rest closes breaks ih =>
    exact ih fun d mem => by
      rcases List.mem_cons.mp mem with rfl | mem
      · exact ⟨closes, breaks⟩
      · exact clean d mem

theorem untagFrom_of_not_hasTag (pending : Option (List Char)) (cs : List Char)
    (free : ¬HasTag cs) (unclosed : pending.isSome → '>' ∉ restOfLine cs) :
    untagFrom pending cs = (pending.getD []).reverse ++ cs := by
  fun_induction untagFrom pending cs with
  | case1 => rfl
  | case2 pending => simp
  | case3 rest ih =>
    have ⟨closed, free⟩ : '>' ∉ restOfLine rest ∧ ¬HasTag rest := by
      simpa [hasTag_cons] using free
    simpa using ih free fun _ => closed
  | case4 c rest opens ih =>
    have free : ¬HasTag rest := fun tagged => free (hasTag_cons.mpr (.inr tagged))
    simpa using ih free (by simp)
  | case5 pending rest ih => simp at unclosed
  | case6 pending rest closes ih =>
    have free : ¬HasTag rest := fun tagged => free (hasTag_cons.mpr (.inr tagged))
    simp [ih free (by simp)]
  | case7 pending c rest closes breaks ih =>
    have free : ¬HasTag rest := fun tagged => free (hasTag_cons.mpr (.inr tagged))
    have closed : '>' ∉ restOfLine rest := (by simpa [breaks] using unclosed : _ ∧ _).2
    simp [ih free fun _ => closed]

theorem stripTags_not_hasTag (s : String) : ¬HasTag (stripTags s).toList := by
  simpa [stripTags] using not_hasTag_untagFrom none s.toList (by simp)

theorem stripTags_eq_self_iff (s : String) : stripTags s = s ↔ ¬HasTag s.toList := by
  constructor
  · intro fixed
    rw [← fixed]
    exact stripTags_not_hasTag s
  · intro free
    simp [stripTags, untagFrom_of_not_hasTag none s.toList free (by simp)]

/-- Tag removal is complete and idempotent: its result holds no `<` followed later on its line
by a `>`, and removing tags again changes nothing. -/
theorem stripTags_tag_free_idempotent (t : String) :
    ¬HasTag (stripTags t).toList ∧ stripTags (stripTags t) = stripTags t :=
  ⟨stripTags_not_hasTag t, (stripTags_eq_self_iff _).mpr (stripTags_not_hasTag t)⟩

example : stripTags "a<<b>>c\n<i\n>" = "a>c\n<i\n>" := by decide

example : HasTag "x<y>".toList ∧ ¬HasTag "x<y\n>".toList := by decide

end SketchGen.Text
