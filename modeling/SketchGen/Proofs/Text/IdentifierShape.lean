import SketchGen.Proofs.Text.CaseMapping

namespace SketchGen.Text

/-! The shape of an identifier. The words of a name hold no blank, and case mapping makes no
blank from a character that is not one, so no identifier holds a blank. On ASCII, full case
mapping is ASCII case mapping: a name written in ASCII letters and digits, underscores, hyphens
and blanks, whose first word starts with no digit, gives a C identifier once its hyphens have
become underscores. No identifier starts with an ASCII capital: its first word is lowercased. -/

/-! ### Blanks as code points -/

def CodeRange.codes (r : CodeRange) : List Nat := List.range' r.lo (r.hi + 1 - r.lo)

theorem CodeRange.memTable_iff (table : List CodeRange) (c : Char) :
    memTable table c = true ↔ c.toNat ∈ table.flatMap CodeRange.codes := by
  simp only [memTable, contains, codes, List.any_eq_true, List.mem_flatMap, List.mem_range'_1,
    Bool.and_eq_true, decide_eq_true_eq]
  exact exists_congr fun r => and_congr_right fun _ => by omega

def blankCodes : List Nat := blankRanges.flatMap CodeRange.codes

theorem isBlank_eq_false_iff (c : Char) : isBlank c = false ↔ c.toNat ∉ blankCodes := by
  rw [← Bool.not_eq_true, isBlank, CodeRange.memTable_iff]
  rfl

theorem caseClosed_blank : CaseClosed blankCodes where
  lowerRuns := by decide +kernel
  titleRuns := by decide +kernel
  lowerExpansions := by decide +kernel
  titleExpansions := by decide +kernel
  zero := by decide
  sigmas := by decide
  underscore := by decide

theorem word_of_mem_wordsFrom : ∀ {current cs : List Char} {w : String},
    (∀ c ∈ current, isBlank c = false) → w ∈ wordsFrom current cs →
      w.toList ≠ [] ∧ ∀ c ∈ w.toList, isBlank c = false
  | current, [], w, held, hw => by
    unfold wordsFrom at hw
    split at hw
    · simp at hw
    · rename_i filled
      obtain rfl := List.mem_singleton.mp hw
      simpa [List.isEmpty_iff] using And.intro filled held
  | current, d :: cs, w, held, hw => by
    unfold wordsFrom at hw
    split at hw
    · -- a blank ends the current word
      split at hw
      · exact word_of_mem_wordsFrom (by simp) hw
      · rename_i filled
        rcases List.mem_cons.mp hw with rfl | hw
        · simpa [List.isEmpty_iff] using And.intro filled held
        · exact word_of_mem_wordsFrom (by simp) hw
    · rename_i notBlank
      exact word_of_mem_wordsFrom (by simpa [notBlank] using held) hw

theorem word_of_mem_words {s w : String} (hw : w ∈ words s) :
    w.toList ≠ [] ∧ ∀ c ∈ w.toList, isBlank c = false ∧ c ∈ s.toList := by
  obtain ⟨nonempty, clear⟩ := word_of_mem_wordsFrom (by simp) hw
  refine ⟨nonempty, fun c hc => ⟨clear c hc, ?_⟩⟩
  simpa using mem_of_mem_wordsFrom hw c hc

/-! ### Case mapping on ASCII -/

theorem ascii_forall {P : Char → Prop} (h : ∀ n < 128, P (Char.ofNat n)) {c : Char}
    (ascii : c.toNat < 128) : P c := by
  simpa using h c.toNat ascii

theorem CaseRun.lookup_of_below {table : List CaseRun} {c : Char}
    (below : ∀ r ∈ table, c.toNat < r.start) : CaseRun.lookup table c = none := by
  have missing : table.find? (·.covers c.toNat) = none := List.find?_eq_none.mpr
    fun r member covers => by
      have := below r member
      simp only [CaseRun.covers, Bool.and_eq_true, decide_eq_true_eq] at covers
      omega
  simp [CaseRun.lookup, missing]

theorem CaseRun.expand_of_below {table : List (Nat × List Nat)} {c : Char}
    (below : ∀ e ∈ table, c.toNat < e.1) : CaseRun.expand table c = none := by
  have missing : table.find? (·.1 == c.toNat) = none := List.find?_eq_none.mpr
    fun e member hit => by
      have := below e member
      simp only [beq_iff_eq] at hit
      omega
  simp [CaseRun.expand, missing]

theorem CaseRun.lookup_cons_of_below {r : CaseRun} {rest : List CaseRun} {c : Char}
    (below : ∀ s ∈ rest, c.toNat < s.start) :
    CaseRun.lookup (r :: rest) c = CaseRun.lookup [r] c := by
  have tail := CaseRun.lookup_of_below below
  unfold CaseRun.lookup at tail ⊢
  cases covered : r.covers c.toNat <;> simp_all

theorem caseChars_of_lt {c : Char} (ascii : c.toNat < 128) :
    lowerChar c = [c.toLower] ∧ titleChar c = [c.toUpper] := by
  have lowerRest : ∀ r ∈ lowerRuns.tail, 128 ≤ r.start := by decide +kernel
  have titleRest : ∀ r ∈ titleRuns.tail, 128 ≤ r.start := by decide +kernel
  have lowerMany : ∀ e ∈ lowerExpansions, 128 ≤ e.1 := by decide +kernel
  have titleMany : ∀ e ∈ titleExpansions, 128 ≤ e.1 := by decide +kernel
  have lowerSplit : lowerRuns = ⟨0x41, 26, 1, 32⟩ :: lowerRuns.tail := rfl
  have titleSplit : titleRuns = ⟨0x61, 26, 1, -32⟩ :: titleRuns.tail := rfl
  unfold lowerChar titleChar
  rw [CaseRun.expand_of_below fun e he => Nat.lt_of_lt_of_le ascii (lowerMany e he),
    CaseRun.expand_of_below fun e he => Nat.lt_of_lt_of_le ascii (titleMany e he),
    lowerSplit, titleSplit,
    CaseRun.lookup_cons_of_below fun r hr => Nat.lt_of_lt_of_le ascii (lowerRest r hr),
    CaseRun.lookup_cons_of_below fun r hr => Nat.lt_of_lt_of_le ascii (titleRest r hr)]
  exact @ascii_forall (fun c => [(CaseRun.lookup [⟨0x41, 26, 1, 32⟩] c).getD c] = [c.toLower] ∧
      [(CaseRun.lookup [⟨0x61, 26, 1, -32⟩] c).getD c] = [c.toUpper]) (by decide +kernel) c ascii

theorem lowerFrom_of_lt : ∀ (before : List Char) {cs : List Char}, (∀ c ∈ cs, c.toNat < 128) →
    lowerFrom before cs = cs.map Char.toLower
  | _, [], _ => rfl
  | before, c :: cs, ascii => by
    have small := ascii c List.mem_cons_self
    have notSigma : c ≠ 'Σ' := by
      rintro rfl
      exact absurd small (by decide)
    simp only [lowerFrom, notSigma, if_false, (caseChars_of_lt small).1, List.map_cons,
      lowerFrom_of_lt (c :: before) fun d hd => ascii d (List.mem_cons_of_mem c hd)]
    rfl

/-! ### Names written in ASCII -/

/-- A character of a name other than a blank, as C names allow it once hyphens are underscores:
an ASCII letter or digit, the underscore or the hyphen. -/
def NameChar (c : Char) : Prop := c.isAlphanum = true ∨ c = '_' ∨ c = '-'

instance : DecidablePred NameChar := fun _ => inferInstanceAs (Decidable (_ ∨ _))

def IdentChar (c : Char) : Prop := c.isAlphanum = true ∨ c = '_'

def CIdentifier (s : String) : Prop :=
  ∃ c cs, s.toList = c :: cs ∧ (c.isAlpha = true ∨ c = '_') ∧ ∀ d ∈ cs, IdentChar d

theorem NameChar.toNat_lt {c : Char} (h : NameChar c) : c.toNat < 128 := by
  rcases h with alnum | rfl | rfl
  · simp only [Char.isAlphanum, Char.isAlpha, Char.isUpper, Char.isLower, Char.isDigit,
      Bool.or_eq_true, Bool.and_eq_true, decide_eq_true_eq, ge_iff_le,
      UInt32.le_iff_toNat_le] at alnum
    -- every ASCII letter and digit lies at or below `z`
    have bound : ('z' : Char).val.toNat = 122 ∧ ('Z' : Char).val.toNat = 90 ∧
        ('9' : Char).val.toNat = 57 := ⟨rfl, rfl, rfl⟩
    have same : c.toNat = c.val.toNat := rfl
    omega
  · decide
  · decide

theorem NameChar.cases {c : Char} (h : NameChar c) :
    NameChar c.toLower ∧ NameChar c.toUpper ∧
      (c.isDigit = false → c.toLower.isAlpha = true ∨ c.toLower = '_' ∨ c.toLower = '-') :=
  @ascii_forall (fun c => NameChar c → NameChar c.toLower ∧ NameChar c.toUpper ∧
      (c.isDigit = false → c.toLower.isAlpha = true ∨ c.toLower = '_' ∨ c.toLower = '-'))
    (by decide +kernel) c h.toNat_lt h

def unhyphen (c : Char) : Char := if c = '-' then '_' else c

theorem NameChar.unhyphen {c : Char} (h : NameChar c) : IdentChar (unhyphen c) := by
  unfold Text.unhyphen
  split
  · exact .inr rfl
  · rename_i notHyphen
    rcases h with alnum | underscore | hyphen
    · exact .inl alnum
    · exact .inr underscore
    · exact absurd hyphen notHyphen


def NameText (s : String) : Prop := ∀ c ∈ s.toList, NameChar c

theorem NameText.toList_lower {s : String} (h : NameText s) :
    (lower s).toList = s.toList.map Char.toLower := by
  rw [Text.lower, String.toList_ofList, lowerFrom_of_lt [] fun c hc => (h c hc).toNat_lt]

theorem NameText.lower {s : String} (h : NameText s) : NameText (lower s) := by
  intro d hd
  rw [h.toList_lower] at hd
  obtain ⟨c, hc, rfl⟩ := List.mem_map.mp hd
  exact (h c hc).cases.1

theorem NameText.capitalize {s : String} (h : NameText s) : NameText (capitalize s) := by
  intro d hd
  unfold Text.capitalize at hd
  split at hd
  · simp at hd
  · rename_i c rest chars
    have head : NameChar c := h c (by simp [chars])
    have tail : NameText (String.ofList rest) := fun e he => h e (by simp_all)
    rw [String.toList_ofList, (caseChars_of_lt head.toNat_lt).2, List.singleton_append] at hd
    rcases List.mem_cons.mp hd with rfl | hd
    · exact head.cases.2.1
    · rw [lowerFrom_of_lt [c] fun e he => (tail e (by simpa using he)).toNat_lt] at hd
      obtain ⟨e, he, rfl⟩ := List.mem_map.mp hd
      exact (tail e (by simpa using he)).cases.1

theorem NameText.append {a b : String} (left : NameText a) (right : NameText b) :
    NameText (a ++ b) := by
  intro c hc
  rw [String.toList_append, List.mem_append] at hc
  exact hc.elim (left c) (right c)

theorem NameText.join : ∀ {texts : List String}, (∀ t ∈ texts, NameText t) →
    NameText (String.join texts)
  | [], _ => fun _ h => by simp at h
  | t :: ts, h => by
    rw [String.join_cons]
    exact (h t (by simp)).append (NameText.join fun u hu => h u (by simp [hu]))

theorem toList_underscored (s : String) : (Sketch.underscored s).toList = s.toList.map unhyphen := by
  simp [Sketch.underscored, unhyphen]

theorem cIdentifier_camelCase {w : String} {ws : List String} (first : NameText w)
    (rest : ∀ v ∈ ws, NameText v) (nonempty : w.toList ≠ [])
    (start : ∀ c ∈ w.toList.head?, c.isDigit = false) : CIdentifier (Sketch.camelCase w ws) := by
  obtain ⟨c, cs, chars⟩ := List.exists_cons_of_ne_nil nonempty
  have head : NameChar c := first c (by simp [chars])
  have tail : NameText (String.ofList (cs.map Char.toLower) ++ String.join (ws.map capitalize)) := by
    refine NameText.append (fun d hd => ?_) (NameText.join fun t ht => ?_)
    · obtain ⟨e, he, rfl⟩ := List.mem_map.mp (by simpa using hd)
      exact (first e (by simp [chars, he])).cases.1
    · obtain ⟨v, hv, rfl⟩ := List.mem_map.mp ht
      exact (rest v hv).capitalize
  refine ⟨unhyphen c.toLower, (String.ofList (cs.map Char.toLower) ++
    String.join (ws.map capitalize)).toList.map unhyphen, ?_, ?_, ?_⟩
  · simp [Sketch.camelCase, toList_underscored, first.toList_lower, chars]
  · -- the first word starts with a letter, an underscore or a hyphen
    rcases head.cases.2.2 (start c (by simp [chars])) with letter | underscore | hyphen
    · left
      have notHyphen : c.toLower ≠ '-' := fun h => by simp [h] at letter
      simpa [unhyphen, notHyphen] using letter
    · right
      simp [unhyphen, underscore]
    · right
      simp [unhyphen, hyphen]
  · intro d hd
    obtain ⟨e, he, rfl⟩ := List.mem_map.mp hd
    exact (tail e he).unhyphen

theorem identifier?_not_blank {name i : String} (h : Sketch.identifier? name = some i) :
    ∀ c ∈ i.toList, isBlank c = false := by
  unfold Sketch.identifier? at h
  split at h
  · cases h
  · rename_i w ws worded
    obtain rfl := Option.some.inj h
    have clear : ∀ v ∈ w :: ws, Avoids blankCodes v := fun v hv c hc =>
      (isBlank_eq_false_iff c).mp ((word_of_mem_words (worded ▸ hv)).2 c hc).1
    have avoids := (clear w (by simp)).camelCase caseClosed_blank fun v hv =>
      clear v (List.mem_cons_of_mem w hv)
    exact fun c hc => (isBlank_eq_false_iff c).mpr (avoids c hc)

/-! ### The first character of an identifier -/

def capitalCodes : List Nat := List.range' 65 26

theorem lowerClosed_capitals : LowerClosed capitalCodes where
  lowerRuns := by decide +kernel
  lowerExpansions := by decide +kernel
  zero := by decide
  sigmas := by decide

theorem isUpper_eq_false_iff (c : Char) : c.isUpper = false ↔ c.toNat ∉ capitalCodes := by
  have a : ('A' : Char).val.toNat = 65 := rfl
  have z : ('Z' : Char).val.toNat = 90 := rfl
  have same : c.toNat = c.val.toNat := rfl
  simp only [Char.isUpper, decide_eq_false_iff_not, UInt32.le_iff_toNat_le,
    capitalCodes, List.mem_range'_1]
  omega

/-- Lowercasing a character makes no ASCII capital: an ASCII character becomes its ASCII lower
case, and the table sends no other onto a capital. -/
theorem lowerChar_not_upper (c : Char) : ∀ d ∈ lowerChar c, d.isUpper = false := by
  by_cases ascii : c.toNat < 128
  · rw [(caseChars_of_lt ascii).1]
    intro d hd
    rw [List.mem_singleton.mp hd]
    exact Char.isUpper_toLower_eq_false c
  · intro d hd
    refine (isUpper_eq_false_iff d).mpr (lowerChar_avoids lowerClosed_capitals ?_ d hd)
    simp only [capitalCodes, List.mem_range'_1]
    omega

theorem lowerChar_ne_nil (c : Char) : lowerChar c ≠ [] := by
  unfold lowerChar
  split
  · rename_i cs h
    simp only [CaseRun.expand, Option.map_eq_some_iff] at h
    obtain ⟨e, found, rfl⟩ := h
    have filled : ∀ e ∈ lowerExpansions, e.2 ≠ [] := by decide
    simpa using filled e (List.mem_of_find?_eq_some found)
  · exact List.cons_ne_nil _ _

/-- An identifier starts with a character that is no ASCII capital: its first word is
lowercased. -/
theorem identifier?_head {name i : String} (h : Sketch.identifier? name = some i) :
    ∃ c rest, i.toList = c :: rest ∧ c.isUpper = false := by
  unfold Sketch.identifier? at h
  split at h
  · cases h
  · rename_i w ws worded
    obtain rfl := Option.some.inj h
    obtain ⟨c, cs, chars⟩ := List.exists_cons_of_ne_nil
      (word_of_mem_words (show w ∈ words name by simp [worded])).1
    obtain ⟨d, more, mapped, first⟩ : ∃ d more, (if c = 'Σ' then
        [if endsWord [] cs then 'ς' else 'σ'] else lowerChar c) = d :: more ∧ d.isUpper = false := by
      split
      · exact ⟨_, [], rfl, by split <;> decide⟩
      · obtain ⟨d, more, mapped⟩ := List.exists_cons_of_ne_nil (lowerChar_ne_nil c)
        exact ⟨d, more, mapped, lowerChar_not_upper c d (by simp [mapped])⟩
    refine ⟨unhyphen d, ?_, ?_, ?_⟩
    rotate_left
    · rw [Sketch.camelCase, toList_underscored, String.toList_append, Text.lower,
        String.toList_ofList, chars, lowerFrom, mapped, List.cons_append, List.cons_append,
        List.map_cons]
    · unfold unhyphen
      split
      · decide
      · exact first

end SketchGen.Text

namespace SketchGen.Sketch

open SketchGen.Text

/-- The identifier of a text is missing exactly when the text has no word. Otherwise it holds no
blank, and when the text is written in ASCII letters and digits, underscores, hyphens and blanks
and its first word starts with no digit, it is a C identifier. -/
theorem identifierOf_shape (s : String) :
    (identifierOf (.str s) = .error (.noFirstItem .list) ↔ words s = []) ∧
    (words s ≠ [] → ∃ i, identifierOf (.str s) = .ok i ∧ (∀ c ∈ i.toList, isBlank c = false) ∧
      ((∀ c ∈ s.toList, NameChar c ∨ isBlank c = true) →
        (∀ w ∈ (words s).head?, ∀ c ∈ w.toList.head?, c.isDigit = false) → CIdentifier i)) := by
  constructor
  · cases worded : words s with
    | nil => simp [identifierOf, identifier?, worded]
    | cons w ws => simp [identifierOf, identifier?, worded]
  · intro worded
    obtain ⟨w, ws, split⟩ := List.exists_cons_of_ne_nil worded
    have made : identifier? s = some (camelCase w ws) := by simp [identifier?, split]
    refine ⟨camelCase w ws, by simp [identifierOf, made], identifier?_not_blank made, ?_⟩
    intro written start
    -- the words hold the text's characters other than its blanks
    have wordText : ∀ v ∈ words s, NameText v := fun v hv c hc => by
      obtain ⟨clear, mem⟩ := (word_of_mem_words hv).2 c hc
      exact (written c mem).resolve_right (by simp [clear])
    exact cIdentifier_camelCase (wordText w (by simp [split]))
      (fun v hv => wordText v (by simp [split, hv])) (word_of_mem_words (show w ∈ words s by simp [split])).1
      (start w (by simp [split]))

theorem identifierOf_eq_ok {v : Json.Value} {i : String} (made : identifierOf v = .ok i) :
    ∃ s, v = .str s ∧ identifier? s = some i := by
  cases v with
  | str s =>
    simp only [identifierOf] at made
    split at made
    · rename_i named
      exact ⟨s, rfl, named.trans (congrArg some (Except.ok.inj made))⟩
    · cases made
  | _ => cases made

/-- A name with a hyphen, a word that starts with a digit and a tab gives a C identifier. -/
theorem hyphenatedName_shape :
    identifierOf (.str "Motor-speed 2nd\tlevel") = .ok "motor_speed2ndLevel" ∧
      CIdentifier "motor_speed2ndLevel" := by
  obtain ⟨i, made, -, shaped⟩ := (identifierOf_shape "Motor-speed 2nd\tlevel").2 (by decide +kernel)
  have computed : identifierOf (.str "Motor-speed 2nd\tlevel") = .ok "motor_speed2ndLevel" := by
    rfl
  obtain rfl : i = "motor_speed2ndLevel" := Except.ok.inj (made.symm.trans computed)
  -- the checks go through named lists: a quantifier over characters left to instance search is
  -- decided, under all of Mathlib, by a search over every character
  have firstWord : (words "Motor-speed 2nd\tlevel").head? = some "Motor-speed" := by decide +kernel
  refine ⟨computed, shaped ?_ (by simp [firstWord])⟩
  exact @of_decide_eq_true _ (List.decidableBAll _ _) (by decide +kernel)

end SketchGen.Sketch
