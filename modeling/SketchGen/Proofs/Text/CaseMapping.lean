import Mathlib
import SketchGen.Proofs.Cpp.LineComments
import SketchGen.Sketch.Identifier

namespace SketchGen.Text

open SketchGen.Cpp

/-! Case mapping makes no character of a closed set of code points from a character outside
it: no case mapping sends a character onto a quote, the backslash or a line break, nor onto `/`.
Lowercasing and capitalising keep a text clear of such a set, and so do the identifiers made of
the words of a name. -/

/-- The code points of the characters that are not plain: the two quotes, the backslash and
the line breaks. -/
def unplainCodes : List Nat :=
  [0x22, 0x27, 0x5C, 0xA, 0xB, 0xC, 0xD, 0x1C, 0x1D, 0x1E, 0x85, 0x2028, 0x2029]

theorem plainChar_iff (c : Char) : PlainChar c ↔ c.toNat ∉ unplainCodes := by
  have quote : c ≠ '"' ↔ c.toNat ≠ 0x22 := by rw [ne_eq, ne_eq, ← Char.toNat_inj]; rfl
  have apostrophe : c ≠ '\'' ↔ c.toNat ≠ 0x27 := by rw [ne_eq, ne_eq, ← Char.toNat_inj]; rfl
  have backslash : c ≠ '\\' ↔ c.toNat ≠ 0x5C := by rw [ne_eq, ne_eq, ← Char.toNat_inj]; rfl
  simp only [PlainChar, quote, apostrophe, backslash, isLineBreak, CodeRange.memTable,
    lineBreakRanges, List.any_cons, List.any_nil, CodeRange.contains, unplainCodes]
  simp
  omega

theorem toNat_charOfNat (n : Nat) :
    (Char.ofNat n).toNat = if n.isValidChar then n else 0 := by
  unfold Char.ofNat
  split <;> simp [Char.ofNatAux, Char.toNat]

def CaseRun.avoids (codes : List Nat) (r : CaseRun) : Bool :=
  codes.all fun p => !(decide (0 ≤ (p : Int) - r.delta) && r.covers ((p : Int) - r.delta).toNat)

def expansionAvoids (codes : List Nat) (e : Nat × List Nat) : Bool :=
  e.2.all fun n => !codes.contains (Char.ofNat n).toNat

/-- Code points that lowercasing never reaches: no run or expansion of the lower table lands on
one, and neither the code point an invalid one falls back to nor the two small sigmas is one of
them. -/
structure LowerClosed (codes : List Nat) : Prop where
  lowerRuns : lowerRuns.all (CaseRun.avoids codes) = true
  lowerExpansions : lowerExpansions.all (expansionAvoids codes) = true
  zero : 0 ∉ codes
  sigmas : 'σ'.toNat ∉ codes ∧ 'ς'.toNat ∉ codes

/-- Code points that case mapping never reaches: lowercasing does not, no run or expansion of the
title table lands on one, and the underscore that replaces a hyphen is not one of them. -/
structure CaseClosed (codes : List Nat) : Prop extends LowerClosed codes where
  titleRuns : titleRuns.all (CaseRun.avoids codes) = true
  titleExpansions : titleExpansions.all (expansionAvoids codes) = true
  underscore : '_'.toNat ∉ codes

theorem caseClosed_unplain : CaseClosed unplainCodes where
  lowerRuns := by decide +kernel
  titleRuns := by decide +kernel
  lowerExpansions := by decide +kernel
  titleExpansions := by decide +kernel
  zero := by decide
  sigmas := by decide
  underscore := by decide

theorem caseClosed_slash : CaseClosed ['/'.toNat] where
  lowerRuns := by decide +kernel
  titleRuns := by decide +kernel
  lowerExpansions := by decide +kernel
  titleExpansions := by decide +kernel
  zero := by decide
  sigmas := by decide
  underscore := by decide

section Closed

variable {codes : List Nat}

theorem CaseRun.lookup_avoids {table : List CaseRun}
    (avoid : table.all (CaseRun.avoids codes) = true) (zero : 0 ∉ codes) {c d : Char}
    (h : CaseRun.lookup table c = some d) : d.toNat ∉ codes := by
  simp only [CaseRun.lookup, Option.map_eq_some_iff] at h
  obtain ⟨r, found, rfl⟩ := h
  have covers := List.find?_some found
  have avoids := List.all_eq_true.mp avoid r (List.mem_of_find?_eq_some found)
  rw [toNat_charOfNat]
  split
  · intro mem
    have := List.all_eq_true.mp avoids _ mem
    simp only [Bool.not_eq_eq_eq_not, Bool.not_true, Bool.and_eq_false_iff,
      decide_eq_false_iff_not] at this
    -- the image is one of the codes, so it is not the zero they leave out
    have positive : 0 < ((c.toNat : Int) + r.delta).toNat :=
      Nat.pos_of_ne_zero fun vanishes => zero (vanishes ▸ mem)
    have exact : (((((c.toNat : Int) + r.delta).toNat : Nat) : Int) - r.delta).toNat = c.toNat := by
      omega
    rcases this with h | h
    · omega
    · rw [exact] at h
      simp_all
  · exact zero

theorem CaseRun.expand_avoids {table : List (Nat × List Nat)}
    (avoid : table.all (expansionAvoids codes) = true) {c : Char} {cs : List Char}
    (h : CaseRun.expand table c = some cs) : ∀ d ∈ cs, d.toNat ∉ codes := by
  simp only [CaseRun.expand, Option.map_eq_some_iff] at h
  obtain ⟨e, found, rfl⟩ := h
  have avoids := List.all_eq_true.mp avoid e (List.mem_of_find?_eq_some found)
  intro d hd
  obtain ⟨n, hn, rfl⟩ := List.mem_map.mp hd
  have := List.all_eq_true.mp avoids n hn
  simpa using this

section Lower

variable (closed : LowerClosed codes)
include closed

theorem lowerChar_avoids {c : Char} (clear : c.toNat ∉ codes) :
    ∀ d ∈ lowerChar c, d.toNat ∉ codes := by
  unfold lowerChar
  split
  · rename_i cs h
    exact CaseRun.expand_avoids closed.lowerExpansions h
  · intro d hd
    simp only [List.mem_singleton] at hd
    subst hd
    cases h : CaseRun.lookup lowerRuns c with
    | none => simpa using clear
    | some d => simpa using CaseRun.lookup_avoids closed.lowerRuns closed.zero h

theorem lowerFrom_avoids : ∀ (before : List Char) {cs : List Char},
    (∀ c ∈ cs, c.toNat ∉ codes) → ∀ d ∈ lowerFrom before cs, d.toNat ∉ codes
  | _, [], _ => by simp [lowerFrom]
  | before, c :: cs, clear => by
    intro d hd
    simp only [lowerFrom, List.mem_append] at hd
    rcases hd with mapped | rest
    · split at mapped
      · simp only [List.mem_singleton] at mapped
        subst mapped
        split
        · exact closed.sigmas.2
        · exact closed.sigmas.1
      · exact lowerChar_avoids closed (clear c (by simp)) d mapped
    · exact lowerFrom_avoids (c :: before) (fun e he => clear e (by simp [he])) d rest

end Lower

variable (closed : CaseClosed codes)
include closed

theorem titleChar_avoids {c : Char} (clear : c.toNat ∉ codes) :
    ∀ d ∈ titleChar c, d.toNat ∉ codes := by
  unfold titleChar
  split
  · rename_i cs h
    exact CaseRun.expand_avoids closed.titleExpansions h
  · intro d hd
    simp only [List.mem_singleton] at hd
    subst hd
    cases h : CaseRun.lookup titleRuns c with
    | none => simpa using clear
    | some d => simpa using CaseRun.lookup_avoids closed.titleRuns closed.zero h

end Closed

theorem mem_of_mem_wordsFrom : ∀ {current cs : List Char} {w : String}, w ∈ wordsFrom current cs →
    ∀ c ∈ w.toList, c ∈ current ∨ c ∈ cs
  | current, [], w, hw => by
    intro c hc
    unfold wordsFrom at hw
    split at hw
    · simp at hw
    · simp only [List.mem_singleton] at hw
      subst hw
      simp at hc
      exact .inl hc
  | current, d :: cs, w, hw => by
    intro c hc
    unfold wordsFrom at hw
    split at hw
    · split at hw
      · rcases mem_of_mem_wordsFrom hw c hc with h | h
        · simp at h
        · exact .inr (List.mem_cons_of_mem _ h)
      · rcases List.mem_cons.mp hw with rfl | hw
        · simp at hc
          exact .inl hc
        · rcases mem_of_mem_wordsFrom hw c hc with h | h
          · simp at h
          · exact .inr (List.mem_cons_of_mem _ h)
    · rcases mem_of_mem_wordsFrom hw c hc with h | h
      · rcases List.mem_cons.mp h with rfl | h
        · exact .inr (by simp)
        · exact .inl h
      · exact .inr (List.mem_cons_of_mem _ h)

def Avoids (codes : List Nat) (text : String) : Prop := ∀ c ∈ text.toList, c.toNat ∉ codes

section Avoids

variable {codes : List Nat}

theorem Avoids.append {a b : String} (left : Avoids codes a) (right : Avoids codes b) :
    Avoids codes (a ++ b) := by
  intro c hc
  rw [String.toList_append, List.mem_append] at hc
  exact hc.elim (left c) (right c)

theorem Avoids.join : ∀ {texts : List String}, (∀ t ∈ texts, Avoids codes t) →
    Avoids codes (String.join texts)
  | [], _ => fun _ h => by simp at h
  | t :: ts, h => by
    rw [String.join_cons]
    exact (h t (by simp)).append (Avoids.join fun u hu => h u (by simp [hu]))

theorem Avoids.of_mem_words {s w : String} (clear : Avoids codes s) (hw : w ∈ words s) :
    Avoids codes w := by
  intro c hc
  rcases mem_of_mem_wordsFrom hw c hc with h | h
  · simp at h
  · exact clear c h

variable (closed : CaseClosed codes)
include closed

theorem Avoids.lower {s : String} (clear : Avoids codes s) : Avoids codes (lower s) := by
  intro d hd
  rw [Text.lower, String.toList_ofList] at hd
  exact lowerFrom_avoids closed.toLowerClosed [] clear d hd

theorem Avoids.capitalize {s : String} (clear : Avoids codes s) :
    Avoids codes (capitalize s) := by
  intro d hd
  unfold Text.capitalize at hd
  split at hd
  · simp at hd
  · rename_i c rest h
    have clearHead : c.toNat ∉ codes := clear c (by simp [h])
    rw [String.toList_ofList, List.mem_append] at hd
    rcases hd with head | tail
    · exact titleChar_avoids closed clearHead d head
    · exact lowerFrom_avoids closed.toLowerClosed [c] (fun e he => clear e (by simp [h, he])) d tail

theorem Avoids.underscored {s : String} (clear : Avoids codes s) :
    Avoids codes (Sketch.underscored s) := by
  intro d hd
  simp only [Sketch.underscored, String.toList_ofList, List.mem_map] at hd
  obtain ⟨c, hc, rfl⟩ := hd
  split
  · exact closed.underscore
  · exact clear c hc

theorem Avoids.camelCase {w : String} {ws : List String} (first : Avoids codes w)
    (rest : ∀ v ∈ ws, Avoids codes v) : Avoids codes (Sketch.camelCase w ws) :=
  ((first.lower closed).append (Avoids.join fun t ht => by
    obtain ⟨v, hv, rfl⟩ := List.mem_map.mp ht
    exact (rest v hv).capitalize closed)).underscored closed

theorem Avoids.identifier? {name i : String} (clear : Avoids codes name)
    (h : Sketch.identifier? name = some i) : Avoids codes i := by
  unfold Sketch.identifier? at h
  split at h
  · simp at h
  · rename_i w ws hwords
    simp only [Option.some.injEq] at h
    subst h
    have words : ∀ v ∈ w :: ws, Avoids codes v := fun v hv =>
      clear.of_mem_words (by rw [hwords]; exact hv)
    exact (words w (by simp)).camelCase closed fun v hv => words v (List.mem_cons_of_mem _ hv)

end Avoids

theorem slash_not_mem_identifier? {name i : String} (clear : '/' ∉ name.toList)
    (h : Sketch.identifier? name = some i) : '/' ∉ i.toList := by
  have avoids : ∀ {s : String}, Avoids ['/'.toNat] s ↔ '/' ∉ s.toList := by
    intro s
    simp only [Avoids, List.mem_singleton, Char.toNat_inj]
    exact ⟨fun none slash => none _ slash rfl, fun none c hc same => none (same ▸ hc)⟩
  exact avoids.mp (Avoids.identifier? caseClosed_slash (avoids.mpr clear) h)

end SketchGen.Text

namespace SketchGen.Cpp

open SketchGen.Text

theorem plain_iff_avoids (text : String) : Plain text ↔ Avoids unplainCodes text :=
  forall₂_congr fun c _ => plainChar_iff c

theorem Plain.identifier? {name i : String} (plain : Plain name)
    (h : Sketch.identifier? name = some i) : Plain i :=
  (plain_iff_avoids i).mpr
    (Avoids.identifier? caseClosed_unplain ((plain_iff_avoids name).mp plain) h)

end SketchGen.Cpp
