import SketchGen.Xml.Query.Select

namespace SketchGen.Xml.Query

open SketchGen.Text

/-! Paths that select descendants by tag and attribute values. The generator finds elements
with paths of one shape, `.//tag[@key='value']…`, built around attribute values. When the tag
and the keys are plain names and no value holds a single quote, such a path reads as it is
written: it selects, in document order, the descendants with that tag (any tag for `*`) whose
attributes have those values. A value with a single quote would end its literal early and
leave the rest of the value to be read as more of the path. -/

/-- A name that the tokenizer reads as one name token: not empty, made of characters that may
stand in a name, none of which is an operator, a quote or the brace of a namespace. -/
def PlainName (name : String) : Prop :=
  name ≠ "" ∧ ∀ c ∈ name.toList,
    isNameChar c = true ∧ isOpChar c = false ∧ c ≠ '\'' ∧ c ≠ '"' ∧ c ≠ '{'

-- decided along the list of characters: instance search can otherwise pick a decision over
-- every character for the bounded quantifier
instance : DecidablePred PlainName := fun name =>
  @instDecidableAnd _ _ inferInstance (List.decidableBAll _ name.toList)

def conditionText (conditions : List (String × String)) : String :=
  String.join (conditions.map fun c => "[@" ++ c.1 ++ "='" ++ c.2 ++ "']")

/-- The text of a path selecting the descendants with a tag (`*` for any) whose attributes have
the given values. -/
def descendantPath (tag : String) (conditions : List (String × String)) : String :=
  ".//" ++ tag ++ conditionText conditions

/-- Whether a descendant path with a tag and conditions selects an element: the tag matches and
the element has every value. -/
def selects (tag : String) (conditions : List (String × String)) (x : Element) : Bool :=
  descendantMatches tag x.tag && conditions.all fun c => x.get? c.1 == some c.2

def LiteralTag (pattern : String) : Prop :=
  pattern ≠ "*" ∧ pattern.startsWith "\x7b*\x7d" = false ∧ pattern.endsWith "\x7d*" = false ∧
    pattern.startsWith "\x7b\x7d" = false

instance : DecidablePred LiteralTag := fun _ => inferInstanceAs (Decidable (_ ∧ _))

def Readable (conditions : List (String × String)) : Prop :=
  ∀ c ∈ conditions, PlainName c.1 ∧ '\'' ∉ c.2.toList

def conditionTokens (c : String × String) : List (Except PathError PathToken) :=
  [.ok ⟨"[", ""⟩, .ok ⟨"@", ""⟩, .ok ⟨"", c.1⟩, .ok ⟨"=", ""⟩, .ok ⟨"'" ++ c.2 ++ "'", ""⟩,
    .ok ⟨"]", ""⟩]

def tagToken (tag : String) : PathToken := if tag = "*" then ⟨"*", ""⟩ else ⟨"", tag⟩

/-! ### Tokens -/

theorem tokenize_succ_of_frontToken {n : Nat} {cs rest : List Char} {t : PathToken}
    (front : frontToken cs = (some t, rest)) (checked : checkPrefix t = .ok t) :
    tokenize (n + 1) cs = .ok t :: tokenize n rest := by
  cases cs with
  | nil =>
    have nothing : (none : Option PathToken) = some t := congrArg Prod.fst front
    cases nothing
  | cons c cs => simp [tokenize, front, checked]

theorem tokenize_nil (n : Nat) : tokenize n [] = [] := by
  cases n <;> rfl

theorem frontToken_plainName {name : String} (plain : PlainName name) {rest : List Char}
    (stop : ∀ d ∈ rest.head?, isNameChar d = false) :
    frontToken (name.toList ++ rest) = (some ⟨"", name⟩, rest) := by
  obtain ⟨nonempty, chars⟩ := plain
  obtain ⟨c, cs, spelled⟩ : ∃ c cs, name.toList = c :: cs := by
    cases h : name.toList with
    | nil => exact absurd (String.toList_eq_nil_iff.mp h) nonempty
    | cons c cs => exact ⟨c, cs, rfl⟩
  have first := chars c (by simp [spelled])
  have later : ∀ x ∈ cs, isNameChar x = true := fun x member => (chars x (by simp [spelled, member])).1
  have taken : (cs ++ rest).takeWhile isNameChar = cs := by
    rw [List.takeWhile_append_of_pos later]
    cases rest with
    | nil => simp
    | cons d rest => simp [stop d rfl]
  have dropped : (cs ++ rest).dropWhile isNameChar = rest := by
    rw [List.dropWhile_append_of_pos later]
    cases rest with
    | nil => simp
    | cons d rest => simp [stop d rfl]
  obtain ⟨named, notOp, notQuote, notDouble, notBrace⟩ := first
  have notColon : c ≠ ':' := by rintro rfl; simp [isOpChar] at notOp
  have notDot : c ≠ '.' := by rintro rfl; simp [isOpChar] at notOp
  have notSlash : c ≠ '/' := by rintro rfl; simp [isNameChar] at named
  have notParen : c ≠ '(' := by rintro rfl; simp [isNameChar] at named
  have notBang : c ≠ '!' := by rintro rfl; simp [isNameChar] at named
  rw [spelled, List.cons_append]
  unfold frontToken
  simp only [notQuote, notDouble, or_self, if_false]
  -- none of the two-character operators starts with a name character
  split
  · exact absurd rfl notColon
  · exact absurd rfl notSlash
  · exact absurd rfl notDot
  · exact absurd rfl notParen
  · exact absurd rfl notBang
  · simp [notOp, named, notBrace, taken, dropped, ← spelled]

theorem checkPrefix_plainName {name : String} (plain : PlainName name) :
    checkPrefix ⟨"", name⟩ = .ok ⟨"", name⟩ := by
  obtain ⟨-, chars⟩ := plain
  have colonFree : ':' ∉ name.toList := fun member =>
    absurd (chars ':' member).2.1 (by decide)
  unfold checkPrefix
  split
  · rfl
  · rfl
  · simp [colonFree]

theorem frontToken_quoted {value : String} (free : '\'' ∉ value.toList) (rest : List Char) :
    frontToken ('\'' :: (value.toList ++ '\'' :: rest)) = (some ⟨"'" ++ value ++ "'", ""⟩, rest) := by
  have found : ∀ cs : List Char, '\'' ∉ cs →
      (cs ++ '\'' :: rest).findIdx? (· = '\'') = some cs.length := by
    intro cs
    induction cs with
    | nil => simp [List.findIdx?_cons]
    | cons c cs ih =>
      intro free
      simp only [List.mem_cons, not_or] at free
      simp [List.findIdx?_cons, Ne.symm free.1, ih free.2]
  unfold frontToken
  simp [quotedLiteral, found _ free, ← String.toList_inj]

theorem tokenize_condition {key value : String} (plain : PlainName key)
    (free : '\'' ∉ value.toList) (n : Nat) (rest : List Char) :
    tokenize (n + 6) (("[@" ++ key ++ "='" ++ value ++ "']").toList ++ rest) =
      conditionTokens (key, value) ++ tokenize n rest := by
  have chars : ("[@" ++ key ++ "='" ++ value ++ "']").toList ++ rest =
      '[' :: '@' :: (key.toList ++ '=' :: '\'' :: (value.toList ++ '\'' :: ']' :: rest)) := by
    simp
  rw [chars, tokenize_succ_of_frontToken rfl rfl, tokenize_succ_of_frontToken rfl rfl,
    tokenize_succ_of_frontToken (frontToken_plainName plain (by simp [isNameChar]))
      (checkPrefix_plainName plain),
    tokenize_succ_of_frontToken rfl rfl, tokenize_succ_of_frontToken (frontToken_quoted free _) rfl,
    tokenize_succ_of_frontToken rfl rfl]
  rfl

theorem conditionText_cons (c : String × String) (cs : List (String × String)) :
    conditionText (c :: cs) = "[@" ++ c.1 ++ "='" ++ c.2 ++ "']" ++ conditionText cs := by
  simp [conditionText]

theorem tokenize_conditions : ∀ {conditions : List (String × String)}, Readable conditions →
    ∀ (n : Nat) (rest : List Char),
      tokenize (n + 6 * conditions.length) ((conditionText conditions).toList ++ rest) =
        conditions.flatMap conditionTokens ++ tokenize n rest
  | [], _, n, rest => by simp [conditionText]
  | ⟨key, value⟩ :: cs, readable, n, rest => by
    obtain ⟨plain, free⟩ := readable _ List.mem_cons_self
    have later : Readable cs := fun c member => readable c (List.mem_cons_of_mem _ member)
    rw [conditionText_cons, String.toList_append, List.append_assoc, List.length_cons,
      show n + 6 * (cs.length + 1) = n + 6 * cs.length + 6 by omega,
      tokenize_condition plain free, tokenize_conditions later, List.flatMap_cons, List.append_assoc]

theorem length_conditionText : ∀ conditions : List (String × String),
    6 * conditions.length ≤ (conditionText conditions).length
  | [] => by simp
  | c :: cs => by
    have := length_conditionText cs
    simp only [conditionText_cons, String.length_append, List.length_cons]
    have : ("[@".length + "='".length + "']".length) = 6 := by decide
    omega

theorem conditionText_head? (conditions : List (String × String)) :
    ∀ d ∈ (conditionText conditions).toList.head?, d = '[' := by
  cases conditions with
  | nil => simp [conditionText]
  | cons c cs => simp [conditionText_cons]

theorem tokens_descendantPath {tag : String} {conditions : List (String × String)}
    (tagPlain : tag = "*" ∨ PlainName tag) (readable : Readable conditions) :
    tokens (descendantPath tag conditions) =
      .ok ⟨".", ""⟩ :: .ok ⟨"//", ""⟩ :: .ok (tagToken tag) ::
        conditions.flatMap conditionTokens := by
  -- the path has more characters than tokens, so the fuel does not run out
  have long : 6 * conditions.length + 3 ≤ (descendantPath tag conditions).length + 1 := by
    have := length_conditionText conditions
    have : ".//".length = 3 := by decide
    simp only [descendantPath, String.length_append]
    omega
  obtain ⟨spare, fuel⟩ : ∃ spare,
      (descendantPath tag conditions).length + 1 = spare + 6 * conditions.length + 3 :=
    ⟨_, (Nat.sub_add_cancel long).symm⟩
  have chars : (descendantPath tag conditions).toList =
      '.' :: '/' :: '/' :: (tag.toList ++ (conditionText conditions).toList) := by
    simp [descendantPath]
  have stop : ∀ d ∈ (conditionText conditions).toList.head?, isNameChar d = false := by
    intro d first
    rw [conditionText_head? conditions d first]
    rfl
  unfold tokens
  rw [fuel, chars, tokenize_succ_of_frontToken rfl rfl, tokenize_succ_of_frontToken rfl rfl]
  rcases tagPlain with rfl | plain
  · rw [show "*".toList ++ (conditionText conditions).toList =
      '*' :: (conditionText conditions).toList by rfl, tokenize_succ_of_frontToken rfl rfl,
      ← (conditionText conditions).toList.append_nil, tokenize_conditions readable,
      tokenize_nil spare, List.append_nil]
    rfl
  · have notStar : tag ≠ "*" := by rintro rfl; exact absurd (plain.2 '*' (by decide)).2.1 (by decide)
    rw [tokenize_succ_of_frontToken (frontToken_plainName plain stop) (checkPrefix_plainName plain),
      ← (conditionText conditions).toList.append_nil, tokenize_conditions readable,
      tokenize_nil spare, List.append_nil]
    simp only [tagToken, notStar, if_false]
    rfl

/-! ### Steps -/

theorem predicateTokens_condition {key value : String} (nonempty : key ≠ "") (fuel : Nat)
    (more : TokenStream) :
    predicateTokens (fuel + 5) [] [] ((conditionTokens (key, value)).tail ++ more) =
      .ok (some (['@', '-', '=', '\''], ["", key, "", value], more)) := by
  have named : key.isEmpty = false := by simpa using nonempty
  have quoted : "'" ++ value ++ "'" ≠ "]" := by
    intro same
    simpa using congrArg String.toList same
  simp [predicateTokens, conditionTokens, TokenStream.next, named, bind, Except.bind, pure,
    Except.pure]
  exact quoted

theorem predicateStep_attrEq (key value : String) :
    predicateStep (String.ofList ['@', '-', '=', '\'']) ["", key, "", value] =
      .ok (.attrEq key value) := by
  simp [predicateStep]

theorem flatMap_conditionTokens_cons (c : String × String) (cs : List (String × String)) :
    (c :: cs).flatMap conditionTokens =
      .ok ⟨"[", ""⟩ :: ((conditionTokens c).tail ++ cs.flatMap conditionTokens) := rfl

theorem bracketNotSlash : ("[" : String) ≠ "/" := by decide

theorem compileFrom_conditions : ∀ {conditions : List (String × String)} (c : String × String)
    (fuel : Nat), (∀ d ∈ c :: conditions, d.1 ≠ "") → conditions.length ≤ fuel →
    compileFrom (fuel + 1) ⟨"[", ""⟩
        ((conditionTokens c).tail ++ conditions.flatMap conditionTokens) =
      .ok ((c :: conditions).map fun d => .attrEq d.1 d.2)
  | conditions, ⟨key, value⟩, fuel, named, enough => by
    have predicate := @predicateTokens_condition key value
      (named _ List.mem_cons_self) ((conditions.flatMap conditionTokens).length + 1)
      (conditions.flatMap conditionTokens)
    have length : ((conditionTokens (key, value)).tail ++
        conditions.flatMap conditionTokens).length + 1 =
        (conditions.flatMap conditionTokens).length + 1 + 5 := by
      simp [conditionTokens]
    rw [compileFrom]
    simp only [bind, Except.bind, length, predicate, predicateStep_attrEq, pure, Except.pure]
    cases conditions with
    | nil => rfl
    | cons d ds =>
      obtain ⟨fuel', rfl⟩ : ∃ fuel', fuel = fuel' + 1 :=
        ⟨fuel - 1, by simp at enough; omega⟩
      have rest := @compileFrom_conditions ds d fuel'
        (fun e member => named e (List.mem_cons_of_mem _ member)) (by simpa using enough)
      rw [flatMap_conditionTokens_cons]
      simp only [TokenStream.next, bracketNotSlash, if_false, rest]
      rfl

theorem length_flatMap_conditionTokens : ∀ conditions : List (String × String),
    (conditions.flatMap conditionTokens).length = 6 * conditions.length
  | [] => rfl
  | c :: cs => by
    simp only [List.flatMap_cons, List.length_append, length_flatMap_conditionTokens cs,
      List.length_cons]
    simp [conditionTokens]
    omega

theorem descendantStep_tagToken (tag : String) (ts : TokenStream) :
    descendantStep (.ok (tagToken tag) :: ts) = .ok (.descendant tag, ts) := by
  unfold tagToken
  split
  · subst_vars
    rfl
  · simp [descendantStep, TokenStream.next, bind, Except.bind, pure, Except.pure]

theorem compileFrom_descendant (tag : String) {conditions : List (String × String)}
    (named : ∀ d ∈ conditions, d.1 ≠ "") {fuel : Nat} (enough : conditions.length ≤ fuel) :
    compileFrom (fuel + 1 + 1) ⟨"//", ""⟩
        (.ok (tagToken tag) :: conditions.flatMap conditionTokens) =
      .ok (.descendant tag :: conditions.map fun d => .attrEq d.1 d.2) := by
  rw [compileFrom]
  simp only [descendantStep_tagToken, bind, Except.bind]
  cases conditions with
  | nil => rfl
  | cons c cs =>
    have rest := @compileFrom_conditions cs c fuel named
      (by simp at enough; omega)
    rw [flatMap_conditionTokens_cons]
    simp only [TokenStream.next, bracketNotSlash, if_false, rest]
    rfl

theorem conditionText_getLast? : ∀ conditions : List (String × String),
    ∀ d ∈ (conditionText conditions).toList.getLast?, d = ']'
  | [] => by simp [conditionText]
  | c :: cs => by
    intro d last
    rw [conditionText_cons, String.toList_append, List.getLast?_append] at last
    cases later : (conditionText cs).toList.getLast? with
    | some e =>
      simp only [later, Option.some_or, Option.mem_def, Option.some.injEq] at last
      exact last ▸ conditionText_getLast? cs e later
    | none =>
      have chars : ("[@" ++ c.1 ++ "='" ++ c.2 ++ "']").toList =
          ("[@" ++ c.1 ++ "='" ++ c.2 ++ "'").toList ++ [']'] := by
        simp
      simp only [later, Option.none_or, chars, List.getLast?_concat, Option.mem_def,
        Option.some.injEq] at last
      exact last.symm

theorem descendantPath_getLast? {tag : String} (tagPlain : tag = "*" ∨ PlainName tag)
    (conditions : List (String × String)) :
    (descendantPath tag conditions).toList.getLast? ≠ some '/' := by
  have nonempty : tag.toList ++ (conditionText conditions).toList ≠ [] := by
    rcases tagPlain with rfl | plain
    · simp
    · exact fun empty => plain.1 (String.toList_eq_nil_iff.mp (List.append_eq_nil_iff.mp empty).1)
  obtain ⟨d, lastD⟩ : ∃ d, (tag.toList ++ (conditionText conditions).toList).getLast? = some d :=
    Option.ne_none_iff_exists'.mp (mt List.getLast?_eq_none_iff.mp nonempty)
  have chars : (descendantPath tag conditions).toList =
      ['.', '/', '/'] ++ (tag.toList ++ (conditionText conditions).toList) := by
    simp [descendantPath]
  rw [chars, List.getLast?_append, lastD, Option.some_or, Ne, Option.some.injEq]
  rintro rfl
  rw [List.getLast?_append] at lastD
  cases later : (conditionText conditions).toList.getLast? with
  | some e =>
    simp only [later, Option.some_or, Option.some.injEq] at lastD
    exact absurd (conditionText_getLast? conditions e later) (by rw [lastD]; decide)
  | none =>
    simp only [later, Option.none_or] at lastD
    rcases tagPlain with rfl | plain
    · simp at lastD
    · have named := (plain.2 '/' (List.mem_of_getLast? lastD)).1
      simp [isNameChar] at named

/-- A descendant path compiles to a step to the element itself, a descendant step for its tag
and an attribute test for each condition. -/
theorem compile_descendantPath {tag : String} {conditions : List (String × String)}
    (tagPlain : tag = "*" ∨ PlainName tag) (readable : Readable conditions) :
    compile (descendantPath tag conditions) =
      .ok (.self :: .descendant tag :: conditions.map fun c => .attrEq c.1 c.2) := by
  have trailing := descendantPath_getLast? tagPlain conditions
  have leading : (descendantPath tag conditions).toList.head? = some '.' := by
    simp [descendantPath]
  have named : ∀ d ∈ conditions, d.1 ≠ "" := fun d member => (readable d member).1.1
  have enough : conditions.length ≤ (conditions.flatMap conditionTokens).length + 1 := by
    rw [length_flatMap_conditionTokens]
    omega
  unfold compile
  simp only [trailing, leading, if_false, tokens_descendantPath tagPlain readable,
    TokenStream.next, bind, Except.bind, List.length_cons]
  rw [compileFrom]
  simp only [TokenStream.next, bind, Except.bind, pure, Except.pure]
  rw [compileFrom_descendant tag named enough]
  rfl

/-! ### Selection -/

theorem run_attrEq (root : Element) : ∀ (conditions : List (String × String))
    (selected : List Element),
    run root (conditions.map fun c => .attrEq c.1 c.2) selected =
      .ok (selected.filter fun x => conditions.all fun c => x.get? c.1 == some c.2)
  | [], selected => by
    rw [List.filter_eq_self.mpr fun _ _ => List.all_nil]
    rfl
  | c :: cs, selected => by
    simp only [List.map_cons, run, Step.apply, bind, Except.bind, run_attrEq root cs,
      List.filter_filter, List.all_cons]
    simp [Bool.and_comm]

theorem isPlainTag_descendantPath (tag : String) (conditions : List (String × String)) :
    isPlainTag (descendantPath tag conditions) = false := by
  have chars : (descendantPath tag conditions).toList =
      '.' :: '/' :: '/' :: (tag.toList ++ (conditionText conditions).toList) := by
    simp [descendantPath]
  simp [isPlainTag, chars, isPlainTag.go]

/-- From any element, a descendant path selects the descendants with its tag whose attributes
have its values, in document order. -/
theorem findAll_descendantPath {tag : String} {conditions : List (String × String)}
    (tagPlain : tag = "*" ∨ PlainName tag) (readable : Readable conditions) (e : Element) :
    e.findAll (descendantPath tag conditions) =
      .ok (((e.subtree.drop 1).filter (descendantMatches tag ·.tag)).filter fun x =>
        conditions.all fun c => x.get? c.1 == some c.2) := by
  simp only [Element.findAll, isPlainTag_descendantPath, compile_descendantPath tagPlain readable,
    Bool.false_eq_true, if_false, bind, Except.bind, run, Step.apply, List.flatMap_singleton,
    run_attrEq]

end Query

def Element.Flat (e : Element) : Prop := ∀ c ∈ e.children, c.children = []

instance : DecidablePred Element.Flat := fun _ => inferInstanceAs (Decidable (∀ _ ∈ _, _))

theorem Element.subtreeOfList_of_leaves : ∀ {cs : List Element}, (∀ c ∈ cs, c.children = []) →
    Element.subtreeOfList cs = cs
  | [], _ => by simp [Element.subtreeOfList]
  | ⟨key, tag, attrs, text, children, tail⟩ :: cs, leaves => by
    have leaf : children = [] := leaves _ List.mem_cons_self
    subst leaf
    simp [Element.subtreeOfList, Element.subtree,
      subtreeOfList_of_leaves fun c member => leaves c (List.mem_cons_of_mem _ member)]

theorem Element.Flat.subtree_drop_one {e : Element} (flat : e.Flat) :
    e.subtree.drop 1 = e.children := by
  obtain ⟨key, tag, attrs, text, children, tail⟩ := e
  simpa [Element.subtree] using Element.subtreeOfList_of_leaves flat

namespace Query

theorem findAll_descendantPath_of_flat {tag : String} {conditions : List (String × String)}
    (tagPlain : tag = "*" ∨ PlainName tag) (readable : Readable conditions) {e : Element}
    (flat : e.Flat) :
    e.findAll (descendantPath tag conditions) = .ok (e.children.filter (selects tag conditions)) := by
  rw [findAll_descendantPath tagPlain readable, flat.subtree_drop_one, List.filter_filter]
  congr 1
  apply List.filter_congr
  intro x _
  exact Bool.and_comm _ _

theorem descendantMatches_of_literal {pattern : String}
    (literal : LiteralTag pattern)
    (t : String) : descendantMatches pattern t = decide (pattern = t) := by
  obtain ⟨notStar, notAnyPrefix, notAnyName, notEmptyPrefix⟩ := literal
  unfold descendantMatches tagMatches
  simp [notStar, notAnyPrefix, notAnyName, notEmptyPrefix]
  exact eq_comm

theorem tag_of_selects {pattern : String}
    (literal : LiteralTag pattern)
    {conditions : List (String × String)} {x : Element} (selected : selects pattern conditions x) :
    x.tag = pattern := by
  simp only [selects, descendantMatches_of_literal literal, Bool.and_eq_true,
    decide_eq_true_eq] at selected
  exact selected.1.symm

theorem selects_any_id (v : String) (x : Element) :
    selects "*" [("id", v)] x = (x.get? "id" == some v) := by
  simp [selects, descendantMatches]

end SketchGen.Xml.Query
