import Mathlib.Data.List.Forall2
import SketchGen.Proofs.Sketch.ChildOrder
import SketchGen.Proofs.Sketch.DataStructures
import SketchGen.Proofs.Sketch.Variables
import SketchGen.Proofs.Text.CaseMapping

/-! Models that differ only in their documentation. Some attributes of a model only document
it: descriptions, parent ids, qualification and contribution lists, and the name of a hardware
resource. Some attributes hold JSON lists whose items have members that only document them:
the description of a parameter or of a field of a data structure, and the name and description
of an operation mode. Two elements are twins when they have the same shape and the same values
everywhere else. The generator reads a twin through its other values only, so the steps that
make a sketch, run on twin models, give equal results or twins in their turn whenever both
succeed. What documentation may hold for that to reach the text is said by `Tidy`. -/

namespace SketchGen.Json

def Value.eraseMembers (keys : List String) : Value → Value
  | .obj ms => .obj (ms.map fun m => (m.1, if m.1 ∈ keys then .null else m.2))
  | v => v

def Value.eraseDocs (keys : List String) : Value → Value
  | .arr items => .arr (items.map (Value.eraseMembers keys))
  | v => v

/-! ### Reading JSON alike but for documentation -/

section Erasure

variable {keys : List String}

theorem lookupMember_erase (ms : List (String × Value)) (key : String) :
    lookupMember (ms.map fun m => (m.1, if m.1 ∈ keys then .null else m.2)) key =
      (lookupMember ms key).map fun x => if key ∈ keys then .null else x := by
  unfold lookupMember
  rw [List.find?_map]
  cases found : ms.find? (·.1 == key) with
  | none => simp [found]
  | some m =>
    have named : m.1 = key := by simpa using List.find?_some found
    simp [found, named]

theorem Value.member_eraseMembers (v : Value) (key : String) :
    (v.eraseMembers keys).member key = (v.member key).map fun x => if key ∈ keys then .null else x := by
  cases v with
  | obj ms =>
    simp only [Value.eraseMembers, Value.member, lookupMember_erase]
    cases lookupMember ms key <;> rfl
  | _ => rfl

theorem Value.getOr_eraseMembers (v : Value) (key : String) (fallback : Value) (kept : key ∉ keys) :
    (v.eraseMembers keys).getOr key fallback = v.getOr key fallback := by
  cases v with
  | obj ms =>
    simp only [Value.eraseMembers, Value.getOr, lookupMember_erase, kept, if_false, Option.map_id']
  | _ => rfl

theorem Value.items_eraseDocs (v : Value) :
    (v.eraseDocs keys).items = v.items.map (List.map (Value.eraseMembers keys)) := by
  cases v <;> simp [Value.eraseDocs, Value.items, Value.eraseMembers, Except.map]

theorem Value.first_eraseDocs (v : Value) :
    (v.eraseDocs keys).first = v.first.map (Value.eraseMembers keys) := by
  cases v with
  | arr items => cases items <;> rfl
  | str s =>
    simp only [Value.eraseDocs, Value.first]
    cases s.toList <;> rfl
  | _ => rfl

theorem Value.truthy_eraseDocs (v : Value) : (v.eraseDocs keys).truthy = v.truthy := by
  cases v <;> simp [Value.eraseDocs, Value.truthy]

/-! Items alike but for documentation. -/

variable {x x' : Value}

theorem Value.member_eq_of_erase (twin : x'.eraseMembers keys = x.eraseMembers keys)
    {key : String} (kept : key ∉ keys) : x'.member key = x.member key := by
  have same := congrArg (·.member key) twin
  simp only [Value.member_eraseMembers, kept, if_false] at same
  simpa only [← Function.id_def, Except.map_id, id_eq] using same

theorem Value.getOr_eq_of_erase (twin : x'.eraseMembers keys = x.eraseMembers keys)
    {key : String} (kept : key ∉ keys) (fallback : Value) :
    x'.getOr key fallback = x.getOr key fallback := by
  rw [← Value.getOr_eraseMembers x' key fallback kept, twin, Value.getOr_eraseMembers x key fallback kept]

theorem Value.items_twin {v v' : Value} (twin : v'.eraseDocs keys = v.eraseDocs keys)
    {xs xs' : List Value} (listed : v.items = .ok xs) (listed' : v'.items = .ok xs') :
    List.Forall₂ (fun x x' => x'.eraseMembers keys = x.eraseMembers keys) xs xs' := by
  have same := congrArg Value.items twin
  rw [Value.items_eraseDocs, Value.items_eraseDocs, listed, listed'] at same
  have mapped : List.Forall₂ (· = ·) (xs.map (Value.eraseMembers keys))
      (xs'.map (Value.eraseMembers keys)) := by
    rw [List.forall₂_eq_eq_eq]
    exact (Except.ok.inj same).symm
  rw [List.forall₂_map_left_iff, List.forall₂_map_right_iff] at mapped
  exact mapped.imp fun _ _ h => h.symm

theorem Value.first_twin {v v' : Value} (twin : v'.eraseDocs keys = v.eraseDocs keys)
    (first : v.first = .ok x) (first' : v'.first = .ok x') :
    x'.eraseMembers keys = x.eraseMembers keys := by
  have same := congrArg Value.first twin
  rw [Value.first_eraseDocs, Value.first_eraseDocs, first, first'] at same
  exact Except.ok.inj same

end Erasure

/-! ### JSON fit for the text it is written into -/

open SketchGen.Cpp

/-- The members of a JSON item fit for where the generator writes them: each displays inside a
comment, and those of the given keys also in code. -/
def Value.Fitting (codeKeys : List String) : Value → Prop
  | .obj ms => ∀ m ∈ ms, CommentSafe m.2.display ∧ (m.1 ∈ codeKeys → Plain m.2.display)
  | _ => True

def Value.Tidy (codeKeys : List String) : Value → Prop
  | .arr items => ∀ x ∈ items, x.Fitting codeKeys
  | _ => True

section Fitting

variable {codeKeys : List String} {x y : Value}

theorem Value.Fitting.member (fits : x.Fitting codeKeys) {key : String} (found : x.member key = .ok y) :
    CommentSafe y.display ∧ (key ∈ codeKeys → Plain y.display) := by
  cases x with
  | obj ms =>
    simp only [Value.member] at found
    split at found
    · rename_i looked
      obtain rfl := Except.ok.inj found
      obtain ⟨m, hit, rfl⟩ := Option.map_eq_some_iff.mp looked
      have keyed : m.1 = key := by simpa using List.find?_some hit
      subst keyed
      exact fits m (List.mem_of_find?_eq_some hit)
    · cases found
  | _ => cases found

theorem Value.Tidy.items {v : Value} (tidy : v.Tidy codeKeys) {xs : List Value}
    (listed : v.items = .ok xs) : ∀ x ∈ xs, x.Fitting codeKeys := by
  cases v with
  | arr items =>
    obtain rfl := Except.ok.inj listed
    exact tidy
  | obj ms =>
    obtain rfl := Except.ok.inj listed
    intro x member
    obtain ⟨_, _, rfl⟩ := List.mem_map.mp member
    trivial
  | str s =>
    obtain rfl := Except.ok.inj listed
    intro x member
    obtain ⟨_, _, rfl⟩ := List.mem_map.mp member
    trivial
  | _ => cases listed

theorem Value.Tidy.first {v : Value} (tidy : v.Tidy codeKeys) (first : v.first = .ok x) :
    x.Fitting codeKeys := by
  cases v with
  | arr items =>
    cases items with
    | nil => cases first
    | cons item rest =>
      obtain rfl := Except.ok.inj first
      exact tidy item List.mem_cons_self
  | str s =>
    simp only [Value.first] at first
    split at first
    · obtain rfl := Except.ok.inj first
      trivial
    · cases first
  | _ => cases first

end Fitting

end SketchGen.Json

namespace SketchGen

/-! ### Two runs that agree -/

variable {α β γ δ : Type}

def Gen.Agree (R : α → β → Prop) (x : Gen α) (y : Gen β) : Prop :=
  ∀ a b, x = .ok a → y = .ok b → R a b

namespace Gen.Agree

variable {R : α → β → Prop} {S : γ → δ → Prop}

theorem of_eq {x x' : Gen α} (same : x' = x) : Gen.Agree (fun a a' => a' = a) x x' := by
  intro a a' ran ran'
  rw [same, ran] at ran'
  exact (Except.ok.inj ran').symm

theorem pure {a : α} {b : β} (related : R a b) : Gen.Agree R (Pure.pure a) (Pure.pure b) := by
  intro a' b' ran ran'
  obtain rfl := Gen.pure_eq_ok.mp ran
  obtain rfl := Gen.pure_eq_ok.mp ran'
  exact related

theorem mono {x : Gen α} {y : Gen β} (agree : Gen.Agree R x y) {R' : α → β → Prop}
    (weaker : ∀ a b, R a b → R' a b) : Gen.Agree R' x y :=
  fun a b ran ran' => weaker a b (agree a b ran ran')

theorem bind {x : Gen α} {y : Gen β} (first : Gen.Agree R x y) {f : α → Gen γ} {g : β → Gen δ}
    (rest : ∀ a b, R a b → Gen.Agree S (f a) (g b)) : Gen.Agree S (x >>= f) (y >>= g) := by
  intro c d ran ran'
  obtain ⟨a, ranFirst, ranRest⟩ := Gen.bind_eq_ok.mp ran
  obtain ⟨b, ranFirst', ranRest'⟩ := Gen.bind_eq_ok.mp ran'
  exact rest a b (first a b ranFirst ranFirst') c d ranRest ranRest'

theorem mapM {f : α → Gen γ} {g : β → Gen δ} :
    ∀ {xs : List α} {ys : List β}, List.Forall₂ R xs ys →
      (∀ a ∈ xs, ∀ b, R a b → Gen.Agree S (f a) (g b)) →
        Gen.Agree (List.Forall₂ S) (xs.mapM f) (ys.mapM g)
  | [], [], .nil, _ => pure .nil
  | _ :: _, _ :: _, .cons related rest, each => by
    simp only [List.mapM_cons]
    exact bind (each _ List.mem_cons_self _ related) fun _ _ head =>
      bind (mapM rest fun a member => each a (List.mem_cons_of_mem _ member)) fun _ _ tail =>
        pure (.cons head tail)

theorem mapM_eq {f : α → Gen γ} {g : β → Gen γ} {xs : List α} {ys : List β}
    (twins : List.Forall₂ R xs ys) (each : ∀ a ∈ xs, ∀ b, R a b → Gen.Agree (fun c c' => c' = c) (f a) (g b)) :
    Gen.Agree (fun cs cs' => cs' = cs) (xs.mapM f) (ys.mapM g) :=
  (mapM twins each).mono fun _ _ same => by
    rw [← List.forall₂_eq_eq_eq]
    exact same.flip

theorem filterAuxM {p : α → Gen Bool} {q : β → Gen Bool}
    (each : ∀ a b, R a b → Gen.Agree (fun c c' => c' = c) (p a) (q b)) {xs : List α}
    {ys : List β} (twins : List.Forall₂ R xs ys) : ∀ {acc : List α} {acc' : List β},
      List.Forall₂ R acc acc' →
        Gen.Agree (List.Forall₂ R) (List.filterAuxM p xs acc) (List.filterAuxM q ys acc') := by
  induction twins with
  | nil => exact fun kept => pure kept
  | cons related rest ih =>
    intro _ _ kept
    simp only [List.filterAuxM]
    refine bind (each _ _ related) fun c _ same => ?_
    rw [same]
    cases c
    · exact ih kept
    · exact ih (.cons related kept)

theorem filterM {p : α → Gen Bool} {q : β → Gen Bool}
    (each : ∀ a b, R a b → Gen.Agree (fun c c' => c' = c) (p a) (q b)) {xs : List α} {ys : List β}
    (twins : List.Forall₂ R xs ys) : Gen.Agree (List.Forall₂ R) (xs.filterM p) (ys.filterM q) := by
  simp only [List.filterM]
  exact bind (filterAuxM each twins .nil) fun _ _ kept => pure (List.forall₂_reverse_iff.mpr kept)

end Gen.Agree

end SketchGen

namespace SketchGen.Sketch

open SketchGen.Cpp SketchGen.Json SketchGen.Xml SketchGen.Xml.Query SketchGen.Text

def docKeys (tag : String) : List String :=
  ["description", "id_cim_parent", "qualification_array", "contribution_array",
    "integration_operation_description"] ++ if tag = "hw_resource" then ["name"] else []

def jsonDocKeys : String → Option (List String)
  | "input_parameters" | "output_parameters" | "data_structure" | "dependum_data_structure" =>
    some ["description"]
  | "operation_modes" => some ["name", "description"]
  | _ => none

/-- Two texts of a JSON attribute alike but for documentation: the same text, or texts that
read as JSON alike once the documenting members are made null. -/
def JsonTwin (keys : List String) (a a' : String) : Prop :=
  a' = a ∨ ∃ v v', Json.read a = .ok v ∧ Json.read a' = .ok v' ∧
    v'.eraseDocs keys = v.eraseDocs keys

/-- Two attributes of an element of a tag alike but for documentation: the same name, and the
same value unless the attribute documents the element or holds JSON read alike. -/
def AttrTwin (tag : String) (a a' : String × String) : Prop :=
  a'.1 = a.1 ∧ (a'.2 = a.2 ∨ a.1 ∈ docKeys tag ∨ ∃ keys ∈ jsonDocKeys a.1, JsonTwin keys a.2 a'.2)

/-- Two elements alike but for their documentation, all the way down. -/
inductive DocTwin : Element → Element → Prop
  | mk {e e' : Element} (key : e'.key = e.key) (tag : e'.tag = e.tag) (text : e'.text = e.text)
      (tail : e'.tail = e.tail) (attrs : List.Forall₂ (AttrTwin e.tag) e.attrs e'.attrs)
      (children : List.Forall₂ DocTwin e.children e'.children) : DocTwin e e'

/-! ### Reading attributes -/

theorem attrTwin_find? {tag name : String} :
    ∀ {l l' : List (String × String)}, List.Forall₂ (AttrTwin tag) l l' →
      Option.Rel (fun v v' => AttrTwin tag (name, v) (name, v'))
        ((l.find? (·.1 == name)).map (·.2)) ((l'.find? (·.1 == name)).map (·.2))
  | [], [], .nil => .none
  | a :: _, b :: _, .cons related rest => by
    have same : b.1 = a.1 := related.1
    rw [List.find?_cons, List.find?_cons, same]
    by_cases hit : a.1 = name
    · simp only [hit, beq_self_eq_true, Option.map_some]
      exact .some (by simpa [AttrTwin, hit, same] using related)
    · have miss : (a.1 == name) = false := by simpa using hit
      simp only [miss]
      exact @attrTwin_find? tag name _ _ rest

namespace DocTwin

variable {e e' : Element}

theorem tag_eq (twin : DocTwin e e') : e'.tag = e.tag := by
  cases twin
  assumption

theorem children_rel (twin : DocTwin e e') : List.Forall₂ DocTwin e.children e'.children := by
  cases twin
  assumption

theorem get?_rel (twin : DocTwin e e') (name : String) :
    Option.Rel (fun v v' => AttrTwin e.tag (name, v) (name, v')) (e.get? name) (e'.get? name) := by
  cases twin with
  | mk _ _ _ _ attrs _ => exact attrTwin_find? attrs

end DocTwin

theorem not_mem_docKeys_of_json {name : String} {keys : List String}
    (json : keys ∈ jsonDocKeys name) (tag : String) : name ∉ docKeys tag := by
  unfold jsonDocKeys at json
  split at json <;> simp_all [docKeys]

theorem AttrTwin.eq {tag name v v' : String} (twin : AttrTwin tag (name, v) (name, v'))
    (notDoc : name ∉ docKeys tag) (notJson : jsonDocKeys name = none) : v' = v := by
  rcases twin.2 with same | doc | ⟨keys, json, _⟩
  · exact same
  · exact absurd doc notDoc
  · simp [notJson] at json

theorem AttrTwin.json {tag name v v' : String} {keys : List String}
    (twin : AttrTwin tag (name, v) (name, v')) (json : keys ∈ jsonDocKeys name) :
    JsonTwin keys v v' := by
  rcases twin.2 with same | doc | ⟨keys', json', alike⟩
  · exact .inl same
  · exact absurd doc (not_mem_docKeys_of_json json tag)
  · obtain rfl : keys' = keys := Option.some.inj (json'.symm.trans json)
    exact alike

namespace DocTwin

variable {e e' : Element}

theorem get?_eq (twin : DocTwin e e') {name : String} (notDoc : name ∉ docKeys e.tag)
    (notJson : jsonDocKeys name = none) : e'.get? name = e.get? name := by
  have rel := twin.get?_rel name
  generalize e.get? name = o at rel ⊢
  generalize e'.get? name = o' at rel ⊢
  cases rel with
  | none => rfl
  | some alike => rw [alike.eq notDoc notJson]

theorem get?_json (twin : DocTwin e e') {name : String} {keys : List String}
    (json : keys ∈ jsonDocKeys name) : Option.Rel (JsonTwin keys) (e.get? name) (e'.get? name) := by
  have rel := twin.get?_rel name
  generalize e.get? name = o at rel ⊢
  generalize e'.get? name = o' at rel ⊢
  cases rel with
  | none => exact .none
  | some alike => exact .some (alike.json json)

end DocTwin

/-! ### Children, descendants and queries -/

theorem subtree_eq_cons (e : Element) : e.subtree = e :: Element.subtreeOfList e.children := by
  cases e
  rfl

theorem splicedKey_kept {key : String} (spliced : key ∈ splicedKeys) (tag : String) :
    key ∉ docKeys tag ∧ jsonDocKeys key = none := by
  simp only [splicedKeys, List.mem_cons, List.not_mem_nil, or_false] at spliced
  rcases spliced with rfl | rfl | rfl <;> simp [docKeys, jsonDocKeys]

namespace DocTwin

variable {e e' : Element}

theorem subtree (twin : DocTwin e e') : List.Forall₂ DocTwin e.subtree e'.subtree :=
  @DocTwin.rec (fun e e' _ => List.Forall₂ DocTwin e.subtree e'.subtree)
    (fun cs cs' _ => List.Forall₂ DocTwin (Element.subtreeOfList cs) (Element.subtreeOfList cs'))
    (fun key tag text tail attrs children below => by
      rw [subtree_eq_cons, subtree_eq_cons]
      exact .cons (.mk key tag text tail attrs children) below)
    .nil
    (fun _ _ first rest => by
      simp only [Element.subtreeOfList]
      exact List.rel_append first rest)
    e e' twin

theorem childrenTagged (twin : DocTwin e e') (tag : String) :
    List.Forall₂ DocTwin (e.childrenTagged tag) (e'.childrenTagged tag) := by
  apply List.rel_filter _ twin.children_rel
  intro x x' child
  simp [child.tag_eq]

theorem conditions_eq (twin : DocTwin e e') {conditions : List (String × String)}
    (spliced : ∀ c ∈ conditions, c.1 ∈ splicedKeys) :
    (conditions.all fun c => e'.get? c.1 == some c.2) =
      conditions.all fun c => e.get? c.1 == some c.2 := by
  rw [Bool.eq_iff_iff]
  simp only [List.all_eq_true]
  refine forall₂_congr fun c member => ?_
  obtain ⟨notDoc, notJson⟩ := splicedKey_kept (spliced c member) e.tag
  rw [twin.get?_eq notDoc notJson]

theorem findAll_descendantPath (twin : DocTwin e e') {tag : String}
    {conditions : List (String × String)} (tagPlain : tag = "*" ∨ PlainName tag)
    (readable : Readable conditions) (spliced : ∀ c ∈ conditions, c.1 ∈ splicedKeys) :
    ∃ xs xs', e.findAll (descendantPath tag conditions) = .ok xs ∧
      e'.findAll (descendantPath tag conditions) = .ok xs' ∧ List.Forall₂ DocTwin xs xs' := by
  rw [Query.findAll_descendantPath tagPlain readable, Query.findAll_descendantPath tagPlain readable]
  refine ⟨_, _, rfl, rfl, ?_⟩
  refine List.rel_filter ?_ (List.rel_filter ?_ (List.forall₂_drop 1 twin.subtree))
  · intro x x' descendant
    dsimp only
    rw [descendant.conditions_eq spliced]
  · intro x x' descendant
    dsimp only
    rw [descendant.tag_eq]

end DocTwin

theorem mem_docKeys {key tag : String} :
    key ∈ docKeys tag ↔ key ∈ ["description", "id_cim_parent", "qualification_array",
      "contribution_array", "integration_operation_description"] ∨
        (tag = "hw_resource" ∧ key = "name") := by
  unfold docKeys
  split <;> simp [*, or_assoc]

theorem name_not_mem_docKeys {tag : String} (notHardware : tag ≠ "hw_resource") :
    "name" ∉ docKeys tag := by
  simp [mem_docKeys, notHardware]

/-! ### Reading twins -/

namespace DocTwin

variable {e e' : Element}

theorem shown_eq (twin : DocTwin e e') {name : String} (notDoc : name ∉ docKeys e.tag)
    (notJson : jsonDocKeys name = none) : shown e' name = shown e name := by
  unfold shown
  rw [twin.get?_eq notDoc notJson]

theorem identOf_eq (twin : DocTwin e e') {name : String} (notDoc : name ∉ docKeys e.tag)
    (notJson : jsonDocKeys name = none) : identOf e' name = identOf e name := by
  unfold identOf attrValue
  rw [twin.get?_eq notDoc notJson]

theorem nameIdent_eq (twin : DocTwin e e') (notHardware : e.tag ≠ "hw_resource") :
    nameIdent e' = nameIdent e :=
  twin.identOf_eq (name_not_mem_docKeys notHardware) rfl

theorem modesEnabled_eq (twin : DocTwin e e') : modesEnabled e' = modesEnabled e := by
  unfold modesEnabled
  rw [twin.get?_eq (by simp [mem_docKeys]) rfl]

end DocTwin

theorem readAttribute_some_eq_ok {a : String} {v : Value} :
    readAttribute (some a) = .ok v ↔ Json.read a = .ok v := by
  simp only [readAttribute]
  cases Json.read a <;> simp

namespace JsonTwin

variable {keys : List String} {a a' : String}

theorem refl (a : String) : JsonTwin keys a a := .inl rfl

theorem read_agree (alike : JsonTwin keys a a') :
    Gen.Agree (fun v v' => v'.eraseDocs keys = v.eraseDocs keys)
      (readAttribute (some a)) (readAttribute (some a')) := by
  intro w w' read read'
  rw [readAttribute_some_eq_ok] at read read'
  rcases alike with rfl | ⟨v, v', parsed, parsed', erased⟩
  · rw [read] at read'
    rw [Except.ok.inj read']
  · rw [parsed] at read
    rw [parsed'] at read'
    rw [← Except.ok.inj read, ← Except.ok.inj read', erased]

theorem isEmpty_eq (alike : JsonTwin keys a a') : a'.isEmpty = a.isEmpty := by
  rcases alike with rfl | ⟨v, v', parsed, parsed', _⟩
  · rfl
  · have filled : ∀ {t : String} {w : Value}, Json.read t = .ok w → t.isEmpty = false := by
      intro t w read
      cases empty : t.isEmpty
      · rfl
      · rw [String.isEmpty_iff.mp empty] at read
        exact absurd read (read_empty_ne_ok w)
    rw [filled parsed, filled parsed']

end JsonTwin

namespace DocTwin

variable {e e' : Element} {keys : List String} {name : String}

theorem jsonOf_agree (twin : DocTwin e e') (json : keys ∈ jsonDocKeys name) :
    Gen.Agree (fun v v' => v'.eraseDocs keys = v.eraseDocs keys) (jsonOf e name) (jsonOf e' name) := by
  have rel := twin.get?_json json
  unfold jsonOf
  generalize e.get? name = o at rel ⊢
  generalize e'.get? name = o' at rel ⊢
  cases rel with
  | none => intro _ _ read; cases read
  | some alike => exact alike.read_agree

theorem jsonOr_agree (twin : DocTwin e e') (json : keys ∈ jsonDocKeys name) (fallback : String) :
    Gen.Agree (fun v v' => v'.eraseDocs keys = v.eraseDocs keys)
      (jsonOr e name fallback) (jsonOr e' name fallback) := by
  have rel := twin.get?_json json
  unfold jsonOr
  generalize e.get? name = o at rel ⊢
  generalize e'.get? name = o' at rel ⊢
  cases rel with
  | none => exact (JsonTwin.refl fallback).read_agree
  | some alike => exact alike.read_agree

theorem structureSource_twin (twin : DocTwin e e') :
    JsonTwin ["description"] (structureSource e) (structureSource e') := by
  have fallback : JsonTwin ["description"] (structureSource.fallback e)
      (structureSource.fallback e') := by
    have rel := twin.get?_json (show ["description"] ∈ jsonDocKeys "dependum_data_structure" from rfl)
    unfold structureSource.fallback
    generalize e.get? "dependum_data_structure" = o at rel ⊢
    generalize e'.get? "dependum_data_structure" = o' at rel ⊢
    cases rel with
    | none => exact JsonTwin.refl _
    | some alike => exact alike
  have rel := twin.get?_json (show ["description"] ∈ jsonDocKeys "data_structure" from rfl)
  unfold structureSource
  generalize e.get? "data_structure" = o at rel ⊢
  generalize e'.get? "data_structure" = o' at rel ⊢
  cases rel with
  | none => exact fallback
  | some alike =>
    dsimp only
    rw [alike.isEmpty_eq]
    split
    · exact fallback
    · exact alike

end DocTwin

/-! ### What documentation may hold -/

/-- The members of the items of a JSON attribute that the generator writes into code: the codes
of operation modes, and the names and types of parameters and fields. -/
def codeKeys (name : String) : List String :=
  if name = "operation_modes" then ["code"] else ["name", "type"]

def listKeys : List String := ["qualification_array", "contribution_array"]

/-- What the generator needs of an element for its documentation to stay inside comments. No
value breaks a line or ends with a backslash. Ids, sources and targets, and names that are not
documentation, hold no quote, apostrophe or backslash: they stand in code and in queries. Lists
of qualifications and contributions have one entry, since each further entry starts a line of
its own. The items of JSON lists display inside comments, and their names, types and mode codes
also in code. -/
structure Tidy (x : Element) : Prop where
  safe : ∀ a ∈ x.attrs, CommentSafe a.2
  plain : ∀ key ∈ ["id", "name", "source", "target"], key ∉ docKeys x.tag →
    ∀ v ∈ x.get? key, Plain v
  single : ∀ key ∈ listKeys, ∀ v ∈ x.get? key, ';' ∉ v.toList
  json : ∀ name, ∀ keys ∈ jsonDocKeys name, ∀ text ∈ x.get? name, ∀ v,
    Json.read text = .ok v → v.Tidy (codeKeys name)

theorem emptyList_tidy (codeKeys : List String) : ∀ v, Json.read "[]" = .ok v → v.Tidy codeKeys := by
  intro v read
  have empty : Json.read "[]" = .ok (.arr []) := by rfl
  rw [empty] at read
  obtain rfl := Except.ok.inj read
  intro x member
  cases member

namespace Tidy

variable {x : Element}

theorem get?_safe (tidy : Tidy x) (name : String) : ∀ v ∈ x.get? name, CommentSafe v := by
  intro v found
  obtain ⟨a, hit, rfl⟩ := Option.map_eq_some_iff.mp found
  exact tidy.safe a (List.mem_of_find?_eq_some hit)

theorem shown_safe (tidy : Tidy x) (name : String) : CommentSafe (shown x name) := by
  unfold shown
  cases found : x.get? name with
  | none => decide
  | some v => exact tidy.get?_safe name v found

theorem shown_plain (tidy : Tidy x) {key : String} (listed : key ∈ ["id", "name", "source", "target"])
    (notDoc : key ∉ docKeys x.tag) : Plain (shown x key) := by
  unfold shown
  cases found : x.get? key with
  | none => decide
  | some v => exact tidy.plain key listed notDoc v found

theorem identOf_plain (tidy : Tidy x) {key : String} (listed : key ∈ ["id", "name", "source", "target"])
    (notDoc : key ∉ docKeys x.tag) {i : String} (made : identOf x key = .ok i) : Plain i := by
  unfold identOf attrValue at made
  cases found : x.get? key with
  | none => simp [found, Value.ofOption, identifierOf] at made
  | some v =>
    simp only [found, Value.ofOption, identifierOf] at made
    split at made
    · rename_i named
      obtain rfl := Except.ok.inj made
      exact Plain.identifier? (tidy.plain key listed notDoc v found) named
    · cases made

theorem nameIdent_plain (tidy : Tidy x) (notHardware : x.tag ≠ "hw_resource") {i : String}
    (made : nameIdent x = .ok i) : Plain i :=
  tidy.identOf_plain (by simp) (name_not_mem_docKeys notHardware) made

theorem jsonOf_tidy (tidy : Tidy x) {name : String} {keys : List String}
    (json : keys ∈ jsonDocKeys name) {v : Value} (read : jsonOf x name = .ok v) :
    v.Tidy (codeKeys name) := by
  unfold jsonOf at read
  cases found : x.get? name with
  | none => simp [found, readAttribute] at read
  | some text =>
    rw [found, readAttribute_some_eq_ok] at read
    exact tidy.json name keys json text found v read

theorem jsonOr_tidy (tidy : Tidy x) {name : String} {keys : List String}
    (json : keys ∈ jsonDocKeys name) {v : Value} (read : jsonOr x name "[]" = .ok v) :
    v.Tidy (codeKeys name) := by
  unfold jsonOr at read
  rw [readAttribute_some_eq_ok] at read
  cases found : x.get? name with
  | none =>
    rw [found] at read
    exact emptyList_tidy _ v read
  | some text =>
    rw [found] at read
    exact tidy.json name keys json text found v read

theorem structureSource_tidy (tidy : Tidy x) {v : Value} (read : Json.read (structureSource x) = .ok v) :
    v.Tidy ["name", "type"] := by
  rw [structureSource_eq] at read
  have dependum : ∀ v, Json.read ((x.get? "dependum_data_structure").getD "[]") = .ok v →
      v.Tidy ["name", "type"] := by
    intro v read
    cases found : x.get? "dependum_data_structure" with
    | none =>
      rw [found] at read
      exact emptyList_tidy _ v read
    | some text =>
      rw [found] at read
      exact tidy.json "dependum_data_structure" ["description"] rfl text found v read
  cases found : x.get? "data_structure" with
  | none =>
    rw [found] at read
    exact dependum v read
  | some text =>
    rw [found] at read
    cases empty : text.isEmpty
    · simp only [Option.filter, empty, Bool.not_false, if_true, Option.getD_some] at read
      exact tidy.json "data_structure" ["description"] rfl text found v read
    · simp only [Option.filter, empty, Bool.not_true, Bool.false_eq_true, if_false,
        Option.getD_none] at read
      exact dependum v read

end Tidy

/-- Twins that are both tidy. -/
structure TidyTwin (x x' : Element) : Prop where
  twin : DocTwin x x'
  tidy : Tidy x
  tidy' : Tidy x'

/-! ### Children and queries of tidy twins -/

theorem mem_subtreeOfList {x : Element} : ∀ {cs : List Element}, x ∈ cs → x ∈ Element.subtreeOfList cs
  | c :: cs, member => by
    simp only [Element.subtreeOfList, List.mem_append]
    rcases List.mem_cons.mp member with rfl | later
    · left
      rw [subtree_eq_cons]
      exact List.mem_cons_self
    · exact .inr (mem_subtreeOfList later)

theorem mem_subtree_of_mem_childrenTagged {e x : Element} {tag : String}
    (member : x ∈ e.childrenTagged tag) : x ∈ e.subtree := by
  rw [subtree_eq_cons]
  exact List.mem_cons_of_mem e (mem_subtreeOfList (mem_children_of_mem_childrenTagged member))

theorem mem_subtree_of_findAll {e : Element} {tag : String} {conditions : List (String × String)}
    (tagPlain : tag = "*" ∨ PlainName tag) (readable : Readable conditions) {xs : List Element}
    (found : e.findAll (descendantPath tag conditions) = .ok xs) : ∀ x ∈ xs, x ∈ e.subtree := by
  rw [Query.findAll_descendantPath tagPlain readable] at found
  obtain rfl := Except.ok.inj found
  intro x member
  exact List.mem_of_mem_drop (List.mem_of_mem_filter (List.mem_of_mem_filter member))

theorem forall₂_and_of_forall {α β : Type} {R : α → β → Prop} {P : α → Prop} {Q : β → Prop} :
    ∀ {xs : List α} {ys : List β}, List.Forall₂ R xs ys → (∀ x ∈ xs, P x) → (∀ y ∈ ys, Q y) →
      List.Forall₂ (fun x y => R x y ∧ P x ∧ Q y) xs ys
  | [], [], .nil, _, _ => .nil
  | _ :: _, _ :: _, .cons related rest, left, right =>
    .cons ⟨related, left _ List.mem_cons_self, right _ List.mem_cons_self⟩
      (forall₂_and_of_forall rest (fun x member => left x (List.mem_cons_of_mem _ member))
        fun y member => right y (List.mem_cons_of_mem _ member))

theorem head?_rel {α β : Type} {R : α → β → Prop} {xs : List α} {ys : List β}
    (twins : List.Forall₂ R xs ys) : Option.Rel R xs.head? ys.head? := by
  cases twins with
  | nil => exact .none
  | cons related _ => exact .some related

section Queries

variable {e e' : Element} (twin : DocTwin e e') (tidy : ∀ x ∈ e.subtree, Tidy x)
  (tidy' : ∀ x ∈ e'.subtree, Tidy x)

include twin tidy tidy'

theorem DocTwin.childrenTagged_tidy (tag : String) :
    List.Forall₂ TidyTwin (e.childrenTagged tag) (e'.childrenTagged tag) :=
  (forall₂_and_of_forall (twin.childrenTagged tag)
    (fun x member => tidy x (mem_subtree_of_mem_childrenTagged member))
    fun x member => tidy' x (mem_subtree_of_mem_childrenTagged member)).imp
      fun _ _ both => ⟨both.1, both.2.1, both.2.2⟩

theorem DocTwin.findAll_tidy {tag : String} {conditions : List (String × String)}
    (tagPlain : tag = "*" ∨ PlainName tag) (readable : Readable conditions)
    (spliced : ∀ c ∈ conditions, c.1 ∈ splicedKeys) :
    ∃ xs xs', e.findAll (descendantPath tag conditions) = .ok xs ∧
      e'.findAll (descendantPath tag conditions) = .ok xs' ∧ List.Forall₂ TidyTwin xs xs' := by
  obtain ⟨xs, xs', found, found', twins⟩ := twin.findAll_descendantPath tagPlain readable spliced
  refine ⟨xs, xs', found, found', ?_⟩
  exact (forall₂_and_of_forall twins
    (fun x member => tidy x (mem_subtree_of_findAll tagPlain readable found x member))
    fun x member => tidy' x (mem_subtree_of_findAll tagPlain readable found' x member)).imp
      fun _ _ both => ⟨both.1, both.2.1, both.2.2⟩

theorem DocTwin.findAllIn_tidy {tag : String} {conditions : List (String × String)}
    (tagPlain : tag = "*" ∨ PlainName tag) (readable : Readable conditions)
    (spliced : ∀ c ∈ conditions, c.1 ∈ splicedKeys) :
    ∃ xs xs', findAllIn e (descendantPath tag conditions) = .ok xs ∧
      findAllIn e' (descendantPath tag conditions) = .ok xs' ∧ List.Forall₂ TidyTwin xs xs' := by
  obtain ⟨xs, xs', found, found', twins⟩ := twin.findAll_tidy tidy tidy' tagPlain readable spliced
  exact ⟨xs, xs', by simp only [findAllIn, found], by simp only [findAllIn, found'], twins⟩

theorem DocTwin.findIn_tidy {tag : String} {conditions : List (String × String)}
    (tagPlain : tag = "*" ∨ PlainName tag) (readable : Readable conditions)
    (spliced : ∀ c ∈ conditions, c.1 ∈ splicedKeys) :
    ∃ o o', findIn e (descendantPath tag conditions) = .ok o ∧
      findIn e' (descendantPath tag conditions) = .ok o' ∧ Option.Rel TidyTwin o o' := by
  obtain ⟨xs, xs', found, found', twins⟩ := twin.findAll_tidy tidy tidy' tagPlain readable spliced
  exact ⟨_, _, by simp only [findIn, found], by simp only [findIn, found'], head?_rel twins⟩

end Queries

end SketchGen.Sketch
