import SketchGen.Proofs.Sketch.DocumentationInert

/-! The steps that make a sketch, run on tidy twin components. A step reads its elements through
values that are not documentation, where twins agree, and writes documentation only where its
template keeps it inside a comment. So each step, run on tidy twins, gives equal results, or
results that read alike once comments are removed, whenever both runs succeed. -/

namespace SketchGen.Sketch

open SketchGen.Cpp SketchGen.Json SketchGen.Xml SketchGen.Text

/-! ### JSON read alike -/

/-- Two items of JSON lists alike but for their documenting members, both fitting the text. -/
structure ItemTwin (keys codes : List String) (x x' : Value) : Prop where
  alike : x'.eraseMembers keys = x.eraseMembers keys
  fits : x.Fitting codes
  fits' : x'.Fitting codes

/-- Two JSON values alike but for the documenting members of their items, both tidy. -/
structure ValueTwin (keys codes : List String) (v v' : Value) : Prop where
  alike : v'.eraseDocs keys = v.eraseDocs keys
  tidy : v.Tidy codes
  tidy' : v'.Tidy codes

section Json

variable {keys codes : List String}

namespace ItemTwin

variable {x x' : Value}

theorem member_eq (twin : ItemTwin keys codes x x') {key : String} (kept : key ∉ keys) :
    x'.member key = x.member key :=
  Value.member_eq_of_erase twin.alike kept

theorem getOr_eq (twin : ItemTwin keys codes x x') {key : String} (kept : key ∉ keys)
    (fallback : Value) : x'.getOr key fallback = x.getOr key fallback :=
  Value.getOr_eq_of_erase twin.alike kept fallback

theorem member_agree (twin : ItemTwin keys codes x x') {key : String} (kept : key ∉ keys) :
    Gen.Agree (fun y y' => y' = y) (x.member key) (x'.member key) :=
  Gen.Agree.of_eq (twin.member_eq kept)

theorem code_agree (twin : ItemTwin keys codes x x') {key : String} (kept : key ∉ keys)
    (code : key ∈ codes) :
    Gen.Agree (fun y y' => y' = y ∧ Plain y.display) (x.member key) (x'.member key) :=
  fun _ _ found found' => ⟨twin.member_agree kept _ _ found found', (twin.fits.member found).2 code⟩

theorem doc_agree (twin : ItemTwin keys codes x x') (key : String) :
    Gen.Agree (fun y y' => CommentSafe y.display ∧ CommentSafe y'.display)
      (x.member key) (x'.member key) :=
  fun _ _ found found' => ⟨(twin.fits.member found).1, (twin.fits'.member found').1⟩

end ItemTwin

namespace ValueTwin

variable {v v' : Value}

theorem items_agree (twin : ValueTwin keys codes v v') :
    Gen.Agree (List.Forall₂ (ItemTwin keys codes)) v.items v'.items := by
  intro xs xs' listed listed'
  exact (forall₂_and_of_forall (Value.items_twin twin.alike listed listed')
    (twin.tidy.items listed) (twin.tidy'.items listed')).imp fun _ _ both =>
      ⟨both.1, both.2.1, both.2.2⟩

theorem first_agree (twin : ValueTwin keys codes v v') :
    Gen.Agree (ItemTwin keys codes) v.first v'.first :=
  fun _ _ first first' => ⟨Value.first_twin twin.alike first first', twin.tidy.first first,
    twin.tidy'.first first'⟩

theorem truthy_eq (twin : ValueTwin keys codes v v') : v'.truthy = v.truthy :=
  calc v'.truthy = (v'.eraseDocs keys).truthy := (Value.truthy_eraseDocs v').symm
    _ = (v.eraseDocs keys).truthy := by rw [twin.alike]
    _ = v.truthy := Value.truthy_eraseDocs v

end ValueTwin

end Json

namespace TidyTwin

variable {x x' : Element} {keys : List String} {name : String}

theorem jsonOf_agree (twin : TidyTwin x x') (json : keys ∈ jsonDocKeys name) :
    Gen.Agree (ValueTwin keys (codeKeys name)) (jsonOf x name) (jsonOf x' name) :=
  fun _ _ read read' => ⟨twin.twin.jsonOf_agree json _ _ read read',
    twin.tidy.jsonOf_tidy json read, twin.tidy'.jsonOf_tidy json read'⟩

theorem jsonOr_agree (twin : TidyTwin x x') (json : keys ∈ jsonDocKeys name) :
    Gen.Agree (ValueTwin keys (codeKeys name)) (jsonOr x name "[]") (jsonOr x' name "[]") :=
  fun _ _ read read' => ⟨twin.twin.jsonOr_agree json "[]" _ _ read read',
    twin.tidy.jsonOr_tidy json read, twin.tidy'.jsonOr_tidy json read'⟩

end TidyTwin

/-! ### Values that stand in code -/

theorem identifierOf_plain {v : Value} (plain : Plain v.display) {i : String}
    (made : identifierOf v = .ok i) : Plain i := by
  obtain ⟨s, rfl, named⟩ := identifierOf_eq_ok made
  exact Plain.identifier? plain named

theorem CType.ofValue_fits {v : Value} (plain : Plain v.display) {t : CType}
    (made : CType.ofValue v = .ok t) : t.Fits := by
  simp only [CType.ofValue, Gen.bind_eq_ok] at made
  obtain ⟨_, _, made⟩ := made
  cases v with
  | str s =>
    obtain rfl := Gen.pure_eq_ok.mp made
    cases known : CType.known? s with
    | none => exact CType.fits_of_plain plain
    | some t => simpa [known] using CType.fits_of_known known
  | _ =>
    obtain rfl := Gen.pure_eq_ok.mp made
    exact CType.fits_of_plain plain

namespace TidyTwin

variable {x x' : Element}

theorem nameIdent_agree (twin : TidyTwin x x') (notHardware : x.tag ≠ "hw_resource") :
    Gen.Agree (fun i i' => i' = i ∧ Plain i) (nameIdent x) (nameIdent x') :=
  fun _ _ named named' => ⟨Gen.Agree.of_eq (twin.twin.nameIdent_eq notHardware) _ _ named named',
    twin.tidy.nameIdent_plain notHardware named⟩

end TidyTwin

/-! ### Variables and data structures -/

theorem Variable.ofParam_agree {owner : String} (plainOwner : Plain owner) {p p' : Value}
    (twin : ItemTwin ["description"] ["name", "type"] p p') :
    Gen.Agree Variable.Twin (Variable.ofParam owner p) (Variable.ofParam owner p') := by
  intro v v' made made'
  simp only [Variable.ofParam, Gen.bind_eq_ok, Gen.pure_eq_ok] at made made'
  obtain ⟨ty, typed, ctype, ctyped, n, named, ident, identified, d, described, rfl⟩ := made
  obtain ⟨ty', typed', ctype', ctyped', n', named', ident', identified', d', described', rfl⟩ := made'
  obtain ⟨rfl, typePlain⟩ := twin.code_agree (by decide) (by simp) _ _ typed typed'
  obtain ⟨rfl, namePlain⟩ := twin.code_agree (by decide) (by simp) _ _ named named'
  obtain rfl : ctype' = ctype := Except.ok.inj (ctyped'.symm.trans ctyped)
  obtain rfl : ident' = ident := Except.ok.inj (identified'.symm.trans identified)
  have identPlain := identifierOf_plain namePlain identified
  refine ⟨rfl, rfl, CType.ofValue_fits typePlain ctyped, ?_, (twin.fits.member described).1,
    (twin.fits'.member described').1⟩
  split
  · exact identPlain
  · exact (plainOwner.append (by decide)).append identPlain

section Fields

variable {codes : List String} {ms ms' : List (String × Value)}

theorem ItemTwin.lookupMember_eq {keys : List String}
    (twin : ItemTwin keys codes (.obj ms) (.obj ms')) {key : String} (kept : key ∉ keys) :
    lookupMember ms' key = lookupMember ms key := by
  have same := congrArg (lookupMember · key) (Value.obj.inj twin.alike)
  simpa [lookupMember_erase, kept] using same

theorem Value.Fitting.getD (fits : (Value.obj ms).Fitting codes) {key : String} {fallback : Value}
    (safe : CommentSafe fallback.display) (plain : key ∈ codes → Plain fallback.display) :
    CommentSafe ((lookupMember ms key).getD fallback).display ∧
      (key ∈ codes → Plain ((lookupMember ms key).getD fallback).display) := by
  cases found : lookupMember ms key with
  | none => exact ⟨safe, plain⟩
  | some y => exact fits.member (Value.member_obj.mpr found)

theorem ItemTwin.fieldParam_twin (twin : ItemTwin ["description"] ["name", "type"] (.obj ms) (.obj ms')) :
    ItemTwin ["description"] ["name", "type"] (.obj (fieldParam ms)) (.obj (fieldParam ms')) := by
  have fitting : ∀ {ns : List (String × Value)}, (Value.obj ns).Fitting ["name", "type"] →
      (Value.obj (fieldParam ns)).Fitting ["name", "type"] := by
    intro ns fits m member
    simp only [fieldParam, List.mem_cons, List.not_mem_nil, or_false] at member
    rcases member with rfl | rfl | rfl <;> exact Value.Fitting.getD fits (by decide) fun _ => by decide
  have typed := twin.lookupMember_eq (show "type" ∉ ["description"] by decide)
  have named := twin.lookupMember_eq (show "name" ∉ ["description"] by decide)
  exact ⟨by simp [Value.eraseMembers, fieldParam, typed, named], fitting twin.fits,
    fitting twin.fits'⟩

theorem ItemTwin.completeField_agree {x x' : Value}
    (twin : ItemTwin ["description"] ["name", "type"] x x') :
    Gen.Agree (fun m m' => Gen.Agree Variable.Twin (Variable.ofParam "" m) (Variable.ofParam "" m'))
      (completeField x) (completeField x') := by
  intro m m' completed completed'
  cases x with
  | obj ms =>
    cases x' with
    | obj ms' =>
      rw [completeField_ofParam "" completed, completeField_ofParam "" completed']
      exact Variable.ofParam_agree (by decide) twin.fieldParam_twin
    | _ => simp [completeField] at completed'
  | _ => simp [completeField] at completed

end Fields

namespace TidyTwin

variable {x x' : Element}

theorem structOf_agree (twin : TidyTwin x x') (notHardware : x.tag ≠ "hw_resource") :
    Gen.Agree StructDecl.Twin (structOf x) (structOf x') := by
  have fields : ∀ {v v' : Value}, ValueTwin ["description"] ["name", "type"] v v' →
      Gen.Agree StructDecl.Twin
        (do
          let items ← v.items
          let complete ← items.mapM completeField
          let owner ← nameIdent x
          let members ← complete.mapM (Variable.ofParam "")
          pure (StructDecl.struct owner members))
        (do
          let items ← v'.items
          let complete ← items.mapM completeField
          let owner ← nameIdent x'
          let members ← complete.mapM (Variable.ofParam "")
          pure (StructDecl.struct owner members)) := by
    intro v v' fieldsTwin
    refine fieldsTwin.items_agree.bind fun items items' itemTwins => ?_
    refine (Gen.Agree.mapM itemTwins fun _ _ _ item => item.completeField_agree).bind
      fun cs cs' completed => ?_
    refine (twin.nameIdent_agree notHardware).bind fun o o' named => ?_
    refine (Gen.Agree.mapM completed fun _ _ _ agree => agree).bind fun ms ms' members => ?_
    obtain ⟨rfl, plain⟩ := named
    exact Gen.Agree.pure (.struct plain members)
  unfold structOf
  rcases twin.twin.structureSource_twin with same | ⟨v, v', parsed, parsed', erased⟩
  · rw [same]
    cases read : Json.read (structureSource x) with
    | error err =>
      cases err
      case invalid => exact Gen.Agree.pure .invalid
      all_goals exact fun _ _ made => by cases made
    | ok v =>
      have tidy := twin.tidy.structureSource_tidy read
      exact fields ⟨rfl, tidy, tidy⟩
  · rw [parsed, parsed']
    exact fields ⟨erased, twin.tidy.structureSource_tidy parsed, twin.tidy'.structureSource_tidy parsed'⟩

end TidyTwin

/-! ### Operation modes -/

def modeDocKeys : List String := ["name", "description"]

theorem modeDocKeys_mem : modeDocKeys ∈ jsonDocKeys "operation_modes" := rfl

theorem modeCaseOf_agree {p p' : Value} (twin : ItemTwin modeDocKeys ["code"] p p') :
    Gen.Agree ModeCase.Twin (modeCaseOf p) (modeCaseOf p') := by
  intro c c' made made'
  simp only [modeCaseOf, Gen.bind_eq_ok, Gen.pure_eq_ok] at made made'
  obtain ⟨code, coded, name, named, description, described, rfl⟩ := made
  obtain ⟨code', coded', name', named', description', described', rfl⟩ := made'
  rw [twin.member_eq (by decide), coded] at coded'
  obtain rfl := Except.ok.inj coded'
  exact ⟨rfl, (twin.fits.member coded).2 (by simp), (twin.fits.member named).1,
    (twin.fits'.member named').1, (twin.fits.member described).1, (twin.fits'.member described').1⟩

namespace TidyTwin

variable {x x' : Element}

theorem modeVariable_agree (twin : TidyTwin x x') (notHardware : x.tag ≠ "hw_resource") :
    Gen.Agree (fun v v' => v' = v ∧ Plain v) (modeVariable x) (modeVariable x') := by
  intro v v' made made'
  simp only [modeVariable, Gen.bind_eq_ok, Gen.pure_eq_ok] at made made'
  obtain ⟨i, named, rfl⟩ := made
  obtain ⟨i', named', rfl⟩ := made'
  rw [twin.twin.nameIdent_eq notHardware, named] at named'
  obtain rfl := Except.ok.inj named'
  exact ⟨rfl, (twin.tidy.nameIdent_plain notHardware named).append (by decide)⟩

theorem modeSwitchOf_agree (twin : TidyTwin x x') (notHardware : x.tag ≠ "hw_resource") :
    Gen.Agree (Option.Rel ModeSwitch.Twin) (modeSwitchOf x) (modeSwitchOf x') := by
  unfold modeSwitchOf
  rw [twin.twin.modesEnabled_eq]
  cases modesEnabled x
  · exact Gen.Agree.pure .none
  · exact (twin.jsonOr_agree modeDocKeys_mem).bind fun modes modes' modesTwin =>
      (twin.modeVariable_agree notHardware).bind fun v v' ⟨same, plain⟩ =>
        modesTwin.items_agree.bind fun ms ms' items =>
          (Gen.Agree.mapM items fun _ _ _ item => modeCaseOf_agree item).bind
            fun cs cs' cases => Gen.Agree.pure (.some ⟨same, plain, cases⟩)

theorem modeDeclOf_agree (twin : TidyTwin x x') (notHardware : x.tag ≠ "hw_resource") :
    Gen.Agree (Option.Rel ModeDecl.Twin) (modeDeclOf x) (modeDeclOf x') := by
  unfold modeDeclOf
  rw [twin.twin.modesEnabled_eq]
  cases modesEnabled x
  · exact Gen.Agree.pure .none
  · refine (twin.jsonOr_agree modeDocKeys_mem).bind fun modes modes' modesTwin => ?_
    rw [modesTwin.truthy_eq]
    cases modes.truthy
    · exact Gen.Agree.pure .none
    · refine (twin.modeVariable_agree notHardware).bind fun v v' ⟨same, plain⟩ => ?_
      -- the first mode is read twice, for its code and for its name
      refine modesTwin.first_agree.bind fun _ _ first => ?_
      refine (first.code_agree (by decide) (by simp [codeKeys])).bind fun code code' ⟨coded, plainCode⟩ => ?_
      refine modesTwin.first_agree.bind fun _ _ second => ?_
      refine (second.doc_agree "name").bind fun name name' ⟨named, named'⟩ => ?_
      exact Gen.Agree.pure (.some ⟨same, congrArg Value.display coded, plain, plainCode, named,
        named'⟩)

end TidyTwin

/-! ### Sections of twin components -/

theorem tag_of_mem_childrenTagged {e x : Element} {tag : String} (member : x ∈ e.childrenTagged tag) :
    x.tag = tag :=
  beq_iff_eq.mp (List.mem_filter.mp member).2

section Component

variable {cpc cpc' : Element} (twin : DocTwin cpc cpc') (tidy : ∀ x ∈ cpc.subtree, Tidy x)
  (tidy' : ∀ x ∈ cpc'.subtree, Tidy x)

include twin tidy tidy'

theorem DocTwin.ownersTagged {tag : String} (notHardware : tag ≠ "hw_resource") :
    List.Forall₂ (fun x x' => TidyTwin x x' ∧ x.tag ≠ "hw_resource")
      (cpc.childrenTagged tag) (cpc'.childrenTagged tag) := by
  refine (forall₂_and_of_forall (twin.childrenTagged_tidy tidy tidy' tag)
    (P := fun x => x.tag ≠ "hw_resource") (Q := fun _ => True) ?_ fun _ _ => trivial).imp
      fun _ _ both => ⟨both.1, both.2.1⟩
  intro x member
  rwa [tag_of_mem_childrenTagged member]

theorem DocTwin.ownersTaggedAll {tags : List String} (notHardware : "hw_resource" ∉ tags) :
    List.Forall₂ (fun x x' => TidyTwin x x' ∧ x.tag ≠ "hw_resource")
      (tags.flatMap cpc.childrenTagged) (tags.flatMap cpc'.childrenTagged) := by
  induction tags with
  | nil => exact .nil
  | cons tag rest ih =>
    simp only [List.flatMap_cons]
    refine List.rel_append (twin.ownersTagged tidy tidy' fun hardware => ?_)
      (ih fun listed => notHardware (List.mem_cons_of_mem _ listed))
    exact notHardware (hardware ▸ List.mem_cons_self)

theorem modeDeclsOf_agree :
    Gen.Agree (List.Forall₂ ModeDecl.Twin) (modeDeclsOf cpc) (modeDeclsOf cpc') := by
  unfold modeDeclsOf
  refine (Gen.Agree.mapM (twin.ownersTaggedAll tidy tidy' (by decide)) fun _ _ _ owner =>
    owner.1.modeDeclOf_agree owner.2).bind fun ds ds' decls => Gen.Agree.pure ?_
  exact List.rel_filterMap (fun _ _ related => related) decls

theorem structDeclsOf_agree :
    Gen.Agree (List.Forall₂ StructDecl.Twin) (structDeclsOf cpc) (structDeclsOf cpc') :=
  Gen.Agree.mapM (twin.ownersTaggedAll tidy tidy' (by decide)) fun _ _ _ owner =>
    owner.1.structOf_agree owner.2

theorem outputVariablesOf_agree :
    Gen.Agree (List.Forall₂ Variable.Twin) (outputVariablesOf cpc) (outputVariablesOf cpc') := by
  unfold outputVariablesOf
  refine (Gen.Agree.mapM (twin.ownersTagged tidy tidy' (by decide))
    fun _ _ _ routine => ?_).bind fun groups groups' twins => Gen.Agree.pure (List.rel_flatten twins)
  refine (routine.1.jsonOf_agree rfl).bind fun outputs outputs' outputsTwin => ?_
  refine (routine.1.nameIdent_agree routine.2).bind fun name name' named => ?_
  obtain ⟨rfl, plain⟩ := named
  exact outputsTwin.items_agree.bind fun _ _ items =>
    Gen.Agree.mapM items fun _ _ _ item => Variable.ofParam_agree plain item

end Component

end SketchGen.Sketch
