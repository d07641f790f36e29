import SketchGen.Proofs.Sketch.Layout
import SketchGen.Proofs.Sketch.Sections

namespace SketchGen.Sketch

open SketchGen.Json SketchGen.Xml SketchGen.Text

/-! Data structure members. A sketch reads and writes members of the data structures it
declares: a publishing task copies its dependum's fields into the message it sends, a callback
copies the fields of a received message into its subscriber's dependum and prints them, and a
routine initialises the members of the software resources related to it. Each of these reads the
element's data structure anew, and the struct is made from the same text: a publisher's or
subscriber's fields are its struct's members, in order, and each member a routine initialises
is a member of the resource's struct. Completing a field keeps its name, so the struct names the
member by the same identifier. -/

/-! ### Members of a dictionary -/

theorem lookupMember_setMember_self (members : List (String × Value)) (key : String) (v : Value) :
    lookupMember (setMember members key v) key = some v := by
  unfold setMember lookupMember
  split
  · rename_i present
    obtain ⟨m, found⟩ :=
      Option.isSome_iff_exists.mp (List.find?_isSome.mpr (List.any_eq_true.mp present))
    have keyed : m.1 = key := by simpa using List.find?_some found
    -- replacing the values of the key keeps which members have the key
    have same : ((fun m : String × Value => m.1 == key) ∘
        fun m => if (m.1 == key) = true then (key, v) else m) = (fun m => m.1 == key) := by
      funext m
      by_cases hit : m.1 = key <;> simp [hit]
    rw [List.find?_map, same, found]
    simp [keyed]
  · rename_i absent
    have missing : members.find? (fun m => m.1 == key) = none :=
      List.find?_eq_none.mpr fun m member hit => absent (List.any_eq_true.mpr ⟨m, member, hit⟩)
    simp [List.find?_append, missing]

theorem lookupMember_setMember_of_ne (members : List (String × Value)) {key other : String}
    (v : Value) (different : other ≠ key) :
    lookupMember (setMember members key v) other = lookupMember members other := by
  unfold setMember lookupMember
  split
  · have same : ((fun m : String × Value => m.1 == other) ∘
        fun m => if (m.1 == key) = true then (key, v) else m) = (fun m => m.1 == other) := by
      funext m
      by_cases hit : m.1 = key <;> simp [hit]
    rw [List.find?_map, same]
    cases found : members.find? (fun m => m.1 == other) with
    | none => rfl
    | some m =>
      have keyed : m.1 = other := by simpa using List.find?_some found
      simp [keyed, different]
  · simp [List.find?_append, different.symm]

/-! ### Fields and members -/

theorem lookupMember_fill {members : List (String × Value)} {key filled : String} {x : Value}
    (fallback : Value) (present : lookupMember members key = some x) :
    lookupMember (setMember members filled ((lookupMember members filled).getD fallback)) key =
      some x := by
  by_cases same : key = filled
  · subst same
    rw [lookupMember_setMember_self, present]
    rfl
  · rw [lookupMember_setMember_of_ne _ _ same, present]

theorem completeField_member {m m' x : Value} {key : String} (present : m.member key = .ok x)
    (completed : completeField m = .ok m') : m'.member key = .ok x := by
  cases m with
  | obj ms =>
    cases found : lookupMember ms key with
    | none => simp [Value.member, found] at present
    | some y =>
      simp only [Value.member, found, Except.ok.injEq] at present
      subst present
      simp only [completeField, Except.ok.injEq] at completed
      subst completed
      simp only [Value.member, lookupMember_fill _ (lookupMember_fill _ (lookupMember_fill _ found))]
  | _ => simp [completeField] at completed

theorem ofParam_name {m x : Value} {v : Variable} (named : m.member "name" = .ok x)
    (declared : Variable.ofParam "" m = .ok v) : identifierOf x = .ok v.name := by
  simp only [Variable.ofParam, Gen.bind_eq_ok, Gen.pure_eq_ok] at declared
  obtain ⟨_, _, _, _, y, yOk, ident, identOk, _, _, rfl⟩ := declared
  obtain rfl : y = x := Except.ok.inj (yOk.symm.trans named)
  -- with no owner the identifier stands unprefixed
  have blank : (Text.strip "").isEmpty = true := by decide
  simp only [blank, if_true]
  exact identOk
theorem fieldIdent_spec {f : Value} {i : String} (h : fieldIdent f = .ok i) :
    ∃ x, f.member "name" = .ok x ∧ identifierOf x = .ok i := by
  simp only [fieldIdent, Gen.bind_eq_ok] at h
  obtain ⟨x, got, named⟩ := h
  -- a field without a name reads as null, which has no identifier
  cases f with
  | obj ms =>
    cases found : lookupMember ms "name" with
    | none =>
      simp only [Value.get, Value.getOr, found, Option.getD_none, Except.ok.injEq] at got
      subst got
      cases named
    | some y =>
      simp only [Value.get, Value.getOr, found, Option.getD_some, Except.ok.injEq] at got
      subst got
      exact ⟨y, by simp [Value.member, found], named⟩
  | _ => cases got

theorem memberInitOf_spec {m : Value} {mi : MemberInit} (h : memberInitOf m = .ok mi) :
    ∃ x, m.member "name" = .ok x ∧ identifierOf x = .ok mi.name := by
  simp only [memberInitOf, Gen.bind_eq_ok] at h
  obtain ⟨x, named, name, identified, _, _, typed⟩ := h
  split at typed
  · simp only [Gen.bind_eq_ok, Gen.pure_eq_ok] at typed
    obtain ⟨_, _, rfl⟩ := typed
    exact ⟨x, named, identified⟩
  · cases typed

theorem member_names_of_fields : ∀ {fields : List Value} {names : List String}
    {complete : List Value} {members : List Variable},
    fields.mapM fieldIdent = .ok names → fields.mapM completeField = .ok complete →
      complete.mapM (Variable.ofParam "") = .ok members → members.map (·.name) = names
  | [], names, complete, members, named, completed, declared => by
    simp only [List.mapM_nil, Gen.pure_eq_ok] at named completed
    subst named completed
    simp only [List.mapM_nil, Gen.pure_eq_ok] at declared
    subst declared
    rfl
  | f :: fs, names, complete, members, named, completed, declared => by
    simp only [List.mapM_cons, Gen.bind_eq_ok, Gen.pure_eq_ok] at named completed
    obtain ⟨i, identified, is, rest, rfl⟩ := named
    obtain ⟨f', filled, fs', restFilled, rfl⟩ := completed
    simp only [List.mapM_cons, Gen.bind_eq_ok, Gen.pure_eq_ok] at declared
    obtain ⟨v, made, vs, restMade, rfl⟩ := declared
    obtain ⟨x, hasName, named⟩ := fieldIdent_spec identified
    have head : v.name = i :=
      Except.ok.inj ((ofParam_name (completeField_member hasName filled) made).symm.trans named)
    rw [List.map_cons, head, member_names_of_fields rest restFilled restMade]

/-! ### The text a struct is made from -/

theorem read_empty_ne_ok (v : Value) : Json.read "" ≠ .ok v := by
  intro read
  have failed : (Json.read "").isOk = false := by decide
  rw [read] at failed
  cases failed

theorem structureSource_of_present {e : Element} {s : String}
    (present : e.get? "data_structure" = some s) (nonempty : s ≠ "") : structureSource e = s := by
  unfold structureSource
  simp [present, String.isEmpty_iff, nonempty]

theorem dependumFields_source {e : Element} {fields : List Value}
    (h : dependumFields e = .ok fields) :
    ∃ v, Json.read (structureSource e) = .ok v ∧ v.items = .ok fields := by
  simp only [dependumFields, Gen.bind_eq_ok] at h
  obtain ⟨v, read, items⟩ := h
  unfold jsonOf readAttribute at read
  cases present : e.get? "data_structure" with
  | none => simp [present] at read
  | some s =>
    simp only [present] at read
    split at read
    · rename_i parsed
      cases read
      have nonempty : s ≠ "" := by
        rintro rfl
        exact read_empty_ne_ok _ parsed
      exact ⟨_, by rw [structureSource_of_present present nonempty, parsed], items⟩
    · cases read

theorem resourceMembers_source {e : Element} {items : List Value} {m : Value}
    (h : resourceMembers e = .ok items) (member : m ∈ items) :
    ∃ v, Json.read (structureSource e) = .ok v ∧ v.items = .ok items := by
  unfold resourceMembers at h
  cases present : e.get? "data_structure" with
  | none =>
    simp only [present, Gen.pure_eq_ok] at h
    subst h
    cases member
  | some s =>
    simp only [present] at h
    split at h
    · simp only [Gen.pure_eq_ok] at h
      subst h
      cases member
    · rename_i notEmpty
      simp only [Gen.bind_eq_ok, readAttribute] at h
      obtain ⟨v, read, listed⟩ := h
      split at read
      · rename_i parsed
        cases read
        have nonempty : s ≠ "" := fun empty => notEmpty (String.isEmpty_iff.mpr empty)
        exact ⟨_, by rw [structureSource_of_present present nonempty, parsed], listed⟩
      · cases read

theorem structOf_of_read {e : Element} {v : Value} {decl : StructDecl}
    (read : Json.read (structureSource e) = .ok v) (h : structOf e = .ok decl) :
    ∃ items complete members, v.items = .ok items ∧ items.mapM completeField = .ok complete ∧
      complete.mapM (Variable.ofParam "") = .ok members ∧
      ∃ owner, nameIdent e = .ok owner ∧ decl = .struct owner members := by
  unfold structOf at h
  rw [read] at h
  simp only [Gen.bind_eq_ok, Gen.pure_eq_ok] at h
  obtain ⟨items, itemsOk, complete, completed, owner, named, members, declared, rfl⟩ := h
  exact ⟨items, complete, members, itemsOk, completed, declared, owner, named, rfl⟩

theorem resourceInitOf_spec {e : Element} {ri : ResourceInit} (h : resourceInitOf e = .ok ri) :
    nameIdent e = .ok ri.owner ∧
      ∃ members, resourceMembers e = .ok members ∧ members.mapM memberInitOf = .ok ri.members := by
  simp only [resourceInitOf, Gen.bind_eq_ok, Gen.pure_eq_ok] at h
  obtain ⟨_, named, members, listed, _, inits, rfl⟩ := h
  exact ⟨named, members, listed, inits⟩

/-! ### The members a sketch reads and writes -/

section Generated

variable {systemId : String} {cpc : Element} {sk : Program}

theorem struct_of_dependum (generated : Generated systemId cpc sk) {e : Element}
    (member : e ∈ ["commThread", "listenerThread", "sw_resource"].flatMap cpc.childrenTagged)
    {fields : List Value} {names : List String} (dependum : dependumFields e = .ok fields)
    (named : fields.mapM fieldIdent = .ok names) :
    ∃ owner members, StructDecl.struct owner members ∈ sk.structs ∧ nameIdent e = .ok owner ∧
      members.map (·.name) = names := by
  obtain ⟨decl, declared, made⟩ := Gen.exists_of_mem_mapM_left generated.structs member
  obtain ⟨v, read, listed⟩ := dependumFields_source dependum
  obtain ⟨items, complete, members, itemsOk, completed, typed, owner, ownerOk, rfl⟩ :=
    structOf_of_read read made
  obtain rfl : items = fields := Except.ok.inj (itemsOk.symm.trans listed)
  exact ⟨owner, members, declared, ownerOk, member_names_of_fields named completed typed⟩

theorem publishTask_fields_declared (generated : Generated systemId cpc sk) {pt : PublishTask}
    (task : pt ∈ sk.publishTasks) :
    ∃ members, StructDecl.struct pt.owner members ∈ sk.structs ∧
      pt.fields = members.map (·.name) := by
  obtain ⟨p, member, published⟩ := Gen.exists_of_mem_mapM generated.publishTasks task
  obtain ⟨named, ⟨fields, dependum, idents⟩, -⟩ := publishTaskOf_spec published
  obtain ⟨owner, members, declared, ownerOk, names⟩ := struct_of_dependum generated
    (List.mem_flatMap.mpr ⟨"commThread", by simp, member⟩) dependum idents
  obtain rfl : owner = pt.owner := Except.ok.inj (ownerOk.symm.trans named)
  exact ⟨members, declared, names.symm⟩

theorem callback_fields_declared (generated : Generated systemId cpc sk) {cb : Callback}
    (callback : cb ∈ sk.callbacks) :
    ∃ members, StructDecl.struct cb.owner members ∈ sk.structs ∧
      cb.fields = members.map (·.name) := by
  obtain ⟨q, member, called⟩ := Gen.exists_of_mem_mapM generated.callbacks callback
  obtain ⟨named, ⟨fields, dependum, idents⟩, -⟩ := callbackOf_spec called
  obtain ⟨owner, members, declared, ownerOk, names⟩ := struct_of_dependum generated
    (List.mem_flatMap.mpr ⟨"listenerThread", by simp, member⟩) dependum idents
  obtain rfl : owner = cb.owner := Except.ok.inj (ownerOk.symm.trans named)
  exact ⟨members, declared, names.symm⟩

theorem resource_member_source (generated : Generated systemId cpc sk) {r : Routine}
    {ri : ResourceInit} {mi : MemberInit} (defined : r ∈ sk.routines) (used : ri ∈ r.resources)
    (initialised : mi ∈ ri.members) :
    ∃ members, StructDecl.struct ri.owner members ∈ sk.structs ∧
      ∃ item filled, memberInitOf item = .ok mi ∧ completeField item = .ok filled ∧
        ∃ var ∈ members, Variable.ofParam "" filled = .ok var ∧ var.name = mi.name := by
  obtain ⟨fn, -, compiled⟩ := Gen.exists_of_mem_mapM generated.routines defined
  obtain ⟨-, -, -, -, related, relatedOk, initsOk⟩ := routineOf_spec compiled
  obtain ⟨res, relatedRes, made⟩ := Gen.exists_of_mem_mapM initsOk used
  have resource : res ∈ cpc.childrenTagged "sw_resource" := Gen.mem_of_filterM relatedOk relatedRes
  obtain ⟨named, items, listed, inits⟩ := resourceInitOf_spec made
  obtain ⟨item, itemListed, itemInit⟩ := Gen.exists_of_mem_mapM inits initialised
  -- the resource's struct is made from the text its initialisation read
  obtain ⟨v, read, itemsOk⟩ := resourceMembers_source listed itemListed
  obtain ⟨decl, declared, structMade⟩ := Gen.exists_of_mem_mapM_left generated.structs
    (List.mem_flatMap.mpr ⟨"sw_resource", by simp, resource⟩)
  obtain ⟨items', complete, members, itemsOk', completed, typed, owner, ownerOk, rfl⟩ :=
    structOf_of_read read structMade
  obtain rfl : items' = items := Except.ok.inj (itemsOk'.symm.trans itemsOk)
  obtain rfl : owner = ri.owner := Except.ok.inj (ownerOk.symm.trans named)
  obtain ⟨filled, filledMember, completedItem⟩ := Gen.exists_of_mem_mapM_left completed itemListed
  obtain ⟨var, varMember, varMade⟩ := Gen.exists_of_mem_mapM_left typed filledMember
  obtain ⟨x, hasName, identified⟩ := memberInitOf_spec itemInit
  have sameName : var.name = mi.name := Except.ok.inj
    ((ofParam_name (completeField_member hasName completedItem) varMade).symm.trans identified)
  exact ⟨members, declared, item, filled, itemInit, completedItem, var, varMember, varMade, sameName⟩

theorem resource_member_declared (generated : Generated systemId cpc sk) {r : Routine}
    {ri : ResourceInit} {mi : MemberInit} (defined : r ∈ sk.routines) (used : ri ∈ r.resources)
    (initialised : mi ∈ ri.members) :
    ∃ members, StructDecl.struct ri.owner members ∈ sk.structs ∧ mi.name ∈ members.map (·.name) := by
  obtain ⟨members, declared, -, -, -, -, var, varMember, -, sameName⟩ :=
    resource_member_source generated defined used initialised
  exact ⟨members, declared, sameName ▸ List.mem_map_of_mem varMember⟩

end Generated

/-- Every member a generated sketch reads or writes belongs to a struct it declares: the fields
a publishing task sends and a callback receives are exactly the members of their thread's
struct, in order, and each member a routine initialises is a member of its resource's struct. -/
theorem accessed_members_declared {systemId : String} {cpc : Element} {sk : Program}
    (h : sketchOf systemId cpc = .ok sk) :
    (∀ pt ∈ sk.publishTasks, ∃ members, StructDecl.struct pt.owner members ∈ sk.structs ∧
      pt.fields = members.map (·.name)) ∧
    (∀ cb ∈ sk.callbacks, ∃ members, StructDecl.struct cb.owner members ∈ sk.structs ∧
      cb.fields = members.map (·.name)) ∧
    ∀ r ∈ sk.routines, ∀ ri ∈ r.resources, ∀ mi ∈ ri.members,
      ∃ members, StructDecl.struct ri.owner members ∈ sk.structs ∧ mi.name ∈ members.map (·.name) := by
  have generated := generated_of_sketchOf h
  exact ⟨fun _ task => publishTask_fields_declared generated task,
    fun _ callback => callback_fields_declared generated callback,
    fun _ defined _ used _ initialised => resource_member_declared generated defined used initialised⟩

theorem sampleComponent_accessed_members_declared :
    ∃ sk, sketchOf "sys" sampleComponent = .ok sk ∧
      (∀ pt ∈ sk.publishTasks, ∃ members, StructDecl.struct pt.owner members ∈ sk.structs ∧
        pt.fields = members.map (·.name)) ∧
      (∀ cb ∈ sk.callbacks, ∃ members, StructDecl.struct cb.owner members ∈ sk.structs ∧
        cb.fields = members.map (·.name)) ∧
      ∀ r ∈ sk.routines, ∀ ri ∈ r.resources, ∀ mi ∈ ri.members,
        ∃ members, StructDecl.struct ri.owner members ∈ sk.structs ∧
          mi.name ∈ members.map (·.name) := by
  obtain ⟨sk, h⟩ := sampleComponent_generated
  exact ⟨sk, h, accessed_members_declared h⟩

end SketchGen.Sketch
