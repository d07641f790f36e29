import SketchGen.Proofs.Sketch.DataStructures

namespace SketchGen.Sketch

open SketchGen.Json SketchGen.Xml SketchGen.Text

/-! Text buffers filled by `strcpy`. A routine copies a default text into each of its outputs
whose assignment is a copy, and into each member of a related software resource whose type is
`char` before any bound. The two copies decide what a text buffer is by different rules, and
each destination is declared by a third. A routine's output is declared at file scope by the
output variable line, which drops the buffer's bound: `char v = {"default"};` declares one
character. A resource's member is declared in the resource's struct, with a bound only when
its type reads `char[50]`. So every destination of a copy is declared with the base type
`char`, but as an array only when it is a member of type `char[50]`. -/

def CType.textBuffer : CType := ⟨"char", "\x7b\"default\"\x7d", some 50⟩

/-- A type's name before any bound, blanks around it aside: what a member's initialisation
compares with `char`. -/
def baseTypeName (s : String) : String := strip (String.ofList (s.toList.takeWhile (· != '[')))

/-- The outputs a routine fills with `strcpy`: those whose assignment copies their initial
text. -/
def Routine.copiedOutputs (r : Routine) : List Variable :=
  r.outputs.filter fun v =>
    v.statement .assign == some ("strcpy(" ++ v.name ++ ", " ++ v.ctype.initial ++ ")")

def ResourceInit.copiedMembers (ri : ResourceInit) : List MemberInit := ri.members.filter (·.buffer)

/-! ### Types with a bound -/

theorem CType.eq_textBuffer_of_ofValue {v : Value} {t : CType} (typed : CType.ofValue v = .ok t)
    (bounded : t.length.isSome) : t = CType.textBuffer := by
  cases v with
  | str s =>
    simp only [CType.ofValue, Value.checkKey, Gen.bind_eq_ok, Gen.pure_eq_ok] at typed
    obtain ⟨-, -, rfl⟩ := typed
    cases known : CType.known? s with
    | none => simp [known] at bounded
    | some k =>
      rw [known, Option.getD_some] at bounded
      rw [Option.getD_some]
      unfold CType.known? at known
      split at known <;> first | cases known; rfl | cases known; cases bounded | cases known
  | arr xs => cases typed
  | obj ms => cases typed
  | _ =>
    simp only [CType.ofValue, Value.checkKey, Gen.bind_eq_ok, Gen.pure_eq_ok] at typed
    obtain ⟨-, -, rfl⟩ := typed
    cases bounded

theorem CType.ofValue_of_base {s : String} {t : CType} (typed : CType.ofValue (.str s) = .ok t)
    (base : baseTypeName s = "char") : t = CType.textBuffer ∨ t = ⟨s, "", none⟩ := by
  simp only [CType.ofValue, Value.checkKey, Gen.bind_eq_ok, Gen.pure_eq_ok] at typed
  obtain ⟨-, -, rfl⟩ := typed
  cases known : CType.known? s with
  | none => exact .inr rfl
  | some k =>
    rw [Option.getD_some]
    unfold CType.known? at known
    -- every other type of the table has another base than `char`
    split at known <;> cases known
    all_goals first | exact .inl rfl | exact absurd base (by decide)

theorem Variable.ctype_of_copied {v : Variable} {ty : Value} (typed : CType.ofValue ty = .ok v.ctype)
    (copied : v.statement .assign = some ("strcpy(" ++ v.name ++ ", " ++ v.ctype.initial ++ ")")) :
    v.ctype = CType.textBuffer := by
  apply CType.eq_textBuffer_of_ofValue typed
  simp only [Variable.statement] at copied
  split at copied
  · cases copied
  · cases bound : v.ctype.length with
    | some n => rfl
    | none =>
      -- a plain assignment is shorter than the copy
      rw [bound] at copied
      have lengths := congrArg String.length (Option.some.inj copied)
      simp only [String.length_append] at lengths
      have copy : "strcpy(".length = 7 := rfl
      have comma : ", ".length = 2 := rfl
      have close : ")".length = 1 := rfl
      have equals : " = ".length = 3 := rfl
      omega

theorem Variable.ofParam_ctype {owner : String} {p : Value} {v : Variable}
    (h : Variable.ofParam owner p = .ok v) :
    ∃ ty, p.member "type" = .ok ty ∧ CType.ofValue ty = .ok v.ctype := by
  simp only [Variable.ofParam, Gen.bind_eq_ok, Gen.pure_eq_ok] at h
  obtain ⟨ty, typed, ctype, converted, _, _, _, _, _, _, rfl⟩ := h
  exact ⟨ty, typed, converted⟩

theorem memberInitOf_buffer {m : Value} {mi : MemberInit} (h : memberInitOf m = .ok mi)
    (buffer : mi.buffer = true) : ∃ s, m.member "type" = .ok (.str s) ∧ baseTypeName s = "char" := by
  simp only [memberInitOf, Gen.bind_eq_ok] at h
  obtain ⟨_, _, _, _, ty, typed, based⟩ := h
  split at based
  · rename_i s
    simp only [Gen.bind_eq_ok, Gen.pure_eq_ok] at based
    obtain ⟨base, rfl, rfl⟩ := based
    exact ⟨s, typed, by simpa [baseTypeName] using buffer⟩
  · cases based

/-! ### Outputs at file scope -/

theorem routineOf_outputs {e cpc : Element} {r : Routine} (h : routineOf e cpc = .ok r) :
    nameIdent e = .ok r.name ∧ ∃ outputs items, jsonOf e "output_parameters" = .ok outputs ∧
      outputs.items = .ok items ∧ items.mapM (Variable.ofParam r.name) = .ok r.outputs := by
  simp only [routineOf, Gen.bind_eq_ok, Gen.pure_eq_ok] at h
  obtain ⟨_, named, _, _, outputs, outputsOk, _, _, _, _, _, _, _, _, _, _, _, _, _, _, _, _,
    _, _, _, _, items, itemsOk, _, vars, _, _, _, _, _, _, rfl⟩ := h
  exact ⟨named, outputs, items, outputsOk, itemsOk, vars⟩

section Generated

variable {systemId : String} {cpc : Element} {sk : Program}

theorem outputs_eq_routine_outputs (generated : Generated systemId cpc sk) :
    sk.outputs = sk.routines.flatMap (·.outputs) := by
  have outputs := generated.outputs
  simp only [outputVariablesOf, Gen.bind_eq_ok, Gen.pure_eq_ok] at outputs
  obtain ⟨groups, grouped, flattened⟩ := outputs
  -- each routine's group is made from the same list of outputs with the same owner
  have same : groups = sk.routines.map (·.outputs) := by
    refine Gen.mapM_eq_map_of_agree (·.outputs) ?_ grouped generated.routines
    intro fn group r made compiled
    obtain ⟨named, outputs, items, outputsOk, itemsOk, vars⟩ := routineOf_outputs compiled
    simp only [Gen.bind_eq_ok] at made
    obtain ⟨outputs', outputsOk', name, named', items', itemsOk', made⟩ := made
    obtain rfl : outputs' = outputs := Except.ok.inj (outputsOk'.symm.trans outputsOk)
    obtain rfl : name = r.name := Except.ok.inj (named'.symm.trans named)
    obtain rfl : items' = items := Except.ok.inj (itemsOk'.symm.trans itemsOk)
    exact Except.ok.inj (made.symm.trans vars)
  rw [← flattened, same, List.flatMap_def]

/-- A routine's output that it copies into is declared at file scope as one character starting
at the default text: its declaration has no bound. -/
theorem copied_output_declared (generated : Generated systemId cpc sk) {r : Routine} {v : Variable}
    (defined : r ∈ sk.routines) (copied : v ∈ r.copiedOutputs) :
    v ∈ sk.outputs ∧ v.ctype = CType.textBuffer ∧
      v.statement .init = some ("char " ++ v.name ++ " = \x7b\"default\"\x7d") := by
  obtain ⟨output, copies⟩ := List.mem_filter.mp copied
  have declared : v ∈ sk.outputs := by
    rw [outputs_eq_routine_outputs generated]
    exact List.mem_flatMap.mpr ⟨r, defined, output⟩
  obtain ⟨fn, -, compiled⟩ := Gen.exists_of_mem_mapM generated.routines defined
  obtain ⟨-, -, items, -, -, vars⟩ := routineOf_outputs compiled
  obtain ⟨item, -, made⟩ := Gen.exists_of_mem_mapM vars output
  obtain ⟨ty, -, typed⟩ := Variable.ofParam_ctype made
  have buffer := Variable.ctype_of_copied typed (by simpa using copies)
  refine ⟨declared, buffer, ?_⟩
  simp [Variable.statement, buffer, CType.textBuffer, String.append_assoc]

/-- A member a routine copies into is declared in its resource's struct with the base type
`char`: as the array `char m[50]` when its type is the text buffer, and as it reads, without a
bound, otherwise. -/
theorem copied_member_declared (generated : Generated systemId cpc sk) {r : Routine}
    {ri : ResourceInit} {mi : MemberInit} (defined : r ∈ sk.routines) (used : ri ∈ r.resources)
    (copied : mi ∈ ri.copiedMembers) :
    ∃ members, StructDecl.struct ri.owner members ∈ sk.structs ∧ ∃ var ∈ members,
      var.name = mi.name ∧ baseTypeName var.ctype.name = "char" ∧
      var.statement .declare = some (if var.ctype = CType.textBuffer then
        "char " ++ mi.name ++ "[50]" else var.ctype.name ++ " " ++ mi.name) := by
  obtain ⟨initialised, buffer⟩ := List.mem_filter.mp copied
  obtain ⟨members, declared, item, filled, itemInit, completed, var, member, made, sameName⟩ :=
    resource_member_source generated defined used initialised
  obtain ⟨s, typed, base⟩ := memberInitOf_buffer itemInit buffer
  obtain ⟨ty, typed', converted⟩ := Variable.ofParam_ctype made
  -- completing the field keeps the type the initialisation read
  obtain rfl : ty = .str s := Except.ok.inj (typed'.symm.trans (completeField_member typed completed))
  refine ⟨members, declared, var, member, sameName, ?_⟩
  rcases CType.ofValue_of_base converted base with buffered | plain
  · have bound : "[" ++ (Nat.repr 50 ++ "]") = "[50]" := rfl
    rw [if_pos buffered]
    exact ⟨by rw [buffered]; decide,
      by simp [Variable.statement, buffered, CType.textBuffer, sameName, String.append_assoc, bound]⟩
  · have unbounded : var.ctype ≠ CType.textBuffer := by
      rw [plain]
      simp [CType.textBuffer]
    rw [if_neg unbounded]
    exact ⟨by rw [plain]; exact base, by simp [Variable.statement, plain, sameName]⟩

end Generated

/-- Every destination a generated sketch copies a text into is declared in it with the base type
`char`. A routine's output is declared at file scope as one character starting at the default
text, without a bound; a software resource's member is declared in the resource's struct, as the
array `char m[50]` when its type is the text buffer and as its type reads otherwise. -/
theorem copy_destinations_declared {systemId : String} {cpc : Element} {sk : Program}
    (h : sketchOf systemId cpc = .ok sk) :
    (∀ r ∈ sk.routines, ∀ v ∈ r.copiedOutputs, v ∈ sk.outputs ∧ v.ctype = CType.textBuffer ∧
      v.statement .init = some ("char " ++ v.name ++ " = \x7b\"default\"\x7d")) ∧
    ∀ r ∈ sk.routines, ∀ ri ∈ r.resources, ∀ mi ∈ ri.copiedMembers,
      ∃ members, StructDecl.struct ri.owner members ∈ sk.structs ∧ ∃ var ∈ members,
        var.name = mi.name ∧ baseTypeName var.ctype.name = "char" ∧
        var.statement .declare = some (if var.ctype = CType.textBuffer then
          "char " ++ mi.name ++ "[50]" else var.ctype.name ++ " " ++ mi.name) := by
  have generated := generated_of_sketchOf h
  exact ⟨fun _ defined _ copied => copied_output_declared generated defined copied,
    fun _ defined _ used _ copied => copied_member_declared generated defined used copied⟩

/-- A component whose routine reports a label of the text buffer type and initialises a software
resource holding a note of the text buffer type and a flag of type `char`. -/
def bufferComponent : Element :=
  let leaf (key : Nat) (tag : String) (attrs : List (String × String)) : Element :=
    ⟨key, tag, attrs, "", [], ""⟩
  let field (name ty : String) : String :=
    "\x7b\"name\": \"" ++ name ++ "\", \"type\": \"" ++ ty ++ "\", \"description\": \"d\"\x7d"
  ⟨0, "cpc", [("id", "c1"), ("name", "Unit")], "", [
    leaf 1 "function" [("id", "f1"), ("name", "Read"), ("input_parameters", "[]"),
      ("output_parameters", "[" ++ field "label" "char[50]" ++ "]"),
      ("qualification_array", "[]"), ("contribution_array", "[]")],
    leaf 2 "sw_resource" [("id", "r1"), ("name", "Store"),
      ("data_structure", "[" ++ field "note" "char[50]" ++ ", " ++ field "flag" "char" ++ "]")],
    leaf 3 "relation" [("source", "r1"), ("target", "f1")]], ""⟩

theorem bufferComponent_copy_destinations_declared :
    ∃ sk, sketchOf "cps" bufferComponent = .ok sk ∧
      (∀ r ∈ sk.routines, ∀ v ∈ r.copiedOutputs, v ∈ sk.outputs ∧ v.ctype = CType.textBuffer ∧
        v.statement .init = some ("char " ++ v.name ++ " = \x7b\"default\"\x7d")) ∧
      ∀ r ∈ sk.routines, ∀ ri ∈ r.resources, ∀ mi ∈ ri.copiedMembers,
        ∃ members, StructDecl.struct ri.owner members ∈ sk.structs ∧ ∃ var ∈ members,
          var.name = mi.name ∧ baseTypeName var.ctype.name = "char" ∧
          var.statement .declare = some (if var.ctype = CType.textBuffer then
            "char " ++ mi.name ++ "[50]" else var.ctype.name ++ " " ++ mi.name) := by
  obtain ⟨sk, h⟩ : ∃ sk, sketchOf "cps" bufferComponent = .ok sk :=
    Gen.exists_eq_ok_of_isOk (by decide +kernel)
  exact ⟨sk, h, copy_destinations_declared h⟩

/-- The routine copies a text into `read_label`, which the sketch declares as one character, and
into the member `flag`, which its struct declares as one character too. -/
theorem bufferComponent_copies_into_characters :
    ∃ sk, sketchOf "cps" bufferComponent = .ok sk ∧
      (sk.routines.flatMap Routine.copiedOutputs).map (·.name) = ["read_label"] ∧
      sk.outputs.map (·.statement .init) = [some "char read_label = \x7b\"default\"\x7d"] ∧
      sk.routines.flatMap (fun r => r.resources.flatMap fun ri => ri.copiedMembers.map (·.name)) =
        ["note", "flag"] ∧
      sk.structs.map (StructDecl.text .declare) =
        ["struct store_data_structure \x7b\n    char note[50]; // d\n    char flag; // d\n\x7d " ++
          "store_data_structure;\n"] := by
  have evaluated : (match sketchOf "cps" bufferComponent with
      | .ok sk =>
        (sk.routines.flatMap Routine.copiedOutputs).map (·.name) == ["read_label"] &&
          sk.outputs.map (·.statement .init) == [some "char read_label = \x7b\"default\"\x7d"] &&
          sk.routines.flatMap (fun r => r.resources.flatMap fun ri => ri.copiedMembers.map (·.name)) ==
            ["note", "flag"] &&
          sk.structs.map (StructDecl.text .declare) ==
            ["struct store_data_structure \x7b\n    char note[50]; // d\n    char flag; // d\n\x7d " ++
              "store_data_structure;\n"]
      | .error _ => false) = true := by
    decide +kernel
  cases h : sketchOf "cps" bufferComponent with
  | error fault => rw [h] at evaluated; cases evaluated
  | ok sk =>
    rw [h] at evaluated
    simp only [Bool.and_eq_true, beq_iff_eq] at evaluated
    obtain ⟨⟨⟨copiedOutputs, outputs⟩, copiedMembers⟩, structs⟩ := evaluated
    exact ⟨sk, rfl, copiedOutputs, outputs, copiedMembers, structs⟩

end SketchGen.Sketch
