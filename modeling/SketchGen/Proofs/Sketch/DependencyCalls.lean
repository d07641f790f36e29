import Mathlib.Data.List.Nodup
import SketchGen.Proofs.Occurrence
import SketchGen.Proofs.Sketch.Sections

namespace SketchGen.Sketch

open SketchGen.Json SketchGen.Xml SketchGen.Text

/-! Calls in the dependency logic of a task. A task that depends on a routine calls it with one
variable per input parameter the routine lists, and the dependency block declares these
variables before it sets the goal flag. The call and the routine's signature read the same
parameters, so the call passes exactly the signature's parameters, in order and of the same
types, and each is declared in the block. The block keeps one declaration per declaration text:
arguments of one name and different types, passed to two routines or to one, are both declared.
Its names are distinct when arguments of one name are declared alike. -/

/-! ### Keeping first occurrences -/

section FirstOccurrences

variable {α β : Type} [BEq β] {key : α → β}

theorem mem_keepFirst {kept : List α} {x y : α} (member : y ∈ keepFirst key kept x) :
    y ∈ kept ∨ y = x := by
  unfold keepFirst at member
  split at member
  · exact .inl member
  · simpa using member

theorem mem_foldl_keepFirst : ∀ (xs : List α) {kept : List α} {y : α},
    y ∈ xs.foldl (keepFirst key) kept → y ∈ kept ∨ y ∈ xs
  | [], _, _, member => .inl member
  | x :: rest, _, _, member => by
    rcases mem_foldl_keepFirst rest member with earlier | later
    · rcases mem_keepFirst earlier with old | rfl
      · exact .inl old
      · exact .inr List.mem_cons_self
    · exact .inr (List.mem_cons_of_mem x later)

variable [LawfulBEq β]

theorem keepFirst_keys_nodup {kept : List α} (nodup : (kept.map key).Nodup) (x : α) :
    ((keepFirst key kept x).map key).Nodup := by
  unfold keepFirst
  split
  · exact nodup
  · rename_i fresh
    rw [List.map_append, List.nodup_append]
    refine ⟨nodup, List.nodup_singleton _, ?_⟩
    intro k old k' listed same
    simp only [List.map_cons, List.map_nil, List.mem_singleton] at listed
    subst listed same
    exact fresh (List.contains_iff_mem.mpr old)

theorem keepFirst_covers (kept : List α) (x : α) :
    ∀ z ∈ kept ++ [x], ∃ y ∈ keepFirst key kept x, key y = key z := by
  intro z member
  unfold keepFirst
  split
  · rename_i seen
    rcases List.mem_append.mp member with old | last
    · exact ⟨z, old, rfl⟩
    · obtain rfl := List.mem_singleton.mp last
      obtain ⟨y, kept', same⟩ := List.mem_map.mp (List.contains_iff_mem.mp seen)
      exact ⟨y, kept', same⟩
  · exact ⟨z, member, rfl⟩

theorem foldl_keepFirst_nodup : ∀ (xs : List α) {kept : List α}, (kept.map key).Nodup →
    ((xs.foldl (keepFirst key) kept).map key).Nodup
  | [], _, nodup => nodup
  | x :: rest, _, nodup => foldl_keepFirst_nodup rest (keepFirst_keys_nodup nodup x)

theorem foldl_keepFirst_covers : ∀ (xs : List α) {kept : List α},
    ∀ z ∈ kept ++ xs, ∃ y ∈ xs.foldl (keepFirst key) kept, key y = key z
  | [], kept, z, member => ⟨z, by simpa using member, rfl⟩
  | x :: rest, kept, z, member => by
    -- an item of the kept ones or the next one is covered after the step, the rest by the run
    have stepped : z ∈ kept ++ [x] ∨ z ∈ rest := by
      simp only [List.mem_append, List.mem_cons, List.not_mem_nil, or_false] at member ⊢
      tauto
    rcases stepped with early | later
    · obtain ⟨w, kept', same⟩ : ∃ w ∈ keepFirst key kept x, key w = key z :=
        keepFirst_covers kept x z early
      have carried : w ∈ keepFirst key kept x ++ rest := List.mem_append_left rest kept'
      obtain ⟨y, result, same'⟩ := foldl_keepFirst_covers rest w carried
      exact ⟨y, result, same'.trans same⟩
    · exact foldl_keepFirst_covers rest z (List.mem_append_right _ later)

end FirstOccurrences

/-! ### The declarations of a dependency block -/

def Dependencies.args (d : Dependencies) : List Param := d.terms.flatMap Term.args

theorem Dependencies.declarations_eq (d : Dependencies) :
    d.declarations = firstOccurrencesBy Param.declaration d.args := by
  cases d <;> rfl

theorem declared_of_arg (d : Dependencies) {p : Param} (passed : p ∈ d.args) :
    ∃ q ∈ d.declarations, q.declaration = p.declaration := by
  rw [d.declarations_eq]
  exact foldl_keepFirst_covers d.args p (List.mem_append_right [] passed)

theorem declared_names_nodup (d : Dependencies)
    (consistent : ∀ p ∈ d.args, ∀ q ∈ d.args, p.name = q.name → p.declaration = q.declaration) :
    (d.declarations.map (·.name)).Nodup := by
  rw [d.declarations_eq]
  -- the kept declarations are distinct texts, each of an argument
  have texts : ((firstOccurrencesBy Param.declaration d.args).map Param.declaration).Nodup :=
    foldl_keepFirst_nodup d.args List.nodup_nil
  have passed : ∀ p ∈ firstOccurrencesBy Param.declaration d.args, p ∈ d.args :=
    fun p kept => (mem_foldl_keepFirst d.args kept).resolve_left List.not_mem_nil
  refine (texts.of_map _).map_on ?_
  intro p kept q kept' sameName
  exact List.inj_on_of_nodup_map texts kept kept'
    (consistent p (passed p kept) q (passed q kept') sameName)

theorem declaration_precedes_goal (d : Dependencies) {q : Param} (member : q ∈ d.declarations) :
    ∃ before after, d.text = before ++ "\n        " ++ d.owner ++ "_GoalAchieved = (" ++ after ∧
      Occurs q.declaration before := by
  cases d with
  | toggle owner => cases member
  | joined owner disjunction terms =>
    let joiner := if disjunction then " || " else " && "
    refine ⟨_, joiner.intercalate (terms.map Term.text) ++ ");", ?_,
      occurs_intercalate_of_mem "\n        " (List.mem_map_of_mem member)⟩
    simp only [Dependencies.text, Dependencies.owner, String.append_assoc, joiner, Symbol.ident]
    rw [← @String.append_assoc "_GoalAchieved" " = ("]
    rfl

/-! ### Calls and signatures -/

theorem argumentOf_eq_signatureParamOf {p : Value} {a b : Param} (argued : argumentOf p = .ok a)
    (listed : signatureParamOf p = .ok b) : a = b := by
  simp only [argumentOf, Gen.bind_eq_ok, Gen.pure_eq_ok] at argued
  simp only [signatureParamOf, Gen.bind_eq_ok, Gen.pure_eq_ok] at listed
  obtain ⟨ty, typed, nameValue, named, name, identified, ctype, converted, rfl⟩ := argued
  obtain ⟨ty', typed', ctype', converted', nameValue', named', name', identified', rfl⟩ := listed
  obtain rfl : ty' = ty := Except.ok.inj (typed'.symm.trans typed)
  obtain rfl : nameValue' = nameValue := Except.ok.inj (named'.symm.trans named)
  obtain rfl : ctype' = ctype := Except.ok.inj (converted'.symm.trans converted)
  obtain rfl : name' = name := Except.ok.inj (identified'.symm.trans identified)
  rfl

section Generated

variable {systemId : String} {cpc : Element} {sk : Program}

/-- A call in a task's dependency logic calls a routine of the sketch, passing exactly the
parameters of its signature. -/
theorem call_matches_routine (generated : Generated systemId cpc sk) {tb : TaskBody}
    (body : tb ∈ sk.taskBodies) {f : String} {args : List Param}
    (called : Term.call f args ∈ tb.logic.terms) :
    ∃ r ∈ sk.routines, r.name = f ∧ r.params = args := by
  obtain ⟨t, -, made⟩ := Gen.exists_of_mem_mapM generated.taskBodies body
  obtain ⟨-, termsOk⟩ := dependenciesOf_spec (taskBodyOf_spec made).2.1
  obtain ⟨relation, -, read⟩ := Gen.exists_of_mem_mapM termsOk called
  obtain ⟨fn, fnMember, named, params, listed, passed⟩ := dependencyOf_call read
  obtain ⟨r, defined, compiled⟩ := Gen.exists_of_mem_mapM_left generated.routines fnMember
  obtain ⟨named', ⟨inputs, items, inputsOk, itemsOk, typed⟩, -⟩ := routineOf_spec compiled
  -- the call reads the parameters the signature lists: the attribute is present
  obtain ⟨inputs', read', paramsOk⟩ := Gen.bind_eq_ok.mp listed
  obtain rfl : inputs' = inputs := Except.ok.inj (read'.symm.trans (jsonOr_of_jsonOf inputsOk))
  obtain rfl : params = items := Except.ok.inj (paramsOk.symm.trans itemsOk)
  exact ⟨r, defined, Except.ok.inj (named'.symm.trans named),
    Gen.mapM_eq_of_agree (fun _ _ _ listedParam argued =>
      (argumentOf_eq_signatureParamOf argued listedParam).symm) typed passed⟩

end Generated

/-- Each call in the dependency logic of a generated sketch's task passes exactly the
parameters of the signature of a routine of that name, each declared in the block, before the
goal flag is assigned, by a declaration of the same type; the block declares each name once when
arguments of one name are declared alike. -/
theorem dependency_calls_match_routines {systemId : String} {cpc : Element} {sk : Program}
    (h : sketchOf systemId cpc = .ok sk) :
    ∀ tb ∈ sk.taskBodies,
      (∀ f args, Term.call f args ∈ tb.logic.terms →
        (∃ r ∈ sk.routines, r.name = f ∧ r.params = args) ∧
          ∀ p ∈ args, ∃ q ∈ tb.logic.declarations, q.declaration = p.declaration) ∧
      (∀ q ∈ tb.logic.declarations, ∃ before after,
        tb.logic.text = before ++ "\n        " ++ tb.logic.owner ++ "_GoalAchieved = (" ++ after ∧
          Occurs q.declaration before) ∧
      ((∀ p ∈ tb.logic.args, ∀ q ∈ tb.logic.args, p.name = q.name →
          p.declaration = q.declaration) →
        (tb.logic.declarations.map (·.name)).Nodup) := by
  have generated := generated_of_sketchOf h
  intro tb body
  refine ⟨fun f args called => ⟨call_matches_routine generated body called, ?_⟩,
    fun q member => declaration_precedes_goal tb.logic member, declared_names_nodup tb.logic⟩
  intro p passed
  exact declared_of_arg tb.logic (List.mem_flatMap.mpr ⟨_, called, passed⟩)

theorem sampleComponent_dependency_calls_match_routines :
    ∃ sk, sketchOf "sys" sampleComponent = .ok sk ∧
      ∀ tb ∈ sk.taskBodies,
        (∀ f args, Term.call f args ∈ tb.logic.terms →
          (∃ r ∈ sk.routines, r.name = f ∧ r.params = args) ∧
            ∀ p ∈ args, ∃ q ∈ tb.logic.declarations, q.declaration = p.declaration) ∧
        (∀ q ∈ tb.logic.declarations, ∃ before after,
          tb.logic.text = before ++ "\n        " ++ tb.logic.owner ++ "_GoalAchieved = (" ++ after ∧
            Occurs q.declaration before) ∧
        ((∀ p ∈ tb.logic.args, ∀ q ∈ tb.logic.args, p.name = q.name →
            p.declaration = q.declaration) →
          (tb.logic.declarations.map (·.name)).Nodup) := by
  obtain ⟨sk, h⟩ := sampleComponent_generated
  exact ⟨sk, h, dependency_calls_match_routines h⟩

/-- A component with one task that depends on two routines, each taking a parameter `level`,
one of type `int` and one of type `double`. -/
def clashingComponent : Element :=
  let leaf (key : Nat) (tag : String) (attrs : List (String × String)) : Element :=
    ⟨key, tag, attrs, "", [], ""⟩
  let level (ty : String) :=
    "[\x7b\"name\": \"level\", \"type\": \"" ++ ty ++ "\", \"description\": \"Reading\"\x7d]"
  let noNotes := [("qualification_array", "[]"), ("contribution_array", "[]")]
  ⟨0, "cpc", [("id", "c1"), ("name", "Unit")], "", [
    leaf 1 "thread" ([("id", "t1"), ("name", "Act")] ++ noNotes),
    leaf 2 "function" ([("id", "f1"), ("name", "Check"), ("input_parameters", level "int"),
      ("output_parameters", "[]")] ++ noNotes),
    leaf 3 "function" ([("id", "f2"), ("name", "Gauge"), ("input_parameters", level "double"),
      ("output_parameters", "[]")] ++ noNotes),
    leaf 4 "relation" [("source", "f1"), ("target", "t1"), ("operator", "AND")],
    leaf 5 "relation" [("source", "f2"), ("target", "t1"), ("operator", "AND")]], ""⟩

/-- The task's dependency block declares `level` twice, once per type. -/
theorem clashingComponent_redeclares :
    ∃ sk, sketchOf "cps" clashingComponent = .ok sk ∧
      ∃ tb ∈ sk.taskBodies, ¬ (tb.logic.declarations.map (·.name)).Nodup := by
  have evaluated : (match sketchOf "cps" clashingComponent with
      | .ok sk => sk.taskBodies.any fun tb => !decide (tb.logic.declarations.map (·.name)).Nodup
      | .error _ => false) = true := by
    decide +kernel
  cases h : sketchOf "cps" clashingComponent with
  | error fault => rw [h] at evaluated; cases evaluated
  | ok sk =>
    rw [h] at evaluated
    obtain ⟨tb, body, repeated⟩ := List.any_eq_true.mp evaluated
    exact ⟨sk, rfl, tb, body, by simpa using repeated⟩

end SketchGen.Sketch
