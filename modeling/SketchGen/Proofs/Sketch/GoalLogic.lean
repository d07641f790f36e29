import Mathlib
import SketchGen.Proofs.Sketch.DependencyCalls

namespace SketchGen.Sketch

open SketchGen.Json SketchGen.Xml SketchGen.Text

/-! The goal logic of a task, read off the relations that lead to it. A task that nothing leads
to toggles its goal flag. Otherwise each relation, in document order, gives one term: the flag of
the first task whose id is the relation's source, or else a call of the first routine with that
id, passing one variable per input parameter. The terms are joined by `||` when the first
relation's operator reads `or` in any mix of cases, blanks around it aside, and by `&&`
otherwise; the variables the calls pass are declared before, each declaration text once, where it
first occurs. The block is made exactly when the task is named and every relation resolves, and
so whenever the names read as identifiers, the routines list their parameters and every source is
a task or a routine. -/

/-! ### First occurrences -/

section FirstOccurrences

variable {α β : Type} [BEq β] {key : α → β}

theorem foldl_keepFirst_map : ∀ (xs kept : List α),
    (xs.foldl (keepFirst key) kept).map key =
      List.eraseDupsBy.loop (· == ·) (xs.map key) (kept.map key).reverse
  | [], kept => by
    rw [List.foldl_nil, List.map_nil, List.eraseDupsBy.loop, List.reverse_reverse]
  | x :: rest, kept => by
    rw [List.foldl_cons, foldl_keepFirst_map rest, List.map_cons, List.eraseDupsBy.loop]
    -- both steps ask whether the key is among the kept ones: the loop keeps them reversed
    have seen : (kept.map key).reverse.any (key x == ·) = (kept.map key).contains (key x) := by
      rw [List.any_reverse, List.contains_eq_any_beq]
    unfold keepFirst
    cases h : (kept.map key).contains (key x) with
    | true => simp only [seen, h, if_true]
    | false => simp [seen, h]

theorem firstOccurrencesBy_map (xs : List α) :
    (firstOccurrencesBy key xs).map key = (xs.map key).eraseDups :=
  foldl_keepFirst_map xs []

end FirstOccurrences

/-! ### The operator -/

theorem toUpper_toNat (c : Char) :
    c.toUpper.toNat = if 97 ≤ c.toNat ∧ c.toNat ≤ 122 then c.toNat - 32 else c.toNat := by
  unfold Char.toUpper
  have lo : ('a'.val).toNat = 97 := rfl
  have hi : ('z'.val).toNat = 122 := rfl
  split
  · rename_i lower
    have lower' : 97 ≤ c.toNat ∧ c.toNat ≤ 122 := by
      simp only [UInt32.le_iff_toNat_le, lo, hi] at lower
      exact lower
    rw [if_pos lower']
    simp only [Char.toNat]
    rw [UInt32.toNat_add]
    -- the shift from `a` to `A` wraps around in 32 bits
    have shift : ('A'.val - 'a'.val).toNat = 4294967264 := rfl
    rw [shift]
    simp only [Char.toNat] at lower'
    omega
  · rename_i notLower
    have notLower' : ¬ (97 ≤ c.toNat ∧ c.toNat ≤ 122) := by
      simp only [UInt32.le_iff_toNat_le, lo, hi] at notLower
      exact notLower
    rw [if_neg notLower']

theorem toUpper_eq_iff {c u : Char} (upper : 65 ≤ u.toNat ∧ u.toNat ≤ 90) :
    c.toUpper = u ↔ c.toNat = u.toNat ∨ c.toNat = u.toNat + 32 := by
  rw [← Char.toNat_inj, toUpper_toNat]
  split <;> omega

/-- An operator joins by `||` exactly when, blanks around it aside, it is `or` in some mix of
cases. -/
theorem isDisjunction_iff (operator : String) :
    isDisjunction operator = true ↔ strip operator ∈ ["or", "oR", "Or", "OR"] := by
  unfold isDisjunction
  obtain ⟨cs, stripped⟩ : ∃ cs, strip operator = String.ofList cs :=
    ⟨_, String.ofList_toList.symm⟩
  rw [stripped, String.toList_ofList, beq_iff_eq]
  have o : ∀ a : Char, a.toUpper = 'O' ↔ a = 'o' ∨ a = 'O' := by
    intro a
    rw [toUpper_eq_iff (by decide), ← Char.toNat_inj, ← Char.toNat_inj]
    exact or_comm
  have r : ∀ b : Char, b.toUpper = 'R' ↔ b = 'r' ∨ b = 'R' := by
    intro b
    rw [toUpper_eq_iff (by decide), ← Char.toNat_inj, ← Char.toNat_inj]
    exact or_comm
  have spelled : String.ofList cs ∈ ["or", "oR", "Or", "OR"] ↔
      cs ∈ [['o', 'r'], ['o', 'R'], ['O', 'r'], ['O', 'R']] := by
    have literal : ["or", "oR", "Or", "OR"] =
        [['o', 'r'], ['o', 'R'], ['O', 'r'], ['O', 'R']].map String.ofList := rfl
    rw [literal]
    exact List.mem_map_of_injective (fun _ _ same => String.ofList_inj.mp same)
  rw [spelled]
  -- only a text of two letters can read `OR` in upper case
  rcases cs with _ | ⟨a, _ | ⟨b, _ | ⟨c, rest⟩⟩⟩
  · simp only [List.map_nil, List.mem_cons, List.not_mem_nil, reduceCtorEq, or_self]
  · simp only [List.map_cons, List.map_nil, List.cons.injEq, List.mem_cons, List.not_mem_nil,
      reduceCtorEq, and_false, or_self]
  · simp only [List.map_cons, List.map_nil, List.cons.injEq, and_true, o, r, List.mem_cons,
      List.not_mem_nil, or_false, or_and_right, and_or_left, or_assoc]
    exact or_congr_right or_left_comm
  · simp only [List.map_cons, List.cons.injEq, List.mem_cons, List.not_mem_nil, reduceCtorEq,
      and_false, or_self]

/-! ### Resolving a relation -/

/-- What a relation leading to a task resolves to, as text and the arguments it passes: the goal
flag of the first task whose id is the relation's source, or, when no task has that id, a call of
the first routine that has it, passing the identifiers of its input parameters (none when it
lists none). -/
inductive Resolves (cpc relation : Element) : String → List Param → Prop
  | flag {task : Element} {m : String}
      (found : (tasks cpc).find? (·.get? "id" == relation.get? "source") = some task)
      (named : nameIdent task = .ok m) :
      Resolves cpc relation (m ++ "_GoalAchieved") []
  | call {routine : Element} {f : String} {params : List Value} {args : List Param}
      (noTask : (tasks cpc).find? (·.get? "id" == relation.get? "source") = none)
      (found : (cpc.childrenTagged "function").find? (·.get? "id" == relation.get? "source") =
        some routine)
      (named : nameIdent routine = .ok f)
      (listed : (jsonOr routine "input_parameters" "[]" >>= Value.items) = .ok params)
      (passed : params.mapM argumentOf = .ok args) :
      Resolves cpc relation (f ++ "(" ++ ", ".intercalate (args.map (·.name)) ++ ")") args

section Resolution

variable {cpc relation : Element}

theorem resolves_of_dependencyOf {term : Term} (h : dependencyOf cpc relation = .ok term) :
    Resolves cpc relation term.text term.args := by
  dsimp only [dependencyOf] at h
  split at h
  · rename_i task found
    simp only [Gen.bind_eq_ok, Gen.pure_eq_ok] at h
    obtain ⟨m, named, rfl⟩ := h
    exact .flag found named
  · rename_i noTask
    split at h
    · cases h
    · rename_i routine found
      simp only [Gen.bind_eq_ok, Gen.pure_eq_ok] at h
      obtain ⟨f, named, value, valueOk, params, paramsOk, args, argsOk, rfl⟩ := h
      exact .call noTask found named (Gen.bind_eq_ok.mpr ⟨value, valueOk, paramsOk⟩) argsOk

theorem dependencyOf_of_resolves {text : String} {args : List Param}
    (h : Resolves cpc relation text args) :
    ∃ term, dependencyOf cpc relation = .ok term ∧ term.text = text ∧ term.args = args := by
  cases h with
  | flag found named =>
    refine ⟨.flag _, ?_, rfl, rfl⟩
    simp only [dependencyOf, found, named]
    rfl
  | call noTask found named listed passed =>
    refine ⟨.call _ _, ?_, rfl, rfl⟩
    obtain ⟨value, valueOk, paramsOk⟩ := Gen.bind_eq_ok.mp listed
    simp only [dependencyOf, noTask, found, named, valueOk, Gen.bind_eq_ok, Gen.pure_eq_ok]
    exact ⟨_, rfl, _, rfl, _, paramsOk, _, passed, rfl⟩

theorem forall₂_resolves_of_mapM {relations : List Element} {terms : List Term}
    (traversed : relations.mapM (dependencyOf cpc) = .ok terms) :
    List.Forall₂ (fun relation (term : String × List Param) => Resolves cpc relation term.1 term.2)
      relations (terms.map fun term => (term.text, term.args)) := by
  rw [List.forall₂_map_right_iff]
  exact (Gen.mapM_eq_ok_iff.mp traversed).imp fun _ _ got => resolves_of_dependencyOf got

end Resolution

/-! ### Well-formed sources -/

def WordNamed (e : Element) : Prop := ∃ name, e.get? "name" = some name ∧ words name ≠ []

def Passable : Value → Prop
  | .obj members => (∃ type, lookupMember members "type" = some (.str type)) ∧
      ∃ name, lookupMember members "name" = some (.str name) ∧ words name ≠ []
  | _ => False

/-- A routine that lists its input parameters as a JSON list of passable parameters; a routine
without the attribute lists none. -/
def ListsParameters (routine : Element) : Prop :=
  ∃ params, Json.read ((routine.get? "input_parameters").getD "[]") = .ok (.arr params) ∧
    ∀ p ∈ params, Passable p

def Sourced (cpc relation : Element) : Prop :=
  ∃ e ∈ tasks cpc ++ cpc.childrenTagged "function", e.get? "id" = relation.get? "source"

theorem identifier?_isSome {name : String} (worded : words name ≠ []) :
    ∃ i, identifier? name = some i :=
  Option.ne_none_iff_exists'.mp ((identifier?_eq_none_iff name).not.mpr worded)

theorem nameIdent_of_wordNamed {e : Element} (named : WordNamed e) : ∃ n, nameIdent e = .ok n := by
  obtain ⟨name, present, worded⟩ := named
  obtain ⟨n, made⟩ := identifier?_isSome worded
  exact ⟨n, by simp only [nameIdent, identOf, attrValue, present, Value.ofOption, identifierOf, made]⟩

theorem argumentOf_of_passable {p : Value} (passable : Passable p) : ∃ a, argumentOf p = .ok a := by
  cases p
  case obj members =>
    obtain ⟨⟨type, typed⟩, name, named, worded⟩ := passable
    obtain ⟨i, made⟩ := identifier?_isSome worded
    exact ⟨⟨(CType.known? type).getD ⟨type, "", none⟩, i⟩, by
      simp [argumentOf, Value.member, typed, named, identifierOf, made, CType.ofValue,
        Value.checkKey, Gen.bind_eq_ok, Gen.pure_eq_ok]⟩
  all_goals exact passable.elim

theorem arguments_of_listsParameters {routine : Element} (lists : ListsParameters routine) :
    ∃ params args, (jsonOr routine "input_parameters" "[]" >>= Value.items) = .ok params ∧
      params.mapM argumentOf = .ok args := by
  obtain ⟨params, parsed, passable⟩ := lists
  obtain ⟨args, passed⟩ := Gen.exists_mapM_eq_ok_iff.mpr
    fun p member => argumentOf_of_passable (passable p member)
  exact ⟨params, args, by simp only [jsonOr, readAttribute, parsed]; rfl, passed⟩

theorem resolves_of_sourced {cpc relation : Element}
    (tasksNamed : ∀ task ∈ tasks cpc, WordNamed task)
    (routinesListed : ∀ routine ∈ cpc.childrenTagged "function",
      WordNamed routine ∧ ListsParameters routine)
    (sourced : Sourced cpc relation) : ∃ text args, Resolves cpc relation text args := by
  cases findTask : (tasks cpc).find? (·.get? "id" == relation.get? "source") with
  | some task =>
    obtain ⟨m, named⟩ := nameIdent_of_wordNamed (tasksNamed task (List.mem_of_find?_eq_some findTask))
    exact ⟨_, _, .flag findTask named⟩
  | none =>
    cases findRoutine : (cpc.childrenTagged "function").find? (·.get? "id" == relation.get? "source") with
    | some routine =>
      obtain ⟨worded, lists⟩ := routinesListed routine (List.mem_of_find?_eq_some findRoutine)
      obtain ⟨f, named⟩ := nameIdent_of_wordNamed worded
      obtain ⟨params, args, listed, passed⟩ := arguments_of_listsParameters lists
      exact ⟨_, _, .call findTask findRoutine named listed passed⟩
    | none =>
      -- the source is a task or a routine, so one of the two searches finds it
      obtain ⟨e, member, same⟩ := sourced
      rcases List.mem_append.mp member with isTask | isRoutine
      · exact absurd same (by simpa using List.find?_eq_none.mp findTask e isTask)
      · exact absurd same (by simpa using List.find?_eq_none.mp findRoutine e isRoutine)

/-! ### The block -/

section Block

variable {thread cpc : Element}

theorem taskDependencies_eq_map :
    taskDependencies thread cpc = Dependencies.text <$> dependenciesOf thread cpc := by
  unfold taskDependencies
  cases dependenciesOf thread cpc <;> rfl

theorem dependenciesOf_of_unrelated (unrelated : relationsTo thread cpc = []) :
    dependenciesOf thread cpc = Dependencies.toggle <$> nameIdent thread := by
  unfold dependenciesOf
  rw [unrelated]
  cases nameIdent thread <;> rfl

theorem dependenciesOf_eq_ok_of_related {first : Element} {rest : List Element} {d : Dependencies}
    (related : relationsTo thread cpc = first :: rest) :
    dependenciesOf thread cpc = .ok d ↔ ∃ n terms, nameIdent thread = .ok n ∧
      (first :: rest).mapM (dependencyOf cpc) = .ok terms ∧
      .joined n (isDisjunction ((first.get? "operator").getD "OR")) terms = d := by
  simp only [dependenciesOf, related, Gen.bind_eq_ok, Gen.pure_eq_ok]
  constructor
  · rintro ⟨n, named, terms, termsOk, made⟩
    exact ⟨n, terms, named, termsOk, made⟩
  · rintro ⟨n, terms, named, termsOk, made⟩
    exact ⟨n, named, terms, termsOk, made⟩

/-- A block is made exactly when its task is named and each relation leading to it gives a
term. -/
theorem exists_dependenciesOf_iff :
    (∃ d, dependenciesOf thread cpc = .ok d) ↔ (∃ n, nameIdent thread = .ok n) ∧
      ∃ terms, (relationsTo thread cpc).mapM (dependencyOf cpc) = .ok terms := by
  constructor
  · rintro ⟨d, made⟩
    obtain ⟨named, termsOk⟩ := dependenciesOf_spec made
    exact ⟨⟨_, named⟩, _, termsOk⟩
  · rintro ⟨⟨n, named⟩, terms, termsOk⟩
    cases related : relationsTo thread cpc with
    | nil => exact ⟨_, by rw [dependenciesOf_of_unrelated related, named]; rfl⟩
    | cons first rest =>
      rw [related] at termsOk
      exact ⟨_, (dependenciesOf_eq_ok_of_related related).mpr ⟨n, terms, named, termsOk, rfl⟩⟩

/-- The text of a joined block: the declarations of the arguments, without repeats, then the
goal flag set from the terms joined. -/
theorem joined_text (n : String) (disjunction : Bool) (terms : List Term) :
    (Dependencies.joined n disjunction terms).text =
      "\n        ".intercalate (((terms.flatMap Term.args).map Param.declaration).eraseDups) ++
        "\n        " ++ n ++ "_GoalAchieved = (" ++
        (if disjunction then " || " else " && ").intercalate (terms.map Term.text) ++ ");" := by
  simp only [Dependencies.text, Dependencies.declarations, firstOccurrencesBy_map, Symbol.ident,
    String.append_assoc]
  -- the flag's name runs into the literal after it
  rw [← @String.append_assoc "_GoalAchieved" " = ("]
  rfl

theorem toggle_text (n : String) :
    (Dependencies.toggle n).text =
      n ++ "_GoalAchieved = !" ++ n ++ "_GoalAchieved; // Toggle state for simulation" := by
  simp only [Dependencies.text, Symbol.ident, String.append_assoc]
  rw [← @String.append_assoc "_GoalAchieved" " = !"]
  rfl

theorem taskDependencies_of_unrelated (unrelated : relationsTo thread cpc = []) :
    taskDependencies thread cpc = (fun n => n ++ "_GoalAchieved = !" ++ n ++
      "_GoalAchieved; // Toggle state for simulation") <$> nameIdent thread := by
  rw [taskDependencies_eq_map, dependenciesOf_of_unrelated unrelated]
  cases nameIdent thread with
  | error e => rfl
  | ok n => exact congrArg Except.ok (toggle_text n)

theorem taskDependencies_of_related {first : Element} {rest : List Element} {s : String}
    (related : relationsTo thread cpc = first :: rest) (made : taskDependencies thread cpc = .ok s) :
    ∃ n terms, nameIdent thread = .ok n ∧
      List.Forall₂ (fun relation (term : String × List Param) =>
        Resolves cpc relation term.1 term.2) (first :: rest) terms ∧
      s = "\n        ".intercalate (((terms.flatMap (·.2)).map Param.declaration).eraseDups) ++
        "\n        " ++ n ++ "_GoalAchieved = (" ++
        (if strip ((first.get? "operator").getD "OR") ∈ ["or", "oR", "Or", "OR"] then " || "
          else " && ").intercalate (terms.map (·.1)) ++ ");" := by
  rw [taskDependencies_eq_map, Gen.map_eq_ok] at made
  obtain ⟨d, madeD, rfl⟩ := made
  obtain ⟨n, terms, named, termsOk, rfl⟩ := (dependenciesOf_eq_ok_of_related related).mp madeD
  refine ⟨n, terms.map fun term => (term.text, term.args), named,
    forall₂_resolves_of_mapM termsOk, ?_⟩
  -- only the first relation's operator decides the joiner
  have joiner : (if isDisjunction ((first.get? "operator").getD "OR") then " || " else " && ") =
      if strip ((first.get? "operator").getD "OR") ∈ ["or", "oR", "Or", "OR"] then " || "
        else " && " :=
    if_congr (isDisjunction_iff _) rfl rfl
  rw [joined_text, joiner, List.flatMap_map, List.map_map]
  rfl

theorem exists_taskDependencies_iff :
    (∃ s, taskDependencies thread cpc = .ok s) ↔ (∃ n, nameIdent thread = .ok n) ∧
      ∀ relation ∈ relationsTo thread cpc, ∃ text args, Resolves cpc relation text args := by
  have made : (∃ s, taskDependencies thread cpc = .ok s) ↔
      ∃ d, dependenciesOf thread cpc = .ok d := by
    simp only [taskDependencies_eq_map, Gen.map_eq_ok]
    exact ⟨fun ⟨_, d, madeD, _⟩ => ⟨d, madeD⟩, fun ⟨d, madeD⟩ => ⟨_, d, madeD, rfl⟩⟩
  have resolved : (∃ terms, (relationsTo thread cpc).mapM (dependencyOf cpc) = .ok terms) ↔
      ∀ relation ∈ relationsTo thread cpc, ∃ text args, Resolves cpc relation text args := by
    rw [Gen.exists_mapM_eq_ok_iff]
    refine forall₂_congr fun relation _ => ⟨fun ⟨_, got⟩ => ⟨_, _, resolves_of_dependencyOf got⟩,
      fun ⟨_, _, resolves⟩ => ?_⟩
    obtain ⟨term, got, -⟩ := dependencyOf_of_resolves resolves
    exact ⟨term, got⟩
  rw [made, exists_dependenciesOf_iff, resolved]

theorem exists_taskDependencies_of_wordNamed (named : WordNamed thread)
    (tasksNamed : ∀ task ∈ tasks cpc, WordNamed task)
    (routinesListed : ∀ routine ∈ cpc.childrenTagged "function",
      WordNamed routine ∧ ListsParameters routine)
    (sourced : ∀ relation ∈ relationsTo thread cpc, Sourced cpc relation) :
    ∃ s, taskDependencies thread cpc = .ok s :=
  exists_taskDependencies_iff.mpr ⟨nameIdent_of_wordNamed named,
    fun relation related => resolves_of_sourced tasksNamed routinesListed (sourced relation related)⟩

end Block

/-- The goal logic of a task. With no relation leading to it, a task toggles its goal flag.
Otherwise the flag is set from the terms its relations resolve to, in order, joined by `||`
exactly when the first relation's operator reads `or`, after the declarations of the arguments
the calls pass, each text once and in first-occurrence order. The block is made exactly when the
task is named and every relation resolves, and so whenever the tasks and routines are named by
words, the routines list passable parameters and every source is a task or a routine. -/
theorem goal_update_of_relations (thread cpc : Element) :
    (relationsTo thread cpc = [] →
      taskDependencies thread cpc = (fun n => n ++ "_GoalAchieved = !" ++ n ++
        "_GoalAchieved; // Toggle state for simulation") <$> nameIdent thread) ∧
    (∀ first rest s, relationsTo thread cpc = first :: rest →
      taskDependencies thread cpc = .ok s →
      ∃ n terms, nameIdent thread = .ok n ∧
        List.Forall₂ (fun relation (term : String × List Param) =>
          Resolves cpc relation term.1 term.2) (first :: rest) terms ∧
        s = "\n        ".intercalate (((terms.flatMap (·.2)).map Param.declaration).eraseDups) ++
          "\n        " ++ n ++ "_GoalAchieved = (" ++
          (if strip ((first.get? "operator").getD "OR") ∈ ["or", "oR", "Or", "OR"] then " || "
            else " && ").intercalate (terms.map (·.1)) ++ ");") ∧
    ((∃ s, taskDependencies thread cpc = .ok s) ↔ (∃ n, nameIdent thread = .ok n) ∧
      ∀ relation ∈ relationsTo thread cpc, ∃ text args, Resolves cpc relation text args) ∧
    (WordNamed thread → (∀ task ∈ tasks cpc, WordNamed task) →
      (∀ routine ∈ cpc.childrenTagged "function", WordNamed routine ∧ ListsParameters routine) →
      (∀ relation ∈ relationsTo thread cpc, Sourced cpc relation) →
      ∃ s, taskDependencies thread cpc = .ok s) :=
  ⟨taskDependencies_of_unrelated, fun _ _ _ related made => taskDependencies_of_related related made,
    exists_taskDependencies_iff, exists_taskDependencies_of_wordNamed⟩

def actTask : Element := ⟨2, "thread", [("id", "t2"), ("name", "Act")], "", [], ""⟩

/-- A component whose task `Act` depends first on a routine without parameters, through an
operator that reads `or` between blanks, then on the task `Sense` through `AND`. -/
def pairedComponent : Element :=
  let leaf (key : Nat) (tag : String) (attrs : List (String × String)) : Element :=
    ⟨key, tag, attrs, "", [], ""⟩
  ⟨0, "cpc", [("id", "c1"), ("name", "Pair")], "", [
    leaf 1 "thread" [("id", "t1"), ("name", "Sense")],
    actTask,
    leaf 3 "function" [("id", "f1"), ("name", "Check"), ("input_parameters", "[]")],
    leaf 4 "relation" [("source", "f1"), ("target", "t2"), ("operator", " or ")],
    leaf 5 "relation" [("source", "t1"), ("target", "t2"), ("operator", "AND")]], ""⟩

theorem pairedComponent_goal_update :
    WordNamed actTask ∧ (∀ task ∈ tasks pairedComponent, WordNamed task) ∧
      (∀ routine ∈ pairedComponent.childrenTagged "function",
        WordNamed routine ∧ ListsParameters routine) ∧
      (∀ relation ∈ relationsTo actTask pairedComponent, Sourced pairedComponent relation) ∧
      ∃ s, taskDependencies actTask pairedComponent = .ok s := by
  have noParams : Json.read "[]" = .ok (.arr []) := rfl
  have named : WordNamed actTask := ⟨"Act", rfl, by decide⟩
  have tasksNamed : ∀ task ∈ tasks pairedComponent, WordNamed task := by
    have listed : tasks pairedComponent =
        [⟨1, "thread", [("id", "t1"), ("name", "Sense")], "", [], ""⟩, actTask] :=
      rfl
    rw [listed]
    rintro task (_ | ⟨_, _ | ⟨_, ⟨⟩⟩⟩)
    · exact ⟨"Sense", rfl, by decide⟩
    · exact named
  have routinesListed : ∀ routine ∈ pairedComponent.childrenTagged "function",
      WordNamed routine ∧ ListsParameters routine := by
    have listed : pairedComponent.childrenTagged "function" =
        [⟨3, "function", [("id", "f1"), ("name", "Check"), ("input_parameters", "[]")], "", [], ""⟩] :=
      rfl
    rw [listed]
    rintro routine (_ | ⟨_, ⟨⟩⟩)
    exact ⟨⟨"Check", rfl, by decide⟩, [], noParams, fun _ absent => absurd absent List.not_mem_nil⟩
  have sourced : ∀ relation ∈ relationsTo actTask pairedComponent,
      Sourced pairedComponent relation := by
    have listed : relationsTo actTask pairedComponent =
        [⟨4, "relation", [("source", "f1"), ("target", "t2"), ("operator", " or ")], "", [], ""⟩,
          ⟨5, "relation", [("source", "t1"), ("target", "t2"), ("operator", "AND")], "", [], ""⟩] :=
      rfl
    rw [listed]
    rintro relation (_ | ⟨_, _ | ⟨_, ⟨⟩⟩⟩)
    · exact ⟨_, List.mem_append_right _ List.mem_cons_self, rfl⟩
    · exact ⟨_, List.mem_append_left _ List.mem_cons_self, rfl⟩
  exact ⟨named, tasksNamed, routinesListed, sourced,
    (goal_update_of_relations actTask pairedComponent).2.2.2 named tasksNamed routinesListed sourced⟩

end SketchGen.Sketch
