import Mathlib.Data.List.ReduceOption
import SketchGen.Proofs.Sketch.Layout
import SketchGen.Proofs.Sketch.Sections

namespace SketchGen.Sketch

open SketchGen.Json SketchGen.Xml SketchGen.Text

/-! Operation mode variables. Every `switch` of a sketch branches on the mode variable of the
element it belongs to. A routine's variable is its last parameter, which starts at its first
mode's code; the parameter and the switch read the same list of modes, and the parameter needs
the list to have a first mode, so they agree. The variable of a task, publisher or subscriber is
declared at file scope, but only when its list of modes is not empty: with its modes on and none
listed (an empty list, dictionary or text, or no list at all) the element's switch has no case
and its variable is declared nowhere. A switch's variable is declared exactly when the switch
has a case. -/

/-! ### Lists of modes -/

theorem modeCaseOf_spec {m : Value} {c : ModeCase} (h : modeCaseOf m = .ok c) :
    ∃ code name, m.member "code" = .ok code ∧ m.member "name" = .ok name ∧
      c.code = code.display ∧ c.name = name.display := by
  simp only [modeCaseOf, Gen.bind_eq_ok, Gen.pure_eq_ok] at h
  obtain ⟨code, coded, name, named, _, _, rfl⟩ := h
  exact ⟨code, name, coded, named, rfl, rfl⟩

theorem Value.eq_arr_of_first_member {v x y : Value} {key : String} (first : v.first = .ok x)
    (member : x.member key = .ok y) : ∃ rest, v = .arr (x :: rest) := by
  cases v with
  | arr xs =>
    cases xs with
    | nil => cases first
    | cons head rest => exact ⟨rest, by cases first; rfl⟩
  | str s =>
    -- the first item of a text is a text, which has no members
    simp only [Value.first] at first
    split at first
    · cases first
      simp [Value.member] at member
    · cases first
  | _ => cases first

theorem Value.eq_arr_of_modeCases {v : Value} {items : List Value} {c : ModeCase} {cs : List ModeCase}
    (h : v.items = .ok items) (cased : items.mapM modeCaseOf = .ok (c :: cs)) : v = .arr items := by
  obtain ⟨m, rest, made, -, rfl⟩ := List.forall₂_cons_right_iff.mp (Gen.mapM_eq_ok_iff.mp cased)
  obtain ⟨code, -, coded, -⟩ := modeCaseOf_spec made
  cases v with
  | arr xs => cases h; rfl
  | obj ms =>
    simp only [Value.items, Except.ok.injEq] at h
    obtain ⟨_, _, -, rfl, -⟩ := List.map_eq_cons_iff.mp h
    simp [Value.member] at coded
  | str s =>
    simp only [Value.items, Except.ok.injEq] at h
    obtain ⟨_, _, -, rfl, -⟩ := List.map_eq_cons_iff.mp h
    simp [Value.member] at coded
  | _ => cases h

theorem Value.truthy_of_items_nil {v : Value} (h : v.items = .ok []) : v.truthy = false := by
  cases v with
  | arr xs => cases h; rfl
  | obj ms =>
    simp only [Value.items, Except.ok.injEq, List.map_eq_nil_iff] at h
    subst h; rfl
  | str s =>
    simp only [Value.items, Except.ok.injEq, List.map_eq_nil_iff, String.toList_eq_nil_iff] at h
    subst h; rfl
  | _ => cases h

/-! ### Switches and declarations of one element -/

variable {e : Element}

theorem modeSwitchOf_eq_some {sw : ModeSwitch} (h : modeSwitchOf e = .ok (some sw)) :
    modesEnabled e = true ∧ modeVariable e = .ok sw.ident ∧
      ∃ modes items, modesOf e = .ok modes ∧ modes.items = .ok items ∧
        items.mapM modeCaseOf = .ok sw.cases := by
  unfold modeSwitchOf at h
  cases enabled : modesEnabled e
  · simp [enabled] at h
    cases h
  · simp only [enabled, Bool.not_true, Bool.false_eq_true, if_false, Gen.bind_eq_ok,
      Gen.pure_eq_ok, Option.some.injEq] at h
    obtain ⟨modes, read, var, named, items, itemsOk, cases, casesOk, rfl⟩ := h
    exact ⟨rfl, named, modes, items, read, itemsOk, casesOk⟩

theorem modeDeclOf_of_switch {sw : ModeSwitch} {c : ModeCase} {cs : List ModeCase}
    (h : modeSwitchOf e = .ok (some sw)) (cased : sw.cases = c :: cs) :
    modeDeclOf e = .ok (some ⟨sw.ident, c.code, c.name⟩) := by
  obtain ⟨enabled, named, modes, items, read, itemsOk, casesOk⟩ := modeSwitchOf_eq_some h
  rw [cased] at casesOk
  have listed : modes = .arr items := Value.eq_arr_of_modeCases itemsOk casesOk
  obtain ⟨m, rest, made, -, rfl⟩ := List.forall₂_cons_right_iff.mp (Gen.mapM_eq_ok_iff.mp casesOk)
  obtain ⟨code, name, coded, titled, codeShown, nameShown⟩ := modeCaseOf_spec made
  subst listed
  simp [modeDeclOf, enabled, read, named, Value.truthy, Value.first, coded, titled, codeShown,
    nameShown, bind, Except.bind, pure, Except.pure]

theorem modeDeclOf_of_caseless_switch {sw : ModeSwitch} (h : modeSwitchOf e = .ok (some sw))
    (caseless : sw.cases = []) : modeDeclOf e = .ok none := by
  obtain ⟨enabled, -, modes, items, read, itemsOk, casesOk⟩ := modeSwitchOf_eq_some h
  rw [caseless] at casesOk
  obtain rfl : items = [] := List.forall₂_nil_right_iff.mp (Gen.mapM_eq_ok_iff.mp casesOk)
  simp [modeDeclOf, enabled, read, Value.truthy_of_items_nil itemsOk, bind, Except.bind, pure,
    Except.pure]

theorem modeCodeOf_of_switch {sw : ModeSwitch} {mc : Option String}
    (h : modeSwitchOf e = .ok (some sw)) (coded : modeCodeOf e = .ok mc) :
    ∃ c cs, sw.cases = c :: cs ∧ mc = some c.code := by
  obtain ⟨enabled, -, modes, items, read, itemsOk, casesOk⟩ := modeSwitchOf_eq_some h
  simp only [modeCodeOf, enabled, Bool.not_true, Bool.false_eq_true, if_false, Gen.bind_eq_ok,
    Gen.pure_eq_ok] at coded
  obtain ⟨listed, listedOk, first, firstOk, code, codeOk, rfl⟩ := coded
  have same : listed = modes := Except.ok.inj ((jsonOr_of_jsonOf listedOk).symm.trans read)
  subst same
  obtain ⟨rest, rfl⟩ := Value.eq_arr_of_first_member firstOk codeOk
  obtain rfl : items = first :: rest := (Except.ok.inj itemsOk).symm
  obtain ⟨c, cs, made, -, cased⟩ := List.forall₂_cons_left_iff.mp (Gen.mapM_eq_ok_iff.mp casesOk)
  obtain ⟨code', -, coded', -, codeShown, -⟩ := modeCaseOf_spec made
  obtain rfl : code' = code := Except.ok.inj (coded'.symm.trans codeOk)
  exact ⟨c, cs, cased, by rw [codeShown]⟩

theorem modeVariable_eq {n var : String} (named : nameIdent e = .ok n)
    (h : modeVariable e = .ok var) : var = n ++ "_operation_mode" := by
  simp only [modeVariable, named, bind, Except.bind, pure, Except.pure, Except.ok.injEq] at h
  exact h.symm

/-! ### Switches and declarations of a sketch -/

/-- The switches of a sketch's tasks, publishing tasks and callbacks, each with the identifier
of the element it branches for. -/
def Program.ownedSwitches (sk : Program) : List (String × ModeSwitch) :=
  sk.taskBodies.filterMap (fun tb => tb.switch.map (tb.owner, ·)) ++
    sk.publishTasks.filterMap (fun pt => pt.switch.map (pt.owner, ·)) ++
    sk.callbacks.filterMap (fun cb => cb.switch.map (cb.owner, ·))

section Generated

variable {systemId : String} {cpc : Element} {sk : Program}

theorem mem_modes_of_modeDeclOf (generated : Generated systemId cpc sk) {d : ModeDecl}
    (member : e ∈ ["thread", "commThread", "listenerThread"].flatMap cpc.childrenTagged)
    (declared : modeDeclOf e = .ok (some d)) : d ∈ sk.modes := by
  have modes := generated.modes
  simp only [modeDeclsOf, Gen.bind_eq_ok, Gen.pure_eq_ok] at modes
  obtain ⟨decls, declsOk, reduced⟩ := modes
  obtain ⟨found, listed, made⟩ := Gen.exists_of_mem_mapM_left declsOk member
  obtain rfl : found = some d := Except.ok.inj (made.symm.trans declared)
  rw [← reduced]
  exact List.reduceOption_mem_iff.mpr listed

theorem occurs_modeDecl {d : ModeDecl} (member : d ∈ sk.modes) : Occurs d.text sk.text := by
  have part : "\n".intercalate (sk.modes.map ModeDecl.text) ∈ sk.parts := by simp [Program.parts]
  exact occurs_text_of_part part (occurs_intercalate_of_mem "\n" (List.mem_map_of_mem member))

theorem ownedSwitch_source (generated : Generated systemId cpc sk) {owner : String}
    {sw : ModeSwitch} (member : (owner, sw) ∈ sk.ownedSwitches) :
    ∃ e ∈ ["thread", "commThread", "listenerThread"].flatMap cpc.childrenTagged,
      nameIdent e = .ok owner ∧ modeSwitchOf e = .ok (some sw) := by
  simp only [Program.ownedSwitches, List.mem_append, List.mem_filterMap, Option.map_eq_some_iff,
    Prod.mk.injEq] at member
  rcases member with (⟨tb, body, _, switched, rfl, rfl⟩ | ⟨pt, task, _, switched, rfl, rfl⟩) |
    ⟨cb, callback, _, switched, rfl, rfl⟩
  · obtain ⟨t, member, made⟩ := Gen.exists_of_mem_mapM generated.taskBodies body
    obtain ⟨named, -, switchOk⟩ := taskBodyOf_spec made
    exact ⟨t, List.mem_flatMap.mpr ⟨"thread", by simp, member⟩, named, switched ▸ switchOk⟩
  · obtain ⟨p, member, published⟩ := Gen.exists_of_mem_mapM generated.publishTasks task
    obtain ⟨named, -, switchOk⟩ := publishTaskOf_spec published
    exact ⟨p, List.mem_flatMap.mpr ⟨"commThread", by simp, member⟩, named, switched ▸ switchOk⟩
  · obtain ⟨q, member, called⟩ := Gen.exists_of_mem_mapM generated.callbacks callback
    obtain ⟨named, -, switchOk⟩ := callbackOf_spec called
    exact ⟨q, List.mem_flatMap.mpr ⟨"listenerThread", by simp, member⟩, named,
      switched ▸ switchOk⟩

/-- The switch of a task, publisher or subscriber branches on the element's mode variable,
which the sketch declares, starting at the first case's code, exactly when the switch has a
case. -/
theorem ownedSwitch_declared_iff (generated : Generated systemId cpc sk) {owner : String}
    {sw : ModeSwitch} (member : (owner, sw) ∈ sk.ownedSwitches) :
    sw.ident = owner ++ "_operation_mode" ∧
      ((∃ d ∈ sk.modes, d.ident = sw.ident ∧ sw.labels.head? = some d.code ∧
          Occurs d.text sk.text) ↔ sw.labels ≠ []) := by
  obtain ⟨e, owned, named, switched⟩ := ownedSwitch_source generated member
  obtain ⟨-, var, -⟩ := modeSwitchOf_eq_some switched
  refine ⟨modeVariable_eq named var, ⟨?_, ?_⟩⟩
  · rintro ⟨d, -, -, first, -⟩ caseless
    simp [caseless] at first
  · intro cased
    cases casesEq : sw.cases with
    | nil => simp [ModeSwitch.labels, casesEq] at cased
    | cons c cs =>
      have declared := mem_modes_of_modeDeclOf generated owned (modeDeclOf_of_switch switched casesEq)
      exact ⟨_, declared, rfl, by simp [ModeSwitch.labels, casesEq], occurs_modeDecl declared⟩

theorem routine_switch_declared (generated : Generated systemId cpc sk) {r : Routine}
    {sw : ModeSwitch} (member : r ∈ sk.routines) (switched : r.switch = some sw) :
    sw.ident = r.name ++ "_operation_mode" ∧
      ∃ code, r.modeCode = some code ∧ sw.labels.head? = some code ∧
        Occurs (modeParamText r.name code) r.signature := by
  obtain ⟨e, -, compiled⟩ := Gen.exists_of_mem_mapM generated.routines member
  obtain ⟨named, -, coded, switchOk, -⟩ := routineOf_spec compiled
  rw [switched] at switchOk
  obtain ⟨-, var, -⟩ := modeSwitchOf_eq_some switchOk
  obtain ⟨c, cs, cased, modeCode⟩ := modeCodeOf_of_switch switchOk coded
  refine ⟨modeVariable_eq named var, c.code, modeCode, by simp [ModeSwitch.labels, cased], ?_⟩
  have listed : modeParamText r.name c.code ∈
      r.params.map Param.text ++ (r.modeCode.map (modeParamText r.name)).toList := by
    simp [modeCode]
  unfold Routine.signature
  exact ((occurs_intercalate_of_mem ", " listed).append_right _).append_left _

end Generated

/-- Every switch of a generated sketch branches on a mode variable named after its element. A
routine's variable is its parameter starting at the switch's first case. The variable of a task,
publisher or subscriber is declared at file scope starting at the switch's first case exactly
when the switch has a case. -/
theorem mode_switch_variables_declared {systemId : String} {cpc : Element} {sk : Program}
    (h : sketchOf systemId cpc = .ok sk) :
    (∀ r ∈ sk.routines, ∀ sw, r.switch = some sw →
      sw.ident = r.name ++ "_operation_mode" ∧
        ∃ code, r.modeCode = some code ∧ sw.labels.head? = some code ∧
          Occurs (modeParamText r.name code) r.signature) ∧
    ∀ owner sw, (owner, sw) ∈ sk.ownedSwitches →
      sw.ident = owner ++ "_operation_mode" ∧
        ((∃ d ∈ sk.modes, d.ident = sw.ident ∧ sw.labels.head? = some d.code ∧
            Occurs d.text sk.text) ↔ sw.labels ≠ []) := by
  have generated := generated_of_sketchOf h
  exact ⟨fun _ member _ switched => routine_switch_declared generated member switched,
    fun _ _ member => ownedSwitch_declared_iff generated member⟩

theorem sampleComponent_mode_switch_variables_declared :
    ∃ sk, sketchOf "sys" sampleComponent = .ok sk ∧
      (∀ r ∈ sk.routines, ∀ sw, r.switch = some sw →
        sw.ident = r.name ++ "_operation_mode" ∧
          ∃ code, r.modeCode = some code ∧ sw.labels.head? = some code ∧
            Occurs (modeParamText r.name code) r.signature) ∧
      ∀ owner sw, (owner, sw) ∈ sk.ownedSwitches →
        sw.ident = owner ++ "_operation_mode" ∧
          ((∃ d ∈ sk.modes, d.ident = sw.ident ∧ sw.labels.head? = some d.code ∧
              Occurs d.text sk.text) ↔ sw.labels ≠ []) := by
  obtain ⟨sk, h⟩ := sampleComponent_generated
  exact ⟨sk, h, mode_switch_variables_declared h⟩

def modelessComponent : Element :=
  ⟨0, "cpc", [("id", "c1"), ("name", "Unit")], "",
    [⟨1, "thread", [("id", "t1"), ("name", "Act"), ("qualification_array", "[]"),
      ("contribution_array", "[]"), ("operation_modes_enabled", "true")], "", [], ""⟩], ""⟩

/-- The task's switch branches on a variable that the sketch declares nowhere. -/
theorem modelessComponent_switch_undeclared :
    ∃ sk, sketchOf "cps" modelessComponent = .ok sk ∧
      ∃ owner sw, (owner, sw) ∈ sk.ownedSwitches ∧ ∀ d ∈ sk.modes, d.ident ≠ sw.ident := by
  obtain ⟨sk, h⟩ : ∃ sk, sketchOf "cps" modelessComponent = .ok sk :=
    Gen.exists_eq_ok_of_isOk (by decide +kernel)
  have generated := generated_of_sketchOf h
  have undeclared : sk.modes = [] := Except.ok.inj (generated.modes.symm.trans rfl)
  obtain ⟨tb, body, made⟩ :=
    Gen.exists_of_mem_mapM_left generated.taskBodies (List.mem_singleton_self _)
  obtain ⟨-, -, switchOk⟩ := taskBodyOf_spec made
  have switched : tb.switch = some ⟨"act_operation_mode", []⟩ :=
    Except.ok.inj (switchOk.symm.trans rfl)
  refine ⟨sk, h, tb.owner, ⟨"act_operation_mode", []⟩, ?_, by simp [undeclared]⟩
  simp only [Program.ownedSwitches, List.mem_append, List.mem_filterMap]
  exact .inl (.inl ⟨tb, body, by simp [switched]⟩)

end SketchGen.Sketch
