import SketchGen.Proofs.Output.Resolution
import SketchGen.Proofs.Traversal

namespace SketchGen.Output

open SketchGen.Json SketchGen.Xml SketchGen.Sketch

/-! The files a run writes. Each component directly below the model's root writes its sketch and
its two headers into its directory `output/<name>`, in that order, and the first fault stops the
run. A file lands where its path resolves, so components whose names lead to one directory
(`Unit` and `./Unit`) write the same files, and the later one's stay. A write can fail on what
earlier components left, a file where a directory is needed or a directory where a file goes;
a component stopped so may have written its first files. -/

/-- What a component writes, in order: each file's path as the component names it, and its
content. -/
def componentWrites (systemId : String) (cpc : Element) : Gen (List (String × String)) := do
  let dir ← componentDir cpc
  let text ← sketchText systemId cpc
  let file ← sketchFileName cpc
  pure [(joinPath dir file, text), (joinPath dir "secrets.h", secretsText),
    (joinPath dir "comm_utils.h", connectivityText)]

def componentPaths (cpc : Element) : Gen (List String) := do
  let dir ← componentDir cpc
  let file ← sketchFileName cpc
  pure [joinPath dir file, joinPath dir "secrets.h", joinPath dir "comm_utils.h"]

/-- Writes by the paths they land at from the run's directory; a write that lands outside it is
left out. -/
def landed (writes : List (String × String)) : List (String × String) :=
  writes.filterMap fun w => (resolve w.1).map fun cs => (pathOf cs, w.2)

/-- The writes a run over components makes, in order, and the fault that stops it. A component
whose files can be made writes them all before the next begins, or is stopped by the file system
after its first few; one whose files cannot be made writes nothing and stops the run with its
fault, or with a file system fault when its directory cannot be made. -/
inductive ComponentsWrote (systemId : String) :
    List Element → List (String × String) → Option Fault → Prop
  | nil : ComponentsWrote systemId [] [] none
  | wrote {cpc : Element} {cpcs : List Element} {ws rest : List (String × String)}
      {fault : Option Fault} :
      componentWrites systemId cpc = .ok ws → ComponentsWrote systemId cpcs rest fault →
      ComponentsWrote systemId (cpc :: cpcs) (ws ++ rest) fault
  | refused {cpc : Element} {cpcs : List Element} {ws : List (String × String)} {n : Nat}
      {e : FileError} :
      componentWrites systemId cpc = .ok ws → n < ws.length →
      ComponentsWrote systemId (cpc :: cpcs) (ws.take n) (some (.file e))
  | failed {cpc : Element} {cpcs : List Element} {f g : Fault} :
      componentWrites systemId cpc = .error f → (g = f ∨ ∃ e, g = .file e) →
      ComponentsWrote systemId (cpc :: cpcs) [] (some g)

/-- The writes a run over a model makes and the fault that stops it: none when the system id
cannot be made, else those of the components directly below the root. -/
def ModelWrote (root : Element) (writes : List (String × String)) (fault : Option Fault) : Prop :=
  match systemIdOf root with
  | .error f => writes = [] ∧ fault = some f
  | .ok systemId => ComponentsWrote systemId (root.childrenTagged "cpc") writes fault

def BelowOutput (place : Place) : Prop :=
  ∃ rest, place = some ("output" :: rest) ∧ rest ≠ []

instance : DecidablePred BelowOutput := fun
  | none => isFalse (by simp [BelowOutput])
  | some [] => isFalse (by simp [BelowOutput])
  | some (top :: rest) =>
    if h : top = "output" ∧ rest ≠ [] then isTrue ⟨rest, by rw [h.1], h.2⟩
    else isFalse fun ⟨rest', same, full⟩ => h (by simp_all)

def KeepsInside (cpc : Element) : Prop :=
  ∀ paths, componentPaths cpc = .ok paths → ∀ p ∈ paths, BelowOutput (resolve p)

instance (cpc : Element) : Decidable (KeepsInside cpc) :=
  match h : componentPaths cpc with
  | .ok paths =>
    decidable_of_iff (∀ p ∈ paths, BelowOutput (resolve p)) (by simp [KeepsInside, h])
  | .error _ => isTrue (by simp [KeepsInside, h])

/-! ### The steps of a component -/

def writeStep (w : String × String) (t : Tree) : Gen Tree := onFiles (t.write w.1 w.2)

theorem landed_append (writes more : List (String × String)) :
    landed (writes ++ more) = landed writes ++ landed more :=
  List.filterMap_append

theorem landed_cons_of_resolve {w : String × String} {cs : List String}
    (resolved : resolve w.1 = some cs) (writes : List (String × String)) :
    landed (w :: writes) = (pathOf cs, w.2) :: landed writes := by
  simp [landed, resolved]

theorem Tree.runSteps_cons_ok {t u : Tree} {step : Tree → Gen Tree}
    {rest : List (Tree → Gen Tree)} (h : step t = .ok u) :
    t.runSteps (step :: rest) = u.runSteps rest := by
  simp [Tree.runSteps, h]

theorem Tree.runSteps_cons_error {t : Tree} {f : Fault} {step : Tree → Gen Tree}
    {rest : List (Tree → Gen Tree)} (h : step t = .error f) :
    t.runSteps (step :: rest) = (t, some f) := by
  simp [Tree.runSteps, h]

theorem Tree.runSteps_writes : ∀ {ws : List (String × String)} {t t' : Tree}
    {fault : Option Fault} {rest : List (Tree → Gen Tree)},
    t.runSteps (ws.map writeStep ++ rest) = (t', fault) →
    (∃ t₁ : Tree, t₁.files = (landed ws).foldl putFile t.files ∧ t₁.runSteps rest = (t', fault)) ∨
      ∃ n < ws.length, ∃ e, fault = some (.file e) ∧
        t'.files = (landed (ws.take n)).foldl putFile t.files
  | [], t, _, _, _, ran => .inl ⟨t, rfl, ran⟩
  | w :: ws, t, t', fault, rest, ran => by
    rw [List.map_cons, List.cons_append] at ran
    cases wrote : t.write w.1 w.2 with
    | error e =>
      rw [Tree.runSteps_cons_error (f := .file e) (by simp [writeStep, wrote, onFiles])] at ran
      cases ran
      exact .inr ⟨0, by simp, e, rfl, by simp [landed]⟩
    | ok t₁ =>
      obtain ⟨cs, resolved, files⟩ := Tree.write_eq_ok wrote
      rw [Tree.runSteps_cons_ok (u := t₁) (by simp [writeStep, wrote, onFiles])] at ran
      rcases Tree.runSteps_writes ran with ⟨t₂, files₂, rest⟩ | ⟨n, short, e, failed, files₂⟩
      · refine .inl ⟨t₂, ?_, rest⟩
        rw [files₂, files, landed_cons_of_resolve resolved, List.foldl_cons]
      · refine .inr ⟨n + 1, by simp [short], e, failed, ?_⟩
        rw [files₂, files, List.take_succ_cons, landed_cons_of_resolve resolved, List.foldl_cons]

section Component

variable {systemId : String} {cpc : Element}

theorem componentSteps_eq_ok {ws : List (String × String)}
    (made : componentWrites systemId cpc = .ok ws) :
    ws ≠ [] ∧ ∃ dir, componentSteps systemId cpc =
      (fun t => onFiles (t.makeDirs (dir.length + 1) dir)) :: ws.map writeStep := by
  simp only [componentWrites, Gen.bind_eq_ok, Gen.pure_eq_ok] at made
  obtain ⟨dir, dirOk, text, texted, file, filed, rfl⟩ := made
  refine ⟨by simp, dir, ?_⟩
  simp only [componentSteps, List.map_cons, List.map_nil, List.cons.injEq, and_true]
  refine ⟨?_, ?_, ?_, ?_⟩ <;> funext t
  · simp [dirOk, bind, Except.bind]
  · simp [dirOk, texted, filed, Tree.writeSketch, writeStep, bind, Except.bind]
  · simp [dirOk, writeStep, bind, Except.bind]
  · simp [dirOk, writeStep, bind, Except.bind]

theorem Tree.runSteps_componentSteps_ok {ws : List (String × String)}
    (made : componentWrites systemId cpc = .ok ws) {t t' : Tree} {fault : Option Fault}
    {rest : List (Tree → Gen Tree)}
    (ran : t.runSteps (componentSteps systemId cpc ++ rest) = (t', fault)) :
    (∃ t₁ : Tree, t₁.files = (landed ws).foldl putFile t.files ∧ t₁.runSteps rest = (t', fault)) ∨
      ∃ n < ws.length, ∃ e, fault = some (.file e) ∧
        t'.files = (landed (ws.take n)).foldl putFile t.files := by
  obtain ⟨full, dir, steps⟩ := componentSteps_eq_ok made
  rw [steps, List.cons_append] at ran
  cases dirs : t.makeDirs (dir.length + 1) dir with
  | error e =>
    rw [Tree.runSteps_cons_error (f := .file e) (by simp [dirs, onFiles])] at ran
    cases ran
    exact .inr ⟨0, List.length_pos_iff.mpr full, e, rfl, by simp [landed]⟩
  | ok t₁ =>
    rw [Tree.runSteps_cons_ok (u := t₁) (by simp [dirs, onFiles])] at ran
    rw [← Tree.makeDirs_files dirs]
    exact Tree.runSteps_writes ran

theorem Tree.runSteps_componentSteps_error {g : Fault}
    (failed : componentWrites systemId cpc = .error g) (t : Tree) (rest : List (Tree → Gen Tree)) :
    ∃ t₁ f, t₁.files = t.files ∧ (f = g ∨ ∃ e, f = .file e) ∧
      t.runSteps (componentSteps systemId cpc ++ rest) = (t₁, some f) := by
  simp only [componentSteps, List.cons_append]
  cases dirOk : componentDir cpc with
  | error g' =>
    have same : g' = g := by simpa [componentWrites, dirOk, bind, Except.bind] using failed
    exact ⟨t, g, rfl, .inl rfl, Tree.runSteps_cons_error (by simp [same, bind, Except.bind])⟩
  | ok dir =>
    cases dirs : t.makeDirs (dir.length + 1) dir with
    | error e =>
      exact ⟨t, .file e, rfl, .inr ⟨e, rfl⟩,
        Tree.runSteps_cons_error (by simp [dirs, bind, Except.bind, onFiles])⟩
    | ok t₁ =>
      refine ⟨t₁, g, Tree.makeDirs_files dirs, .inl rfl, ?_⟩
      rw [Tree.runSteps_cons_ok (u := t₁) (by simp [dirs, bind, Except.bind, onFiles])]
      -- the sketch step meets the fault first: its text or its file name
      refine Tree.runSteps_cons_error ?_
      cases texted : sketchText systemId cpc with
      | error g' =>
        have same : g' = g := by
          simpa [componentWrites, dirOk, texted, bind, Except.bind] using failed
        simp [texted, same, Tree.writeSketch, bind, Except.bind]
      | ok text =>
        cases filed : sketchFileName cpc with
        | error g' =>
          have same : g' = g := by
            simpa [componentWrites, dirOk, texted, filed, bind, Except.bind] using failed
          simp [texted, filed, same, Tree.writeSketch, bind, Except.bind]
        | ok file =>
          simp [componentWrites, dirOk, texted, filed, bind, Except.bind, pure,
            Except.pure] at failed

end Component

/-! ### The writes of a run -/

theorem Tree.runSteps_components (systemId : String) : ∀ {cpcs : List Element} {t t' : Tree}
    {fault : Option Fault},
    t.runSteps (cpcs.flatMap (componentSteps systemId)) = (t', fault) →
    ∃ writes, ComponentsWrote systemId cpcs writes fault ∧
      t'.files = (landed writes).foldl putFile t.files
  | [], t, t', fault, ran => by
    simp only [List.flatMap_nil, Tree.runSteps, Prod.mk.injEq] at ran
    obtain ⟨rfl, rfl⟩ := ran
    exact ⟨[], .nil, rfl⟩
  | cpc :: cpcs, t, t', fault, ran => by
    rw [List.flatMap_cons] at ran
    cases made : componentWrites systemId cpc with
    | ok ws =>
      rcases Tree.runSteps_componentSteps_ok made ran with
        ⟨t₁, files₁, later⟩ | ⟨n, short, e, rfl, files⟩
      · obtain ⟨writes, wrote, files⟩ := Tree.runSteps_components systemId later
        refine ⟨ws ++ writes, .wrote made wrote, ?_⟩
        rw [files, files₁, landed_append, List.foldl_append]
      · exact ⟨ws.take n, .refused made short, files⟩
    | error g =>
      obtain ⟨t₁, f, files, stopped, ran'⟩ := Tree.runSteps_componentSteps_error made t
        (cpcs.flatMap (componentSteps systemId))
      rw [ran] at ran'
      cases ran'
      exact ⟨[], .failed made stopped, by simpa [landed] using files⟩

theorem writeModel_files {root : Element} {t : Tree} {fault : Option Fault}
    (ran : ({} : Tree).writeModel root = (t, fault)) :
    ∃ writes, ModelWrote root writes fault ∧ t.files = (landed writes).foldl putFile [] := by
  unfold Tree.writeModel at ran
  unfold ModelWrote
  cases named : systemIdOf root with
  | error f =>
    rw [named] at ran
    cases ran
    exact ⟨[], ⟨rfl, rfl⟩, rfl⟩
  | ok systemId =>
    rw [named] at ran
    exact Tree.runSteps_components systemId ran

/-! ### Where the writes land -/

theorem ComponentsWrote.mem {systemId : String} {cpcs : List Element}
    {writes : List (String × String)} {fault : Option Fault}
    (wrote : ComponentsWrote systemId cpcs writes fault) {w : String × String}
    (member : w ∈ writes) : ∃ cpc ∈ cpcs, ∃ ws, componentWrites systemId cpc = .ok ws ∧ w ∈ ws := by
  induction wrote with
  | nil => cases member
  | @wrote cpc cpcs ws rest fault made _ ih =>
    rcases List.mem_append.mp member with own | later
    · exact ⟨cpc, List.mem_cons_self, ws, made, own⟩
    · obtain ⟨c, listed, found⟩ := ih later
      exact ⟨c, List.mem_cons_of_mem cpc listed, found⟩
  | @refused cpc cpcs ws n e made _ =>
    exact ⟨cpc, List.mem_cons_self, ws, made, List.mem_of_mem_take member⟩
  | failed => cases member

theorem componentPaths_of_componentWrites {systemId : String} {cpc : Element}
    {ws : List (String × String)} (made : componentWrites systemId cpc = .ok ws) :
    componentPaths cpc = .ok (ws.map Prod.fst) := by
  simp only [componentWrites, Gen.bind_eq_ok, Gen.pure_eq_ok] at made
  obtain ⟨dir, dirOk, text, -, file, filed, rfl⟩ := made
  simp [componentPaths, dirOk, filed, bind, Except.bind, pure, Except.pure]

theorem mem_landed {writes : List (String × String)} {file : String × String}
    (member : file ∈ landed writes) :
    ∃ w ∈ writes, ∃ cs, resolve w.1 = some cs ∧ file.1 = pathOf cs := by
  simp only [landed, List.mem_filterMap, Option.map_eq_some_iff] at member
  obtain ⟨w, written, cs, resolved, rfl⟩ := member
  exact ⟨w, written, cs, resolved, rfl⟩

theorem ModelWrote.below_output {root : Element} {writes : List (String × String)}
    {fault : Option Fault} (wrote : ModelWrote root writes fault)
    (inside : ∀ cpc ∈ root.childrenTagged "cpc", KeepsInside cpc) {w : String × String}
    (member : w ∈ writes) : BelowOutput (resolve w.1) := by
  unfold ModelWrote at wrote
  split at wrote
  · rw [wrote.1] at member
    cases member
  · obtain ⟨cpc, child, ws, made, own⟩ := wrote.mem member
    exact inside cpc child _ (componentPaths_of_componentWrites made) w.1 (List.mem_map_of_mem own)

/-! ### The files of a run -/

/-- What a run over a model leaves, read against the writes it made: the writes and the fault
that stopped it are those of its components, one file to a path, each resolved path holding what
the last write to it put there, and every file below `output`. -/
structure RunWrites (root : Element) (t : Tree) (fault : Option Fault)
    (writes : List (String × String)) : Prop where
  wrote : ModelWrote root writes fault
  distinct : (t.files.map Prod.fst).Nodup
  lastWins : ∀ path content,
    (path, content) ∈ t.files ↔ lastWrite (landed writes) path = some content
  inside : ∀ file ∈ t.files, ∃ rest, file.1 = pathOf ("output" :: rest) ∧ rest ≠ []

theorem run_writes_component_files {root : Element} {t : Tree} {fault : Option Fault}
    (inside : ∀ cpc ∈ root.childrenTagged "cpc", KeepsInside cpc)
    (ran : ({} : Tree).writeModel root = (t, fault)) : ∃ writes, RunWrites root t fault writes := by
  obtain ⟨writes, wrote, files⟩ := writeModel_files ran
  have lastWins : ∀ path content,
      (path, content) ∈ t.files ↔ lastWrite (landed writes) path = some content := by
    intro path content
    rw [files, mem_foldl_putFile]
    simp
  refine ⟨writes, wrote, files ▸ foldl_putFile_keys_nodup (by simp), lastWins,
    fun file member => ?_⟩
  -- a file is where a write of some component landed, and that is below `output`
  obtain ⟨w, written, cs, resolved, key⟩ :=
    mem_landed (mem_of_lastWrite ((lastWins file.1 file.2).mp member))
  obtain ⟨rest, placed, full⟩ := wrote.below_output inside written
  rw [resolved, Option.some.injEq] at placed
  exact ⟨rest, placed ▸ key, full⟩

/-- A model whose first two components lead to one directory, `Unit` and `./Unit`, and whose
third has a name of two words. -/
def sharedDirModel : Element :=
  let component (key : Nat) (id name : String) : Element :=
    ⟨key, "cpc", [("id", id), ("name", name)], "", [], ""⟩
  ⟨0, "cps", [("id", "s"), ("name", "S")], "",
    [component 1 "c1" "Unit", component 2 "c2" "./Unit", component 3 "c3" "Tank Level"], ""⟩

theorem sharedDirModel_writes_component_files :
    (∀ cpc ∈ sharedDirModel.childrenTagged "cpc", KeepsInside cpc) ∧
      ∃ writes, RunWrites sharedDirModel (({} : Tree).writeModel sharedDirModel).1
        (({} : Tree).writeModel sharedDirModel).2 writes :=
  have inside : ∀ cpc ∈ sharedDirModel.childrenTagged "cpc", KeepsInside cpc := by
    decide +kernel
  ⟨inside, run_writes_component_files inside rfl⟩

/-- A model whose first component is named `..`, and whose other two lead to one directory
`output/ `: the second makes `secrets.h` in it a directory of its own, so the third writes its
sketch there and then fails on its `secrets.h`. -/
def strayModel : Element :=
  let component (key : Nat) (id name : String) : Element :=
    ⟨key, "cpc", [("id", id), ("name", name)], "", [], ""⟩
  ⟨0, "cps", [("id", "s"), ("name", "S")], "",
    [component 1 "c1" "..", component 2 "c2" "./ /secrets.h", component 3 "c3" "./ "], ""⟩

/-- A component named `..` writes its sketch and headers into the run's directory itself, beside
`output`, and a component that the file system stops leaves the sketch it wrote first. -/
theorem strayModel_writes_outside :
    (({} : Tree).writeModel strayModel).1.files.map Prod.fst =
        ["...ino", "secrets.h", "comm_utils.h", "output/ /secrets.h/secrets.h.ino",
          "output/ /secrets.h/secrets.h", "output/ /secrets.h/comm_utils.h", "output/ /.ino"] ∧
      (({} : Tree).writeModel strayModel).2.map Fault.message =
        some "[Errno 21] Is a directory: 'output/./ /secrets.h'" := by
  decide +kernel

end SketchGen.Output
