import SketchGen.Output.SketchTree

namespace SketchGen.Output

open SketchGen.Text

/-! Where a path leads. A path is read component by component, from the root or, for a path from
`/`, from outside it: an empty component and `.` stay, `..` goes up (out of the root from the
root) and any other name goes down. A walk of the tree that succeeds lands where this reading
says, so a write that succeeds puts its file at the path the name resolves to, whatever detours
the name takes, and making directories leaves the files alone. -/

def Place.enter : Place → String → Place
  | none, _ => none
  | some cs, c =>
    if c.isEmpty ∨ c = "." then some cs
    else if c = ".." then (if cs.isEmpty then none else some cs.dropLast)
    else some (cs ++ [c])

def resolve (p : String) : Place :=
  (piecesAt '/' p).foldl Place.enter (if p.startsWith "/" then none else some [])

def putFile (files : List (String × String)) (file : String × String) :
    List (String × String) :=
  files.filter (·.1 != file.1) ++ [file]

def lastWrite (writes : List (String × String)) (path : String) : Option String :=
  (writes.reverse.find? (·.1 == path)).map Prod.snd

@[simp] theorem Place.enter_none (c : String) : Place.enter none c = none := rfl

theorem Place.enter_stay {c : String} (stay : c.isEmpty ∨ c = ".") (here : Place) :
    Place.enter here c = here := by
  cases here with
  | none => rfl
  | some cs => simp only [Place.enter, if_pos stay]

theorem Place.enter_up (cs : List String) :
    Place.enter (some cs) ".." = if cs.isEmpty then none else some cs.dropLast := by
  simp [Place.enter]

theorem Place.enter_down {c : String} (move : ¬(c.isEmpty ∨ c = ".")) (down : c ≠ "..")
    (cs : List String) : Place.enter (some cs) c = some (cs ++ [c]) := by
  simp only [Place.enter, move, down, if_false]

theorem resolve_eq_splitPath (p : String) :
    resolve p =
      Place.enter ((splitPath p).2.1.foldl Place.enter (splitPath p).1) (splitPath p).2.2 := by
  have nonempty : piecesAt '/' p ≠ [] := by simp [piecesAt, List.splitOn_ne_nil]
  unfold resolve splitPath
  dsimp only
  conv => lhs; rw [← List.dropLast_concat_getLast nonempty]
  simp [List.foldl_append, List.getLast?_eq_some_getLast nonempty]

theorem stepInto_fst (here : Place) (last : String) :
    (stepInto here last).1 = Place.enter here last := by
  cases here with
  | none => rfl
  | some cs =>
    dsimp only [stepInto]
    split
    · rename_i stay
      rw [Place.enter_stay stay]
    · rename_i move
      split
      · rename_i up
        rw [up, Place.enter_up]
      · rename_i down
        rw [Place.enter_down move down]

theorem stepInto_eq_false {here : Place} {last : String} (named : (stepInto here last).2 = false) :
    ∃ cs, (stepInto here last).1 = some (cs ++ [last]) := by
  cases here with
  | none => cases named
  | some cs =>
    dsimp only [stepInto] at named ⊢
    split at named
    · cases named
    · split at named
      · cases named
      · rename_i move down
        exact ⟨cs, by simp only [move, down, if_false]⟩

/-! ### What the operations of a tree do to its files -/

namespace Tree

variable {t t' : Tree}

theorem walk_cons_ok {shown c : String} {here here' : Place} {rest : List String}
    (walked : t.walk shown here (c :: rest) = .ok here') :
    t.walk shown (Place.enter here c) rest = .ok here' := by
  unfold Tree.walk at walked
  split at walked
  · cases walked
  split at walked
  · rename_i stay
    rwa [Place.enter_stay stay]
  rename_i move
  cases here with
  | none => exact walked
  | some cs =>
    dsimp only at walked
    split at walked
    · rename_i up
      rwa [up, Place.enter_up]
    · rename_i down
      rw [Place.enter_down move down]
      split at walked
      · exact walked
      · cases walked
      · cases walked

theorem walk_eq_ok {shown : String} {here here' : Place} {cs : List String}
    (walked : t.walk shown here cs = .ok here') : here' = cs.foldl Place.enter here := by
  induction cs generalizing here with
  | nil =>
    simp only [Tree.walk, Except.ok.injEq] at walked
    simp [walked]
  | cons c rest ih => exact ih (walk_cons_ok walked)

theorem write_eq_ok {p content : String} (wrote : t.write p content = .ok t') :
    ∃ cs, resolve p = some cs ∧ t'.files = putFile t.files (pathOf cs, content) := by
  rcases split : splitPath p with ⟨start, front, last⟩
  have resolved := resolve_eq_splitPath p
  rw [split] at resolved
  unfold Tree.write at wrote
  rw [split] at wrote
  cases walked : t.walk p start front with
  | error e => simp [walked, bind, Except.bind] at wrote
  | ok here =>
    rw [← walk_eq_ok walked, ← stepInto_fst] at resolved
    simp only [walked, bind, Except.bind] at wrote
    split at wrote
    · simp [throw, throwThe, MonadExceptOf.throw] at wrote
    split at wrote
    · simp [throw, throwThe, MonadExceptOf.throw] at wrote
    rename_i named
    obtain ⟨cs, down⟩ := stepInto_eq_false (Bool.eq_false_iff.mpr named)
    rw [down] at wrote resolved
    refine ⟨cs ++ [last], resolved, ?_⟩
    simp only at wrote
    split at wrote
    · simp [throw, throwThe, MonadExceptOf.throw] at wrote
    · simp only [pure, Except.pure, Except.ok.injEq] at wrote
      rw [← wrote]
      rfl

theorem mkdir_files {p : String} (made : t.mkdir p = .ok t') : t'.files = t.files := by
  rcases split : splitPath (dropTrailingSlashes p) with ⟨start, front, last⟩
  unfold Tree.mkdir at made
  rw [split] at made
  cases walked : t.walk p start front with
  | error e => simp [walked, bind, Except.bind] at made
  | ok here =>
    simp only [walked, bind, Except.bind] at made
    split at made
    · simp [throw, throwThe, MonadExceptOf.throw] at made
    split at made
    · simp [throw, throwThe, MonadExceptOf.throw] at made
    split at made
    · split at made
      · simp only [pure, Except.pure, Except.ok.injEq] at made
        rw [← made]
      · simp only [pure, Except.pure, Except.ok.injEq] at made
        rw [← made]
    · simp [throw, throwThe, MonadExceptOf.throw] at made

theorem parents_files {c : Prop} [Decidable c] {made : Except FileError Tree} {done : Bool}
    {r : Tree} {b : Bool} (kept : ∀ r, made = .ok r → r.files = t.files)
    (parents : (if c then made.map (fun t => (t, done)) else .ok (t, false)) = .ok (r, b)) :
    r.files = t.files := by
  split at parents
  · cases found : made with
    | error e => simp [found, Except.map] at parents
    | ok r' =>
      simp only [found, Except.map, Except.ok.injEq, Prod.mk.injEq] at parents
      rw [← parents.1]
      exact kept r' found
  · simp only [Except.ok.injEq, Prod.mk.injEq] at parents
    rw [← parents.1]

theorem makeDirs_files {fuel : Nat} {p : String} (made : t.makeDirs fuel p = .ok t') :
    t'.files = t.files := by
  induction fuel generalizing t t' p with
  | zero =>
    obtain rfl : t = t' := Except.ok.inj made
    rfl
  | succ fuel ih =>
    unfold Tree.makeDirs at made
    split at made
    split at made
    dsimp only at made
    split at made
    · cases made
    -- the missing parents are made first, or turn out to exist, keeping the files
    all_goals
      rename_i r parents
      have kept : r.files = t.files := by
        refine parents_files (fun r found => ?_) parents
        split at found
        · cases found
          rfl
        · exact ih found
    · cases made
      exact kept
    · split at made
      · rename_i t₂ mk
        cases made
        rw [mkdir_files mk, kept]
      · split at made
        · cases made
          exact kept
        · cases made

end Tree

/-! ### The files after a list of writes -/

theorem lastWrite_cons (w : String × String) (writes : List (String × String)) (path : String) :
    lastWrite (w :: writes) path =
      match lastWrite writes path with
      | some content => some content
      | none => if w.1 = path then some w.2 else none := by
  unfold lastWrite
  rw [List.reverse_cons, List.find?_append]
  cases writes.reverse.find? (·.1 == path) with
  | some found => rfl
  | none => by_cases same : w.1 = path <;> simp [same]

theorem mem_putFile {files : List (String × String)} {w f : String × String} :
    f ∈ putFile files w ↔ (f ∈ files ∧ f.1 ≠ w.1) ∨ f = w := by
  simp [putFile]

theorem putFile_keys_nodup {files : List (String × String)}
    (distinct : (files.map Prod.fst).Nodup) (w : String × String) :
    ((putFile files w).map Prod.fst).Nodup := by
  rw [putFile, List.map_append, List.nodup_append]
  refine ⟨distinct.sublist ((List.filter_sublist).map _), by simp, ?_⟩
  intro a kept b single
  simp only [List.mem_map, List.mem_filter, bne_iff_ne] at kept
  obtain ⟨f, ⟨-, other⟩, rfl⟩ := kept
  rw [List.mem_singleton.mp single]
  exact other

theorem foldl_putFile_keys_nodup : ∀ {writes files : List (String × String)},
    (files.map Prod.fst).Nodup → ((writes.foldl putFile files).map Prod.fst).Nodup
  | [], _, distinct => distinct
  | w :: _, _, distinct => by
    rw [List.foldl_cons]
    exact foldl_putFile_keys_nodup (putFile_keys_nodup distinct w)

/-- After a list of writes, a path holds what the last write to it put there, or what it held
before when no write reached it. -/
theorem mem_foldl_putFile : ∀ {writes files : List (String × String)} {path content : String},
    (path, content) ∈ writes.foldl putFile files ↔
      lastWrite writes path = some content ∨
        (lastWrite writes path = none ∧ (path, content) ∈ files)
  | [], files, path, content => by simp [lastWrite]
  | w :: writes, files, path, content => by
    rw [List.foldl_cons, mem_foldl_putFile, lastWrite_cons, mem_putFile]
    cases lastWrite writes path with
    | some found => simp
    | none =>
      by_cases same : w.1 = path
      · obtain ⟨key, value⟩ := w
        simp only at same
        subst same
        simp [eq_comm]
      · have other : (path, content) ≠ w := fun h => same (by rw [← h])
        simp [same, other, Ne.symm same]

theorem mem_of_lastWrite {writes : List (String × String)} {path content : String}
    (h : lastWrite writes path = some content) : (path, content) ∈ writes := by
  simp only [lastWrite, Option.map_eq_some_iff] at h
  obtain ⟨⟨key, value⟩, found, rfl⟩ := h
  have same : key = path := by simpa using List.find?_some found
  subst same
  exact List.mem_reverse.mp (List.mem_of_find?_eq_some found)

end SketchGen.Output
