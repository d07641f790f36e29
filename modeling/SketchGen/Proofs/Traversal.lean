import Mathlib.Data.List.Forall2
import SketchGen.Fault

namespace List.Forall₂

variable {α β : Type}

theorem exists_of_mem_left {R : α → β → Prop} {xs : List α} {ys : List β}
    (paired : List.Forall₂ R xs ys) {x : α} (member : x ∈ xs) : ∃ y ∈ ys, R x y := by
  induction paired with
  | nil => cases member
  | @cons a b as bs related _ ih =>
      rcases List.mem_cons.mp member with rfl | later
      · exact ⟨b, List.mem_cons_self, related⟩
      · obtain ⟨y, found, relatedLater⟩ := ih later
        exact ⟨y, List.mem_cons_of_mem b found, relatedLater⟩

theorem exists_of_mem_right {R : α → β → Prop} {xs : List α} {ys : List β}
    (paired : List.Forall₂ R xs ys) {y : β} (member : y ∈ ys) : ∃ x ∈ xs, R x y := by
  induction paired with
  | nil => cases member
  | @cons a b as bs related _ ih =>
      rcases List.mem_cons.mp member with rfl | later
      · exact ⟨a, List.mem_cons_self, related⟩
      · obtain ⟨x, found, relatedLater⟩ := ih later
        exact ⟨x, List.mem_cons_of_mem a found, relatedLater⟩

end List.Forall₂

namespace SketchGen

/-! Generation steps that succeed. A chain of steps succeeds exactly when each step does, and
a traversal of a list succeeds exactly when the step of every item does: the traversal then
pairs each item with its result, in order. Every fact about a section of a sketch that is read
off the items it was made from goes through this pairing. -/

variable {α β : Type}

theorem Gen.bind_eq_ok {x : Gen α} {f : α → Gen β} {b : β} :
    x >>= f = .ok b ↔ ∃ a, x = .ok a ∧ f a = .ok b := by
  cases x with
  | error fault => simp [bind, Except.bind]
  | ok a => simp [bind, Except.bind]

theorem Gen.pure_eq_ok {a b : α} : (pure a : Gen α) = .ok b ↔ a = b := by
  simp [pure, Except.pure]

theorem Gen.map_eq_ok {x : Gen α} {f : α → β} {b : β} :
    f <$> x = .ok b ↔ ∃ a, x = .ok a ∧ f a = b := by
  cases x with
  | error fault => simp [Functor.map, Except.map]
  | ok a => simp [Functor.map, Except.map]

theorem Gen.exists_eq_ok_of_isOk {x : Gen α} (h : x.isOk = true) : ∃ a, x = .ok a := by
  cases x with
  | error fault => cases h
  | ok a => exact ⟨a, rfl⟩

theorem Gen.mapM_eq_ok_iff {f : α → Gen β} {xs : List α} {ys : List β} :
    xs.mapM f = .ok ys ↔ List.Forall₂ (fun x y => f x = .ok y) xs ys := by
  induction xs generalizing ys with
  | nil =>
      cases ys with
      | nil => simp [pure, Except.pure]
      | cons y ys => simp [pure, Except.pure]
  | cons x xs ih =>
      simp only [List.mapM_cons, Gen.bind_eq_ok, Gen.pure_eq_ok, ih,
        List.forall₂_cons_left_iff]
      constructor
      · rintro ⟨y, stepped, rest, traversed, rfl⟩
        exact ⟨y, rest, stepped, traversed, rfl⟩
      · rintro ⟨y, rest, stepped, traversed, rfl⟩
        exact ⟨y, stepped, rest, traversed, rfl⟩

theorem Gen.exists_mapM_eq_ok_iff {f : α → Gen β} {xs : List α} :
    (∃ ys, xs.mapM f = .ok ys) ↔ ∀ x ∈ xs, ∃ y, f x = .ok y := by
  induction xs with
  | nil => simp [pure, Except.pure]
  | cons x xs ih =>
      simp only [List.mapM_cons, Gen.bind_eq_ok, Gen.pure_eq_ok, List.forall_mem_cons, ← ih]
      constructor
      · rintro ⟨_, y, stepped, rest, traversed, rfl⟩
        exact ⟨⟨y, stepped⟩, rest, traversed⟩
      · rintro ⟨⟨y, stepped⟩, rest, traversed⟩
        exact ⟨_, y, stepped, rest, traversed, rfl⟩

theorem Gen.exists_of_mem_mapM {f : α → Gen β} {xs : List α} {ys : List β}
    (traversed : xs.mapM f = .ok ys) {y : β} (member : y ∈ ys) :
    ∃ x ∈ xs, f x = .ok y :=
  (Gen.mapM_eq_ok_iff.mp traversed).exists_of_mem_right member

theorem Gen.exists_of_mem_mapM_left {f : α → Gen β} {xs : List α} {ys : List β}
    (traversed : xs.mapM f = .ok ys) {x : α} (member : x ∈ xs) :
    ∃ y ∈ ys, f x = .ok y :=
  (Gen.mapM_eq_ok_iff.mp traversed).exists_of_mem_left member

theorem Gen.mem_of_filterAuxM {p : α → Gen Bool} :
    ∀ {items acc kept : List α}, List.filterAuxM p items acc = .ok kept →
      ∀ x ∈ kept, x ∈ items ∨ x ∈ acc
  | [], acc, kept, h, x, member => by
    cases h
    exact .inr member
  | item :: rest, acc, kept, h, x, member => by
    simp only [List.filterAuxM, Gen.bind_eq_ok] at h
    obtain ⟨b, -, h⟩ := h
    rcases Gen.mem_of_filterAuxM h x member with later | accumulated
    · exact .inl (List.mem_cons_of_mem item later)
    · cases b with
      | false => exact .inr accumulated
      | true =>
        rcases List.mem_cons.mp accumulated with rfl | earlier
        · exact .inl List.mem_cons_self
        · exact .inr earlier

theorem Gen.mem_of_filterM {p : α → Gen Bool} {items kept : List α}
    (h : items.filterM p = .ok kept) {x : α} (member : x ∈ kept) : x ∈ items := by
  simp only [List.filterM, Gen.bind_eq_ok, Gen.pure_eq_ok] at h
  obtain ⟨reversed, filtered, rfl⟩ := h
  rcases Gen.mem_of_filterAuxM filtered x (List.mem_reverse.mp member) with found | none
  · exact found
  · cases none
theorem Gen.mapM_eq_map_of_agree {γ : Type} {f : α → Gen β} {g : α → Gen γ} (h : γ → β)
    (agree : ∀ x b c, f x = .ok b → g x = .ok c → b = h c) :
    ∀ {xs : List α} {bs : List β} {cs : List γ}, xs.mapM f = .ok bs → xs.mapM g = .ok cs →
      bs = cs.map h
  | [], bs, cs, first, second => by
    simp only [List.mapM_nil, Gen.pure_eq_ok] at first second
    rw [← first, ← second, List.map_nil]
  | x :: rest, bs, cs, first, second => by
    simp only [List.mapM_cons, Gen.bind_eq_ok, Gen.pure_eq_ok] at first second
    obtain ⟨b, stepped, bs', traversed, rfl⟩ := first
    obtain ⟨c, stepped', cs', traversed', rfl⟩ := second
    rw [agree x b c stepped stepped', Gen.mapM_eq_map_of_agree h agree traversed traversed',
      List.map_cons]

theorem Gen.mapM_eq_of_agree {f g : α → Gen β} (agree : ∀ x a b, f x = .ok a → g x = .ok b → a = b)
    {xs : List α} {as bs : List β} (first : xs.mapM f = .ok as) (second : xs.mapM g = .ok bs) :
    as = bs := by
  simpa using Gen.mapM_eq_map_of_agree id agree first second

theorem Gen.mapM_eq_ok_map {γ : Type} {f : α → Gen β} {g : α → Gen γ} (h : β → γ)
    (step : ∀ x b, f x = .ok b → g x = .ok (h b)) {xs : List α} {bs : List β}
    (traversed : xs.mapM f = .ok bs) : xs.mapM g = .ok (bs.map h) := by
  rw [Gen.mapM_eq_ok_iff] at traversed ⊢
  exact List.forall₂_map_right_iff.mpr (traversed.imp fun {x b} stepped => step x b stepped)

theorem Gen.map_eq_map_of_agree {γ δ : Type} {f : α → Gen β} {g : α → Gen γ} (h₁ : β → δ)
    (h₂ : γ → δ) : ∀ {xs : List α} {bs : List β} {cs : List γ},
      (∀ x ∈ xs, ∀ b c, f x = .ok b → g x = .ok c → h₁ b = h₂ c) →
      xs.mapM f = .ok bs → xs.mapM g = .ok cs → bs.map h₁ = cs.map h₂
  | [], bs, cs, _, first, second => by
    simp only [List.mapM_nil, Gen.pure_eq_ok] at first second
    rw [← first, ← second, List.map_nil, List.map_nil]
  | x :: rest, bs, cs, agree, first, second => by
    simp only [List.mapM_cons, Gen.bind_eq_ok, Gen.pure_eq_ok] at first second
    obtain ⟨b, stepped, bs', traversed, rfl⟩ := first
    obtain ⟨c, stepped', cs', traversed', rfl⟩ := second
    rw [List.map_cons, List.map_cons, agree x List.mem_cons_self b c stepped stepped',
      Gen.map_eq_map_of_agree h₁ h₂ (fun y member => agree y (List.mem_cons_of_mem x member))
        traversed traversed']

theorem Gen.exists_sublist_of_mapM {γ δ : Type} {f : α → Gen β} {g : α → Gen γ}
    (k : β → Option δ) (h : γ → δ)
    (step : ∀ x b d, f x = .ok b → k b = some d → ∃ c, g x = .ok c ∧ d = h c) :
    ∀ {xs : List α} {bs : List β}, xs.mapM f = .ok bs →
      ∃ (sub : List α) (cs : List γ), sub.Sublist xs ∧ sub.mapM g = .ok cs ∧
        bs.filterMap k = cs.map h
  | [], bs, traversed => by
    simp only [List.mapM_nil, Gen.pure_eq_ok] at traversed
    exact ⟨[], [], List.Sublist.slnil, rfl, by rw [← traversed]; rfl⟩
  | x :: xs, bs, traversed => by
    simp only [List.mapM_cons, Gen.bind_eq_ok, Gen.pure_eq_ok] at traversed
    obtain ⟨b, stepped, bs', rest, rfl⟩ := traversed
    obtain ⟨sub, cs, kept, named, mapped⟩ := Gen.exists_sublist_of_mapM k h step rest
    cases keep : k b with
    | none => exact ⟨sub, cs, kept.cons x, named, by rw [List.filterMap_cons_none keep, mapped]⟩
    | some d =>
      -- a kept item joins the sublist, its second result in front of the others
      obtain ⟨c, got, rfl⟩ := step x b d stepped keep
      refine ⟨x :: sub, c :: cs, kept.cons_cons x, ?_, ?_⟩
      · simp only [List.mapM_cons, Gen.bind_eq_ok, Gen.pure_eq_ok]
        exact ⟨c, got, cs, named, rfl⟩
      · rw [List.filterMap_cons_some keep, mapped, List.map_cons]

theorem Gen.mapM_congr {f g : α → Gen β} :
    ∀ {xs : List α}, (∀ x ∈ xs, f x = g x) → xs.mapM f = xs.mapM g
  | [], _ => rfl
  | x :: rest, agree => by
    simp only [List.mapM_cons, agree x List.mem_cons_self,
      Gen.mapM_congr fun y member => agree y (List.mem_cons_of_mem x member)]

theorem Gen.filterAuxM_congr {p q : α → Gen Bool} :
    ∀ {items : List α}, (∀ x ∈ items, p x = q x) →
      ∀ acc, List.filterAuxM p items acc = List.filterAuxM q items acc
  | [], _, _ => rfl
  | item :: rest, agree, acc => by
    simp only [List.filterAuxM, agree item List.mem_cons_self,
      Gen.filterAuxM_congr fun y member => agree y (List.mem_cons_of_mem item member)]

theorem Gen.filterM_congr {p q : α → Gen Bool} {items : List α}
    (agree : ∀ x ∈ items, p x = q x) : items.filterM p = items.filterM q := by
  simp only [List.filterM, Gen.filterAuxM_congr agree]

end SketchGen
