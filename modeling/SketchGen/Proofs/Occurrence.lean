import SketchGen.Text.Blank

namespace SketchGen.Text

/-! Occurrence of a text inside another. A generated text is assembled by appending pieces and by
joining lists of pieces, with or without a separator; a piece occurs in every text assembled
from it. -/

def Occurs (piece text : String) : Prop := piece.toList <:+: text.toList

variable {x y z : String}

theorem Occurs.refl (x : String) : Occurs x x := List.infix_refl x.toList

theorem Occurs.trans (inner : Occurs x y) (outer : Occurs y z) : Occurs x z :=
  List.IsInfix.trans inner outer

theorem occurs_append_left_self (x y : String) : Occurs x (x ++ y) := by
  unfold Occurs
  rw [String.toList_append]
  exact List.infix_append_left

theorem occurs_append_right_self (x y : String) : Occurs y (x ++ y) := by
  unfold Occurs
  rw [String.toList_append]
  exact List.infix_append_right

theorem Occurs.append_left (h : Occurs x y) (z : String) : Occurs x (y ++ z) :=
  h.trans (occurs_append_left_self y z)

theorem Occurs.append_right (h : Occurs x z) (y : String) : Occurs x (y ++ z) :=
  h.trans (occurs_append_right_self y z)

theorem Occurs.ne_empty (h : Occurs x y) (nonempty : x ≠ "") : y ≠ "" := by
  rintro rfl
  apply nonempty
  have noChars : x.toList = [] := List.eq_nil_of_infix_nil h
  exact String.toList_inj.mp (noChars.trans String.toList_empty.symm)

theorem occurs_join_of_mem {pieces : List String} (member : x ∈ pieces) :
    Occurs x (String.join pieces) := by
  unfold Occurs
  rw [String.toList_join, List.flatMap_def]
  exact List.infix_of_mem_flatten (List.mem_map_of_mem member)

theorem occurs_join_map {α : Type} {f : α → String} {items : List α} {a : α} (member : a ∈ items)
    (h : Occurs x (f a)) : Occurs x (String.join (items.map f)) :=
  h.trans (occurs_join_of_mem (List.mem_map_of_mem member))

theorem occurs_intercalate_of_mem (separator : String) {pieces : List String}
    (member : x ∈ pieces) : Occurs x (separator.intercalate pieces) := by
  induction pieces with
  | nil => cases member
  | cons piece rest ih =>
      cases rest with
      | nil =>
          rw [List.mem_singleton.mp member, String.intercalate_singleton]
          exact Occurs.refl piece
      | cons next rest =>
          rw [String.intercalate_cons_cons]
          rcases List.mem_cons.mp member with rfl | later
          · exact ((occurs_append_left_self x separator).append_left _)
          · exact (ih later).append_right _

end SketchGen.Text
