import Propositional.Ascending

/-!
# Insertion into ascending lists

`insert` adds its element and nothing else (`mem_insert`), and an ascending list stays ascending
(`insert_ascending`).  The order is any lawful comparison in which only equal elements compare as
equal.  Sorting a list neither adds nor loses an element (`mem_ofList`), and of several equal ones
it keeps one (`ofList_nodup`).  Elements that stand for others by their keys are sorted as these are
(`ofList_map`).
-/

namespace Propositional.Ascending

variable {α : Type} {order : α → α → Ordering} [Std.TransCmp order] [Std.LawfulEqCmp order]

omit [Std.TransCmp order] in
theorem mem_insert {element new : α} {list : List α} :
    element ∈ insert order new list ↔ element = new ∨ element ∈ list := by
  induction list with
  | nil => rw [insert, List.mem_cons]
  | cons old rest ih =>
    unfold insert
    split
    · rw [List.mem_cons]
    · rename_i heq
      have hold : new = old := Std.LawfulEqCmp.eq_of_compare heq
      subst hold
      rw [List.mem_cons]
      constructor
      · exact Or.inr
      · intro h
        rcases h with h | h
        · exact .inl h
        · exact h
    · rw [List.mem_cons, ih, List.mem_cons]
      exact or_left_comm

omit [Std.TransCmp order] in
/-- Sorting keeps the elements. -/
theorem mem_ofList {element : α} {list : List α} :
    element ∈ ofList order list ↔ element ∈ list := by
  unfold ofList
  induction list with
  | nil => rw [List.foldr_nil]
  | cons first rest ih => rw [List.foldr_cons, mem_insert, ih, List.mem_cons]

/-- An element put into an ascending list leaves it ascending. -/
theorem insert_ascending (new : α) {list : List α} (h : list.Pairwise (order · · = .lt)) :
    (insert order new list).Pairwise (order · · = .lt) := by
  induction list with
  | nil => exact List.pairwise_singleton _ _
  | cons old rest ih =>
    obtain ⟨hold, hrest⟩ := List.pairwise_cons.mp h
    unfold insert
    split
    · rename_i hlt
      refine List.pairwise_cons.mpr ⟨?_, h⟩
      intro element hmem
      rcases List.mem_cons.mp hmem with heq | hmem
      · rw [heq]
        exact hlt
      · exact Std.TransCmp.lt_trans hlt (hold element hmem)
    · exact h
    · rename_i hgt
      refine List.pairwise_cons.mpr ⟨?_, ih hrest⟩
      intro element hmem
      rcases mem_insert.mp hmem with heq | hmem
      · rw [heq]
        exact Std.OrientedCmp.lt_of_gt hgt
      · exact hold element hmem

theorem ofList_ascending (list : List α) :
    (ofList order list).Pairwise (order · · = .lt) := by
  unfold ofList
  induction list with
  | nil => exact .nil
  | cons first rest ih => exact insert_ascending first ih

theorem ofList_nodup (list : List α) : (ofList order list).Nodup := by
  refine (ofList_ascending list).imp fun {element other} hlt heq => ?_
  have hself : order other other = .eq := Std.ReflCmp.compare_self
  rw [heq, hself] at hlt
  cases hlt

omit [Std.TransCmp order] [Std.LawfulEqCmp order] in
theorem insert_map {β : Type} (f : β → α) (new : β) (list : List β) :
    insert order (f new) (list.map f) =
      (insert (fun left right => order (f left) (f right)) new list).map f := by
  induction list with
  | nil => rfl
  | cons old rest ih =>
    simp only [List.map_cons, insert]
    split
    · rfl
    · rfl
    · rw [ih, List.map_cons]

omit [Std.TransCmp order] [Std.LawfulEqCmp order] in
theorem ofList_map {β : Type} (f : β → α) (list : List β) :
    ofList order (list.map f) =
      (ofList (fun left right => order (f left) (f right)) list).map f := by
  unfold ofList
  induction list with
  | nil => rfl
  | cons first rest ih => rw [List.map_cons, List.foldr_cons, List.foldr_cons, ih, insert_map]

end Propositional.Ascending
