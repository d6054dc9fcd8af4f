import Mathlib.Data.List.Sort
import Formwork.Graph.Basic

/-!
# Ascending numbers

Numbers are kept in ascending order by putting each in its place, which adds it and nothing else
(`mem_insertAscending`, `pairwise_insertAscending`). Where the numbers are those of an ascending list that have
a property, they become those that have it or are the new one (`insertAscending_filter`).
-/

namespace Formwork

variable {a b : Nat} {nodes : List Nat}

theorem insertAscending_eq (a : Nat) (nodes : List Nat) :
    insertAscending a nodes = nodes.orderedInsert (· ≤ ·) a := by
  induction nodes with
  | nil => rfl
  | cons b rest ih => rw [insertAscending, List.orderedInsert_cons, ih]

theorem mem_insertAscending : b ∈ insertAscending a nodes ↔ b = a ∨ b ∈ nodes := by
  rw [insertAscending_eq, List.mem_orderedInsert]

theorem length_insertAscending (a : Nat) (nodes : List Nat) :
    (insertAscending a nodes).length = nodes.length + 1 := by
  rw [insertAscending_eq, List.orderedInsert_length]

theorem pairwise_insertAscending (h : nodes.Pairwise (· < ·)) (hnew : a ∉ nodes) :
    (insertAscending a nodes).Pairwise (· < ·) := by
  have hle : (insertAscending a nodes).Pairwise (· ≤ ·) :=
    insertAscending_eq a nodes ▸ (h.imp Nat.le_of_lt).orderedInsert a _
  have hperm : (insertAscending a nodes).Perm (a :: nodes) :=
    insertAscending_eq a nodes ▸ List.perm_orderedInsert _ a nodes
  have hnodup : (insertAscending a nodes).Nodup :=
    hperm.nodup_iff.2 (List.nodup_cons.2 ⟨hnew, h.imp Nat.ne_of_lt⟩)
  exact (hle.and hnodup).imp fun h => Nat.lt_of_le_of_ne h.1 h.2

/-- What is put in its place among the members that have a property is one more with the property. -/
theorem insertAscending_filter {p : Nat → Bool} (h : nodes.Pairwise (· < ·)) (ha : a ∈ nodes)
    (hnew : p a = false) :
    insertAscending a (nodes.filter p) = nodes.filter fun b => b == a || p b := by
  induction nodes with
  | nil => cases ha
  | cons first nodes ih =>
    obtain ⟨hfirst, hnodes⟩ := List.pairwise_cons.1 h
    rcases List.mem_cons.1 ha with rfl | ha
    · -- the rest is greater, so that the number comes first, and is not there again
      have hsame : nodes.filter (fun b => b == a || p b) = nodes.filter p :=
        List.filter_congr fun b hb => by simp [Nat.ne_of_gt (hfirst b hb)]
      rw [List.filter_cons_of_neg (by simp [hnew]), List.filter_cons_of_pos (by simp), hsame]
      cases hrest : nodes.filter p with
      | nil => rfl
      | cons second rest =>
        have hlt := hfirst second (List.mem_filter.1 (hrest ▸ List.mem_cons_self)).1
        rw [insertAscending, if_pos (Nat.le_of_lt hlt)]
    · have hlt := hfirst a ha
      cases hp : p first with
      | true =>
        rw [List.filter_cons_of_pos hp, List.filter_cons_of_pos (by simp [hp]), insertAscending,
          if_neg (Nat.not_le.2 hlt), ih hnodes ha]
      | false =>
        rw [List.filter_cons_of_neg (by simp [hp]),
          List.filter_cons_of_neg (by simp [hp, Nat.ne_of_lt hlt]), ih hnodes ha]

theorem ascending_eq (nodes : List Nat) : ascending nodes = nodes.insertionSort (· ≤ ·) := by
  induction nodes with
  | nil => rfl
  | cons a rest ih =>
    show insertAscending a (ascending rest) = _
    rw [ih, insertAscending_eq, List.insertionSort_cons]

theorem ascending_perm (nodes : List Nat) : (ascending nodes).Perm nodes :=
  ascending_eq nodes ▸ List.perm_insertionSort _ nodes

theorem pairwise_ascending (h : nodes.Nodup) : (ascending nodes).Pairwise (· < ·) := by
  have hle : (ascending nodes).Pairwise (· ≤ ·) := ascending_eq nodes ▸ List.pairwise_insertionSort _ nodes
  have hne : (ascending nodes).Nodup := (ascending_perm nodes).nodup_iff.2 h
  exact (hle.and hne).imp fun h => Nat.lt_of_le_of_ne h.1 h.2

theorem ascending_eq_self (h : nodes.Pairwise (· < ·)) : ascending nodes = nodes :=
  (pairwise_ascending (h.imp Nat.ne_of_lt)).eq_of_mem_iff h fun _ => (ascending_perm nodes).mem_iff

theorem mem_eraseReps : a ∈ nodes.eraseReps ↔ a ∈ nodes := by
  have hloop : ∀ rest first done, a ∈ List.eraseRepsBy.loop (· == ·) first rest done ↔
      a ∈ done ∨ a ∈ first :: rest := by
    intro rest
    induction rest with
    | nil => intro first done; simp [List.eraseRepsBy.loop, or_comm]
    | cons second rest ih =>
      intro first done
      rw [List.eraseRepsBy.loop]
      cases hsame : first == second with
      | true =>
        obtain rfl := eq_of_beq hsame
        simp [ih]
      | false => simp [ih, or_left_comm, or_assoc]
  cases nodes with
  | nil => rfl
  | cons first rest => exact (hloop rest first []).trans (by simp)

end Formwork
