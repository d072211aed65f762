/-
**Searches in document order.**

Everything that looks into a tree is a walk, and the walks carry their result along as a state.
This module says what they find: a search finds the first of the proper descendants, in document
order, that satisfies its test, and a collection finds all of them.  After that nobody has to look
at walks again.

Main results:

* `Node.search?_eq_find?` — a search is a search in the list of descendants;
* `Node.walkBelow_eq_foldl` — a walk that refuses nothing is a fold over them;
* `Node.findAll_eq_filter` — collecting by name is filtering the list of descendants;
* `Node.descendants_subset` — whatever is below a descendant of a node is below the node;
* `Operand.mem_descendants_of_inside` — an operand stands below its container.
-/

import EventRules.Rule.Operand

set_option relaxedAutoImplicit false
set_option autoImplicit false

namespace EventRules

namespace Node

/-! ### Searching -/

mutual

/-- A search that starts from what has been found already walks on only if that is nothing. -/
theorem walk_searchVisit (p : Node → Bool) (found : Option Node) (n : Node) :
    walk (searchVisit p) found n = found.or (n.inOrder.find? p) := by
  obtain ⟨name, attrs, children, text⟩ := n
  simp only [walk, searchVisit, inOrder]
  cases found with
  | some m => simp
  | none =>
      -- a hit ends the walk here, a miss hands on that nothing was found
      by_cases hp : p ⟨name, attrs, children, text⟩
      · simp [hp]
      · simp [hp, walkAll_searchVisit p none children]

/-- The same for the nodes of a list. -/
theorem walkAll_searchVisit (p : Node → Bool) (found : Option Node) (ns : List Node) :
    walkAll (searchVisit p) found ns = found.or ((inOrderAll ns).find? p) := by
  cases ns with
  | nil => simp [walkAll, inOrderAll]
  | cons n ns =>
      rw [walkAll, walk_searchVisit p found n, walkAll_searchVisit p _ ns, inOrderAll,
        List.find?_append, Option.or_assoc]

end

/-- **A search finds the first descendant that satisfies its test.** -/
theorem search?_eq_find? (p : Node → Bool) (n : Node) : n.search? p = n.descendants.find? p := by
  rw [search?, walkBelow, walkAll_searchVisit, descendants, Option.none_or]

/-! ### Walks that refuse nothing -/

mutual

/-- A walk that refuses nothing goes through a node and its descendants in document order. -/
theorem walk_eq_foldl {σ : Type} (f : σ → Node → σ) (s : σ) (n : Node) :
    walk (fun s d => (f s d, true)) s n = n.inOrder.foldl f s := by
  obtain ⟨name, attrs, children, text⟩ := n
  simp only [walk, inOrder, if_true, List.foldl_cons]
  exact walkAll_eq_foldl f _ children

/-- The same for the nodes of a list. -/
theorem walkAll_eq_foldl {σ : Type} (f : σ → Node → σ) (s : σ) (ns : List Node) :
    walkAll (fun s d => (f s d, true)) s ns = (inOrderAll ns).foldl f s := by
  cases ns with
  | nil => rfl
  | cons n ns =>
      rw [walkAll, walk_eq_foldl f s n, walkAll_eq_foldl f _ ns, inOrderAll, List.foldl_append]

end

theorem walkBelow_eq_foldl {σ : Type} (f : σ → Node → σ) (s : σ) (n : Node) :
    walkBelow (fun s d => (f s d, true)) s n = n.descendants.foldl f s :=
  walkAll_eq_foldl f s n.children

/-- **Collecting by name finds the descendants of that name**, in document order. -/
theorem findAll_eq_filter (n : Node) (name : String) :
    n.findAll name = n.descendants.filter (·.name == name) := by
  have hreverse (l : List Node) : (l.foldl (fun found d => d :: found) []).reverse = l := by
    simp
  rw [findAll, walkBelow_eq_foldl fun found d => if d.name == name then d :: found else found,
    ← List.foldl_filter, hreverse]

/-! ### Descendants of descendants -/

theorem mem_inOrder_self (n : Node) : n ∈ n.inOrder := by
  rw [inOrder_eq]
  exact List.mem_cons_self

theorem mem_inOrderAll {ns : List Node} {m : Node} :
    m ∈ inOrderAll ns ↔ ∃ n ∈ ns, m ∈ n.inOrder := by
  induction ns with
  | nil => simp [inOrderAll]
  | cons n ns ih => simp [inOrderAll, ih]

/-- A child is a descendant. -/
theorem mem_descendants_of_mem_children {n c : Node} (h : c ∈ n.children) : c ∈ n.descendants :=
  mem_inOrderAll.2 ⟨c, h, c.mem_inOrder_self⟩

mutual

/-- Whatever is below a node of a tree is in the tree. -/
theorem inOrder_subset (n : Node) {m : Node} (hm : m ∈ n.inOrder) : m.inOrder ⊆ n.inOrder := by
  obtain ⟨name, attrs, children, text⟩ := n
  rw [inOrder] at hm ⊢
  rcases List.mem_cons.1 hm with rfl | hm
  · rw [inOrder]
    exact List.Subset.refl _
  · exact fun x hx => List.mem_cons_of_mem _ (inOrderAll_subset children hm hx)

/-- The same for the nodes of a list. -/
theorem inOrderAll_subset (ns : List Node) {m : Node} (hm : m ∈ inOrderAll ns) :
    m.inOrder ⊆ inOrderAll ns := by
  cases ns with
  | nil => simp [inOrderAll] at hm
  | cons n ns =>
      rw [inOrderAll] at hm ⊢
      intro x hx
      rcases List.mem_append.1 hm with hm | hm
      · exact List.mem_append_left _ (inOrder_subset n hm hx)
      · exact List.mem_append_right _ (inOrderAll_subset ns hm hx)

end

/-- **Whatever is below a descendant of a node is below the node.** -/
theorem descendants_subset {n m : Node} (hm : m ∈ n.descendants) :
    m.descendants ⊆ n.descendants := by
  intro x hx
  refine inOrderAll_subset n.children hm ?_
  rw [inOrder_eq]
  exact List.mem_cons_of_mem _ hx

theorem mem_descendants_of_child? {n c : Node} {name : String} (h : n.child? name = some c) :
    c ∈ n.descendants :=
  mem_descendants_of_mem_children (List.mem_of_find?_eq_some h)

theorem mem_descendants_of_findAll {n c : Node} {name : String} (h : c ∈ n.findAll name) :
    c ∈ n.descendants := by
  rw [findAll_eq_filter] at h
  exact (List.mem_filter.1 h).1

end Node

/-! ### Operands -/

namespace Operand

/-- **An operand stands below its container.** -/
theorem mem_descendants_of_inside {container n : Node}
    (h : (inside (some container)).node = some n) : n ∈ container.descendants := by
  rw [inside, Option.bind_some, Node.search?_eq_find?] at h
  cases hf : container.descendants.find? fun n => OperandKind.ofElement n.name != .unknown with
  | none => simp [hf, classify] at h
  | some m =>
      -- classifying keeps the element it was given
      have hm : m = n := by simpa [hf, classify] using h
      exact hm ▸ List.mem_of_find?_eq_some hf

/-- The kind of an operand is that of its element. -/
theorem kind_inside {container : Option Node} {n : Node}
    (h : (inside container).node = some n) :
    (inside container).kind = OperandKind.ofElement n.name := by
  rw [inside] at h ⊢
  cases hf : container.bind (·.search? fun n => OperandKind.ofElement n.name != .unknown) with
  | none => simp [hf, classify] at h
  | some m =>
      have hm : m = n := by simpa [hf, classify] using h
      simp [classify, hm]

end Operand

end EventRules
