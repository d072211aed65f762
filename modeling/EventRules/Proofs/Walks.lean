/-
**Walks follow the order of the document.**

Two elements of a tree may look the same, so what a walk visits is told by *places*: the place of a
node says which child to take at each step down from the root.  Places are in lexicographic order,
in which a node comes before everything below it, and everything below a child before everything
below a later one.  That is the order of the document.

A walk with places hands each visit the place along with the node.  It visits exactly the nodes
below no refused one, each once and in order; a walk that looks at nodes alone is the special case
in which places are ignored.  The searches are read off the walk that refuses nothing, and so they
find the first of the proper descendants that satisfy their test, or all of them.

Main definitions:

* `Node.Place`, `Node.nodeAt?` — places, and what stands there;
* `Node.walkPlaced`, `Node.visitedPlaces` — walks with places, and what they visit;
* `Node.survey` — the nodes that a walk comes to;
* `Node.Unrefused` — places below no refused node;
* `Node.Enumerates` — **a list of nodes, each once and in the order of the document**;
* `Node.searchFrom`, `Node.collectFrom` — searches that come to their root, too.

Main results:

* `Node.walkPlaced_eq_foldl` — a walk goes through the nodes that it comes to;
* `Node.survey_pairwise`, `Node.mem_survey_iff` — these are in order, and which they are;
* `Node.walkPlaced_of_forget` — walks that ignore places;
* `Node.searches_in_document_order` — **walks and searches follow the order of the document**.
-/

import EventRules.Proofs.Tree

set_option relaxedAutoImplicit false
set_option autoImplicit false

namespace EventRules

/-! ### Operand elements -/

namespace OperandKind

/-- The elements that are operands, with their kinds. -/
def elements : List (String × OperandKind) :=
  [("DSOBJMember", .member), ("DSOBJVariable", .eventVariable), ("DSOBJLiteral", .literal),
    ("DSOBJSystemVariable", .systemVariable), ("DSOBJConstant", .namedConstant)]

/-- An element has a kind of its own exactly if it is one of these. -/
theorem ofElement_eq_iff {name : String} {kind : OperandKind} (h : kind ≠ .unknown) :
    ofElement name = kind ↔ (name, kind) ∈ elements := by
  unfold ofElement
  split <;> cases kind <;> simp_all [elements]

theorem ofElement_ne_unknown_iff {name : String} :
    ofElement name ≠ .unknown ↔ ∃ kind, (name, kind) ∈ elements := by
  constructor
  · exact fun h => ⟨_, (ofElement_eq_iff h).1 rfl⟩
  · rintro ⟨kind, hkind⟩
    have hne : kind ≠ .unknown := by
      rintro rfl
      simp [elements] at hkind
    rwa [(ofElement_eq_iff hne).2 hkind]

end OperandKind

namespace Node

/-! ### Places -/

/-- **The place of a node in a tree**: which child to take at each step down from the root. -/
abbrev Place := List Nat

/-- **What stands at a place** of a tree that may be absent. -/
def nodeAt? : Option Node → Place → Option Node
  | tree, [] => tree
  | tree, i :: place => nodeAt? (tree.bind (·.children[i]?)) place

@[simp] theorem nodeAt?_nil (tree : Option Node) : nodeAt? tree [] = tree := rfl

@[simp] theorem nodeAt?_cons (tree : Option Node) (i : Nat) (place : Place) :
    nodeAt? tree (i :: place) = nodeAt? (tree.bind (·.children[i]?)) place := rfl

@[simp] theorem nodeAt?_none (place : Place) : nodeAt? none place = none := by
  induction place with
  | nil => rfl
  | cons i place ih => exact ih

/-! ### Walks with places -/

mutual

/-- **Walks through a node and its descendants** like `Node.walk`, where a visit is told the place
as well. -/
def walkPlaced {σ : Type} (visit : σ → Place → Node → σ × Bool) (s : σ) : Node → σ
  | ⟨name, attrs, children, text⟩ =>
      let visited := visit s [] ⟨name, attrs, children, text⟩
      if visited.2 then walkAllPlaced visit visited.1 0 children else visited.1

/-- Walks through the nodes of a list, the first of which is the `i`-th child. -/
def walkAllPlaced {σ : Type} (visit : σ → Place → Node → σ × Bool) (s : σ) (i : Nat) :
    List Node → σ
  | [] => s
  | n :: rest =>
      walkAllPlaced visit (walkPlaced (fun s place => visit s (i :: place)) s n) (i + 1) rest

end

/-- **The nodes that a walk visits**, with their places, if it refuses the children of the nodes
that satisfy `refuse`. -/
def visitedPlaces (refuse : Place → Node → Bool) (n : Node) : List (Place × Node) :=
  (walkPlaced (fun seen place d => ((place, d) :: seen, !refuse place d)) [] n).reverse

mutual

/-- A walk whose visits ignore the places is one without places. -/
theorem walkPlaced_of_forget {σ : Type} {visit : σ → Place → Node → σ × Bool}
    {plain : σ → Node → σ × Bool} (h : ∀ s place d, visit s place d = plain s d) (s : σ)
    (n : Node) : walkPlaced visit s n = walk plain s n := by
  obtain ⟨name, attrs, children, text⟩ := n
  simp only [walkPlaced, walk, h]
  split
  · exact walkAllPlaced_of_forget (fun s i place d => h s (i :: place) d) _ 0 children
  · rfl

/-- The same for the nodes of a list, where only the places below the root have to be ignored. -/
theorem walkAllPlaced_of_forget {σ : Type} {visit : σ → Place → Node → σ × Bool}
    {plain : σ → Node → σ × Bool} (h : ∀ s i place d, visit s (i :: place) d = plain s d) (s : σ)
    (i : Nat) (ns : List Node) : walkAllPlaced visit s i ns = walkAll plain s ns := by
  cases ns with
  | nil => rfl
  | cons n ns =>
      rw [walkAllPlaced, walkAll, walkPlaced_of_forget (fun s place d => h s i place d) s n]
      exact walkAllPlaced_of_forget h _ (i + 1) ns

end

/-! ### What a walk comes to -/

mutual

/-- **The nodes that a walk comes to**, with their places, if some refuse it their children. -/
def survey (refuse : Place → Node → Bool) : Node → List (Place × Node)
  | ⟨name, attrs, children, text⟩ =>
      ([], ⟨name, attrs, children, text⟩) ::
        if refuse [] ⟨name, attrs, children, text⟩ then [] else surveyAll refuse 0 children

/-- The same for the nodes of a list, the first of which is the `i`-th child. -/
def surveyAll (refuse : Place → Node → Bool) (i : Nat) : List Node → List (Place × Node)
  | [] => []
  | n :: rest =>
      (survey (fun place => refuse (i :: place)) n).map (fun e => (i :: e.1, e.2)) ++
        surveyAll refuse (i + 1) rest

end

theorem survey_eq (refuse : Place → Node → Bool) (n : Node) :
    survey refuse n = ([], n) :: if refuse [] n then [] else surveyAll refuse 0 n.children := by
  cases n
  rfl

mutual

/-- **A walk goes through the nodes that it comes to.** -/
theorem walkPlaced_eq_foldl {σ : Type} (f : σ → Place → Node → σ) (refuse : Place → Node → Bool)
    (s : σ) (n : Node) :
    walkPlaced (fun s place d => (f s place d, !refuse place d)) s n =
      (survey refuse n).foldl (fun s e => f s e.1 e.2) s := by
  obtain ⟨name, attrs, children, text⟩ := n
  rw [walkPlaced, survey, List.foldl_cons]
  cases refuse [] ⟨name, attrs, children, text⟩ with
  | true => rfl
  | false => exact walkAllPlaced_eq_foldl f refuse _ 0 children

/-- The same for the nodes of a list. -/
theorem walkAllPlaced_eq_foldl {σ : Type} (f : σ → Place → Node → σ)
    (refuse : Place → Node → Bool) (s : σ) (i : Nat) (ns : List Node) :
    walkAllPlaced (fun s place d => (f s place d, !refuse place d)) s i ns =
      (surveyAll refuse i ns).foldl (fun s e => f s e.1 e.2) s := by
  cases ns with
  | nil => rfl
  | cons n ns =>
      rw [walkAllPlaced, surveyAll, List.foldl_append, List.foldl_map,
        walkPlaced_eq_foldl (fun s place => f s (i :: place)) (fun place => refuse (i :: place))
          s n]
      exact walkAllPlaced_eq_foldl f refuse _ (i + 1) ns

end

theorem visitedPlaces_eq (refuse : Place → Node → Bool) (n : Node) :
    visitedPlaces refuse n = survey refuse n := by
  rw [visitedPlaces, walkPlaced_eq_foldl (fun seen place d => (place, d) :: seen) refuse]
  simp

/-- So does a walk without places. -/
theorem walk_eq_foldl_survey {σ : Type} (f : σ → Node → σ) (refuse : Node → Bool) (s : σ)
    (n : Node) :
    walk (fun s d => (f s d, !refuse d)) s n =
      ((survey (fun _ => refuse) n).map (·.2)).foldl f s := by
  have hwalk : walkPlaced (fun s _ d => (f s d, !refuse d)) s n =
      walk (fun s d => (f s d, !refuse d)) s n := by
    refine walkPlaced_of_forget ?_ s n
    exact fun _ _ _ => rfl
  rw [← hwalk, walkPlaced_eq_foldl (fun s _ d => f s d) (fun _ => refuse), List.foldl_map]

/-- What a walk without places visits is what it visits with them. -/
theorem visited_eq (refuse : Node → Bool) (n : Node) :
    n.visited refuse = (visitedPlaces (fun _ => refuse) n).map (·.2) := by
  rw [visited, walk_eq_foldl_survey fun seen d => d :: seen, visitedPlaces_eq]
  simp

mutual

/-- A walk that nothing refuses comes to all nodes in order. -/
theorem map_survey (n : Node) : (survey (fun _ _ => false) n).map (·.2) = n.inOrder := by
  obtain ⟨name, attrs, children, text⟩ := n
  simp [survey, inOrder, map_surveyAll 0 children]

/-- The same for the nodes of a list. -/
theorem map_surveyAll (i : Nat) (ns : List Node) :
    (surveyAll (fun _ _ => false) i ns).map (·.2) = inOrderAll ns := by
  cases ns with
  | nil => rfl
  | cons n ns =>
      rw [surveyAll, inOrderAll, List.map_append, List.map_map, map_surveyAll (i + 1) ns,
        ← map_survey n]
      rfl

end

/-- The proper descendants of a node are what a walk comes to after the node itself. -/
theorem descendants_eq (n : Node) :
    n.descendants = (surveyAll (fun _ _ => false) 0 n.children).map (·.2) :=
  (map_surveyAll 0 n.children).symm

/-! ### The order of places -/

/-- Below the nodes of a list all places start with the number of a child. -/
theorem exists_of_mem_surveyAll {refuse : Place → Node → Bool} {i : Nat} {ns : List Node}
    {e : Place × Node} (h : e ∈ surveyAll refuse i ns) : ∃ j place, e.1 = j :: place ∧ i ≤ j := by
  induction ns generalizing i with
  | nil => cases h
  | cons n ns ih =>
      rw [surveyAll] at h
      rcases List.mem_append.1 h with h | h
      · obtain ⟨e', -, rfl⟩ := List.mem_map.1 h
        exact ⟨i, e'.1, rfl, Nat.le_refl i⟩
      · obtain ⟨j, place, he, hj⟩ := ih h
        exact ⟨j, place, he, by omega⟩

mutual

/-- **A walk comes to the nodes in the order of their places.** -/
theorem survey_pairwise (refuse : Place → Node → Bool) (n : Node) :
    (survey refuse n).Pairwise fun a b => a.1 < b.1 := by
  obtain ⟨name, attrs, children, text⟩ := n
  rw [survey]
  split
  · exact List.pairwise_singleton _ _
  · refine List.pairwise_cons.2 ⟨fun e he => ?_, surveyAll_pairwise refuse 0 children⟩
    obtain ⟨j, place, hplace, -⟩ := exists_of_mem_surveyAll he
    rw [hplace]
    exact List.nil_lt_cons j place

/-- The same for the nodes of a list. -/
theorem surveyAll_pairwise (refuse : Place → Node → Bool) (i : Nat) (ns : List Node) :
    (surveyAll refuse i ns).Pairwise fun a b => a.1 < b.1 := by
  cases ns with
  | nil => exact List.Pairwise.nil
  | cons n ns =>
      rw [surveyAll]
      refine List.pairwise_append.2 ⟨?_, surveyAll_pairwise refuse (i + 1) ns, fun a ha b hb => ?_⟩
      · refine List.pairwise_map.2 ((survey_pairwise _ n).imp fun hlt => ?_)
        exact List.cons_lt_cons_iff.2 (.inr ⟨rfl, hlt⟩)
      · obtain ⟨a', -, rfl⟩ := List.mem_map.1 ha
        obtain ⟨j, place, hplace, hj⟩ := exists_of_mem_surveyAll hb
        rw [hplace]
        exact List.cons_lt_cons_iff.2 (.inl hj)

end

/-! ### Which nodes a walk comes to -/

/-- **No node above the place is refused**, from the root on. -/
def Unrefused (refuse : Place → Node → Bool) (tree : Option Node) (place : Place) : Prop :=
  ∀ above m, above <+: place → above ≠ place → nodeAt? tree above = some m → refuse above m = false

theorem unrefused_nil (refuse : Place → Node → Bool) (tree : Option Node) :
    Unrefused refuse tree [] :=
  fun _ _ hprefix hne _ => absurd (List.prefix_nil.1 hprefix) hne

/-- One step down from the root. -/
theorem unrefused_cons {refuse : Place → Node → Bool} {n : Node} {i : Nat} {place : Place} :
    Unrefused refuse (some n) (i :: place) ↔
      refuse [] n = false ∧
        Unrefused (fun above => refuse (i :: above)) n.children[i]? place := by
  constructor
  · intro h
    refine ⟨h [] n List.nil_prefix (List.cons_ne_nil i place).symm rfl, ?_⟩
    intro above m hprefix hne hm
    exact h (i :: above) m ((List.prefix_cons_inj i).2 hprefix) (by simpa using hne) hm
  · rintro ⟨hroot, hbelow⟩ above m hprefix hne hm
    cases above with
    | nil => exact (Option.some.inj hm) ▸ hroot
    | cons j above =>
        obtain ⟨rfl, hrest⟩ := List.cons_prefix_cons.1 hprefix
        exact hbelow above m hrest (by simpa using hne) hm

theorem mem_surveyAll_iff {refuse : Place → Node → Bool} {i j : Nat} {ns : List Node}
    {place : Place} {d : Node} :
    (j :: place, d) ∈ surveyAll refuse i ns ↔
      i ≤ j ∧ ∃ c, ns[j - i]? = some c ∧
        (place, d) ∈ survey (fun above => refuse (j :: above)) c := by
  induction ns generalizing i with
  | nil => simp [surveyAll]
  | cons n ns ih =>
      rw [surveyAll, List.mem_append, ih, List.mem_map]
      constructor
      · rintro (⟨e, he, heq⟩ | ⟨hj, c, hc, hmem⟩)
        · obtain ⟨hplace, rfl⟩ := Prod.mk.inj heq
          obtain ⟨rfl, rfl⟩ := List.cons.inj hplace
          exact ⟨Nat.le_refl i, n, by simp, he⟩
        · refine ⟨by omega, c, ?_, hmem⟩
          have hsub : j - i = j - (i + 1) + 1 := by omega
          rw [hsub, List.getElem?_cons_succ, hc]
      · rintro ⟨hj, c, hc, hmem⟩
        by_cases hij : j = i
        · subst hij
          obtain rfl : n = c := by simpa using hc
          exact .inl ⟨(place, d), hmem, rfl⟩
        · have hsub : j - i = j - (i + 1) + 1 := by omega
          rw [hsub, List.getElem?_cons_succ] at hc
          exact .inr ⟨by omega, c, hc, hmem⟩

/-- **A walk comes to the places below no refused node.** -/
theorem mem_survey_iff {refuse : Place → Node → Bool} {n : Node} {place : Place} {d : Node} :
    (place, d) ∈ survey refuse n ↔
      nodeAt? (some n) place = some d ∧ Unrefused refuse (some n) place := by
  induction place generalizing refuse n with
  | nil =>
      rw [survey_eq, List.mem_cons, nodeAt?_nil, and_iff_left (unrefused_nil refuse _)]
      constructor
      · rintro (he | hmem)
        · rw [(Prod.mk.inj he).2]
        · split at hmem
          · cases hmem
          · obtain ⟨j, p, hp, -⟩ := exists_of_mem_surveyAll hmem
            cases hp
      · rintro ⟨rfl⟩
        exact .inl rfl
  | cons i place ih =>
      rw [survey_eq, List.mem_cons, unrefused_cons, nodeAt?_cons, Option.bind_some]
      cases hroot : refuse [] n with
      | true => simp
      | false =>
          rw [if_neg Bool.false_ne_true, mem_surveyAll_iff, Nat.sub_zero]
          cases hc : n.children[i]? with
          | none => simp
          | some c => simp [ih]

/-! ### Searches -/

/-- **A list of the nodes of a tree that `p` selects**, each once and in the order of the
document. -/
structure Enumerates (tree : Option Node) (p : Place → Node → Prop) (found : List (Place × Node)) :
    Prop where
  /-- They come in the order of their places. -/
  ordered : found.Pairwise fun a b => a.1 < b.1
  /-- They are all that `p` selects. -/
  mem_iff : ∀ place d, (place, d) ∈ found ↔ nodeAt? tree place = some d ∧ p place d

/-- An absent tree has no nodes. -/
theorem enumerates_none (p : Place → Node → Prop) : Enumerates none p [] :=
  ⟨List.Pairwise.nil, fun place d => by simp⟩

theorem enumerates_visitedPlaces (refuse : Place → Node → Bool) (n : Node) :
    Enumerates (some n) (fun place _ => Unrefused refuse (some n) place)
      (visitedPlaces refuse n) := by
  rw [visitedPlaces_eq]
  exact ⟨survey_pairwise refuse n, fun _ _ => mem_survey_iff⟩

/-- **The proper descendants that pass a test.** -/
theorem enumerates_descendants (p : Node → Bool) (n : Node) :
    ∃ found, Enumerates (some n) (fun place d => place ≠ [] ∧ p d = true) found ∧
      n.descendants.filter p = found.map (·.2) := by
  refine ⟨(surveyAll (fun _ _ => false) 0 n.children).filter (p ·.2), ⟨?_, fun place d => ?_⟩, ?_⟩
  · exact (surveyAll_pairwise _ 0 n.children).filter _
  · have hall : Unrefused (fun _ _ => false) (some n) place := fun _ _ _ _ _ => rfl
    have hmem : (place, d) ∈ survey (fun _ _ => false) n ↔ nodeAt? (some n) place = some d :=
      mem_survey_iff.trans (and_iff_left hall)
    rw [survey_eq, if_neg Bool.false_ne_true, List.mem_cons] at hmem
    rw [List.mem_filter, ← hmem]
    constructor
    · rintro ⟨hfound, hp⟩
      refine ⟨.inr hfound, ?_, hp⟩
      rintro rfl
      obtain ⟨j, place, hplace, -⟩ := exists_of_mem_surveyAll hfound
      cases hplace
    · rintro ⟨he | hfound, hne, hp⟩
      · exact absurd (Prod.mk.inj he).1 hne
      · exact ⟨hfound, hp⟩
  · rw [descendants_eq, List.filter_map]
    rfl

/-! ### Telling a node from its descendants -/

/-- A walk that does nothing at the node it starts from, and below it ignores the places. -/
theorem walkPlaced_eq_walkBelow {σ : Type} {visit : σ → Place → Node → σ × Bool}
    {plain : σ → Node → σ × Bool} {s : σ} {n : Node} (hroot : visit s [] n = (s, true))
    (hbelow : ∀ s i place d, visit s (i :: place) d = plain s d) :
    walkPlaced visit s n = walkBelow plain s n := by
  obtain ⟨name, attrs, children, text⟩ := n
  rw [walkPlaced, hroot]
  exact walkAllPlaced_of_forget hbelow s 0 children

/-- A search that walks from the node itself and tells it from its descendants by its place. -/
def searchFrom (p : Node → Bool) (n : Node) : Option Node :=
  walkPlaced (fun found place => searchVisit (fun d => !place.isEmpty && p d) found) none n

/-- Collecting by name in a walk from the node itself, which is told by its place. -/
def collectFrom (name : String) (n : Node) : List Node :=
  (walkPlaced (fun found place d =>
    (if !place.isEmpty && d.name == name then d :: found else found, true)) [] n).reverse

theorem searchFrom_eq (p : Node → Bool) (n : Node) : searchFrom p n = n.search? p := by
  refine walkPlaced_eq_walkBelow ?_ fun found i place d => ?_
  · simp [searchVisit]
  · simp [searchVisit]

theorem collectFrom_eq (name : String) (n : Node) : collectFrom name n = n.findAll name := by
  refine congrArg List.reverse (walkPlaced_eq_walkBelow ?_ fun found i place d => ?_)
  · simp
  · simp

/-! ### Walks and searches -/

/-- **What walks and searches find in a tree** that may be absent. -/
structure SearchedInOrder (tree : Option Node) : Prop where
  /-- A walk visits the root and every node below no refused one, whatever it refuses. -/
  visitedPlaces : ∀ refuse : Place → Node → Bool,
    Enumerates tree (fun place _ => Unrefused refuse tree place)
      (tree.elim [] (visitedPlaces refuse))
  /-- So does a walk that looks at nodes alone. -/
  visited : ∀ refuse : Node → Bool, tree.elim [] (visited refuse) =
    (tree.elim [] (Node.visitedPlaces fun _ => refuse)).map (·.2)
  /-- It carries its state through the nodes that it visits. -/
  walk : ∀ {σ : Type} (f : σ → Node → σ) (refuse : Node → Bool) (s : σ),
    tree.elim s (walk (fun s d => (f s d, !refuse d)) s) =
      (tree.elim [] (Node.visited refuse)).foldl f s
  /-- All proper descendants of a name are found. -/
  findAll : ∀ name, ∃ found,
    Enumerates tree (fun place d => place ≠ [] ∧ d.name = name) found ∧
      tree.elim [] (·.findAll name) = found.map (·.2)
  /-- The first of them is found. -/
  find : ∀ name, tree.bind (·.find? name) = (tree.elim [] (·.findAll name)).head?
  /-- The first proper descendant that is an operand element is the operand. -/
  operand : ∃ found,
    Enumerates tree (fun place d => place ≠ [] ∧ ∃ kind, (d.name, kind) ∈ OperandKind.elements)
        found ∧
      (Operand.inside tree).node = (found.map (·.2)).head?
  /-- Its kind is that of its name; it is unknown if there is none. -/
  kind : match (Operand.inside tree).node with
    | some d => (d.name, (Operand.inside tree).kind) ∈ OperandKind.elements
    | none => (Operand.inside tree).kind = .unknown
  /-- It makes no difference if the walk starts from the root itself, which is told by its place
  from descendants that look the same. -/
  fromRoot : ∀ n ∈ tree, (∀ p, searchFrom p n = n.search? p) ∧
    ∀ name, collectFrom name n = n.findAll name

theorem find?_eq_head? (n : Node) (name : String) : n.find? name = (n.findAll name).head? := by
  rw [find?, search?_eq_find?, findAll_eq_filter, List.head?_filter]

theorem exists_findAll (n : Node) (name : String) : ∃ found,
    Enumerates (some n) (fun place d => place ≠ [] ∧ d.name = name) found ∧
      n.findAll name = found.map (·.2) := by
  obtain ⟨found, ⟨hordered, hmem⟩, hfound⟩ := enumerates_descendants (·.name == name) n
  refine ⟨found, ⟨hordered, fun place d => ?_⟩, by rw [findAll_eq_filter, hfound]⟩
  rw [hmem, beq_iff_eq]

/-- **The operand inside a node** is its first descendant that is an operand element. -/
theorem exists_operands (n : Node) : ∃ found,
    Enumerates (some n) (fun place d => place ≠ [] ∧ ∃ kind, (d.name, kind) ∈ OperandKind.elements)
        found ∧
      (Operand.inside (some n)).node = (found.map (·.2)).head? := by
  obtain ⟨found, ⟨hordered, hmem⟩, hfound⟩ :=
    enumerates_descendants (fun d => OperandKind.ofElement d.name != .unknown) n
  refine ⟨found, ⟨hordered, fun place d => ?_⟩, ?_⟩
  · rw [hmem, bne_iff_ne, OperandKind.ofElement_ne_unknown_iff]
  · rw [← hfound, List.head?_filter, Operand.inside, Option.bind_some, search?_eq_find?]
    cases n.descendants.find? fun d => OperandKind.ofElement d.name != .unknown <;> rfl

theorem kind_inside_mem (tree : Option Node) :
    match (Operand.inside tree).node with
      | some d => (d.name, (Operand.inside tree).kind) ∈ OperandKind.elements
      | none => (Operand.inside tree).kind = .unknown := by
  rw [Operand.inside]
  cases hfound : tree.bind (·.search? fun d => OperandKind.ofElement d.name != .unknown) with
  | none => rfl
  | some d =>
      obtain ⟨n, -, hsearch⟩ := Option.bind_eq_some_iff.1 hfound
      rw [search?_eq_find?] at hsearch
      have hkind : OperandKind.ofElement d.name ≠ .unknown := by
        simpa using List.find?_some hsearch
      exact (OperandKind.ofElement_eq_iff hkind).1 rfl

/-- **Walks and searches follow the order of the document.** -/
theorem searches_in_document_order (tree : Option Node) : SearchedInOrder tree := by
  cases tree with
  | none =>
      exact {
        visitedPlaces := fun _ => enumerates_none _
        visited := fun _ => rfl
        walk := fun _ _ _ => rfl
        findAll := fun _ => ⟨[], enumerates_none _, rfl⟩
        find := fun _ => rfl
        operand := ⟨[], enumerates_none _, rfl⟩
        kind := kind_inside_mem none
        fromRoot := nofun }
  | some n =>
      exact {
        visitedPlaces := fun refuse => enumerates_visitedPlaces refuse n
        visited := fun refuse => visited_eq refuse n
        walk := fun f refuse s => by
          rw [Option.elim_some, Option.elim_some, visited_eq, visitedPlaces_eq]
          exact walk_eq_foldl_survey f refuse s n
        findAll := exists_findAll n
        find := find?_eq_head? n
        operand := exists_operands n
        kind := kind_inside_mem (some n)
        fromRoot := by
          rintro _ ⟨rfl⟩
          exact ⟨fun p => searchFrom_eq p n, fun name => collectFrom_eq name n⟩ }

end Node

end EventRules
