/-
**Indentation follows nesting.**

An event rule is a flat sequence of elements; that some of them are inside a block of others is only
said by the elements that open and close blocks.  An *outline* is the sequence with its blocks: a
block is a condition, a body, any number of `Else` branches with a body each, and an end.  The depth
of an element in the outline is the number of blocks around it.

The decompiler keeps a counter instead.  On the elements of an outline the counter and the depth
agree: every line stands at the depth of its element, parameters one deeper, and after the outline
the counter is back where it was.  Without an outline the counter still never goes below zero, as an
end without a block takes nothing away.

Main definitions:

* `Outline`, `Branches` — well-nested sequences of elements;
* `Outline.elements`, `Outline.placed` — their elements, and these with their depths;
* `StandsAt` — the lines of an element at a depth.

Main results:

* `Outline.placed_elements`, `Outline.depthFrom_elements` — **the counter knows the depth**;
* `Decompiler.emissions_standAt` — every element of a replay stands where the counter says;
* `depthFrom_nonneg`, `nonneg_of_mem_placed` — the counter of any sequence never goes below zero;
* `indentation_follows_nesting` — all of this for passes, replays and arbitrary sequences.
-/

import Mathlib.Data.List.Forall2
import EventRules.Proofs.Layout

set_option relaxedAutoImplicit false
set_option autoImplicit false

namespace EventRules

/-! ### Outlines -/

/-- Is the element neither the start, nor the end, nor a branch of a block? -/
def Node.isPlain (n : Node) : Bool :=
  n.name != "GBRCRIT" && n.name != "GBRElse" && n.name != "GBREndIf" && n.name != "GBREndWhile"

mutual

/-- **A well-nested sequence of elements.** -/
inductive Outline where
  /-- Nothing more. -/
  | done
  /-- A plain element, and what follows it. -/
  | plain (n : Node) (hn : n.isPlain = true) (rest : Outline)
  /-- A block: its condition, body, other branches and end, and what follows it. -/
  | block (head : Node) (hhead : head.name = "GBRCRIT") (body : Outline) (others : Branches)
      (foot : Node) (hfoot : foot.name = "GBREndIf" ∨ foot.name = "GBREndWhile") (rest : Outline)

/-- **The other branches of a block.** -/
inductive Branches where
  /-- No more branches. -/
  | done
  /-- A branch with its body, and the branches after it. -/
  | branch (head : Node) (hhead : head.name = "GBRElse") (body : Outline) (rest : Branches)

end

mutual

/-- **The elements of an outline** in order. -/
def Outline.elements : Outline → List Node
  | .done => []
  | .plain n _ rest => n :: rest.elements
  | .block head _ body others foot _ rest =>
      head :: (body.elements ++ (others.elements ++ foot :: rest.elements))

/-- The elements of branches in order. -/
def Branches.elements : Branches → List Node
  | .done => []
  | .branch head _ body rest => head :: (body.elements ++ rest.elements)

end

mutual

/-- **The elements of an outline with their depths**, inside of `j` blocks.  The parts of a block
other than its bodies are as deep as its condition. -/
def Outline.placed (j : Int) : Outline → List (Node × Int)
  | .done => []
  | .plain n _ rest => (n, j) :: rest.placed j
  | .block head _ body others foot _ rest =>
      (head, j) :: (body.placed (j + 1) ++ (others.placed j ++ (foot, j) :: rest.placed j))

/-- The elements of branches with their depths. -/
def Branches.placed (j : Int) : Branches → List (Node × Int)
  | .done => []
  | .branch head _ body rest => (head, j) :: (body.placed (j + 1) ++ rest.placed j)

end

mutual

/-- Nothing in an outline is less deep than the outline. -/
theorem Outline.le_of_mem_placed (j : Int) (o : Outline) :
    ∀ e ∈ o.placed j, j ≤ e.2 := by
  intro e he
  match o with
  | .done => simp [Outline.placed] at he
  | .plain n _ rest =>
      rcases List.mem_cons.1 he with rfl | he
      · exact Int.le_refl j
      · exact Outline.le_of_mem_placed j rest e he
  | .block head _ body others foot _ rest =>
      rcases List.mem_cons.1 he with rfl | he
      · exact Int.le_refl j
      · rcases List.mem_append.1 he with he | he
        · have hle := Outline.le_of_mem_placed (j + 1) body e he
          omega
        · rcases List.mem_append.1 he with he | he
          · exact Branches.le_of_mem_placed j others e he
          · rcases List.mem_cons.1 he with rfl | he
            · exact Int.le_refl j
            · exact Outline.le_of_mem_placed j rest e he

/-- The same for branches. -/
theorem Branches.le_of_mem_placed (j : Int) (b : Branches) :
    ∀ e ∈ b.placed j, j ≤ e.2 := by
  intro e he
  match b with
  | .done => simp [Branches.placed] at he
  | .branch head _ body rest =>
      rcases List.mem_cons.1 he with rfl | he
      · exact Int.le_refl j
      · rcases List.mem_append.1 he with he | he
        · have hle := Outline.le_of_mem_placed (j + 1) body e he
          omega
        · exact Branches.le_of_mem_placed j rest e he

end

/-! ### The counter on an outline -/

theorem placed_append (k : Int) (ns ms : List Node) :
    placed k (ns ++ ms) = placed k ns ++ placed (depthFrom k ns) ms := by
  induction ns generalizing k with
  | nil => rfl
  | cons n ns ih =>
      rw [List.cons_append, placed, placed, ih, List.cons_append]
      rfl

theorem depthFrom_append (k : Int) (ns ms : List Node) :
    depthFrom k (ns ++ ms) = depthFrom (depthFrom k ns) ms :=
  List.foldl_append

theorem depthFrom_cons (k : Int) (n : Node) (ns : List Node) :
    depthFrom k (n :: ns) = depthFrom (n.depthAfter k) ns := rfl

/-- Inside of a block the guard of `dedent` does not matter. -/
theorem dedent_succ {k : Int} (hk : 0 ≤ k) : dedent (k + 1) = k := by
  rw [dedent, if_pos (by omega), Int.add_sub_cancel]

namespace Node

section

variable {n : Node} {k : Int}

theorem standsAt_plain (hn : n.isPlain = true) : n.standsAt k = k := by
  simp only [isPlain, Bool.and_eq_true, bne_iff_ne] at hn
  simp [standsAt, closes, hn]

theorem depthAfter_plain (hn : n.isPlain = true) : n.depthAfter k = k := by
  rw [depthAfter, standsAt_plain hn]
  simp only [isPlain, Bool.and_eq_true, bne_iff_ne] at hn
  simp [opens, hn]

theorem standsAt_condition (hn : n.name = "GBRCRIT") : n.standsAt k = k := by
  simp [standsAt, closes, hn]

theorem depthAfter_condition (hn : n.name = "GBRCRIT") : n.depthAfter k = k + 1 := by
  rw [depthAfter, standsAt_condition hn]
  simp [opens, hn]

theorem standsAt_else (hn : n.name = "GBRElse") (hk : 0 ≤ k) : n.standsAt (k + 1) = k := by
  simp [standsAt, closes, hn, dedent_succ hk]

theorem depthAfter_else (hn : n.name = "GBRElse") (hk : 0 ≤ k) :
    n.depthAfter (k + 1) = k + 1 := by
  rw [depthAfter, standsAt_else hn hk]
  simp [opens, hn]

theorem standsAt_end (hn : n.name = "GBREndIf" ∨ n.name = "GBREndWhile") (hk : 0 ≤ k) :
    n.standsAt (k + 1) = k := by
  rcases hn with hn | hn <;> simp [standsAt, closes, hn, dedent_succ hk]

theorem depthAfter_end (hn : n.name = "GBREndIf" ∨ n.name = "GBREndWhile") (hk : 0 ≤ k) :
    n.depthAfter (k + 1) = k := by
  rw [depthAfter, standsAt_end hn hk]
  rcases hn with hn | hn <;> simp [opens, hn]

end

end Node

/-- **The counter never goes below zero**, whatever the elements are. -/
theorem depthFrom_nonneg {k : Int} (hk : 0 ≤ k) (ns : List Node) : 0 ≤ depthFrom k ns := by
  induction ns generalizing k with
  | nil => exact hk
  | cons n ns ih => exact ih (n.depthAfter_nonneg hk)

/-- Neither does the depth of any of them. -/
theorem nonneg_of_mem_placed {k : Int} (hk : 0 ≤ k) {ns : List Node} :
    ∀ e ∈ placed k ns, 0 ≤ e.2 := by
  induction ns generalizing k with
  | nil => simp [placed]
  | cons n ns ih =>
      rw [placed, List.forall_mem_cons]
      exact ⟨n.standsAt_nonneg hk, ih (n.depthAfter_nonneg hk)⟩

mutual

/-- **The counter comes back** to where it was before the outline. -/
theorem Outline.depthFrom_elements {j : Int} (hj : 0 ≤ j) (o : Outline) :
    depthFrom j o.elements = j := by
  have hj' : 0 ≤ j + 1 := by omega
  match o with
  | .done => rfl
  | .plain n hn rest =>
      rw [Outline.elements, depthFrom_cons, Node.depthAfter_plain hn,
        Outline.depthFrom_elements hj rest]
  | .block head hhead body others foot hfoot rest =>
      rw [Outline.elements, depthFrom_cons, Node.depthAfter_condition hhead, depthFrom_append,
        Outline.depthFrom_elements hj' body, depthFrom_append,
        Branches.depthFrom_elements hj others, depthFrom_cons, Node.depthAfter_end hfoot hj,
        Outline.depthFrom_elements hj rest]

/-- Branches start and end inside of the block. -/
theorem Branches.depthFrom_elements {j : Int} (hj : 0 ≤ j) (b : Branches) :
    depthFrom (j + 1) b.elements = j + 1 := by
  have hj' : 0 ≤ j + 1 := by omega
  match b with
  | .done => rfl
  | .branch head hhead body rest =>
      rw [Branches.elements, depthFrom_cons, Node.depthAfter_else hhead hj, depthFrom_append,
        Outline.depthFrom_elements hj' body, Branches.depthFrom_elements hj rest]

end

mutual

/-- **The counter knows the depth** of every element of an outline. -/
theorem Outline.placed_elements {j : Int} (hj : 0 ≤ j) (o : Outline) :
    EventRules.placed j o.elements = o.placed j := by
  have hj' : 0 ≤ j + 1 := by omega
  match o with
  | .done => rfl
  | .plain n hn rest =>
      rw [Outline.elements, EventRules.placed, Node.standsAt_plain hn, Node.depthAfter_plain hn,
        Outline.placed_elements hj rest, Outline.placed]
  | .block head hhead body others foot hfoot rest =>
      rw [Outline.elements, EventRules.placed, Node.standsAt_condition hhead,
        Node.depthAfter_condition hhead, placed_append, Outline.placed_elements hj' body,
        -- the counter is back at `j + 1` after the body and after every branch
        Outline.depthFrom_elements hj', placed_append, Branches.placed_elements hj others,
        Branches.depthFrom_elements hj, EventRules.placed, Node.standsAt_end hfoot hj,
        Node.depthAfter_end hfoot hj, Outline.placed_elements hj rest, Outline.placed]

/-- The same for branches, which the counter meets inside of the block. -/
theorem Branches.placed_elements {j : Int} (hj : 0 ≤ j) (b : Branches) :
    EventRules.placed (j + 1) b.elements = b.placed j := by
  have hj' : 0 ≤ j + 1 := by omega
  match b with
  | .done => rfl
  | .branch head hhead body rest =>
      rw [Branches.elements, EventRules.placed, Node.standsAt_else hhead hj,
        Node.depthAfter_else hhead hj, placed_append, Outline.placed_elements hj' body,
        Outline.depthFrom_elements hj', Branches.placed_elements hj rest, Branches.placed]

end

/-! ### The lines of an element at a depth -/

/-- **The lines of an element at depth `j`.**  Those of a table operation or a call, if it is shown
at all, are a line at that depth and its parameters one deeper. -/
def StandsAt (n : Node) (j : Int) (lines : List Line) : Prop :=
  if n.needsSource then
    lines = [] ∨ ∃ header parameters, lines = header :: parameters ∧ header.depth = j ∧
      ∀ p ∈ parameters, p.depth = j + 1
  else ∀ l ∈ lines, l.depth = j

namespace Node

theorem layout_of_needsSource {n : Node} (h : n.needsSource = true) :
    ∃ m, n.layout = 0 :: List.replicate m 1 := by
  simp only [needsSource, Bool.or_eq_true, beq_iff_eq] at h
  rcases h with h | h
  · exact ⟨n.countBelow "GBRParam", by simp [layout, h]⟩
  · exact ⟨n.countBelow "ERPARAM", by simp [layout, h]⟩

theorem layout_of_not_needsSource {n : Node} (h : n.needsSource = false) :
    ∀ k ∈ n.layout, k = 0 := by
  rw [needsSource_eq] at h
  rw [layout_eq]
  intro k hk
  cases hkind : ElementKind.ofName n.name with
  | condition =>
      rw [hkind] at hk
      exact List.eq_of_mem_replicate hk
  | declaration | ignored =>
      rw [hkind] at hk
      cases hk
  | tableOperation | call =>
      rw [hkind] at h
      cases h
  | _ =>
      rw [hkind] at hk
      exact List.mem_singleton.1 hk

end Node

/-- Lines that keep to the layout of their element stand at its depth. -/
theorem standsAt_of_depths {n : Node} {j : Int} {hasSource : Bool} {lines : List Line}
    (h : lines.map (·.depth) = depthsAt hasSource (n, j)) : StandsAt n j lines := by
  rw [depthsAt, Node.layoutWith] at h
  unfold StandsAt
  cases hn : n.needsSource with
  | true =>
      rw [if_pos rfl]
      cases hasSource with
      | false =>
          left
          simpa [hn] using h
      | true =>
          -- the layout begins with the header, so there is a first line
          right
          obtain ⟨m, hm⟩ := Node.layout_of_needsSource hn
          cases lines with
          | nil => simp [hm] at h
          | cons header parameters =>
              simp only [Bool.true_or, if_true, hm, List.map_cons, List.map_replicate,
                List.cons.injEq] at h
              refine ⟨header, parameters, rfl, h.1.trans (Int.add_zero j), fun p hp => ?_⟩
              exact List.eq_of_mem_replicate (h.2 ▸ List.mem_map_of_mem hp)
  | false =>
      rw [if_neg Bool.false_ne_true]
      intro l hl
      simp only [hn, Bool.not_false, Bool.or_true, if_true] at h
      have hmem : l.depth ∈ n.layout.map (j + ·) := h ▸ List.mem_map_of_mem hl
      obtain ⟨k, hk, hkl⟩ := List.mem_map.1 hmem
      rw [← hkl, Node.layout_of_not_needsSource hn k hk, Int.add_zero]

namespace Decompiler

variable {σ : Type}

/-- **Every element of a replay stands where the counter says.** -/
theorem emissions_standAt (source : Option (Source σ)) (ns : List Node) (d : Decompiler) (s : σ) :
    List.Forall₂ (fun e lines => StandsAt e.1 e.2 lines) (placed d.depth ns)
      (emissions source ns d s) := by
  have h : List.Forall₂ (· = ·) ((placed d.depth ns).map (depthsAt source.isSome))
      ((emissions source ns d s).map (·.map (·.depth))) := by
    rw [depths_emissions, List.forall₂_eq_eq_eq]
  rw [List.forall₂_map_left_iff, List.forall₂_map_right_iff] at h
  exact h.imp fun e lines he => standsAt_of_depths he.symm

end Decompiler

/-- No line of an element stands above its depth. -/
theorem StandsAt.le_depth {n : Node} {j : Int} {lines : List Line} (h : StandsAt n j lines) :
    ∀ l ∈ lines, l.depth = j ∨ l.depth = j + 1 := by
  intro l hl
  unfold StandsAt at h
  split at h
  · rcases h with rfl | ⟨header, parameters, rfl, hj, hp⟩
    · cases hl
    · rcases List.mem_cons.1 hl with rfl | hl
      · exact .inl hj
      · exact .inr (hp l hl)
  · exact .inl (h l hl)

/-- **No element of any replay, and no line of it, stands below zero.** -/
theorem Decompiler.emissions_nonneg {σ : Type} (source : Option (Source σ)) (ns : List Node)
    (d : Decompiler) (s : σ) :
    List.Forall₂
      (fun e lines => StandsAt e.1 e.2 lines ∧ 0 ≤ e.2 ∧ ∀ l ∈ lines, 0 ≤ l.depth)
      (placed d.depth ns) (emissions source ns d s) := by
  have hboth := (List.forall₂_and_left (placed d.depth ns) (emissions source ns d s)).2
    ⟨nonneg_of_mem_placed d.depth_nonneg, emissions_standAt source ns d s⟩
  refine hboth.imp fun e lines ⟨he, hstand⟩ => ?_
  refine ⟨hstand, he, fun l hl => ?_⟩
  rcases hstand.le_depth l hl with h | h <;> omega

/-! ### Replays and passes -/

section

variable {σ : Type}

/-- The lines of an outline are never less deep than the outline. -/
theorem Outline.le_depth_emissions (o : Outline) (source : Option (Source σ)) (d : Decompiler)
    (s : σ) :
    ∀ lines ∈ Decompiler.emissions source o.elements d s, ∀ l ∈ lines, d.depth ≤ l.depth := by
  have hstand := Decompiler.emissions_standAt source o.elements d s
  rw [o.placed_elements d.depth_nonneg] at hstand
  intro lines hlines l hl
  -- the lines belong to the `i`-th element, whose depth is that of the `i`-th place
  obtain ⟨i, hi, rfl⟩ := List.getElem_of_mem hlines
  have hlen : i < (o.placed d.depth).length := by rwa [hstand.length_eq]
  have hle : d.depth ≤ ((o.placed d.depth).get ⟨i, hlen⟩).2 :=
    o.le_of_mem_placed d.depth _ (List.getElem_mem hlen)
  rcases (hstand.get hlen hi).le_depth l hl with h | h <;> omega

/-- **Indentation follows nesting.**  A replay of an outline comes back to the depth at which it
started, puts every line at the depth of its element in the outline and none above the start.  A
pass over such documents does so from depth zero.  In a replay of arbitrary elements neither the
counter nor any line ever gets below zero. -/
theorem indentation_follows_nesting (source : Option (Source σ)) :
    (∀ (o : Outline) (d : Decompiler) (s : σ),
      (Decompiler.replay source o.elements d s).1.depth = d.depth ∧
      (Decompiler.replay source o.elements d s).1.lines =
        d.lines ++ (Decompiler.emissions source o.elements d s).flatten ∧
      List.Forall₂ (fun e lines => StandsAt e.1 e.2 lines) (o.placed d.depth)
        (Decompiler.emissions source o.elements d s) ∧
      ∀ lines ∈ Decompiler.emissions source o.elements d s, ∀ l ∈ lines, d.depth ≤ l.depth) ∧
    (∀ (o : Outline) (events : List Bytes) (template : Bytes) (d : Decompiler) (s : σ)
        (r : Decompiled), topLevel events = o.elements →
      (Decompiler.decompile source events template d s).1 = .ok r →
      (Decompiler.decompile source events template d s).2.1.depth = 0 ∧
      ∃ primary, Decompiler.readTemplate template = .ok primary ∧
        r.lines = (Decompiler.emissions source o.elements (d.start primary) s).flatten ∧
        List.Forall₂ (fun e lines => StandsAt e.1 e.2 lines) (o.placed 0)
          (Decompiler.emissions source o.elements (d.start primary) s)) ∧
    (∀ (ns : List Node) (d : Decompiler) (s : σ),
      (Decompiler.replay source ns d s).1.depth = depthFrom d.depth ns ∧
      0 ≤ depthFrom d.depth ns ∧
      List.Forall₂
        (fun e lines => StandsAt e.1 e.2 lines ∧ 0 ≤ e.2 ∧ ∀ l ∈ lines, 0 ≤ l.depth)
        (placed d.depth ns) (Decompiler.emissions source ns d s)) := by
  have hstand (o : Outline) (d : Decompiler) (s : σ) :
      List.Forall₂ (fun e lines => StandsAt e.1 e.2 lines) (o.placed d.depth)
        (Decompiler.emissions source o.elements d s) :=
    o.placed_elements d.depth_nonneg ▸ Decompiler.emissions_standAt source o.elements d s
  refine ⟨fun o d s => ⟨?_, Decompiler.replay_lines source o.elements d s, hstand o d s,
    o.le_depth_emissions source d s⟩, ?_, fun ns d s => ⟨?_, ?_, ?_⟩⟩
  · rw [Decompiler.replay_depth, o.depthFrom_elements d.depth_nonneg]
  · intro o events template d s r ho hr
    obtain ⟨primary, key, ht, -, rfl, hstate⟩ := Decompiler.decompile_ok hr
    rw [ho] at hstate ⊢
    refine ⟨?_, primary, ht, ?_, hstand o (d.start primary) s⟩
    · rw [hstate, Decompiler.replay_depth, o.depthFrom_elements (d.start primary).depth_nonneg]
      rfl
    · exact Decompiler.replay_lines source o.elements (d.start primary) s
  · exact Decompiler.replay_depth source ns d s
  · exact depthFrom_nonneg d.depth_nonneg ns
  · exact Decompiler.emissions_nonneg source ns d s

end

/-- A block with two branches that starts in one document and ends in another: a call is in the one
branch, a table operation in the other. -/
def spreadEvents : List Bytes :=
  ["<E szEventSpecKey='K'>".toUTF8.toList ++
      "<GBRCRIT lpszCritDesc='If a is equal to b'><CRE_NODE/></GBRCRIT>".toUTF8.toList ++
      "<GBRBF szFuncName='F' szTmplName='D1'><ERPARAM idItem='1'/></GBRBF>".toUTF8.toList ++
      "<GBRElse/></E>".toUTF8.toList,
    [],
    "<E szEventSpecKey='L'><GBRFileIOOp szTable='T' operation='SELECT'>".toUTF8.toList ++
      "<GBRParam/></GBRFileIOOp><GBREndIf/></E>".toUTF8.toList]

/-- The block is closed again, and what is inside stands one deeper, with its parameters two. -/
theorem indentation_follows_nesting_spread :
    ∃ (o : Outline) (r : Decompiled), topLevel spreadEvents = o.elements ∧
      (o.placed 0).map (fun e => (e.1.name, e.2)) =
        [("GBRCRIT", 0), ("GBRBF", 1), ("GBRElse", 0), ("GBRFileIOOp", 1), ("GBREndIf", 0)] ∧
      (Decompiler.decompile (some Source.failing) spreadEvents [] {} ()).1 = .ok r ∧
      (Decompiler.decompile (some Source.failing) spreadEvents [] {} ()).2.1.depth = 0 ∧
      List.Forall₂ (fun e lines => StandsAt e.1 e.2 lines) (o.placed 0)
        (Decompiler.emissions (some Source.failing) o.elements (Decompiler.start {} none) ()) ∧
      r.lines =
        [⟨0, "If a is equal to b"⟩, ⟨1, "F(D1.F)"⟩, ⟨2, " -> 1"⟩, ⟨0, "Else"⟩, ⟨1, "T.Select"⟩,
          ⟨2, " =  []"⟩, ⟨0, "End If"⟩] := by
  obtain ⟨hnames, hlines⟩ :
      (topLevel spreadEvents).map (·.name) =
        ["GBRCRIT", "GBRBF", "GBRElse", "GBRFileIOOp", "GBREndIf"] ∧
      (Decompiler.decompile (some Source.failing) spreadEvents [] {} ()).1.toOption.map
        (·.lines) =
        some [⟨0, "If a is equal to b"⟩, ⟨1, "F(D1.F)"⟩, ⟨2, " -> 1"⟩, ⟨0, "Else"⟩,
          ⟨1, "T.Select"⟩, ⟨2, " =  []"⟩, ⟨0, "End If"⟩] := by
    decide +kernel
  obtain ⟨r, hr, hlines⟩ := Option.map_eq_some_iff.1 hlines
  replace hr := Except.eq_ok_of_toOption hr
  -- the names are enough to tell the outline
  simp only [List.map_eq_cons_iff, List.map_eq_nil_iff] at hnames
  obtain ⟨head, _, hevents, hhead, one, _, rfl, hone, other, _, rfl, hother, two, _, rfl, htwo,
    foot, _, rfl, hfoot, rfl⟩ := hnames
  let o : Outline :=
    .block head hhead (.plain one (by simp [Node.isPlain, hone]) .done)
      (.branch other hother (.plain two (by simp [Node.isPlain, htwo]) .done) .done)
      foot (.inl hfoot) .done
  have ho : topLevel spreadEvents = o.elements := hevents
  have hplaced : (o.placed 0).map (fun e => (e.1.name, e.2)) =
      [("GBRCRIT", 0), ("GBRBF", 1), ("GBRElse", 0), ("GBRFileIOOp", 1), ("GBREndIf", 0)] := by
    simp [o, Outline.placed, Branches.placed, hhead, hone, hother, htwo, hfoot]
  obtain ⟨hdepth, primary, ht, -, hstand⟩ :=
    (indentation_follows_nesting (some Source.failing)).2.1 o spreadEvents [] {} () r ho hr
  cases ht
  exact ⟨o, r, ho, hplaced, hr, hdepth, hstand, hlines⟩

end EventRules
