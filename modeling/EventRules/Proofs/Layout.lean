/-
**The layout of a pass.**

How many lines a rule has, and how deep each of them is, can be read off its elements: the answers
of the source, the cached templates and the template of the rule change what the lines say, never
their number or their depth.  The one exception is the source itself, as table operations and calls
are shown only if there is one.

An element has its *layout*, the depths of its lines relative to the element.  A counter that goes
through the elements gives the depth of each.  Layout and counter together are the layout of a
replay.

Main definitions:

* `Node.layout` — the relative depths of the lines of an element;
* `Node.needsSource` — elements that are shown only with a source;
* `placed`, `depthFrom` — elements with their depths, and the depth after them;
* `depthsAt` — the depths of the lines of an element at its place;
* `Decompiler.emissions` — the lines that each element of a replay adds.

Main results:

* `depths_elementLines` — an element keeps to its layout, whatever its questions are answered;
* `Decompiler.replay_lines`, `Decompiler.replay_depth` — a replay adds the lines of its elements
  and ends where the counter ends;
* `Decompiler.depths_emissions` — **every element of a replay keeps to its layout**;
* `indents_independent_of_metadata` — **two passes have the same layout**.
-/

import EventRules.Proofs.Reading
import EventRules.Proofs.Tree

set_option relaxedAutoImplicit false
set_option autoImplicit false

namespace EventRules

/-! ### The layout of an element -/

namespace Node

/-- The number of descendants with the given name. -/
def countBelow (n : Node) (name : String) : Nat :=
  n.descendants.countP (·.name == name)

theorem length_findAll (n : Node) (name : String) :
    (n.findAll name).length = n.countBelow name := by
  rw [findAll_eq_filter, countBelow, List.countP_eq_length_filter]

/-- **The layout of an element**: the depths of its lines, relative to its own. -/
def layout (n : Node) : List Int :=
  match n.name with
  | "GBRASSIGN" => [0]
  | "GBRSLBF" => [0]
  | "GBRCOMMENT" => [0]
  | "GBRElse" => [0]
  | "GBREndIf" => [0]
  | "GBREndWhile" => [0]
  | "GBRCRIT" =>
      List.replicate
        (min (Criteria.split (n.attr ["lpszCritDesc"])).length (n.countBelow "CRE_NODE")) 0
  | "GBRFileIOOp" => 0 :: List.replicate (n.countBelow "GBRParam") 1
  | "GBRBF" => 0 :: List.replicate (n.countBelow "ERPARAM") 1
  | _ => []

/-- Is the element shown only if there is a source? -/
def needsSource (n : Node) : Bool :=
  n.name == "GBRFileIOOp" || n.name == "GBRBF"

/-- The layout by the kind of the element. -/
theorem layout_eq (n : Node) :
    n.layout =
      match ElementKind.ofName n.name with
      | .declaration => []
      | .ignored => []
      | .condition =>
          List.replicate
            (min (Criteria.split (n.attr ["lpszCritDesc"])).length (n.countBelow "CRE_NODE")) 0
      | .tableOperation => 0 :: List.replicate (n.countBelow "GBRParam") 1
      | .call => 0 :: List.replicate (n.countBelow "ERPARAM") 1
      | _ => [0] := by
  generalize hk : ElementKind.ofName n.name = kind
  unfold ElementKind.ofName at hk
  split at hk <;> subst hk <;> simp_all [layout]

theorem needsSource_eq (n : Node) :
    n.needsSource =
      match ElementKind.ofName n.name with
      | .tableOperation => true
      | .call => true
      | _ => false := by
  generalize hk : ElementKind.ofName n.name = kind
  unfold ElementKind.ofName at hk
  split at hk <;> subst hk <;> simp_all [needsSource]

/-- The layout of an element with or without a source. -/
def layoutWith (hasSource : Bool) (n : Node) : List Int :=
  if hasSource || !n.needsSource then n.layout else []

end Node

section

variable {σ α : Type}

theorem lookup_bind {β : Type} (m : Lookup σ α) (f : α → Lookup σ β) (p : Shelf σ) :
    (m >>= f) p = f (m p).1 (m p).2 := rfl

theorem lookup_pure (a : α) (p : Shelf σ) : (pure a : Lookup σ α) p = (a, p) := rfl

/-- Lines for the items of a list are as many as these, all at one depth. -/
theorem depths_mapM (k : Int) (text : α → Lookup σ String) (xs : List α) (p : Shelf σ) :
    ((xs.mapM fun x => (do return ⟨k, ← text x⟩ : Lookup σ Line)) p).1.map (·.depth) =
      List.replicate xs.length k := by
  induction xs generalizing p with
  | nil => rfl
  | cons x xs ih =>
      rw [List.mapM_cons, List.length_cons, List.replicate_succ, ← ih (text x p).2]
      rfl

theorem depths_conditionLines (source : Option (Source σ)) (scope : Scope) (n : Node)
    (p : Shelf σ) :
    (conditionLines source scope n p).1.map (·.depth) =
      List.replicate
        (min (Criteria.split (n.attr ["lpszCritDesc"])).length (n.countBelow "CRE_NODE")) 0 := by
  have hlength : (conditionClauses n).length =
      min (Criteria.split (n.attr ["lpszCritDesc"])).length (n.countBelow "CRE_NODE") := by
    rw [conditionClauses, List.length_zip, Node.length_findAll]
  rw [conditionLines, depths_mapM, hlength]

theorem depths_tableLines (source : Source σ) (scope : Scope) (n : Node) (p : Shelf σ) :
    (tableLines source scope n p).1.map (·.depth) =
      0 :: List.replicate (n.countBelow "GBRParam") 1 := by
  unfold tableLines
  simp only [lookup_bind, lookup_pure, List.map_cons]
  rw [← Node.length_findAll, depths_mapM]

theorem depths_callLines (source : Source σ) (scope : Scope) (n : Node) (p : Shelf σ) :
    (callLines source scope n p).1.map (·.depth) =
      0 :: List.replicate (n.countBelow "ERPARAM") 1 := by
  unfold callLines
  simp only [lookup_bind, lookup_pure, List.map_cons]
  rw [← Node.length_findAll, depths_mapM]

/-- **An element keeps to its layout**, whatever its questions are answered. -/
theorem depths_elementLines (source : Option (Source σ)) (scope : Scope) (n : Node)
    (p : Shelf σ) :
    (elementLines source scope n p).1.map (·.depth) = n.layoutWith source.isSome := by
  unfold elementLines
  rw [Node.layoutWith, Node.layout_eq, Node.needsSource_eq]
  -- only table operations and calls look at whether there is a source
  cases hk : ElementKind.ofName n.name with
  | condition =>
      rw [Bool.not_false, Bool.or_true, if_pos rfl]
      exact depths_conditionLines source scope n p
  | tableOperation =>
      cases source with
      | none => rfl
      | some src => exact depths_tableLines src scope n p
  | call =>
      cases source with
      | none => rfl
      | some src => exact depths_callLines src scope n p
  | _ =>
      rw [Bool.not_false, Bool.or_true, if_pos rfl]
      rfl

end

/-! ### The layout of elements in order -/

/-- **Elements with the depths of their lines**, from depth `k` on. -/
def placed : Int → List Node → List (Node × Int)
  | _, [] => []
  | k, n :: ns => (n, n.standsAt k) :: placed (n.depthAfter k) ns

/-- The depth after elements that start at depth `k`. -/
def depthFrom (k : Int) (ns : List Node) : Int :=
  ns.foldl (fun k n => n.depthAfter k) k

/-- The depths of the lines of one element. -/
def depthsAt (hasSource : Bool) (e : Node × Int) : List Int :=
  (e.1.layoutWith hasSource).map (e.2 + ·)

theorem depthsAt_true (e : Node × Int) : depthsAt true e = e.1.layout.map (e.2 + ·) := by
  rw [depthsAt, Node.layoutWith, Bool.true_or, if_pos rfl]

/-- Without a source the elements that need one have no lines. -/
theorem flatMap_depthsAt_false (es : List (Node × Int)) :
    es.flatMap (depthsAt false) =
      (es.filter fun e => !e.1.needsSource).flatMap (depthsAt true) := by
  induction es with
  | nil => rfl
  | cons e es ih =>
      rw [List.flatMap_cons, ih]
      cases hn : e.1.needsSource with
      | true => simp [hn, depthsAt, Node.layoutWith]
      | false => simp [hn, depthsAt, Node.layoutWith]

namespace Decompiler

variable {σ : Type}

/-- **The lines that each element of a replay adds.** -/
def emissions (source : Option (Source σ)) : List Node → Decompiler → σ → List (List Line)
  | [], _, _ => []
  | n :: ns, d, s =>
      (visit source n d s).1.lines.drop d.lines.length ::
        emissions source ns (visit source n d s).1 (visit source n d s).2

/-- A replay adds the lines of its elements, and nothing else. -/
theorem replay_lines (source : Option (Source σ)) (ns : List Node) (d : Decompiler) (s : σ) :
    (replay source ns d s).1.lines = d.lines ++ (emissions source ns d s).flatten := by
  induction ns generalizing d s with
  | nil => simp [replay, emissions]
  | cons n ns ih =>
      -- one element leaves the lines before it alone
      have hvisit : d.lines ++ (visit source n d s).1.lines.drop d.lines.length =
          (visit source n d s).1.lines := by
        rw [visit_lines, List.drop_left]
      rw [emissions, List.flatten_cons, ← List.append_assoc, hvisit]
      exact ih _ _

/-- A replay ends where the counter ends. -/
theorem replay_depth (source : Option (Source σ)) (ns : List Node) (d : Decompiler) (s : σ) :
    (replay source ns d s).1.depth = depthFrom d.depth ns := by
  induction ns generalizing d s with
  | nil => rfl
  | cons n ns ih =>
      rw [depthFrom, List.foldl_cons, ← visit_depth source n d s]
      exact ih _ _

/-- **Every element of a replay keeps to its layout.** -/
theorem depths_emissions (source : Option (Source σ)) (ns : List Node) (d : Decompiler) (s : σ) :
    (emissions source ns d s).map (·.map (·.depth)) =
      (placed d.depth ns).map (depthsAt source.isSome) := by
  induction ns generalizing d s with
  | nil => rfl
  | cons n ns ih =>
      rw [emissions, placed, List.map_cons, List.map_cons, ih, visit_depth, visit_lines,
        List.drop_left, depthsAt, ← depths_elementLines source d.scope n ⟨d.cache, s⟩,
        List.map_map, List.map_map]
      rfl

/-- The depths of all the lines of a replay from a cleared decompiler. -/
theorem depths_replay (source : Option (Source σ)) (ns : List Node) (d : Decompiler)
    (primary : Option Template) (s : σ) :
    (replay source ns (d.start primary) s).1.lines.map (·.depth) =
      (placed 0 ns).flatMap (depthsAt source.isSome) := by
  have hstart : (d.start primary).lines = [] := rfl
  have hdepth : (d.start primary).depth = 0 := rfl
  rw [replay_lines, hstart, List.nil_append, List.map_flatten, depths_emissions, hdepth,
    List.flatMap_def]

end Decompiler

/-! ### Passes -/

/-- **Two passes have the same layout.**  Take documents over which some pass succeeds, and any
templates that can be read.  Whatever two sources answer, and whatever the decompilers have cached,
the lines are as many and as deep as the elements say; without a source exactly the lines of table
operations and calls are missing. -/
theorem indents_independent_of_metadata {ρ σ τ υ : Type} {source₀ : Option (Source ρ)}
    {events : List Bytes} {template₀ : Bytes} {d₀ : Decompiler} {s₀ : ρ} {r₀ : Decompiled}
    (h₀ : (Decompiler.decompile source₀ events template₀ d₀ s₀).1 = .ok r₀)
    {template template' template'' : Bytes} {primary primary' primary'' : Option Template}
    (ht : Decompiler.readTemplate template = .ok primary)
    (ht' : Decompiler.readTemplate template' = .ok primary')
    (ht'' : Decompiler.readTemplate template'' = .ok primary'')
    (source : Source σ) (source' : Source τ) (d d' d'' : Decompiler) (s : σ) (s' : τ) (s'' : υ) :
    ∃ r r' r'' : Decompiled,
      (Decompiler.decompile (some source) events template d s).1 = .ok r ∧
      (Decompiler.decompile (some source') events template' d' s').1 = .ok r' ∧
      (Decompiler.decompile none events template'' d'' s'').1 = .ok r'' ∧
      r.lines.map (·.depth) = r'.lines.map (·.depth) ∧
      r.lines.map (·.depth) =
        (placed 0 (topLevel events)).flatMap (fun e => e.1.layout.map (e.2 + ·)) ∧
      r''.lines.map (·.depth) =
        ((placed 0 (topLevel events)).filter fun e => !e.1.needsSource).flatMap
          (fun e => e.1.layout.map (e.2 + ·)) := by
  obtain ⟨_, key, -, hk, -, -⟩ := Decompiler.decompile_ok h₀
  refine ⟨_, _, _, Decompiler.decompile_of_readable ht hk (some source) d s,
    Decompiler.decompile_of_readable ht' hk (some source') d' s',
    Decompiler.decompile_of_readable ht'' hk none d'' s'', ?_⟩
  have hfull : depthsAt true = fun e => e.1.layout.map (e.2 + ·) := funext depthsAt_true
  simp only [Decompiler.depths_replay, Option.isSome_some, Option.isSome_none,
    flatMap_depthsAt_false, hfull, and_self]

/-- A source that fails whatever it is asked. -/
def Source.failing : Source Unit where
  template _ _ := (.error .cancelled, ())
  indexes _ _ := (.error .cancelled, ())
  titles _ _ := (.error .cancelled, ())
  functionObject _ _ := (.error .cancelled, ())

/-- A source that answers whatever it is asked, always the same. -/
def Source.answering (t : Template) : Source Unit where
  template _ _ := (.ok (some t), ())
  indexes _ _ := (.ok (some [⟨1, some ["A"]⟩]), ())
  titles items _ := (.ok (Dictionary.ofList (items.map (·, "title"))), ())
  functionObject _ _ := (.ok "B1", ())

/-- A blank document, one that opens a block, and one that closes it. -/
def blockEvents : List Bytes :=
  [[],
    "<E szEventSpecKey='K'><GBRCRIT lpszCritDesc='a'><CRE_NODE/></GBRCRIT>".toUTF8.toList ++
      "<GBRBF><ERPARAM/><ERPARAM/></GBRBF></E>".toUTF8.toList,
    "<E szEventSpecKey='L'><GBREndIf/></E>".toUTF8.toList]

/-- A block with a call, over a source that fails and one that answers. -/
theorem indents_independent_of_metadata_block :
    ∃ r r' r'' : Decompiled,
      (Decompiler.decompile (some Source.failing) blockEvents [] {} ()).1 = .ok r ∧
      (Decompiler.decompile (some (Source.answering (.empty "D2" ""))) blockEvents [0] {} ()).1 =
        .ok r' ∧
      (Decompiler.decompile (none : Option (Source Unit)) blockEvents [] {} ()).1 = .ok r'' ∧
      r.lines.map (·.depth) = [0, 1, 2, 2, 0] ∧
      r'.lines.map (·.depth) = [0, 1, 2, 2, 0] ∧
      r''.lines.map (·.depth) = [0, 0] := by
  obtain ⟨hk, hw, hw'⟩ : (Decompiler.readEvents 0 blockEvents).1.toOption = some "K" ∧
      (placed 0 (topLevel blockEvents)).flatMap (fun e => e.1.layout.map (e.2 + ·)) =
        [0, 1, 2, 2, 0] ∧
      ((placed 0 (topLevel blockEvents)).filter fun e => !e.1.needsSource).flatMap
        (fun e => e.1.layout.map (e.2 + ·)) = [0, 0] := by
    decide +kernel
  have ht : Decompiler.readTemplate [] = .ok none := rfl
  have ht' : Decompiler.readTemplate [0] = .ok none := rfl
  obtain ⟨r, r', r'', h, h', h'', he, hl, hl'⟩ :=
    indents_independent_of_metadata
      (Decompiler.decompile_of_readable ht (Except.eq_ok_of_toOption hk)
        (none : Option (Source Unit)) {} ())
      ht ht' ht Source.failing (Source.answering (.empty "D2" "")) {} {} {} () () ()
  exact ⟨r, r', r'', h, h', h'', hl.trans hw, he ▸ hl.trans hw, hl'.trans hw'⟩

end EventRules
