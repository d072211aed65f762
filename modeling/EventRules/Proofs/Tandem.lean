/-
**Two runs side by side.**

Many properties of the decompiler compare two runs over the same elements: with another cache,
another source, another template.  Two lookups run *in tandem* if, whenever they start from related
shelves, they return related results and stop at related shelves.  Lookups are built from a handful
of questions by sequencing, so it is enough to know that these questions are answered alike; this
module carries that through every element, every replay and every pass.

The results of the questions need not be equal.  Titles only have to be the same for the data items
that were asked for, and a missing title is as good as an empty one.

Main definitions:

* `Tandem` — two lookups that keep a relation between their shelves;
* `SameTitles`, `SourceTandem`, `SourcesTandem` — sources that answer alike;
* `ElementTandem` — an element whose questions are answered alike;
* `PassTandem` — two decompilers that show the same.

Main results:

* `Tandem.bind`, `Tandem.mapM` — tandems are closed under sequencing;
* `ElementTandem.elementLines` — **the same answers give the same lines**;
* `PassTandem.visit`, `PassTandem.replay` — the same for one element and for many;
* `decompile_tandem`, `decompile_tandem_of_templates` — the same for a whole pass.
-/

import EventRules.Proofs.Reading
import EventRules.Proofs.Tree

set_option relaxedAutoImplicit false
set_option autoImplicit false

namespace EventRules

variable {σ τ α β γ δ : Type} {R : Shelf σ → Shelf τ → Prop}

/-! ### Lookups in tandem -/

/-- **Two lookups in tandem**: from shelves related by `R` they come to results related by `V` and
to shelves related by `R`. -/
def Tandem (R : Shelf σ → Shelf τ → Prop) (V : α → β → Prop) (m : Lookup σ α)
    (m' : Lookup τ β) : Prop :=
  ∀ p q, R p q → V (m p).1 (m' q).1 ∧ R (m p).2 (m' q).2

namespace Tandem

/-- A lookup runs in tandem with itself from the same shelf. -/
theorem refl {V : α → α → Prop} (h : ∀ a, V a a) (m : Lookup σ α) : Tandem Eq V m m := by
  rintro p _ rfl
  exact ⟨h _, rfl⟩

theorem pure {V : α → β → Prop} {a : α} {b : β} (h : V a b) :
    Tandem R V (pure a : Lookup σ α) (pure b : Lookup τ β) :=
  fun _ _ hpq => ⟨h, hpq⟩

theorem bind {V : α → β → Prop} {W : γ → δ → Prop} {m : Lookup σ α} {m' : Lookup τ β}
    {f : α → Lookup σ γ} {f' : β → Lookup τ δ} (h : Tandem R V m m')
    (hf : ∀ a b, V a b → Tandem R W (f a) (f' b)) : Tandem R W (m >>= f) (m' >>= f') := by
  intro p q hpq
  obtain ⟨hv, hr⟩ := h p q hpq
  exact hf _ _ hv _ _ hr

/-- Lookups for the items of a list are made one after the other. -/
theorem mapM {f : α → Lookup σ β} {f' : α → Lookup τ β} {xs : List α}
    (h : ∀ x ∈ xs, Tandem R Eq (f x) (f' x)) : Tandem R Eq (xs.mapM f) (xs.mapM f') := by
  induction xs with
  | nil =>
      rw [List.mapM_nil, List.mapM_nil]
      exact .pure rfl
  | cons x xs ih =>
      rw [List.mapM_cons, List.mapM_cons]
      refine .bind (h x List.mem_cons_self) ?_
      rintro y _ rfl
      refine .bind (ih fun x hx => h x (List.mem_cons_of_mem _ hx)) ?_
      rintro ys _ rfl
      exact .pure rfl

end Tandem

/-! ### Questions -/

/-- What is used of the answer about the indexes of a table: the key columns of one of them. -/
def keyColumnsIn (id : Int) (answer : Except Failure (Option (List TableIndex))) : List String :=
  (((answer.toOption.join.getD []).find? (·.id == id)).bind (·.keyColumns)).getD []

/-- Indexes are not asked for unless their id is a number. -/
theorem indexKeys_of_none (source : Source σ) (table : String) {index : String}
    (h : Numeral.strict? index = none) : indexKeys source table index = pure [] := by
  funext p
  unfold indexKeys
  rw [h]
  rfl

theorem indexKeys_eq {source : Source σ} {table index : String} {id : Int}
    (h : Numeral.strict? index = some id) (p : Shelf σ) :
    indexKeys source table index p =
      (keyColumnsIn id (source.indexes table p.source).1,
        { p with source := (source.indexes table p.source).2 }) := by
  unfold indexKeys
  rw [h]
  rcases source.indexes table p.source with ⟨_ | indexes, s⟩
  · rfl
  · cases indexes with
    | none => rfl
    | some indexes => rfl

/-- No titles are asked for if there are no items. -/
theorem itemTitles_of_isEmpty (source : Source σ) {items : List String} (h : items.isEmpty = true) :
    itemTitles source items = pure [] := by
  funext p
  unfold itemTitles
  rw [if_pos h]
  rfl

/-- A failed question about titles is as good as an answer without any. -/
theorem itemTitles_eq {source : Source σ} {items : List String} (h : items.isEmpty = false)
    (p : Shelf σ) :
    itemTitles source items p =
      ((source.titles items p.source).1.toOption.getD [],
        { p with source := (source.titles items p.source).2 }) := by
  unfold itemTitles
  rw [if_neg (by simp [h])]
  rcases source.titles items p.source with ⟨_ | titles, s⟩
  · rfl
  · rfl

/-- What is used of the answer about a business function; its template stands in for it. -/
def moduleIn (template : String) (answer : Except Failure String) : String :=
  if answer.toOption.getD "" = "" then template else answer.toOption.getD ""

theorem functionModule_eq (source : Source σ) (template : String) (p : Shelf σ) :
    functionModule source template p =
      (moduleIn template (source.functionObject template p.source).1,
        { p with source := (source.functionObject template p.source).2 }) := by
  unfold functionModule
  rcases source.functionObject template p.source with ⟨_ | object, s⟩
  · rfl
  · by_cases ho : object = ""
    · subst ho
      rfl
    · simp [moduleIn, Except.toOption, ho]

/-- Nothing is named by no name. -/
theorem namedTemplate_empty (source : Option (Source σ)) (scope : Scope) :
    namedTemplate source scope "" = pure none := by
  funext p
  unfold namedTemplate
  rw [if_pos rfl]
  rfl

/-- The rule's own template is not looked up anywhere. -/
theorem namedTemplate_of_owns (source : Option (Source σ)) {scope : Scope} {name : String}
    (hn : name ≠ "") (ho : scope.owns name = true) :
    namedTemplate source scope name = pure scope.primary := by
  funext p
  unfold namedTemplate
  rw [if_neg hn, if_pos ho]
  rfl

/-- The template of a name that is not the rule's own is what the cache answers. -/
theorem namedTemplate_eq {source : Option (Source σ)} {scope : Scope} {name : String}
    (hn : name ≠ "") (ho : scope.owns name = false) (p : Shelf σ) :
    namedTemplate source scope name p =
      ((p.cache.getOrLoad name (loadTemplate source name) p.source).1.toOption.join,
        ⟨(p.cache.getOrLoad name (loadTemplate source name) p.source).2.1,
          (p.cache.getOrLoad name (loadTemplate source name) p.source).2.2⟩) := by
  unfold namedTemplate
  rw [if_neg hn, if_neg (by simp [ho])]
  rcases p.cache.getOrLoad name (loadTemplate source name) p.source with ⟨_ | t, rest⟩
  · rfl
  · rfl

/-! ### Sources that answer alike -/

/-- The same titles, as far as they are shown once these items were asked for. -/
def SameTitles (items : List String) (titles titles' : Dictionary String) : Prop :=
  ∀ item, item = "" ∨ item ∈ items → (titles.get? item).getD "" = (titles'.get? item).getD ""

/-- **Two sources that answer alike** whatever is asked besides templates. -/
structure SourceTandem (R : Shelf σ → Shelf τ → Prop) (source : Source σ)
    (source' : Source τ) : Prop where
  /-- The same key columns. -/
  indexKeys : ∀ table index,
    Tandem R Eq (indexKeys source table index) (indexKeys source' table index)
  /-- The same titles. -/
  itemTitles : ∀ items,
    Tandem R (SameTitles items) (itemTitles source items) (itemTitles source' items)
  /-- The same modules. -/
  functionModule : ∀ template,
    Tandem R Eq (functionModule source template) (functionModule source' template)

/-- Two sources that answer alike, or none on both sides. -/
inductive SourcesTandem (R : Shelf σ → Shelf τ → Prop) :
    Option (Source σ) → Option (Source τ) → Prop
  | absent : SourcesTandem R none none
  | present {source : Source σ} {source' : Source τ} (h : SourceTandem R source source') :
      SourcesTandem R (some source) (some source')

theorem SourcesTandem.refl (source : Option (Source σ)) : SourcesTandem Eq source source := by
  cases source with
  | none => exact .absent
  | some src =>
      refine .present ⟨fun table index => ?_, fun items => ?_, fun template => ?_⟩
      · exact Tandem.refl (fun _ => rfl) _
      · exact Tandem.refl (fun _ _ _ => rfl) _
      · exact Tandem.refl (fun _ => rfl) _

/-- **An element whose questions are answered alike**: those about the variables and members below
it and, if it is a call, the one about the template of what it calls. -/
structure ElementTandem (R : Shelf σ → Shelf τ → Prop) (source : Option (Source σ))
    (source' : Option (Source τ)) (scope scope' : Scope) (n : Node) : Prop where
  /-- The sources answer alike. -/
  sources : SourcesTandem R source source'
  /-- The variables below the element have the same declarations. -/
  lookups : ∀ m ∈ n.descendants, OperandKind.ofElement m.name = .eventVariable →
    scope.vars.resolve? (m.attr ["idVariable"]) = scope'.vars.resolve? (m.attr ["idVariable"])
  /-- The members below the element are resolved alike. -/
  member : ∀ m ∈ n.descendants, OperandKind.ofElement m.name = .member →
    Tandem R Eq (member? source scope m) (member? source' scope' m)
  /-- The template of a call is the same. -/
  callee : ElementKind.ofName n.name = .call →
    Tandem R Eq (namedTemplate source scope (n.attr ["szTmplName"]))
      (namedTemplate source' scope' (n.attr ["szTmplName"]))

namespace ElementTandem

variable {source : Option (Source σ)} {source' : Option (Source τ)} {scope scope' : Scope}
  {n : Node}

/-! ### Operands -/

theorem member_of_inside (h : ElementTandem R source source' scope scope' n) {c m : Node}
    (hc : c ∈ n.descendants) (hm : (Operand.inside (some c)).node = some m)
    (hk : (Operand.inside (some c)).kind = .member) :
    Tandem R Eq (member? source scope m) (member? source' scope' m) := by
  have hmem : m ∈ n.descendants :=
    Node.descendants_subset hc (Operand.mem_descendants_of_inside hm)
  rw [Operand.kind_inside hm] at hk
  exact h.member m hmem hk

theorem variable_of_inside (h : ElementTandem R source source' scope scope' n) {c m : Node}
    (hc : c ∈ n.descendants) (hm : (Operand.inside (some c)).node = some m)
    (hk : (Operand.inside (some c)).kind = .eventVariable) :
    scope.vars.resolve? (m.attr ["idVariable"]) = scope'.vars.resolve? (m.attr ["idVariable"]) := by
  have hmem : m ∈ n.descendants :=
    Node.descendants_subset hc (Operand.mem_descendants_of_inside hm)
  rw [Operand.kind_inside hm] at hk
  exact h.lookups m hmem hk

theorem operandItem (h : ElementTandem R source source' scope scope' n) {c : Option Node}
    (hc : ∀ m ∈ c, m ∈ n.descendants) :
    Tandem R Eq (operandItem source scope (Operand.inside c))
      (operandItem source' scope' (Operand.inside c)) := by
  cases c with
  | none => exact .pure rfl
  | some c =>
      unfold EventRules.operandItem
      split
      · rename_i m hk hm
        refine .bind (h.member_of_inside (hc c rfl) hm hk) ?_
        rintro item _ rfl
        exact .pure rfl
      · rename_i m hk hm
        rw [variableItem, h.variable_of_inside (hc c rfl) hm hk]
        exact .pure rfl
      · exact .pure rfl

theorem resolveOperand (h : ElementTandem R source source' scope scope' n) {c : Option Node}
    (hc : ∀ m ∈ c, m ∈ n.descendants) (fallback : String) (decode : Bool) :
    Tandem R Eq (resolveOperand source scope (Operand.inside c) fallback decode)
      (resolveOperand source' scope' (Operand.inside c) fallback decode) := by
  cases c with
  | none => exact .pure rfl
  | some c =>
      unfold EventRules.resolveOperand
      split
      · rename_i m hk hm
        refine .bind (h.member_of_inside (hc c rfl) hm hk) ?_
        rintro item _ rfl
        cases item with
        | none => exact .pure rfl
        | some item => exact .pure rfl
      · rename_i m hk hm
        rw [h.variable_of_inside (hc c rfl) hm hk]
        split
        · exact .pure rfl
        · exact .pure rfl
      all_goals exact .pure rfl

theorem parameterLabel (h : ElementTandem R source source' scope scope' n) {p : Node}
    (hp : p ∈ n.descendants) :
    Tandem R Eq (parameterLabel source scope (Operand.inside (some p)))
      (parameterLabel source' scope' (Operand.inside (some p))) := by
  refine h.resolveOperand ?_ _ _
  rintro m ⟨rfl⟩
  exact hp

/-! ### Assignments and conditions -/

theorem assignmentTarget (h : ElementTandem R source source' scope scope' n) (text : String) :
    Tandem R Eq (assignmentTarget source scope (Operand.inside (n.child? "ObjTo")) text)
      (assignmentTarget source' scope' (Operand.inside (n.child? "ObjTo")) text) := by
  refine .bind (h.operandItem fun m hm => Node.mem_descendants_of_child? hm) ?_
  rintro item _ rfl
  split
  · exact .pure rfl
  · exact .pure rfl

theorem assignmentValue (h : ElementTandem R source source' scope scope' n) (text : String) :
    Tandem R Eq (assignmentValue source scope (Operand.inside (n.child? "ObjFrom")) text)
      (assignmentValue source' scope' (Operand.inside (n.child? "ObjFrom")) text) := by
  unfold EventRules.assignmentValue
  split
  · exact .pure rfl
  · refine .bind (h.operandItem fun m hm => Node.mem_descendants_of_child? hm) ?_
    rintro item _ rfl
    split
    · exact .pure rfl
    · exact .pure rfl

theorem assignmentText (h : ElementTandem R source source' scope scope' n) :
    Tandem R Eq (assignmentText source scope n) (assignmentText source' scope' n) := by
  refine .bind (h.assignmentTarget _) ?_
  rintro left _ rfl
  refine .bind (h.assignmentValue _) ?_
  rintro right _ rfl
  exact .pure rfl

theorem conditionText (h : ElementTandem R source source' scope scope' n) (block : BlockKeyword)
    (clause : String) {node : Node} (hn : node ∈ n.descendants) :
    Tandem R Eq (conditionText source scope block clause node)
      (conditionText source' scope' block clause node) := by
  have below (name : String) : ∀ m ∈ node.child? name, m ∈ n.descendants := fun m hm =>
    Node.descendants_subset hn (Node.mem_descendants_of_child? hm)
  unfold EventRules.conditionText
  dsimp only
  split
  · exact .pure rfl
  · refine .bind (h.resolveOperand (below _) _ _) ?_
    rintro subject _ rfl
    refine .bind (h.resolveOperand (below _) _ _) ?_
    rintro predicate _ rfl
    exact .pure rfl

theorem conditionLines (h : ElementTandem R source source' scope scope' n) :
    Tandem R Eq (conditionLines source scope n) (conditionLines source' scope' n) := by
  refine .mapM ?_
  rintro ⟨clause, node⟩ hc
  have hn : node ∈ n.descendants := Node.mem_descendants_of_findAll (List.of_mem_zip hc).2
  refine .bind (h.conditionText _ _ hn) ?_
  rintro text _ rfl
  exact .pure rfl

/-! ### Table operations and calls -/

theorem tableHeader {src : Source σ} {src' : Source τ} (h : SourceTandem R src src') (n : Node) :
    Tandem R Eq (tableHeader src n) (tableHeader src' n) := by
  unfold EventRules.tableHeader
  dsimp only
  split
  · exact .pure rfl
  · refine .bind (h.indexKeys _ _) ?_
    rintro keys _ rfl
    cases keys with
    | nil => exact .pure rfl
    | cons key keys => exact .pure rfl

/-- A parameter shows the title of its own data item only. -/
theorem tableParameterText {src : Source σ} {src' : Source τ}
    (h : ElementTandem R (some src) (some src') scope scope' n) {p : Node}
    (hp : p ∈ n.descendants) {titles titles' : Dictionary String}
    (ht : (titles.get? (parameterItem p)).getD "" = (titles'.get? (parameterItem p)).getD "") :
    Tandem R Eq (tableParameterText src scope titles p)
      (tableParameterText src' scope' titles' p) := by
  refine .bind (h.parameterLabel hp) ?_
  rintro label _ rfl
  dsimp only
  rw [ht]
  exact .pure rfl

theorem tableLines {src : Source σ} {src' : Source τ} (hs : SourceTandem R src src')
    (h : ElementTandem R (some src) (some src') scope scope' n) :
    Tandem R Eq (tableLines src scope n) (tableLines src' scope' n) := by
  refine .bind (tableHeader hs n) ?_
  rintro header _ rfl
  refine .bind (hs.itemTitles _) fun titles titles' ht => ?_
  refine .bind (.mapM fun p hp => ?_) ?_
  · -- the item of a parameter is either empty or among those asked for
    have hitem : parameterItem p = "" ∨ parameterItem p ∈
        ((n.findAll "GBRParam").map parameterItem).filter (· != "") := by
      by_cases he : parameterItem p = ""
      · exact .inl he
      · exact .inr (List.mem_filter.2 ⟨List.mem_map_of_mem hp, by simpa using he⟩)
    refine .bind (h.tableParameterText (Node.mem_descendants_of_findAll hp) (ht _ hitem)) ?_
    rintro text _ rfl
    exact .pure rfl
  · rintro lines _ rfl
    exact .pure rfl

theorem callParameterText {src : Source σ} {src' : Source τ}
    (h : ElementTandem R (some src) (some src') scope scope' n) (callee : Option Template)
    {p : Node} (hp : p ∈ n.descendants) :
    Tandem R Eq (callParameterText src scope callee p)
      (callParameterText src' scope' callee p) := by
  refine .bind (h.parameterLabel hp) ?_
  rintro label _ rfl
  exact .pure rfl

theorem callLines {src : Source σ} {src' : Source τ} (hs : SourceTandem R src src')
    (h : ElementTandem R (some src) (some src') scope scope' n)
    (hk : ElementKind.ofName n.name = .call) :
    Tandem R Eq (callLines src scope n) (callLines src' scope' n) := by
  refine .bind (hs.functionModule _) ?_
  rintro object _ rfl
  refine .bind (h.callee hk) ?_
  rintro callee _ rfl
  refine .bind (.mapM fun p hp => ?_) ?_
  · refine .bind (h.callParameterText callee (Node.mem_descendants_of_findAll hp)) ?_
    rintro text _ rfl
    exact .pure rfl
  · rintro lines _ rfl
    exact .pure rfl

/-- **The same answers give the same lines.** -/
theorem elementLines (h : ElementTandem R source source' scope scope' n) :
    Tandem R Eq (elementLines source scope n) (elementLines source' scope' n) := by
  unfold EventRules.elementLines
  cases hk : ElementKind.ofName n.name with
  | assignment =>
      refine .bind h.assignmentText ?_
      rintro text _ rfl
      exact .pure rfl
  | condition => exact h.conditionLines
  | tableOperation =>
      cases h.sources with
      | absent => exact .pure rfl
      | present hs => exact h.tableLines hs
  | call =>
      cases h.sources with
      | absent => exact .pure rfl
      | present hs => exact h.callLines hs hk
  | _ => exact .pure rfl

end ElementTandem

/-! ### Passes -/

/-- **Two decompilers that show the same**: they have produced the same lines, stand at the same
depth and know the same variables.  Their templates may differ, but stay what they are. -/
structure PassTandem (R : Shelf σ → Shelf τ → Prop) (primary primary' : Option Template)
    (x : Decompiler × σ) (y : Decompiler × τ) : Prop where
  /-- The same lines. -/
  lines : x.1.lines = y.1.lines
  /-- The same depth. -/
  depth : x.1.depth = y.1.depth
  /-- The same variables. -/
  vars : x.1.scope.vars = y.1.scope.vars
  /-- The first decompiler's own template. -/
  primary_left : x.1.scope.primary = primary
  /-- The second decompiler's own template. -/
  primary_right : y.1.scope.primary = primary'
  /-- Related shelves. -/
  shelves : R ⟨x.1.cache, x.2⟩ ⟨y.1.cache, y.2⟩

/-- The questions of an element are answered alike, whatever variables have been declared. -/
def QuestionsTandem (R : Shelf σ → Shelf τ → Prop) (source : Option (Source σ))
    (source' : Option (Source τ)) (primary primary' : Option Template) (n : Node) : Prop :=
  ∀ vars, ElementTandem R source source' ⟨primary, vars⟩ ⟨primary', vars⟩ n

namespace PassTandem

variable {source : Option (Source σ)} {source' : Option (Source τ)}
  {primary primary' : Option Template}

/-- One element keeps two decompilers together. -/
theorem visit {n : Node} (hn : QuestionsTandem R source source' primary primary' n)
    {x : Decompiler × σ} {y : Decompiler × τ} (h : PassTandem R primary primary' x y) :
    PassTandem R primary primary' (Decompiler.visit source n x.1 x.2)
      (Decompiler.visit source' n y.1 y.2) := by
  -- the two scopes differ in the template only, as the questions allow
  have hx : x.1.scope = ⟨primary, x.1.scope.vars⟩ := by rw [← h.primary_left]
  have hy : y.1.scope = ⟨primary', x.1.scope.vars⟩ := by rw [← h.primary_right, h.vars]
  obtain ⟨hlines, hshelf⟩ := (hn x.1.scope.vars).elementLines _ _ h.shelves
  rw [← hx, ← hy] at hlines hshelf
  refine ⟨?_, ?_, ?_, h.primary_left, h.primary_right, hshelf⟩
  · rw [Decompiler.visit_lines, Decompiler.visit_lines, h.lines, h.depth, hlines]
  · rw [Decompiler.visit_depth, Decompiler.visit_depth, h.depth]
  · rw [Decompiler.visit_scope, Decompiler.visit_scope, h.vars]

/-- **So does a whole replay.** -/
theorem replay {ns : List Node}
    (hns : ∀ n ∈ ns, QuestionsTandem R source source' primary primary' n)
    {x : Decompiler × σ} {y : Decompiler × τ} (h : PassTandem R primary primary' x y) :
    PassTandem R primary primary' (Decompiler.replay source ns x.1 x.2)
      (Decompiler.replay source' ns y.1 y.2) := by
  induction ns generalizing x y with
  | nil => exact h
  | cons n ns ih =>
      exact ih (fun m hm => hns m (List.mem_cons_of_mem _ hm)) (h.visit (hns n List.mem_cons_self))

/-- At the start of a pass nothing of what was before is left. -/
theorem start {d d' : Decompiler} {s : σ} {s' : τ} (h : R ⟨d.cache, s⟩ ⟨d'.cache, s'⟩)
    (primary primary' : Option Template) :
    PassTandem R primary primary' (d.start primary, s) (d'.start primary', s') :=
  ⟨rfl, rfl, rfl, rfl, rfl, h⟩

end PassTandem

/-- **Two passes over the same documents.**  If the questions of all the elements read are answered
alike, the results are the same, and the shelves stay related even if the passes fail. -/
theorem decompile_tandem {source : Option (Source σ)} {source' : Option (Source τ)}
    {events : List Bytes} {template : Bytes}
    (hns : ∀ primary, ∀ n ∈ (Decompiler.readEvents 0 events).2,
      QuestionsTandem R source source' primary primary n)
    {d d' : Decompiler} {s : σ} {s' : τ} (h : R ⟨d.cache, s⟩ ⟨d'.cache, s'⟩) :
    (Decompiler.decompile source events template d s).1 =
        (Decompiler.decompile source' events template d' s').1 ∧
      R ⟨(Decompiler.decompile source events template d s).2.1.cache,
          (Decompiler.decompile source events template d s).2.2⟩
        ⟨(Decompiler.decompile source' events template d' s').2.1.cache,
          (Decompiler.decompile source' events template d' s').2.2⟩ := by
  cases ht : Decompiler.readTemplate template with
  | error e =>
      rw [Decompiler.decompile_eq_of_template_error ht,
        Decompiler.decompile_eq_of_template_error ht]
      exact ⟨rfl, h⟩
  | ok primary =>
      rw [Decompiler.decompile_eq_of_template ht, Decompiler.decompile_eq_of_template ht]
      have hreplay := (PassTandem.start h primary primary).replay (hns primary)
      refine ⟨?_, hreplay.shelves⟩
      rw [hreplay.lines]

/-- **Two passes with templates of their own.**  If the questions of all the elements read are
answered alike, the passes have the same key and the same lines, or the same failure. -/
theorem decompile_tandem_of_templates {source : Option (Source σ)} {source' : Option (Source τ)}
    {events : List Bytes} {template template' : Bytes} {primary primary' : Option Template}
    (ht : Decompiler.readTemplate template = .ok primary)
    (ht' : Decompiler.readTemplate template' = .ok primary')
    (hns : ∀ n ∈ (Decompiler.readEvents 0 events).2,
      QuestionsTandem R source source' primary primary' n)
    (d d' : Decompiler) {s : σ} {s' : τ} (h : R ⟨d.cache, s⟩ ⟨d'.cache, s'⟩) :
    (Decompiler.decompile source events template d s).1.map (fun r => (r.key, r.lines)) =
        (Decompiler.decompile source' events template' d' s').1.map (fun r => (r.key, r.lines)) ∧
      R ⟨(Decompiler.decompile source events template d s).2.1.cache,
          (Decompiler.decompile source events template d s).2.2⟩
        ⟨(Decompiler.decompile source' events template' d' s').2.1.cache,
          (Decompiler.decompile source' events template' d' s').2.2⟩ := by
  have hreplay := (PassTandem.start h primary primary').replay hns
  rw [Decompiler.decompile_eq_of_template ht, Decompiler.decompile_eq_of_template ht']
  refine ⟨?_, hreplay.shelves⟩
  cases (Decompiler.readEvents 0 events).1 with
  | error e => rfl
  | ok key => simp [Except.map, hreplay.lines]

end EventRules
