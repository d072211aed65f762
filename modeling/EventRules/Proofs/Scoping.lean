/-
**Variables are scoped to what came before.**

An element finds the declarations that stand before it in its pass, in whatever document, and of two
declarations of one id it finds the later one.  It finds none that stand behind it, and none of an
earlier pass.

Elements read the variables in many ways, through the sides of conditions and assignments and
through the parameters of table operations and calls, but always by looking up the id that some
variable below the element refers to.  Two tables that give the same answers to these questions
therefore give the same lines, and so it is enough to know what a single lookup finds.

Main definitions:

* `lastDeclaration?` — **the last declaration of an id** among elements;
* `Variables.Knows` — a table that knows the variables below an element;
* `ScopedTo` — an element that is shown with the declarations among other elements, and no others.

Main results:

* `Decompiler.resolve?_replay` — what a lookup finds after a replay;
* `Decompiler.linesWith_congr` — the same answers give the same lines;
* `variables_scoped` — **each element of a pass is scoped to what came before it**.
-/

import EventRules.Proofs.Layout
import EventRules.Proofs.Tandem

set_option relaxedAutoImplicit false
set_option autoImplicit false

namespace EventRules

/-! ### Declarations -/

/-- The variable that an element of a rule declares. -/
def Node.declares? (n : Node) : Option EventVariable :=
  if n.name = "GBRVAR" then declaration? n else none

/-- **The last declaration of an id** among elements. -/
def lastDeclaration? (before : List Node) (id : String) : Option EventVariable :=
  (before.filterMap Node.declares?).reverse.find? (·.id == id)

theorem lastDeclaration?_cons (n : Node) (before : List Node) (id : String) :
    lastDeclaration? (n :: before) id =
      (lastDeclaration? before id).or (n.declares?.filter (·.id == id)) := by
  unfold lastDeclaration?
  cases hn : n.declares? with
  | none => rw [List.filterMap_cons_none hn, Option.filter_none, Option.or_none]
  | some v =>
      rw [List.filterMap_cons_some hn, List.reverse_cons, List.find?_append, List.find?_singleton,
        Option.filter_some]

namespace Decompiler

theorem varsAfter_eq (n : Node) (vars : Variables) :
    varsAfter n vars = n.declares?.elim vars vars.declare := by
  unfold varsAfter Node.declares?
  by_cases hn : n.name = "GBRVAR"
  · have hkind : ElementKind.ofName n.name = .declaration := hn ▸ rfl
    rw [hkind, if_pos hn]
    cases declaration? n <;> rfl
  · have hkind : ElementKind.ofName n.name ≠ .declaration := by
      unfold ElementKind.ofName
      split <;> simp_all
    rw [if_neg hn]
    split
    · exact absurd ‹_› hkind
    · rfl

theorem resolve?_varsAfter (n : Node) (vars : Variables) (id : String) :
    (varsAfter n vars).resolve? id =
      (n.declares?.filter (·.id == id)).or (vars.resolve? id) := by
  rw [varsAfter_eq]
  cases n.declares? with
  | none => rfl
  | some v =>
      by_cases hid : v.id = id
      · subst hid
        rw [Option.elim_some, Variables.resolve?_declare_self, Option.filter_some, beq_self_eq_true]
        rfl
      · have hne : (v.id == id) = false := by simpa using hid
        rw [Option.elim_some, Variables.resolve?_declare_of_ne vars v (Ne.symm hid),
          Option.filter_some, hne]
        rfl

section

variable {σ : Type} (source : Option (Source σ))

/-- **What a lookup finds after a replay**: the last declaration among the elements replayed, or
else what it found before. -/
theorem resolve?_replay (before : List Node) (d : Decompiler) (s : σ) (id : String) :
    (replay source before d s).1.scope.vars.resolve? id =
      (lastDeclaration? before id).or (d.scope.vars.resolve? id) := by
  induction before generalizing d s with
  | nil => rfl
  | cons n before ih =>
      have hstep := ih (visit source n d s).1 (visit source n d s).2
      rw [visit_scope, resolve?_varsAfter, ← Option.or_assoc, ← lastDeclaration?_cons] at hstep
      exact hstep

theorem lines_prefix_replay (ns : List Node) (d : Decompiler) (s : σ) :
    d.lines <+: (replay source ns d s).1.lines := by
  rw [replay_lines]
  exact List.prefix_append _ _

/-! ### Lines and the variables they show -/

/-- The lines that an element adds if the declared variables are `vars`. -/
def linesWith (vars : Variables) (n : Node) (d : Decompiler) (s : σ) : List Line :=
  (elementLines source ⟨d.scope.primary, vars⟩ n ⟨d.cache, s⟩).1.map fun l =>
    ⟨n.standsAt d.depth + l.depth, l.text⟩

theorem visit_linesWith (n : Node) (d : Decompiler) (s : σ) :
    (visit source n d s).1.lines = d.lines ++ linesWith source d.scope.vars n d s :=
  visit_lines source n d s

end

end Decompiler

/-- Members and calls are resolved without looking at the variables. -/
theorem ElementTandem.of_variables {σ : Type} (source : Option (Source σ))
    (primary : Option Template) {vars vars' : Variables} {n : Node}
    (h : ∀ v ∈ n.descendants, OperandKind.ofElement v.name = .eventVariable →
      vars.resolve? (v.attr ["idVariable"]) = vars'.resolve? (v.attr ["idVariable"])) :
    ElementTandem Eq source source ⟨primary, vars⟩ ⟨primary, vars'⟩ n where
  sources := .refl source
  lookups := h
  member _ _ _ := Tandem.refl (fun _ => rfl) _
  callee _ := Tandem.refl (fun _ => rfl) _

/-- **A table that knows the variables below an element** as they were declared among others. -/
def Variables.Knows (vars : Variables) (before : List Node) (n : Node) : Prop :=
  ∀ v ∈ n.descendants, v.name = "DSOBJVariable" →
    vars.resolve? (v.attr ["idVariable"]) = lastDeclaration? before (v.attr ["idVariable"])

theorem OperandKind.name_of_eventVariable {name : String}
    (h : OperandKind.ofElement name = .eventVariable) : name = "DSOBJVariable" := by
  unfold OperandKind.ofElement at h
  split at h
  all_goals first | rfl | cases h

/-- **The same answers give the same lines.** -/
theorem Decompiler.linesWith_congr {σ : Type} (source : Option (Source σ)) {vars vars' : Variables}
    {before : List Node} {n : Node} (h : vars.Knows before n) (h' : vars'.Knows before n)
    (d : Decompiler) (s : σ) :
    linesWith source vars n d s = linesWith source vars' n d s := by
  have hsame : ElementTandem Eq source source ⟨d.scope.primary, vars⟩ ⟨d.scope.primary, vars'⟩ n :=
    .of_variables source _ fun v hv hk => by
      have hname := OperandKind.name_of_eventVariable hk
      rw [h v hv hname, h' v hv hname]
  have hlines := (hsame.elementLines ⟨d.cache, s⟩ ⟨d.cache, s⟩ rfl).1
  rw [linesWith, linesWith, hlines]

/-! ### Lookups -/

/-- A variable behind the qualifier of a text; the text itself without a declaration. -/
def variableLabel (declared : Option EventVariable) (fallback : String) : String :=
  declared.elim fallback fun v => withQualifier fallback v.displayName

/-- The data item of a variable; without a declaration that gives one, the item that the reference
gives. -/
def variableAlias (declared : Option EventVariable) (reference : Node) : String :=
  if declared.elim "" (·.dataItem) = "" then reference.attr ["szDict"]
  else declared.elim "" (·.dataItem)

section

variable {σ : Type} (source : Option (Source σ)) (scope : Scope) (v : Node)

theorem resolveOperand_eventVariable (fallback : String) (decode : Bool) (shelf : Shelf σ) :
    resolveOperand source scope ⟨.eventVariable, some v⟩ fallback decode shelf =
      (variableLabel (scope.vars.resolve? (v.attr ["idVariable"])) fallback, shelf) := by
  unfold resolveOperand
  dsimp only
  cases scope.vars.resolve? (v.attr ["idVariable"]) <;> rfl

theorem operandItem_eventVariable (shelf : Shelf σ) :
    operandItem source scope ⟨.eventVariable, some v⟩ shelf =
      (variableAlias (scope.vars.resolve? (v.attr ["idVariable"])) v, shelf) := by
  have halias : variableItem scope.vars v =
      variableAlias (scope.vars.resolve? (v.attr ["idVariable"])) v := by
    unfold variableItem variableAlias
    split
    · rename_i hitem
      rw [if_pos hitem]
    · rename_i hitem
      rw [if_neg hitem]
  rw [← halias]
  rfl

end

/-! ### Passes -/

/-- **An element that is shown with the declarations among other elements, and no others.**  The
replay of the others has come to `reached`, and `lines` are those of the whole pass. -/
structure ScopedTo {σ : Type} (source : Option (Source σ)) (before : List Node) (n : Node)
    (reached : Decompiler × σ) (lines : List Line) : Prop where
  /-- The label of a variable is that of its last declaration, or else the text as it is. -/
  label : ∀ v fallback decode shelf,
    resolveOperand source reached.1.scope ⟨.eventVariable, some v⟩ fallback decode shelf =
      (variableLabel (lastDeclaration? before (v.attr ["idVariable"])) fallback, shelf)
  /-- The data item of a variable is that of its last declaration, or else that of the reference. -/
  item : ∀ v shelf,
    operandItem source reached.1.scope ⟨.eventVariable, some v⟩ shelf =
      (variableAlias (lastDeclaration? before (v.attr ["idVariable"])) v, shelf)
  /-- The pass has the lines reached so far, and then those of the element with any table that
  knows the last declarations. -/
  lines : ∀ vars : Variables, vars.Knows before n →
    reached.1.lines ++ Decompiler.linesWith source vars n reached.1 reached.2 <+: lines

/-- **In a replay that begins without variables each element is scoped to what came before it.** -/
theorem scopedTo_replay {σ : Type} (source : Option (Source σ)) (before : List Node) (n : Node)
    (after : List Node) {start : Decompiler} (hvars : start.scope.vars = []) (s : σ) :
    ScopedTo source before n (Decompiler.replay source before start s)
      (Decompiler.replay source (before ++ n :: after) start s).1.lines := by
  -- no variable is known at the start, so that only the elements before count
  have hresolve : ∀ id, (Decompiler.replay source before start s).1.scope.vars.resolve? id =
      lastDeclaration? before id := fun id => by
    have hnone : start.scope.vars.resolve? id = none := by
      rw [hvars]
      rfl
    rw [Decompiler.resolve?_replay, hnone, Option.or_none]
  refine ⟨fun v fallback decode shelf => ?_, fun v shelf => ?_, fun vars hknows => ?_⟩
  · rw [resolveOperand_eventVariable, hresolve]
  · rw [operandItem_eventVariable, hresolve]
  · rw [Decompiler.linesWith_congr source hknows (fun v _ _ => hresolve _),
      ← Decompiler.visit_linesWith, Decompiler.replay_append]
    exact Decompiler.lines_prefix_replay source after _ _

/-- **Each element of a pass is scoped to what came before it.**  The pass is one replay of the
top-level elements of its documents; of the decompiler only the cached templates matter.  What is
reached after some of the elements is part of what is reached after all of them, and a pass over
documents with some of the elements gives some of the lines, whatever passes came before it. -/
theorem variables_scoped {σ : Type} {source : Option (Source σ)} {events : List Bytes}
    {template : Bytes} {d : Decompiler} {s : σ} {r : Decompiled}
    (h : (Decompiler.decompile source events template d s).1 = .ok r) :
    ∃ primary, Decompiler.readTemplate template = .ok primary ∧
      let start : Decompiler := { cache := d.cache, scope := { primary := primary } }
      r.lines = (Decompiler.replay source (topLevel events) start s).1.lines ∧
      (∀ before n after, topLevel events = before ++ n :: after →
        ScopedTo source before n (Decompiler.replay source before start s) r.lines) ∧
      (∀ shown, shown <+: topLevel events →
        (Decompiler.replay source shown start s).1.lines <+: r.lines) ∧
      ∀ (events' : List Bytes) (d' : Decompiler) (r' : Decompiled), d'.cache = d.cache →
        (Decompiler.decompile source events' template d' s).1 = .ok r' →
        topLevel events' <+: topLevel events → r'.lines <+: r.lines := by
  obtain ⟨primary, key, hprimary, -, hr, -⟩ := Decompiler.decompile_ok h
  refine ⟨primary, hprimary, ?_⟩
  intro start
  have hlines : r.lines = (Decompiler.replay source (topLevel events) start s).1.lines :=
    congrArg Decompiled.lines hr
  have hprefix : ∀ shown, shown <+: topLevel events →
      (Decompiler.replay source shown start s).1.lines <+: r.lines := by
    rintro shown ⟨rest, hrest⟩
    rw [hlines, ← hrest, Decompiler.replay_append]
    exact Decompiler.lines_prefix_replay source rest _ _
  refine ⟨hlines, fun before n after hsplit => ?_, hprefix,
    fun events' d' r' hcache h' hevents => ?_⟩
  · rw [hlines, hsplit]
    exact scopedTo_replay source before n after rfl s
  · obtain ⟨primary', key', hprimary', -, hr', -⟩ := Decompiler.decompile_ok h'
    obtain rfl : primary = primary' := Except.ok.inj (hprimary.symm.trans hprimary')
    have hstart' : d'.start primary = start := by
      rw [Decompiler.start, Decompiler.reset, hcache]
    rw [hr', hstart']
    exact hprefix _ hevents

/-- Two documents.  The first declares a variable; the second has an assignment to it of another
variable, which is declared only then. -/
def scopedEvents : List Bytes :=
  ["<E szEventSpecKey='K'><GBRVAR idVariable='1' szDict='X'/></E>".toUTF8.toList,
    "<E szEventSpecKey='L'><GBRASSIGN textString='a=b'><ObjTo><DSOBJVariable ".toUTF8.toList ++
      "idVariable='1'/></ObjTo><ObjFrom><DSOBJVariable idVariable='2'/></ObjFrom>".toUTF8.toList ++
      "</GBRASSIGN><GBRVAR idVariable='2' szDict='Y'/></E>".toUTF8.toList]

/-- A decompiler that has seen a declaration of the other variable in an earlier pass. -/
def scopedDecompiler : Decompiler :=
  { scope := { vars := Variables.declare [] ⟨"2", "old", "Z"⟩ } }

/-- The target is shown with its declaration, the value without any. -/
theorem variables_scoped_assignment :
    ∃ r : Decompiled,
      (Decompiler.decompile (none : Option (Source Unit)) scopedEvents [] scopedDecompiler ()).1 =
        .ok r ∧
      r.lines = [⟨0, "a [X] = b"⟩] ∧
      ∀ before n after, topLevel scopedEvents = before ++ n :: after →
        ∃ reached : Decompiler × Unit, ScopedTo none before n reached r.lines := by
  have hpass : (Decompiler.decompile (none : Option (Source Unit)) scopedEvents []
      scopedDecompiler ()).1.toOption.map (·.lines) = some [⟨0, "a [X] = b"⟩] := by
    decide +kernel
  obtain ⟨r, hr, hlines⟩ := Option.map_eq_some_iff.1 hpass
  obtain ⟨primary, -, -, hscoped, -⟩ := variables_scoped (Except.eq_ok_of_toOption hr)
  refine ⟨r, Except.eq_ok_of_toOption hr, hlines, fun before n after hsplit => ?_⟩
  exact ⟨_, hscoped before n after hsplit⟩

end EventRules
