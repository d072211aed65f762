/-
**Only statements break lines.**

Everything that a rule says should be on a line of its own.  Comments lose their line breaks on the
way, but statements are decoded and shown as they are, and a statement with a line break makes two
lines of text.  It is the only way: if nothing else that a rule shows has a line break or a
reference to one, then a line with a line break in it is a statement.

The argument follows the lookups.  A lookup *yields* results with a property if it does so from
every shelf whose templates are on one line, and leaves such a shelf behind; this goes through
sequencing, and every formatter is a sequence of a few questions.

Main definitions:

* `Yields` — lookups whose results have a property;
* `OneLines` — lines without line breaks;
* `CleanPass` — **a pass in which only comments and statements may have line breaks**.

Main results:

* `Tidy.elementLines_iff` — the lines of an element;
* `Decompiler.oneLines_replay_iff` — the lines of a replay;
* `one_line_iff_statements` — **a line has a line break only if a statement has one**;
* `decompileEvent_breaks_line` — **a statement with a line break makes two lines of text**.
-/

import EventRules.Proofs.Conditions
import EventRules.Proofs.Dictionaries
import EventRules.Proofs.History
import EventRules.Proofs.Tidiness

set_option relaxedAutoImplicit false
set_option autoImplicit false

namespace EventRules

open EventRules.Text (trimChars)

variable {σ α β : Type}

/-! ### Lines -/

/-- Lines whose texts are on one line. -/
def OneLines (lines : List Line) : Prop :=
  ∀ l ∈ lines, Text.OneLine l.text.toList

instance (lines : List Line) : Decidable (OneLines lines) :=
  inferInstanceAs (Decidable (∀ l ∈ lines, Text.OneLine l.text.toList))

/-! ### Lookups -/

/-- **A lookup whose result has a property**, from every shelf with templates on one line, and which
leaves such a shelf behind. -/
def Yields (V : α → Prop) (m : Lookup σ α) : Prop :=
  ∀ p : Shelf σ, p.cache.OneLine → V (m p).1 ∧ (m p).2.cache.OneLine

/-- A lookup whose result is a text on one line. -/
abbrev YieldsLine (m : Lookup σ String) : Prop :=
  Yields (fun text : String => Text.OneLine text.toList) m

namespace Yields

variable {V W : α → Prop} {m : Lookup σ α}

theorem mono (h : Yields V m) (hv : ∀ a, V a → W a) : Yields W m := fun p hp =>
  ⟨hv _ (h p hp).1, (h p hp).2⟩

theorem pure {a : α} (h : V a) : Yields V (pure a : Lookup σ α) := fun _ hp => ⟨h, hp⟩

theorem bind {W : β → Prop} {f : α → Lookup σ β} (h : Yields V m)
    (hf : ∀ a, V a → Yields W (f a)) : Yields W (m >>= f) := by
  intro p hp
  obtain ⟨hv, hc⟩ := h p hp
  exact hf _ hv _ hc

theorem mapM {W : β → Prop} {f : α → Lookup σ β} {xs : List α} (h : ∀ x ∈ xs, Yields W (f x)) :
    Yields (fun ys => ∀ y ∈ ys, W y) (xs.mapM f) := by
  induction xs with
  | nil =>
      rw [List.mapM_nil]
      exact .pure (List.forall_mem_nil W)
  | cons x xs ih =>
      rw [List.forall_mem_cons] at h
      rw [List.mapM_cons]
      refine h.1.bind fun y hy => (ih h.2).bind fun ys hys => ?_
      exact .pure (List.forall_mem_cons.2 ⟨hy, hys⟩)

end Yields

/-! ### Questions -/

/-- Using a cache on one line, and filling it with templates on one line, keeps it so. -/
theorem TemplateCache.OneLine.getOrLoad {c : TemplateCache} (h : c.OneLine)
    {load : σ → Except Failure (Option Template) × σ}
    (hload : ∀ s t, (load s).1 = .ok (some t) → t.OneLine) (name : String) (s : σ) :
    (∀ t ∈ (c.getOrLoad name load s).1.toOption.join, t.OneLine) ∧
      (c.getOrLoad name load s).2.1.OneLine := by
  cases hc : (c.get name).1 with
  | some t =>
      -- found: it was there before
      rw [getOrLoad_of_some hc]
      have hpeek : c.entries.peek? (catalogKey name) = some t := (get_fst c name).symm.trans hc
      have ht : t.OneLine := h _ (Lru.mem_of_peek? hpeek)
      refine ⟨?_, fun e he => h e (Lru.mem_of_mem_get he)⟩
      rintro _ ⟨rfl⟩
      exact ht
  | none =>
      -- not found: the only new entry is what was loaded
      rw [getOrLoad_of_none hc]
      rcases hl : load s with ⟨_ | _ | t, s'⟩
      · exact ⟨by simp [keepLoaded, Except.toOption], h⟩
      · exact ⟨by simp [keepLoaded, Except.toOption], h⟩
      · have ht : t.OneLine := hload s t (by rw [hl])
        refine ⟨?_, fun e he => ?_⟩
        · rintro _ ⟨rfl⟩
          exact ht
        · rcases Lru.mem_of_mem_insert he with rfl | he
          · exact ht
          · exact h e he

namespace Source.OneLine

variable {src : Source σ}

theorem indexKeys (h : src.OneLine) (table index : String) :
    Yields (fun keys : List String => ∀ key ∈ keys, Text.OneLine key.toList)
      (indexKeys src table index) := by
  intro p hp
  cases hi : Numeral.strict? index with
  | none =>
      rw [indexKeys_of_none _ _ hi]
      exact ⟨List.forall_mem_nil _, hp⟩
  | some id =>
      rw [indexKeys_eq hi]
      refine ⟨?_, hp⟩
      rcases ha : (src.indexes table p.source).1 with _ | _ | indexes
      · exact List.forall_mem_nil _
      · exact List.forall_mem_nil _
      · change ∀ key ∈ ((indexes.find? (·.id == id)).bind (·.keyColumns)).getD [],
          Text.OneLine key.toList
        cases hk : (indexes.find? (·.id == id)).bind (·.keyColumns) with
        | none => exact List.forall_mem_nil _
        | some keys =>
            obtain ⟨i, hfound, hkeys⟩ := Option.bind_eq_some_iff.1 hk
            exact h.keyColumns table p.source indexes ha i (List.mem_of_find?_eq_some hfound)
              keys hkeys

theorem itemTitles (h : src.OneLine) (items : List String) :
    Yields (fun titles : Dictionary String => ∀ e ∈ titles, Text.OneLine e.2.toList)
      (itemTitles src items) := by
  intro p hp
  cases hi : items.isEmpty with
  | true =>
      rw [itemTitles_of_isEmpty _ hi]
      exact ⟨List.forall_mem_nil _, hp⟩
  | false =>
      rw [itemTitles_eq hi]
      refine ⟨?_, hp⟩
      cases ha : (src.titles items p.source).1 with
      | error e => exact List.forall_mem_nil _
      | ok titles => exact h.titles items p.source titles ha

theorem functionModule (h : src.OneLine) {template : String}
    (ht : Text.OneLine template.toList) : YieldsLine (functionModule src template) := by
  intro p hp
  rw [functionModule_eq]
  refine ⟨?_, hp⟩
  dsimp only [moduleIn]
  split
  · exact ht
  · cases ha : (src.functionObject template p.source).1 with
    | error e => exact Text.oneLine_nil
    | ok object => exact h.functionObject template p.source object ha

end Source.OneLine

namespace Tidy

variable {source : Option (Source σ)} {scope : Scope}

theorem loadTemplate (h : Tidy source scope) (name : String) (s : σ) (t : Template)
    (ht : (loadTemplate source name s).1 = .ok (some t)) : t.OneLine := by
  cases source with
  | none => cases ht
  | some src => exact (h.source src rfl).template name s t ht

theorem namedTemplate (h : Tidy source scope) (name : String) :
    Yields (fun t? => ∀ t ∈ t?, t.OneLine) (namedTemplate source scope name) := by
  intro p hp
  by_cases hn : name = ""
  · subst hn
    exact ⟨by simp [EventRules.namedTemplate], hp⟩
  cases ho : scope.owns name with
  | true =>
      rw [namedTemplate_of_owns _ hn ho]
      exact ⟨h.scope.primary, hp⟩
  | false =>
      rw [namedTemplate_eq hn ho]
      exact hp.getOrLoad (h.loadTemplate name) name p.source

theorem member? (h : Tidy source scope) (n : Node) :
    Yields (fun i? => ∀ i ∈ i?, i.OneLine) (member? source scope n) := by
  unfold EventRules.member?
  split
  · exact .pure (Template.oneLine_get? h.scope.primary _)
  · exact (h.namedTemplate _).bind fun t? ht => .pure (Template.oneLine_get? ht _)

theorem resolve? (h : Tidy source scope) (id : String) :
    ∀ v ∈ scope.vars.resolve? id, v.OneLine := by
  intro v hv
  exact h.scope.vars _ (Dictionary.mem_of_lookup hv)

/-! ### Operands as they are shown -/

theorem resolveOperand (h : Tidy source scope) {op : Operand} (ho : op.Clean) {fallback : String}
    (hf : Text.OneLine fallback.toList) {decode : Bool}
    (hd : op.kind = .literal → decode = true → Text.Seamless fallback.toList) :
    YieldsLine (resolveOperand source scope op fallback decode) := by
  have hnaming (n : Node) (hn : op.node = some n) : Text.OneLine (n.attr namingAttrs).toList :=
    ho.attr hn (by decide +kernel)
  unfold EventRules.resolveOperand
  split
  · refine (h.member? _).bind fun i? hi => ?_
    split
    · exact .pure (oneLine_withQualifier hf (hi _ rfl).label)
    · exact .pure hf
  · split
    · next v hv => exact .pure (oneLine_withQualifier hf (h.resolve? _ v hv).1)
    · exact .pure hf
  · next hk =>
      split
      · next hdecode => exact .pure (hd hk hdecode).oneLine_unescape
      · exact .pure hf
  · next n _ hn => exact .pure (oneLine_qualifiedText (by decide +kernel) hf (hnaming n hn))
  · next n _ hn => exact .pure (oneLine_qualifiedText (by decide +kernel) hf (hnaming n hn))
  · exact .pure hf

theorem parameterLabel (h : Tidy source scope) {op : Operand} (ho : op.Clean) :
    YieldsLine (parameterLabel source scope op) :=
  h.resolveOperand ho ho.oneLine_rawText fun hk _ => ho.seamless_rawText hk

theorem operandItem (h : Tidy source scope) {op : Operand} (ho : op.Clean) :
    YieldsLine (operandItem source scope op) := by
  unfold EventRules.operandItem
  split
  · refine (h.member? _).bind fun i? hi => .pure ?_
    cases i? with
    | none => exact Text.oneLine_nil
    | some i => exact (hi i rfl).2
  · next n _ hn =>
      refine .pure ?_
      unfold variableItem
      split
      · exact ho.attr hn (by decide +kernel)
      · cases hv : scope.vars.resolve? (n.attr ["idVariable"]) with
        | none => exact Text.oneLine_nil
        | some v => exact (h.resolve? _ v hv).2
  · exact .pure Text.oneLine_nil

/-! ### Assignments and conditions -/

theorem assignmentTarget (h : Tidy source scope) {op : Operand} (ho : op.Clean) {target : String}
    (ht : Text.OneLine target.toList) : YieldsLine (assignmentTarget source scope op target) := by
  refine (h.operandItem ho).bind fun item hitem => ?_
  split
  · exact .pure (by simp [ht])
  · exact .pure (by simp [ht, hitem])

theorem assignmentValue (h : Tidy source scope) {op : Operand} (ho : op.Clean) {value : String}
    (hv : Text.Seamless value.toList) : YieldsLine (assignmentValue source scope op value) := by
  unfold EventRules.assignmentValue
  split
  · exact .pure hv.oneLine_unescape
  · refine (h.operandItem ho).bind fun item hitem => ?_
    split
    · exact .pure hv.oneLine
    · exact .pure (by simp [hv.oneLine, hitem])

theorem assignmentText (h : Tidy source scope) {n : Node} (hn : n.AllClean) :
    YieldsLine (assignmentText source scope n) := by
  have htext : Text.Seamless (n.attr ["textString"]).toList :=
    hn.self.decodedAttr (by decide +kernel)
  have htarget := (htext.mono (Text.cut_fst_isInfix '=' _)).trim
  have hvalue := (htext.mono (Text.cut_snd_isInfix '=' _)).trim
  refine (h.assignmentTarget (Operand.clean_inside (hn.child? _)) htarget.oneLine).bind
    fun left hleft => ?_
  refine (h.assignmentValue (Operand.clean_inside (hn.child? _)) hvalue).bind fun right hright => ?_
  exact .pure (by simp [hleft, hright])

theorem conditionText (h : Tidy source scope) (block : BlockKeyword) {clause : String}
    (hc : Text.Seamless clause.toList) {node : Node} (hn : node.AllClean) :
    YieldsLine (conditionText source scope block clause node) := by
  have hsides (name : String) := Operand.clean_inside (hn.child? name)
  unfold EventRules.conditionText
  dsimp only
  split
  · exact .pure hc.oneLine
  · next before after hsplit =>
      -- both sides are pieces of the clause, so the right one may be decoded
      obtain ⟨m, hparts⟩ := Phrase.parts_of_split? hsplit
      have hbefore : Text.Seamless (trimChars before) := hc.mono
        ((Text.trimChars_isInfix before).trans ⟨[], m ++ after, by simp [hparts]⟩)
      have hafter : Text.Seamless (trimChars after) := hc.mono
        ((Text.trimChars_isInfix after).trans ⟨before ++ m, [], by simp [hparts]⟩)
      obtain ⟨w, hw, rest, hword, -, hrest, -⟩ :=
        splitKeyword_cases block (Text.isTrimmed_trimChars before)
      have hw' : Text.OneLine w := by
        have hall : ∀ w ∈ clauseKeywords, Text.OneLine w := by decide +kernel
        exact hall w hw
      have hphrase : Text.OneLine (Comparison.ofCode (node.attr ["eCompType"])).phrase.toList := by
        have hall : ∀ c : Comparison, Text.OneLine c.phrase.toList := by
          intro c
          cases c <;> decide +kernel
        exact hall _
      rw [hword]
      refine (h.resolveOperand (hsides _) ?_ (by simp)).bind fun subject hsubject =>
        (h.resolveOperand (hsides _) ?_ ?_).bind fun predicate hpredicate => .pure ?_
      · rw [String.toList_ofList]
        exact hbefore.oneLine.mono hrest.subset
      · rw [String.toList_ofList]
        exact hafter.oneLine
      · rw [String.toList_ofList]
        exact fun _ _ => hafter
      · refine Text.OneLine.mono ?_ (dropTrailingSpaces_subset _)
        simp [hw', hphrase, hsubject, hpredicate]

/-- Lines at one depth, each with a text that is looked up. -/
theorem mapM_lines (k : Nat) {text : α → Lookup σ String} {xs : List α}
    (h : ∀ x ∈ xs, YieldsLine (text x)) :
    Yields OneLines (xs.mapM fun x => (do return ⟨k, ← text x⟩ : Lookup σ Line)) :=
  .mapM fun x hx => (h x hx).bind fun _ htext => .pure htext

theorem conditionLines (h : Tidy source scope) {n : Node} (hn : n.AllClean)
    (hc : ∀ clause ∈ Criteria.split (n.attr ["lpszCritDesc"]), Text.Seamless clause.toList) :
    Yields OneLines (conditionLines source scope n) := by
  refine mapM_lines 0 ?_
  rintro ⟨clause, node⟩ hmem
  obtain ⟨hclause, hnode⟩ := List.of_mem_zip hmem
  exact h.conditionText _ (hc clause hclause) (hn.findAll _ node hnode)

/-! ### Table operations and calls -/

theorem tableHeader {src : Source σ} (h : Tidy (some src) scope) {n : Node} (hn : n.AllClean) :
    YieldsLine (tableHeader src n) := by
  have htable := oneLine_tableName hn
  have hoperation : Text.OneLine (operationName (n.attr ["operation"])).toList :=
    oneLine_operationName (hn.self.attr (by decide +kernel))
  have hindex : Text.OneLine (trimChars (n.attr ["indexId"]).toList) :=
    (hn.self.attr (by decide +kernel)).mono (Text.trimChars_isInfix _).subset
  unfold EventRules.tableHeader
  dsimp only
  split
  · exact .pure (by simp [htable, hoperation])
  · refine ((h.source src rfl).indexKeys _ _).bind fun keys hkeys => ?_
    split
    · exact .pure (by simp [htable, hoperation])
    · have hjoin := Text.oneLine_join (by decide +kernel : Text.OneLine ", ".toList) hkeys
      exact .pure (by simp [htable, hoperation, hindex, hjoin])

theorem tableParameterText {src : Source σ} (h : Tidy (some src) scope)
    {titles : Dictionary String} (ht : ∀ e ∈ titles, Text.OneLine e.2.toList) {p : Node}
    (hp : p.AllClean) : YieldsLine (tableParameterText src scope titles p) := by
  have hitem := oneLine_parameterItem hp
  have harrow : Text.OneLine (tableArrow (p.attr ["wCopyWord"])).toList := by
    unfold tableArrow
    split <;> decide +kernel
  have htitle : Text.OneLine ((titles.get? (parameterItem p)).getD "").toList := by
    cases hg : titles.get? (parameterItem p) with
    | none => exact Text.oneLine_nil
    | some title => exact ht _ (Dictionary.mem_of_lookup hg)
  refine (h.parameterLabel (Operand.clean_inside_some hp)).bind fun label hlabel => .pure ?_
  split
  · simp [hlabel, harrow, hitem]
  · simp [hlabel, harrow, hitem, htitle]

theorem tableLines {src : Source σ} (h : Tidy (some src) scope) {n : Node} (hn : n.AllClean) :
    Yields OneLines (tableLines src scope n) := by
  refine (h.tableHeader hn).bind fun header hheader => ?_
  refine ((h.source src rfl).itemTitles _).bind fun titles htitles => ?_
  refine (mapM_lines 1 fun p hp => h.tableParameterText htitles (hn.findAll _ p hp)).bind
    fun lines hlines => ?_
  exact .pure (List.forall_mem_cons.2 ⟨hheader, hlines⟩)

theorem callParameterText {src : Source σ} (h : Tidy (some src) scope) {callee : Option Template}
    (hc : ∀ t ∈ callee, t.OneLine) {p : Node} (hp : p.AllClean) :
    YieldsLine (callParameterText src scope callee p) := by
  have harrow : Text.OneLine (callArrow (p.attr ["wCopyWord"])).toList := by
    unfold callArrow
    split <;> decide +kernel
  refine (h.parameterLabel (Operand.clean_inside_some hp)).bind fun text htext => .pure ?_
  cases hi : callee.bind (·.get? (p.attr ["idItem"])) with
  | none =>
      have hid : Text.OneLine (p.attr ["idItem"]).toList :=
        hp.self.attr (by decide +kernel)
      simp [htext, harrow, hid]
  | some i => simp [htext, harrow, (Template.oneLine_get? hc _ i hi).label]

theorem callLines {src : Source σ} (h : Tidy (some src) scope) {n : Node} (hn : n.AllClean) :
    Yields OneLines (callLines src scope n) := by
  have hfunction : Text.OneLine (n.attr ["szFuncName"]).toList :=
    hn.self.attr (by decide +kernel)
  have htemplate : Text.OneLine (n.attr ["szTmplName"]).toList :=
    hn.self.attr (by decide +kernel)
  refine ((h.source src rfl).functionModule htemplate).bind fun object hobject => ?_
  refine (h.namedTemplate _).bind fun callee hcallee => ?_
  refine (mapM_lines 1 fun p hp => h.callParameterText hcallee (hn.findAll _ p hp)).bind
    fun lines hlines => ?_
  exact .pure (List.forall_mem_cons.2 ⟨by simp [hfunction, hobject], hlines⟩)

/-! ### All elements -/

/-- **The lines of an element without line breaks**, statements apart. -/
theorem elementLines (h : Tidy source scope) {n : Node} (hn : n.Presentable)
    (hk : ElementKind.ofName n.name ≠ .statement) :
    Yields OneLines (elementLines source scope n) := by
  have hsingle {text : String} (ht : Text.OneLine text.toList) :
      Yields OneLines (pure [⟨0, text⟩] : Lookup σ (List Line)) :=
    .pure (List.forall_mem_singleton.2 ht)
  have hnone : Yields OneLines (pure [] : Lookup σ (List Line)) := .pure (List.forall_mem_nil _)
  unfold EventRules.elementLines
  cases hkind : ElementKind.ofName n.name with
  | statement => exact absurd hkind hk
  | assignment => exact (h.assignmentText hn.clean).bind fun _ => hsingle
  | comment => exact hsingle (oneLine_stripLineBreaks _)
  | condition => exact h.conditionLines hn.clean (hn.clauses hkind)
  | tableOperation =>
      cases source with
      | none => exact hnone
      | some src => exact h.tableLines hn.clean
  | call =>
      cases source with
      | none => exact hnone
      | some src => exact h.callLines hn.clean
  | endIf => exact hsingle (by decide +kernel)
  | endWhile => exact hsingle (by decide +kernel)
  | otherwise => exact hsingle (by decide +kernel)
  | declaration => exact hnone
  | ignored => exact hnone

/-- **The lines of any element**: they have line breaks only if it is a statement that has some. -/
theorem elementLines_iff (h : Tidy source scope) {n : Node} (hn : n.Presentable) :
    Yields (fun lines => OneLines lines ↔ n.StatementOnLine)
      (EventRules.elementLines source scope n) := by
  by_cases hk : ElementKind.ofName n.name = .statement
  · unfold EventRules.elementLines
    rw [hk]
    exact .pure (by simp [OneLines, Node.StatementOnLine, hk])
  · refine (h.elementLines hn hk).mono fun lines hlines => ?_
    exact iff_of_true hlines fun hstatement => absurd hstatement hk

/-! ### Replays -/

/-- A declaration on one line leaves a scope on one line behind. -/
theorem varsAfter (h : Tidy source scope) {n : Node} (hn : n.AllClean) :
    Tidy source ⟨scope.primary, Decompiler.varsAfter n scope.vars⟩ := by
  refine ⟨h.source, h.scope.primary, ?_⟩
  unfold Decompiler.varsAfter
  split
  · next v _ hv =>
      intro e he
      rcases Dictionary.mem_insert he with rfl | he
      · exact oneLine_declaration? hn v hv
      · exact h.scope.vars e he
  · exact h.scope.vars

end Tidy

namespace Decompiler

variable {source : Option (Source σ)}

/-- **The lines of a replay** have line breaks only if there were some, or a statement has some. -/
theorem oneLines_replay_iff {ns : List Node} (hns : ∀ n ∈ ns, n.Presentable) {d : Decompiler}
    (h : Tidy source d.scope) (hc : d.cache.OneLine) (s : σ) :
    OneLines (replay source ns d s).1.lines ↔
      OneLines d.lines ∧ ∀ n ∈ ns, n.StatementOnLine := by
  induction ns generalizing d s with
  | nil => simp [replay]
  | cons n ns ih =>
      rw [List.forall_mem_cons] at hns
      obtain ⟨hlines, hcache⟩ := h.elementLines_iff hns.1 ⟨d.cache, s⟩ hc
      have hvisit : OneLines (visit source n d s).1.lines ↔
          OneLines d.lines ∧ n.StatementOnLine := by
        rw [← hlines, visit_lines]
        simp [OneLines, or_imp, forall_and]
      -- the element may declare a variable and load templates, but none with a line break
      have htidy : Tidy source (visit source n d s).1.scope := by
        rw [visit_scope]
        exact h.varsAfter hns.1.clean
      rw [replay, List.forall_mem_cons, ← and_assoc, ← hvisit]
      exact ih hns.2 htidy hcache _

end Decompiler

/-! ### Passes -/

/-- **A pass in which only comments and statements may have line breaks.** -/
structure CleanPass (source : Option (Source σ)) (events : List Bytes) (template : Bytes)
    (d : Decompiler) : Prop where
  /-- The elements of the rule. -/
  elements : ∀ n ∈ topLevel events, n.Presentable
  /-- The template that comes with it. -/
  primary : ∀ t, Decompiler.readTemplate template = .ok (some t) → t.OneLine
  /-- The templates cached before. -/
  cache : d.cache.OneLine
  /-- What the source answers. -/
  source : ∀ src ∈ source, src.OneLine

/-- **A line has a line break only if a statement has one.**  Take a successful pass in which only
comments and statements may have line breaks.  Every line is on one line exactly if every statement
is when it is decoded; and the text is one line for each line, with as many tabs as it is deep,
exactly if no line has a line feed. -/
theorem one_line_iff_statements {source : Option (Source σ)} {events : List Bytes}
    {template : Bytes} {d : Decompiler} {s : σ} {r : Decompiled}
    (h : CleanPass source events template d)
    (hr : (d.decompile source events template s).1 = .ok r) :
    (OneLines r.lines ↔ ∀ n ∈ topLevel events, n.StatementOnLine) ∧
      (Text.splitOn '\n' r.text.toList = r.lines.map Line.body ++ [[]] ↔
        ∀ l ∈ r.lines, '\n' ∉ l.text.toList) := by
  obtain ⟨primary, key, hprimary, -, rfl, -⟩ := Decompiler.decompile_ok hr
  have htidy : Tidy source (d.start primary).scope :=
    ⟨h.source, fun t ht => h.primary t (hprimary.trans (congrArg Except.ok ht)),
      List.forall_mem_nil _⟩
  refine ⟨?_, Line.splitOn_renderAll_iff _⟩
  have hreplay := Decompiler.oneLines_replay_iff h.elements htidy h.cache s
  exact hreplay.trans (and_iff_right (List.forall_mem_nil _))

theorem Source.knowing_oneLine {t : Template} (ht : t.OneLine) : (knowing t).OneLine where
  template := by
    intro name s t' h
    by_cases hk : catalogKey name = catalogKey t.name
    · simp only [knowing, if_pos hk] at h
      cases h
      exact ht
    · simp only [knowing, if_neg hk] at h
      cases h
  keyColumns := by
    intro table s indexes h
    cases h
  titles := by
    intro items s titles h
    cases h
    exact List.forall_mem_nil _
  functionObject := by
    intro name s object h
    cases h

/-- A comment and the description of a condition with line breaks, a member of a known template,
and a statement with a reference. -/
theorem one_line_iff_statements_mixed :
    let t : Template := .ofItems "D1" "" [⟨"1", "AN8", "mnAddress", 0, ""⟩]
    let event : Bytes :=
      "<E szEventSpecKey='K'><GBRCOMMENT comment_text='a&#10;b'/>".toUTF8.toList ++
        "<GBRCRIT lpszCritDesc='If x is equal to 1&#10;'><CRE_NODE><zSubject>".toUTF8.toList ++
        "<DSOBJMember idItem='1' szTmplName='d1'/></zSubject></CRE_NODE>".toUTF8.toList ++
        "</GBRCRIT><GBRSLBF summary_text='a &amp;#60; b'/></E>".toUTF8.toList
    ∃ r, (Decompiler.decompile (some (Source.knowing t)) [event] [] {} 0).1 = .ok r ∧
      OneLines r.lines ∧ Text.splitOn '\n' r.text.toList = r.lines.map Line.body ++ [[]] := by
  intro t event
  have ht : t.OneLine := Template.oneLine_ofItems
    (List.forall_mem_singleton.2 ⟨by decide +kernel, by decide +kernel⟩) "D1" ""
  obtain ⟨hkey, helements, hstatements⟩ :
      (Decompiler.readEvents 0 [event]).1.toOption = some "K" ∧
        (∀ n ∈ topLevel [event], n.Presentable) ∧ ∀ n ∈ topLevel [event], n.StatementOnLine := by
    decide +kernel
  have htemplate : Decompiler.readTemplate [] = .ok none := rfl
  have hclean : CleanPass (some (Source.knowing t)) [event] [] {} := by
    refine ⟨helements, fun t' h => ?_, List.forall_mem_nil _, fun src hsrc => ?_⟩
    · rw [htemplate] at h
      cases h
    · obtain rfl : Source.knowing t = src := Option.some.inj hsrc
      exact Source.knowing_oneLine ht
  have hpass := Decompiler.decompile_of_readable htemplate (Except.eq_ok_of_toOption hkey)
    (some (Source.knowing t)) {} 0
  obtain ⟨hlines, htext⟩ := one_line_iff_statements hclean hpass
  have hone := hlines.2 hstatements
  exact ⟨_, hpass, hone, htext.2 fun l hl hmem => (hone l hl _ hmem).2 rfl⟩

/-- **A statement with a line break makes two lines of text.** -/
theorem decompileEvent_breaks_line :
    let event : Bytes :=
      "<E szEventSpecKey='K'><GBRSLBF summary_text='first&#10;second'/></E>".toUTF8.toList
    ∃ r, (decompileEvent (none : Option (Source Unit)) event [] ()).1 = .ok r ∧
      r.lines = [⟨0, "first\nsecond"⟩] ∧ ¬ OneLines r.lines ∧
      Text.splitOn '\n' r.text.toList = ["first".toList, "second".toList, []] := by
  intro event
  have hlines :
      (decompileEvent (none : Option (Source Unit)) event [] ()).1.toOption.map (·.lines) =
        some [⟨0, "first\nsecond"⟩] := by
    decide +kernel
  obtain ⟨r, hr, hl⟩ := Option.map_eq_some_iff.1 hlines
  refine ⟨r, Except.eq_ok_of_toOption hr, hl, ?_, ?_⟩
  · rw [hl]
    decide +kernel
  · rw [Decompiled.text, hl]
    decide +kernel

end EventRules
