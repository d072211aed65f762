/-
**Elements on one line.**

A line is put together from attributes, from the names of items and variables, and from the titles,
key columns and modules that the source answers.  An element is *clean* if none of its attributes
has a line break or a reference to one, the texts of comments and statements apart, which stand by
themselves.  The description of a condition may have line breaks as long as its clauses have none.

Whatever is taken from a clean element is then on one line, and what is decoded is seamless.

Main definitions:

* `Template.OneLine`, `Source.OneLine`, `TemplateCache.OneLine`, `Scope.OneLine`, `Tidy` — **what is
  known is on one line**;
* `Node.Clean`, `Node.AllClean`, `Node.Presentable` — **elements without line breaks**;
* `Node.StatementOnLine` — a statement that has none when it is decoded.

Main results:

* `Operand.Clean.oneLine_rawText`, `Operand.Clean.seamless_rawText` — operands that are not
  described;
* `oneLine_declaration?` — **the variable that an element declares**.
-/

import EventRules.Proofs.Breaks
import EventRules.Proofs.Indexing
import EventRules.Proofs.Reading
import EventRules.Proofs.Tree
import EventRules.Rule.Element

set_option relaxedAutoImplicit false
set_option autoImplicit false

namespace EventRules

open EventRules.Text (trimChars)

variable {σ : Type}

/-! ### What is known is on one line -/

/-- A field whose name and data item are on one line. -/
def TemplateItem.OneLine (i : TemplateItem) : Prop :=
  Text.OneLine i.name.toList ∧ Text.OneLine i.dataItem.toList

theorem TemplateItem.OneLine.label {i : TemplateItem} (h : i.OneLine) :
    Text.OneLine i.label.toList := by
  simp [TemplateItem.label, h.1, h.2]

/-- A template whose fields are on one line. -/
def Template.OneLine (t : Template) : Prop :=
  ∀ id, ∀ i ∈ t.get? id, i.OneLine

/-- A template of items that are on one line. -/
theorem Template.oneLine_ofItems {items : List TemplateItem} (h : ∀ i ∈ items, i.OneLine)
    (name description : String) : (ofItems name description items).OneLine := by
  intro id i hi
  rw [(represents_ofItems name description items).get?_eq_find? id] at hi
  exact h i (List.mem_of_find?_eq_some hi)

theorem Template.oneLine_get? {t? : Option Template} (h : ∀ t ∈ t?, t.OneLine) (id : String) :
    ∀ i ∈ t?.bind (·.get? id), i.OneLine := by
  intro i hi
  obtain ⟨t, ht, hi⟩ := Option.bind_eq_some_iff.1 hi
  exact h t ht id i hi

/-- A variable whose name and data item are on one line. -/
def EventVariable.OneLine (v : EventVariable) : Prop :=
  Text.OneLine v.displayName.toList ∧ Text.OneLine v.dataItem.toList

/-- **A source that answers on one line**, whatever it is asked and whenever. -/
structure Source.OneLine (source : Source σ) : Prop where
  /-- The templates. -/
  template : ∀ name s t, (source.template name s).1 = .ok (some t) → t.OneLine
  /-- The key columns of all indexes. -/
  keyColumns : ∀ table s indexes, (source.indexes table s).1 = .ok (some indexes) →
    ∀ i ∈ indexes, ∀ keys ∈ i.keyColumns, ∀ key ∈ keys, Text.OneLine key.toList
  /-- The titles. -/
  titles : ∀ items s titles, (source.titles items s).1 = .ok titles →
    ∀ e ∈ titles, Text.OneLine e.2.toList
  /-- The modules. -/
  functionObject : ∀ name s object, (source.functionObject name s).1 = .ok object →
    Text.OneLine object.toList

/-- The cached templates are on one line. -/
def TemplateCache.OneLine (c : TemplateCache) : Prop :=
  ∀ e ∈ c.entries.entries, e.2.OneLine

/-- The rule's own template and its variables are on one line. -/
structure Scope.OneLine (scope : Scope) : Prop where
  primary : ∀ t ∈ scope.primary, t.OneLine
  vars : ∀ e ∈ scope.vars, e.2.OneLine

/-- Sources that answer on one line, and a scope on one line. -/
structure Tidy (source : Option (Source σ)) (scope : Scope) : Prop where
  source : ∀ src ∈ source, src.OneLine
  scope : scope.OneLine

/-! ### Elements -/

/-- The attributes that may have line breaks: the texts of comments and statements, and the
descriptions of conditions, whose clauses are looked at instead. -/
def freeAttrs : List String :=
  ["summary_text", "comment_text", "lpszCritDesc"]

/-- The attributes that are decoded before they are shown, statements and conditions apart: the
texts of assignments and the values of literals. -/
def decodedAttrs : List String :=
  ["textString", "szValue", "value"]

/-- **An element without line breaks**, even when what is decoded is decoded. -/
structure Node.Clean (n : Node) : Prop where
  attrs : ∀ e ∈ n.attrs, e.1 ∉ freeAttrs → Text.OneLine e.2.toList
  decoded : ∀ e ∈ n.attrs, e.1 ∈ decodedAttrs → Text.Seamless e.2.toList
  text : Text.Seamless (trimChars n.text.toList)

theorem Node.clean_iff {n : Node} :
    n.Clean ↔ (∀ e ∈ n.attrs, e.1 ∉ freeAttrs → Text.OneLine e.2.toList) ∧
      (∀ e ∈ n.attrs, e.1 ∈ decodedAttrs → Text.Seamless e.2.toList) ∧
      Text.Seamless (trimChars n.text.toList) :=
  ⟨fun h => ⟨h.attrs, h.decoded, h.text⟩, fun h => ⟨h.1, h.2.1, h.2.2⟩⟩

instance (n : Node) : Decidable n.Clean :=
  decidable_of_iff _ Node.clean_iff.symm

/-- **An element in which none has line breaks.** -/
def Node.AllClean (n : Node) : Prop :=
  ∀ m ∈ n.inOrder, m.Clean

instance (n : Node) : Decidable n.AllClean :=
  inferInstanceAs (Decidable (∀ m ∈ n.inOrder, m.Clean))

namespace Node.AllClean

variable {n m : Node}

theorem self (h : n.AllClean) : n.Clean :=
  h n n.mem_inOrder_self

theorem of_mem (h : n.AllClean) (hm : m ∈ n.descendants) : m.AllClean := by
  have hin : m ∈ n.inOrder := by
    rw [inOrder_eq]
    exact List.mem_cons_of_mem n hm
  exact fun x hx => h x (n.inOrder_subset hin hx)

theorem child? (h : n.AllClean) (name : String) : ∀ c ∈ n.child? name, c.AllClean :=
  fun _ hc => h.of_mem (mem_descendants_of_child? hc)

theorem findAll (h : n.AllClean) (name : String) : ∀ c ∈ n.findAll name, c.AllClean :=
  fun _ hc => h.of_mem (mem_descendants_of_findAll hc)

theorem find? (h : n.AllClean) (name : String) : ∀ c ∈ n.find? name, c.AllClean := by
  intro c hc
  rw [Node.find?, search?_eq_find?] at hc
  exact h.of_mem (List.mem_of_find?_eq_some hc)

end Node.AllClean

/-- An attribute is either empty or one of those that the element has. -/
theorem Node.attr_of_attrs {P : String → Prop} {n : Node} {names : List String} (hempty : P "")
    (h : ∀ e ∈ n.attrs, e.1 ∈ names → P e.2) : P (n.attr names) := by
  induction names with
  | nil => exact hempty
  | cons name names ih =>
      have hrest := ih fun e he hmem => h e he (List.mem_cons_of_mem _ hmem)
      rw [Node.attr]
      split
      · exact hrest
      · next value _ hvalue => exact h _ (Dictionary.mem_of_lookup hvalue) List.mem_cons_self
      · exact hrest

theorem Node.Clean.attr {n : Node} (h : n.Clean) {names : List String}
    (hn : ∀ name ∈ names, name ∉ freeAttrs) : Text.OneLine (n.attr names).toList :=
  attr_of_attrs (P := fun text => Text.OneLine text.toList) Text.oneLine_nil fun e he hmem =>
    h.attrs e he (hn e.1 hmem)

theorem Node.Clean.decodedAttr {n : Node} (h : n.Clean) {names : List String}
    (hn : ∀ name ∈ names, name ∈ decodedAttrs) : Text.Seamless (n.attr names).toList :=
  attr_of_attrs (P := fun text => Text.Seamless text.toList) Text.seamless_nil fun e he hmem =>
    h.decoded e he (hn e.1 hmem)

/-- **An element that can be shown on one line**, its statement or comment apart: it is clean, and
so are the clauses if it is a condition. -/
structure Node.Presentable (n : Node) : Prop where
  /-- The element and all below it are clean. -/
  clean : n.AllClean
  /-- The clauses of a condition are clean, even if its description has line breaks. -/
  clauses : ElementKind.ofName n.name = .condition →
    ∀ clause ∈ Criteria.split (n.attr ["lpszCritDesc"]), Text.Seamless clause.toList

theorem Node.presentable_iff {n : Node} :
    n.Presentable ↔ n.AllClean ∧ (ElementKind.ofName n.name = .condition →
      ∀ clause ∈ Criteria.split (n.attr ["lpszCritDesc"]), Text.Seamless clause.toList) :=
  ⟨fun h => ⟨h.clean, h.clauses⟩, fun h => ⟨h.1, h.2⟩⟩

instance (n : Node) : Decidable n.Presentable :=
  decidable_of_iff _ Node.presentable_iff.symm

/-- If the element is a statement, then it is on one line when it is decoded. -/
def Node.StatementOnLine (n : Node) : Prop :=
  ElementKind.ofName n.name = .statement →
    Text.OneLine (Text.unescape (n.attr ["summary_text"])).toList

instance (n : Node) : Decidable n.StatementOnLine :=
  inferInstanceAs (Decidable (_ → Text.OneLine _))

/-- An operand whose element is clean. -/
def Operand.Clean (op : Operand) : Prop :=
  ∀ m ∈ op.node, m.AllClean

theorem Operand.clean_inside {container : Option Node} (h : ∀ c ∈ container, c.AllClean) :
    (Operand.inside container).Clean := by
  intro m hm
  cases container with
  | none => cases hm
  | some c => exact (h c rfl).of_mem (mem_descendants_of_inside hm)

theorem Operand.clean_inside_some {c : Node} (h : c.AllClean) : (inside (some c)).Clean :=
  clean_inside (by rintro _ ⟨rfl⟩; exact h)

theorem Operand.Clean.attr {op : Operand} (h : op.Clean) {n : Node} (hn : op.node = some n)
    {names : List String} (hnames : ∀ name ∈ names, name ∉ freeAttrs) :
    Text.OneLine (n.attr names).toList :=
  (h n hn).self.attr hnames

/-! ### Pieces of texts -/

/-- A text, or another one if it is empty. -/
theorem oneLine_orElse {text other : String} (ht : Text.OneLine text.toList)
    (ho : Text.OneLine other.toList) :
    Text.OneLine
      (match text with
        | "" => other
        | found => found).toList := by
  split
  · exact ho
  · exact ht

theorem splitQualifier_subset (text : String) :
    (splitQualifier text).1.toList ⊆ text.toList ∧
      (splitQualifier text).2.toList ⊆ text.toList := by
  unfold splitQualifier
  split
  · next a b rest h =>
      split
      · rw [h, String.toList_ofList, String.toList_ofList]
        refine ⟨by simp, fun c hc => ?_⟩
        have hrest := (List.dropWhile_suffix (· == ' ')).subset hc
        simp [hrest]
      · exact ⟨by simp, List.Subset.refl _⟩
  · exact ⟨by simp, List.Subset.refl _⟩

theorem oneLine_withQualifier {text label : String} (ht : Text.OneLine text.toList)
    (hl : Text.OneLine label.toList) : Text.OneLine (withQualifier text label).toList := by
  unfold withQualifier
  split
  · exact hl
  · have hq := ht.mono (splitQualifier_subset text).1
    simp [hq, hl]

theorem oneLine_qualifiedText {qualifier fallback : String} {n : Node}
    (hq : Text.OneLine qualifier.toList) (hf : Text.OneLine fallback.toList)
    (hn : Text.OneLine (n.attr namingAttrs).toList) :
    Text.OneLine (qualifiedText qualifier n fallback).toList := by
  have hrest := hf.mono (splitQualifier_subset fallback).2
  unfold qualifiedText
  split
  · simp [hq, hn]
  · simp [hq, hrest]

theorem oneLine_operationName {code : String} (h : Text.OneLine code.toList) :
    Text.OneLine (operationName code).toList := by
  unfold operationName
  split
  · next name hname =>
      have hnames : ∀ e ∈ operationNames, Text.OneLine e.2.toList := by decide +kernel
      exact hnames _ (Dictionary.mem_of_lookup hname)
  · rw [Text.replaceAll, String.toList_ofList]
    exact h.mono (Text.replaceChars_nil_subset _ _)

theorem oneLine_tableName {n : Node} (h : n.AllClean) : Text.OneLine (tableName n).toList := by
  have hnames : ∀ name ∈ ["szFileName", "szTable"], name ∉ freeAttrs := by decide +kernel
  refine oneLine_orElse ?_ (h.self.attr hnames)
  cases hf : n.find? "DSOBJFileIO" with
  | none => exact Text.oneLine_nil
  | some m => exact (h.find? _ m hf).self.attr hnames

theorem oneLine_parameterItem {p : Node} (h : p.AllClean) :
    Text.OneLine (parameterItem p).toList := by
  unfold parameterItem
  cases hf : p.find? "DSItem" with
  | none => exact Text.oneLine_nil
  | some m => exact (h.find? _ m hf).self.attr (by decide +kernel)

theorem oneLine_stripLineBreaks (text : String) : Text.OneLine (stripLineBreaks text).toList := by
  intro c hc
  rw [stripLineBreaks, String.toList_ofList] at hc
  simpa using (List.mem_filter.1 hc).2

theorem oneLine_declaration? {n : Node} (h : n.AllClean) :
    ∀ v ∈ declaration? n, v.OneLine := by
  have hinner : ((n.find? "DSOBJVariable").getD n).AllClean := by
    cases hf : n.find? "DSOBJVariable" with
    | none => exact h
    | some m => exact h.find? _ m hf
  have hnames : ∀ name ∈ ["szVarName", "szName"], name ∉ freeAttrs := by decide +kernel
  have hdict : ∀ name ∈ ["szDict"], name ∉ freeAttrs := by decide +kernel
  have hitem := hinner.self.attr hdict
  have hname := oneLine_orElse (h.self.attr hnames)
    (oneLine_orElse (hinner.self.attr hnames) hitem)
  intro v hv
  unfold declaration? at hv
  dsimp only at hv
  split at hv
  · cases hv
  · obtain rfl := Option.some.inj hv
    refine ⟨?_, hitem⟩
    dsimp only
    split
    · exact hname
    · simp only [String.toList_append, Text.oneLine_append]
      exact ⟨⟨⟨hname, by decide +kernel⟩, hitem⟩, by decide +kernel⟩

theorem dropTrailingSpaces_subset (text : String) :
    (dropTrailingSpaces text).toList ⊆ text.toList := by
  rw [dropTrailingSpaces, String.toList_ofList]
  intro c hc
  exact List.mem_reverse.1 ((List.dropWhile_suffix _).subset (List.mem_reverse.1 hc))

/-- The value of an inner element, without quotes. -/
theorem seamless_innerValue {n : Node} (h : n.Clean) :
    Text.Seamless
      (match n.attr ["szValue", "value"] with
        | "" => Text.trim n.text
        | v => v).toList := by
  split
  · rw [Text.toList_trim]
    exact h.text
  · exact h.decodedAttr (by decide +kernel)

theorem seamless_literalValue {n : Node} (h : n.AllClean) :
    Text.Seamless (literalValue n).toList := by
  unfold literalValue
  split
  · split
    · rw [Text.toList_trim]
      exact h.self.text
    · next inner hinner =>
        have hclean : inner.AllClean :=
          h.of_mem (Node.mem_descendants_of_mem_children (List.mem_of_mem_head? hinner))
        have hvalue := seamless_innerValue hclean.self
        dsimp only
        split
        · rw [String.toList_append, String.toList_append]
          exact hvalue.quoted
        · exact hvalue
  · exact h.self.decodedAttr (by decide +kernel)

theorem Operand.Clean.seamless_rawText {op : Operand} (h : op.Clean) (hk : op.kind = .literal) :
    Text.Seamless op.rawText.toList := by
  unfold rawText
  split
  · exact Text.seamless_nil
  · next n hn =>
      rw [hk]
      exact seamless_literalValue (h n hn)

theorem Operand.Clean.oneLine_rawText {op : Operand} (h : op.Clean) :
    Text.OneLine op.rawText.toList := by
  unfold rawText
  split
  · exact Text.oneLine_nil
  · next n hn =>
      have hattr (names : List String) (hnames : ∀ name ∈ names, name ∉ freeAttrs) :=
        h.attr hn hnames
      have hitem := hattr ["idItem"] (by decide +kernel)
      have hvariable := hattr ["idVariable"] (by decide +kernel)
      have hdict := hattr ["szDict"] (by decide +kernel)
      split
      · split
        · simp [hitem]
        · exact hdict
      · split
        · simp [hvariable]
        · simp [hdict]
      · exact (seamless_literalValue (h n hn)).oneLine
      all_goals exact hattr _ (by decide +kernel)

end EventRules
