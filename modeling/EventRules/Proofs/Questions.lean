/-
**What is asked does not depend on the answers.**

A pass asks its source four kinds of questions.  Which templates it asks for depends on what has
been asked before: a template that is cached is not asked for again, and the answers decide what is
cached.  The other three kinds depend on the documents alone.  A call asks for the module of its
function; a table operation asks for the indexes of its table if its index is a number, and then for
the titles of the data items of its parameters if there are any.  Whatever is answered, and be it a
failure, the next question is the same.

Lookups are judged by a trace.  A shelf goes through a list of questions, one step for each, and
through hits of the template cache, which ask nothing.  The trace of a sequence of lookups is that
of one lookup after that of the other; if the second asks the same whatever the first has found, the
questions that are asked are known beforehand.

Main definitions:

* `Numeral.IsInteger` — **a text that writes a whole number of 64 bits**;
* `Node.questions` — the questions about an element, those for templates left out;
* `Consults` — a trace of a shelf;
* `Asks` — a lookup that always asks the same, apart from templates.

Main results:

* `Consults.at_template` — when a template is asked for;
* `Asks.bind`, `Asks.mapM` — sequences of lookups;
* `asks_elementLines` — an element asks its questions;
* `questions_independent_of_answers` — **two passes ask the same**.
-/

import EventRules.Proofs.Caching
import EventRules.Proofs.Layout
import EventRules.Proofs.Recency
import EventRules.Proofs.Tandem

set_option relaxedAutoImplicit false
set_option autoImplicit false

namespace EventRules

/-! ### Whole numbers as text -/

namespace Numeral

/-- The number that digits write behind a sign. -/
def signedValue (sign digits : List Char) : Int :=
  if sign = ['-'] then -(digitsValue digits : Int) else digitsValue digits

/-- **A whole number of 64 bits in decimal notation**: digits, behind a sign or not. -/
def IsInteger (s : String) : Prop :=
  ∃ sign digits : List Char, s.toList = sign ++ digits ∧
    (sign = [] ∨ sign = ['-'] ∨ sign = ['+']) ∧ digits ≠ [] ∧ (∀ c ∈ digits, isDigit c = true) ∧
    least ≤ signedValue sign digits ∧ signedValue sign digits ≤ greatest

theorem readDigits_eq_exact_iff {negative : Bool} {ds : List Char} {n : Int} :
    readDigits negative ds = .exact n ↔
      ds ≠ [] ∧ (∀ c ∈ ds, isDigit c = true) ∧ least ≤ n ∧ n ≤ greatest ∧
        n = if negative then -(digitsValue ds : Int) else digitsValue ds := by
  unfold readDigits
  generalize (if negative then -(digitsValue ds : Int) else digitsValue ds) = v
  by_cases hds : ds.isEmpty || !ds.all isDigit
  · rw [if_pos hds]
    refine ⟨nofun, ?_⟩
    rintro ⟨hne, hall, -⟩
    simp [hne, List.all_eq_true.2 hall] at hds
  · rw [if_neg hds]
    have hdigits : ds ≠ [] ∧ ∀ c ∈ ds, isDigit c = true := by
      simpa [not_or, List.isEmpty_iff] using hds
    dsimp only
    split
    · refine ⟨nofun, ?_⟩
      rintro ⟨-, -, hleast, -, rfl⟩
      omega
    · split
      · refine ⟨nofun, ?_⟩
        rintro ⟨-, -, -, hgreatest, rfl⟩
        omega
      · constructor
        · rintro ⟨rfl⟩
          exact ⟨hdigits.1, hdigits.2, by omega, by omega, rfl⟩
        · rintro ⟨-, -, -, -, rfl⟩
          rfl

/-- Digits begin with neither of the signs. -/
theorem readInteger_of_digits {s : String} (h : ∀ c ∈ s.toList, isDigit c = true) :
    readInteger s = readDigits false s.toList := by
  unfold readInteger
  split
  · next ds hs => exact absurd (h '-' (hs ▸ List.mem_cons_self)) (by decide)
  · next ds hs => exact absurd (h '+' (hs ▸ List.mem_cons_self)) (by decide)
  · rfl

/-- **What is read is what is written.** -/
theorem isInteger_iff (s : String) : IsInteger s ↔ ∃ n, readInteger s = .exact n := by
  constructor
  · rintro ⟨sign, digits, hs, rfl | rfl | rfl, hne, hall, hleast, hgreatest⟩
    · rw [List.nil_append] at hs
      rw [readInteger_of_digits (hs ▸ hall), hs]
      exact ⟨_, readDigits_eq_exact_iff.2 ⟨hne, hall, hleast, hgreatest, rfl⟩⟩
    · rw [readInteger, hs]
      exact ⟨_, readDigits_eq_exact_iff.2 ⟨hne, hall, hleast, hgreatest, rfl⟩⟩
    · rw [readInteger, hs]
      exact ⟨_, readDigits_eq_exact_iff.2 ⟨hne, hall, hleast, hgreatest, rfl⟩⟩
  · rintro ⟨n, hn⟩
    unfold readInteger at hn
    split at hn
    · next ds hs =>
        obtain ⟨hne, hall, hleast, hgreatest, rfl⟩ := readDigits_eq_exact_iff.1 hn
        exact ⟨['-'], ds, hs, .inr (.inl rfl), hne, hall, hleast, hgreatest⟩
    · next ds hs =>
        obtain ⟨hne, hall, hleast, hgreatest, rfl⟩ := readDigits_eq_exact_iff.1 hn
        exact ⟨['+'], ds, hs, .inr (.inr rfl), hne, hall, hleast, hgreatest⟩
    · obtain ⟨hne, hall, hleast, hgreatest, rfl⟩ := readDigits_eq_exact_iff.1 hn
      exact ⟨[], s.toList, rfl, .inl rfl, hne, hall, hleast, hgreatest⟩

theorem isSome_strict?_iff (s : String) : (strict? s).isSome = true ↔ IsInteger s := by
  rw [isInteger_iff, strict?]
  cases readInteger s with
  | exact n => simp
  | outOfRange nearest => simp
  | malformed => simp

instance (s : String) : Decidable (IsInteger s) :=
  decidable_of_iff _ (isSome_strict?_iff s)

end Numeral

/-! ### The questions about an element -/

/-- Is it a template that is asked for? -/
def Question.isTemplate : Question → Bool
  | .template _ => true
  | _ => false

namespace Node

/-- The data items of the parameters of a table operation, in order; parameters without one are left
out. -/
def parameterItems (n : Node) : List String :=
  ((n.descendants.filter (·.name == "GBRParam")).map parameterItem).filter (· != "")

/-- The question of a table operation about the indexes of its table. -/
def indexQuestions (n : Node) : List Question :=
  if Numeral.IsInteger (Text.trim (n.attr ["indexId"])) then [.indexes (tableName n)] else []

/-- The question of a table operation about the titles of its data items. -/
def titleQuestions (n : Node) : List Question :=
  if n.parameterItems = [] then [] else [.titles n.parameterItems]

/-- **The questions about an element**, apart from those for templates. -/
def questions (n : Node) : List Question :=
  match n.name with
  | "GBRBF" => [.functionObject (n.attr ["szTmplName"])]
  | "GBRFileIOOp" => n.indexQuestions ++ n.titleQuestions
  | _ => []

/-- The questions by the kind of the element. -/
theorem questions_eq (n : Node) :
    n.questions =
      match ElementKind.ofName n.name with
      | .call => [.functionObject (n.attr ["szTmplName"])]
      | .tableOperation => n.indexQuestions ++ n.titleQuestions
      | _ => [] := by
  generalize hk : ElementKind.ofName n.name = kind
  unfold ElementKind.ofName at hk
  split at hk <;> subst hk <;> simp_all [questions]

end Node

/-! ### Traces -/

section

variable {σ α β : Type} {source : Source σ} {primary : Option Template}

/-- A name that has to be looked up: it is none, or not that of the rule's own template. -/
def IsForeign (primary : Option Template) (name : String) : Prop :=
  name ≠ "" ∧ ∀ t ∈ primary, Text.sameFolded name t.name = false

/-- **A trace of a shelf**, with the questions that are asked on the way.  A template is only asked
for under a name that has to be looked up and whose key has no entry in the cache. -/
inductive Consults (source : Source σ) (primary : Option Template) :
    Shelf σ → List Question → Shelf σ → Prop
  /-- Nothing happens. -/
  | done (p : Shelf σ) : Consults source primary p [] p
  /-- A template is found in the cache, and becomes the most recently used one. -/
  | hit {p q : Shelf σ} {asked : List Question} {name : String} (foreign : IsForeign primary name)
      (cached : (p.cache.entries.peek? (catalogKey name)).isSome = true)
      (rest : Consults source primary { p with cache := (p.cache.get name).2 } asked q) :
      Consults source primary p asked q
  /-- A template is asked for, and kept if there is one. -/
  | template {p q : Shelf σ} {asked : List Question} {name : String}
      (foreign : IsForeign primary name)
      (missing : p.cache.entries.peek? (catalogKey name) = none)
      (rest : Consults source primary
        ⟨p.cache.add name (source.template name p.source).1.toOption.join,
          source.afterQuestion (.template name) p.source⟩ asked q) :
      Consults source primary p (.template name :: asked) q
  /-- Something else is asked. -/
  | other {p q : Shelf σ} {asked : List Question} {question : Question}
      (kind : question.isTemplate = false)
      (rest : Consults source primary
        { p with source := source.afterQuestion question p.source } asked q) :
      Consults source primary p (question :: asked) q

namespace Consults

theorem trans {p q r : Shelf σ} {asked asked' : List Question}
    (h : Consults source primary p asked q) (h' : Consults source primary q asked' r) :
    Consults source primary p (asked ++ asked') r := by
  induction h with
  | done p => exact h'
  | hit foreign cached _ ih => exact .hit foreign cached (ih h')
  | template foreign missing _ ih => exact .template foreign missing (ih h')
  | other kind _ ih => exact .other kind (ih h')

/-- **When a template is asked for**, the trace has come to a shelf without an entry for it. -/
theorem at_template {p q : Shelf σ} {before after : List Question} {name : String}
    (h : Consults source primary p (before ++ .template name :: after) q) :
    IsForeign primary name ∧ ∃ moment : Shelf σ,
      Consults source primary p before moment ∧
      moment.cache.entries.peek? (catalogKey name) = none ∧
      Consults source primary moment (.template name :: after) q := by
  generalize hasked : before ++ .template name :: after = asked at h
  induction h generalizing before with
  | done p => simp at hasked
  | hit foreign cached rest ih =>
      obtain ⟨hname, moment, hbefore, hmissing, hafter⟩ := ih hasked
      exact ⟨hname, moment, .hit foreign cached hbefore, hmissing, hafter⟩
  | template foreign missing rest ih =>
      cases before with
      | nil =>
          cases hasked
          exact ⟨foreign, _, .done _, missing, .template foreign missing rest⟩
      | cons question before =>
          obtain ⟨rfl, hrest⟩ := List.cons.inj hasked
          obtain ⟨hname, moment, hbefore, hmissing, hafter⟩ := ih hrest
          exact ⟨hname, moment, .template foreign missing hbefore, hmissing, hafter⟩
  | other kind rest ih =>
      cases before with
      | nil =>
          obtain ⟨rfl, -⟩ := List.cons.inj hasked
          cases kind
      | cons question before =>
          obtain ⟨rfl, hrest⟩ := List.cons.inj hasked
          obtain ⟨hname, moment, hbefore, hmissing, hafter⟩ := ih hrest
          exact ⟨hname, moment, .other kind hbefore, hmissing, hafter⟩

/-- **A log is what a trace asks.** -/
theorem logged {p q : Shelf (σ × List Question)} {asked : List Question}
    (h : Consults source.logged primary p asked q) :
    q.source.2 = p.source.2 ++ asked ∧
      Consults source primary ⟨p.cache, p.source.1⟩ asked ⟨q.cache, q.source.1⟩ := by
  induction h with
  | done p => exact ⟨(List.append_nil _).symm, .done _⟩
  | hit foreign cached _ ih => exact ⟨ih.1, .hit foreign cached ih.2⟩
  | template foreign missing _ ih =>
      obtain ⟨hlog, htrace⟩ := ih
      rw [hlog]
      exact ⟨List.append_assoc _ _ _, .template foreign missing htrace⟩
  | @other p q asked question kind _ ih =>
      obtain ⟨hlog, htrace⟩ := ih
      rw [hlog]
      cases question with
      | template name => cases kind
      | indexes table => exact ⟨List.append_assoc _ _ _, .other kind htrace⟩
      | titles items => exact ⟨List.append_assoc _ _ _, .other kind htrace⟩
      | functionObject name => exact ⟨List.append_assoc _ _ _, .other kind htrace⟩

end Consults

/-! ### Lookups that always ask the same -/

/-- The questions that are not for templates. -/
def besidesTemplates (asked : List Question) : List Question :=
  asked.filter (!·.isTemplate)

@[simp] theorem besidesTemplates_append (asked asked' : List Question) :
    besidesTemplates (asked ++ asked') = besidesTemplates asked ++ besidesTemplates asked' :=
  List.filter_append _ _

/-- **A lookup that always asks the same**, apart from templates: from every shelf it goes through
a trace with these questions. -/
def Asks (source : Source σ) (primary : Option Template) (expected : List Question)
    (m : Lookup σ α) : Prop :=
  ∀ p, ∃ asked, Consults source primary p asked (m p).2 ∧ besidesTemplates asked = expected

namespace Asks

theorem pure (a : α) : Asks source primary [] (pure a : Lookup σ α) :=
  fun p => ⟨[], .done p, rfl⟩

/-- What is asked second must not depend on what is found first. -/
theorem bind {expected expected' : List Question} {m : Lookup σ α} {f : α → Lookup σ β}
    (h : Asks source primary expected m) (hf : ∀ a, Asks source primary expected' (f a)) :
    Asks source primary (expected ++ expected') (m >>= f) := by
  intro p
  obtain ⟨asked, htrace, hasked⟩ := h p
  obtain ⟨asked', htrace', hasked'⟩ := hf (m p).1 (m p).2
  refine ⟨asked ++ asked', htrace.trans htrace', ?_⟩
  rw [besidesTemplates_append, hasked, hasked']

/-- Nothing is asked afterwards. -/
theorem map {expected : List Question} {m : Lookup σ α} {f : α → Lookup σ β}
    (h : Asks source primary expected m) (hf : ∀ a, Asks source primary [] (f a)) :
    Asks source primary expected (m >>= f) := by
  rw [← List.append_nil expected]
  exact h.bind hf

theorem mapM {f : α → Lookup σ β} {xs : List α} (h : ∀ x, Asks source primary [] (f x)) :
    Asks source primary [] (xs.mapM f) := by
  induction xs with
  | nil =>
      rw [List.mapM_nil]
      exact .pure []
  | cons x xs ih =>
      rw [List.mapM_cons]
      exact (h x).map fun y => ih.map fun ys => .pure (y :: ys)

/-- A question that is not for a template, and what is made of the answer. -/
theorem other {question : Question} (kind : question.isTemplate = false) {m : Lookup σ α}
    (h : ∀ p, (m p).2 = { p with source := source.afterQuestion question p.source }) :
    Asks source primary [question] m := by
  intro p
  rw [h p]
  exact ⟨[question], .other kind (.done _), by simp [besidesTemplates, kind]⟩

end Asks

/-! ### Templates and operands -/

variable {scope : Scope}

theorem asks_namedTemplate (scope : Scope) (name : String) :
    Asks source scope.primary [] (namedTemplate (some source) scope name) := by
  by_cases hn : name = ""
  · rw [hn, namedTemplate_empty]
    exact .pure none
  cases ho : scope.owns name with
  | true =>
      rw [namedTemplate_of_owns _ hn ho]
      exact .pure scope.primary
  | false =>
      intro p
      have hforeign : IsForeign scope.primary name := by
        refine ⟨hn, fun t ht => ?_⟩
        rw [Option.mem_def] at ht
        simpa [Scope.owns, ht] using ho
      rw [namedTemplate_eq hn ho]
      cases ht : p.cache.entries.peek? (catalogKey name) with
      | some t =>
          have hget := (TemplateCache.get_fst p.cache name).trans ht
          rw [TemplateCache.getOrLoad_of_some hget]
          exact ⟨[], .hit hforeign (by rw [ht]; rfl) (.done _), rfl⟩
      | none =>
          have hget := (TemplateCache.get_fst p.cache name).trans ht
          rw [TemplateCache.getOrLoad_of_none hget, TemplateCache.keepLoaded_eq]
          exact ⟨[.template name], .template hforeign ht (.done _), rfl⟩

theorem asks_member? (scope : Scope) (n : Node) :
    Asks source scope.primary [] (member? (some source) scope n) := by
  unfold member?
  split
  · exact .pure _
  · exact (asks_namedTemplate scope _).map fun _ => .pure _

theorem asks_resolveOperand (scope : Scope) (op : Operand) (fallback : String) (decode : Bool) :
    Asks source scope.primary [] (resolveOperand (some source) scope op fallback decode) := by
  unfold resolveOperand
  split
  · refine (asks_member? scope _).map fun i? => ?_
    split
    · exact .pure _
    · exact .pure _
  · split
    · exact .pure _
    · exact .pure _
  all_goals exact .pure _

theorem asks_parameterLabel (scope : Scope) (op : Operand) :
    Asks source scope.primary [] (parameterLabel (some source) scope op) :=
  asks_resolveOperand scope op _ _

theorem asks_operandItem (scope : Scope) (op : Operand) :
    Asks source scope.primary [] (operandItem (some source) scope op) := by
  unfold operandItem
  split
  · exact (asks_member? scope _).map fun _ => .pure _
  · exact .pure _
  · exact .pure _

/-! ### Assignments and conditions -/

theorem asks_assignmentText (scope : Scope) (n : Node) :
    Asks source scope.primary [] (assignmentText (some source) scope n) := by
  have htarget (op : Operand) (target : String) :
      Asks source scope.primary [] (assignmentTarget (some source) scope op target) := by
    refine (asks_operandItem scope op).map fun item => ?_
    split
    · exact .pure _
    · exact .pure _
  have hvalue (op : Operand) (value : String) :
      Asks source scope.primary [] (assignmentValue (some source) scope op value) := by
    unfold assignmentValue
    split
    · exact .pure _
    · refine (asks_operandItem scope op).map fun item => ?_
      split
      · exact .pure _
      · exact .pure _
  exact (htarget _ _).map fun _ => (hvalue _ _).map fun _ => .pure _

theorem asks_conditionLines (scope : Scope) (n : Node) :
    Asks source scope.primary [] (conditionLines (some source) scope n) := by
  refine .mapM fun c => .map ?_ fun _ => .pure _
  unfold conditionText
  dsimp only
  split
  · exact .pure _
  · exact (asks_resolveOperand scope _ _ _).map fun _ =>
      (asks_resolveOperand scope _ _ _).map fun _ => .pure _

/-! ### Table operations and calls -/

theorem asks_indexKeys (primary : Option Template) (table index : String) :
    Asks source primary (if Numeral.IsInteger index then [.indexes table] else [])
      (indexKeys source table index) := by
  cases hi : Numeral.strict? index with
  | none =>
      have hnot : ¬ Numeral.IsInteger index := by
        rw [← Numeral.isSome_strict?_iff, hi]
        exact Bool.false_ne_true
      rw [if_neg hnot, indexKeys_of_none _ _ hi]
      exact .pure []
  | some id =>
      have hinteger : Numeral.IsInteger index := by
        rw [← Numeral.isSome_strict?_iff, hi]
        rfl
      rw [if_pos hinteger]
      exact .other rfl fun p => by rw [indexKeys_eq hi]; rfl

theorem asks_itemTitles (primary : Option Template) (items : List String) :
    Asks source primary (if items = [] then [] else [.titles items]) (itemTitles source items) := by
  cases items with
  | nil =>
      rw [itemTitles_of_isEmpty _ rfl]
      exact .pure []
  | cons item items => exact .other rfl fun p => by rw [itemTitles_eq rfl]; rfl

theorem asks_functionModule (primary : Option Template) (template : String) :
    Asks source primary [.functionObject template] (functionModule source template) :=
  .other rfl fun p => by rw [functionModule_eq]; rfl

theorem asks_tableHeader (primary : Option Template) (n : Node) :
    Asks source primary n.indexQuestions (tableHeader source n) := by
  unfold tableHeader
  dsimp only
  split
  · next hindex =>
      have hnot : ¬ Numeral.IsInteger "" := by decide
      rw [Node.indexQuestions, hindex, if_neg hnot]
      exact .pure _
  · refine (asks_indexKeys primary _ _).map fun keys => ?_
    split
    · exact .pure _
    · exact .pure _

theorem asks_tableLines (scope : Scope) (n : Node) :
    Asks source scope.primary (n.indexQuestions ++ n.titleQuestions)
      (tableLines source scope n) := by
  have hitems : ((n.findAll "GBRParam").map parameterItem).filter (· != "") = n.parameterItems := by
    rw [Node.findAll_eq_filter, Node.parameterItems]
  rw [Node.titleQuestions, ← hitems]
  refine (asks_tableHeader _ n).bind fun header => ?_
  refine (asks_itemTitles _ _).map fun titles => ?_
  refine (Asks.mapM fun p => ?_).map fun lines => .pure _
  exact ((asks_parameterLabel scope _).map fun label => .pure _).map fun text => .pure _

theorem asks_callLines (scope : Scope) (n : Node) :
    Asks source scope.primary [.functionObject (n.attr ["szTmplName"])]
      (callLines source scope n) := by
  refine (asks_functionModule _ _).map fun object => ?_
  refine (asks_namedTemplate scope _).map fun callee => ?_
  refine (Asks.mapM fun p => ?_).map fun lines => .pure _
  exact ((asks_parameterLabel scope _).map fun label => .pure _).map fun text => .pure _

/-! ### Elements and passes -/

/-- **An element asks its questions**, whatever the answers. -/
theorem asks_elementLines (scope : Scope) (n : Node) :
    Asks source scope.primary n.questions (elementLines (some source) scope n) := by
  rw [Node.questions_eq]
  unfold elementLines
  cases ElementKind.ofName n.name with
  | assignment => exact (asks_assignmentText scope n).map fun _ => .pure _
  | condition => exact asks_conditionLines scope n
  | tableOperation => exact asks_tableLines scope n
  | call => exact asks_callLines scope n
  | _ => exact .pure _

/-- **So does a whole replay**, element by element. -/
theorem replay_consults (source : Source σ) (ns : List Node) (d : Decompiler) (s : σ) :
    ∃ asked, Consults source d.scope.primary ⟨d.cache, s⟩ asked
        ⟨(Decompiler.replay (some source) ns d s).1.cache,
          (Decompiler.replay (some source) ns d s).2⟩ ∧
      besidesTemplates asked = ns.flatMap Node.questions := by
  induction ns generalizing d s with
  | nil => exact ⟨[], .done _, rfl⟩
  | cons n ns ih =>
      have helement : Asks source d.scope.primary n.questions _ := asks_elementLines d.scope n
      obtain ⟨asked, htrace, hasked⟩ := helement ⟨d.cache, s⟩
      obtain ⟨asked', htrace', hasked'⟩ :=
        ih (Decompiler.visit (some source) n d s).1 (Decompiler.visit (some source) n d s).2
      rw [Decompiler.visit_scope] at htrace'
      refine ⟨asked ++ asked', htrace.trans htrace', ?_⟩
      rw [besidesTemplates_append, hasked, hasked', List.flatMap_cons]

/-- What a pass with a log asks. -/
theorem decompile_consults {events : List Bytes} {template : Bytes} {key : String}
    (ht : Decompiler.readTemplate template = .ok primary)
    (hk : (Decompiler.readEvents 0 events).1 = .ok key) (source : Source σ) (d : Decompiler)
    (s : σ) :
    let pass := Decompiler.decompile (some source.logged) events template d (s, [])
    besidesTemplates pass.2.2.2 = (topLevel events).flatMap Node.questions ∧
      Consults source primary ⟨d.cache, s⟩ pass.2.2.2 ⟨pass.2.1.cache, pass.2.2.1⟩ := by
  intro pass
  obtain ⟨asked, htrace, hasked⟩ :=
    replay_consults source.logged (topLevel events) (d.start primary) (s, [])
  have hpass : pass.2 =
      Decompiler.replay (some source.logged) (topLevel events) (d.start primary) (s, []) := by
    change (Decompiler.decompile _ _ _ _ _).2 = _
    rw [Decompiler.decompile_eq_of_template ht, Decompiler.readEvents_elements hk]
  rw [← hpass] at htrace
  obtain ⟨hlog, htrace⟩ := htrace.logged
  rw [List.nil_append] at hlog
  rw [hlog]
  exact ⟨hasked, htrace⟩

end

/-- **What is asked does not depend on the answers.**  Take documents over which some pass succeeds.
Whatever two sources answer and whatever the decompilers have cached, both are asked the same, apart
from templates, and that is what the elements say.  A template is only asked for under a name that
is not empty and not that of the rule's own template, at a moment when the cache has no entry for
its key. -/
theorem questions_independent_of_answers {ρ σ τ : Type} {source₀ : Option (Source ρ)}
    {events : List Bytes} {template : Bytes} {d₀ : Decompiler} {s₀ : ρ} {r₀ : Decompiled}
    (h₀ : (Decompiler.decompile source₀ events template d₀ s₀).1 = .ok r₀)
    (source : Source σ) (source' : Source τ) (d d' : Decompiler) (s : σ) (s' : τ) :
    let pass := Decompiler.decompile (some source.logged) events template d (s, [])
    let pass' := Decompiler.decompile (some source'.logged) events template d' (s', [])
    besidesTemplates pass.2.2.2 = besidesTemplates pass'.2.2.2 ∧
      besidesTemplates pass.2.2.2 = (topLevel events).flatMap Node.questions ∧
      ∀ before after name, pass.2.2.2 = before ++ .template name :: after →
        ∃ primary, Decompiler.readTemplate template = .ok primary ∧ name ≠ "" ∧
          (∀ t ∈ primary, Text.sameFolded name t.name = false) ∧
          ∃ moment : Shelf σ, Consults source primary ⟨d.cache, s⟩ before moment ∧
            moment.cache.entries.peek? (catalogKey name) = none ∧
            Consults source primary moment (.template name :: after)
              ⟨pass.2.1.cache, pass.2.2.1⟩ := by
  intro pass pass'
  obtain ⟨primary, key, ht, hk, -, -⟩ := Decompiler.decompile_ok h₀
  obtain ⟨hasked, htrace⟩ := decompile_consults ht hk source d s
  obtain ⟨hasked', -⟩ := decompile_consults ht hk source' d' s'
  refine ⟨hasked.trans hasked'.symm, hasked, fun before after name hsplit => ?_⟩
  obtain ⟨⟨hname, hown⟩, moment, hbefore, hmissing, hafter⟩ :=
    Consults.at_template (hsplit ▸ htrace)
  exact ⟨primary, ht, hname, hown, moment, hbefore, hmissing, hafter⟩

/-- A table operation and a call, over a source that fails and one that answers.  The template is
asked for again where it could not be kept. -/
theorem questions_independent_of_answers_failing :
    let event : Bytes :=
      "<E szEventSpecKey='K'><GBRFileIOOp szFileName='F1' indexId=' 1 '><GBRParam>".toUTF8.toList ++
        "<DSItem szDict='A'/><DSOBJMember idItem='1' szTmplName='D2'/></GBRParam>".toUTF8.toList ++
        "<GBRParam><DSItem szDict='A'/></GBRParam></GBRFileIOOp>".toUTF8.toList ++
        "<GBRBF szFuncName='F' szTmplName='D2'/></E>".toUTF8.toList
    let asked (source : Source Unit) :=
      (Decompiler.decompile (some source.logged) [event] [] {} ((), [])).2.2.2
    let once : List Question :=
      [.indexes "F1", .titles ["A", "A"], .template "D2", .functionObject "D2"]
    besidesTemplates (asked .failing) = besidesTemplates (asked (.answering (.empty "D2" ""))) ∧
      asked (.answering (.empty "D2" "")) = once ∧ asked .failing = once ++ [.template "D2"] ∧
      ∃ moment : Shelf Unit, Consults .failing none ⟨.default, ()⟩ once moment ∧
        moment.cache.entries.peek? (catalogKey "D2") = none := by
  intro event asked once
  obtain ⟨hk, honce, hagain⟩ : (Decompiler.readEvents 0 [event]).1.toOption = some "K" ∧
      asked (.answering (.empty "D2" "")) = once ∧ asked .failing = once ++ [.template "D2"] := by
    decide +kernel
  have ht : Decompiler.readTemplate [] = .ok none := rfl
  obtain ⟨hsame, -, htemplates⟩ :=
    questions_independent_of_answers
      (Decompiler.decompile_of_readable ht (Except.eq_ok_of_toOption hk)
        (none : Option (Source Unit)) {} ())
      Source.failing (Source.answering (.empty "D2" "")) {} {} () ()
  obtain ⟨primary, hprimary, -, -, moment, hbefore, hmissing, -⟩ := htemplates once [] "D2" hagain
  obtain rfl : primary = none := (Except.ok.inj (ht.symm.trans hprimary)).symm
  exact ⟨hsame, honce, hagain, moment, hbefore, hmissing⟩

end EventRules
