/-
**Caches in front of a source do not show.**

A source may be asked directly or through caches.  What the decompiler shows is the same, whatever
the caches have seen before, as long as the source has an answer for every key and keeps to it.

What a source knows is written down as a function of keys, without wordings of failures: the
decompiler does not look at them.  A source *tells* what is known if each of its answers is the one
written down.  Two sources that tell the same are good for the same passes, be one of them a catalog
and the other one a chain of caches.  So all that has to be said about caches is that a source
behind them tells what it told before.  The invariant is that every entry is the answer for its key;
an eviction only takes entries away.

Titles need care.  A cache keeps an empty title for an item without one, and leaves out empty titles
when it answers; so titles are compared as they are shown, an empty one like none.

Main definitions:

* `Knowledge`, `Source.Tells` — what is known, and a source that tells it;
* `Lru.Holds`, `SourceCaches.Hold` — caches whose entries are the answers for their keys;
* `CacheUse`, `Source.afterUses` — lookups through the caches, and emptying them.

Main results:

* `Source.Tells.decompile_eq` — two sources that tell the same are good for the same passes;
* `Source.Tells.cached` — **a source behind caches tells what it told before**;
* `decompile_cached` — a pass on a source behind used caches returns what it returns on the source.
-/

import EventRules.Metadata.Cached
import EventRules.Proofs.History

set_option relaxedAutoImplicit false
set_option autoImplicit false

namespace EventRules

variable {σ τ α : Type}

/-! ### What is known -/

/-- **What is known**, by the keys of names.  Nothing stands for a failure. -/
structure Knowledge where
  /-- The template of a name, which may be known to be absent. -/
  template : String → Option (Option Template)
  /-- The indexes of a table. -/
  indexes : String → Option (Option (List TableIndex))
  /-- The titles of data items, an empty one standing for none, unless asking for titles fails. -/
  titles : Option (String → String)
  /-- The module of a business function. -/
  functionObject : String → Option String

/-- The template of a key, if there is one. -/
def Knowledge.template? (k : Knowledge) (key : String) : Option Template :=
  (k.template key).join

/-- A question that gets this answer in every good state, up to the wording of a failure, and leaves
the state good. -/
def Answered (good : σ → Prop) (ask : σ → Except Failure α × σ) (answer : Option α) : Prop :=
  ∀ s, good s → (ask s).1.toOption = answer ∧ good (ask s).2

/-- The title that is shown for an item; an empty one is as good as none. -/
def shownTitle (d : Dictionary String) (item : String) : String :=
  (d.get? item).getD ""

/-- The titles of these items and of no others. -/
def TitlesOf (title : String → String) (items : List String) (d : Dictionary String) : Prop :=
  ∀ item, shownTitle d item = if item ∈ items then title (catalogKey item) else ""

/-- An answer about the titles of these items. -/
inductive TitlesAnswered (items : List String) :
    Option (String → String) → Except Failure (Dictionary String) → Prop
  | fails (e : Failure) : TitlesAnswered items none (.error e)
  | gives {title : String → String} {d : Dictionary String} (h : TitlesOf title items d) :
      TitlesAnswered items (some title) (.ok d)

/-- **A source that tells what is known**, as long as its state is good.  It is never asked for the
titles of no items. -/
structure Source.Tells (source : Source σ) (good : σ → Prop) (k : Knowledge) : Prop where
  /-- Templates go by the keys of their names. -/
  template : ∀ name, Answered good (source.template name) (k.template (catalogKey name))
  /-- So do indexes. -/
  indexes : ∀ table, Answered good (source.indexes table) (k.indexes (catalogKey table))
  /-- Each item has its title. -/
  titles : ∀ items, items ≠ [] → ∀ s, good s →
    TitlesAnswered items k.titles (source.titles items s).1 ∧ good (source.titles items s).2
  /-- Business functions go by the keys of their templates. -/
  functionObject : ∀ name,
    Answered good (source.functionObject name) (k.functionObject (catalogKey name))

/-! ### Entries that are answers -/

namespace Lru

/-- **Every entry is the answer for its key.** -/
def Holds (c : Lru α) (answer : String → Option α) : Prop :=
  ∀ key a, (key, a) ∈ c.entries → answer key = some a

namespace Holds

variable {c : Lru α} {answer : String → Option α}

theorem of_empty (capacity : Nat) : (⟨capacity, []⟩ : Lru α).Holds answer := by
  intro key a h
  cases h

theorem clear (c : Lru α) : c.clear.Holds answer := by
  intro key a h
  cases h

theorem peek? (h : c.Holds answer) {key : String} {a : α} (hp : c.peek? key = some a) :
    answer key = some a :=
  h key a (mem_of_peek? hp)

theorem get (h : c.Holds answer) (key : String) : (c.get key).2.Holds answer :=
  fun other a hm => h other a (mem_of_mem_get hm)

theorem insert (h : c.Holds answer) {key : String} {a : α} (ha : answer key = some a) :
    (c.insert key a).Holds answer := by
  intro other b hm
  rcases mem_of_mem_insert hm with he | hm
  · obtain ⟨rfl, rfl⟩ := Prod.mk.inj he
    exact ha
  · exact h other b hm

end Holds

/-- **A cache that holds answers gives the answer**, whether the source has to be asked or not. -/
theorem answer_of_holds {c : Lru α} {answer : String → Option α} {good : σ → Prop} {name : String}
    {ask : σ → Except Failure α × σ} (h : c.Holds answer)
    (ha : Answered good ask (answer (catalogKey name))) {s : σ} (hs : good s) :
    (c.answer name ask s).1.toOption = answer (catalogKey name) ∧
      (c.answer name ask s).2.1.Holds answer ∧ good (c.answer name ask s).2.2 := by
  have hget := h.get (catalogKey name)
  have hfst := c.get_fst (catalogKey name)
  obtain ⟨hask, hgood⟩ := ha s hs
  unfold Lru.answer
  rcases hc : c.get (catalogKey name) with ⟨_ | a, c'⟩
  · rw [hc] at hget
    rcases hr : ask s with ⟨e | a, s'⟩
    · rw [hr] at hask hgood
      exact ⟨hask, hget, hgood⟩
    · rw [hr] at hask hgood
      exact ⟨hask, hget.insert hask.symm, hgood⟩
  · rw [hc] at hget hfst
    exact ⟨(h.peek? hfst.symm).symm, hget, hs⟩

end Lru

/-- The same for a cache of templates, which keeps no absent ones. -/
theorem TemplateCache.getOrLoad_of_holds {c : TemplateCache} {k : Knowledge} {good : σ → Prop}
    {name : String} {load : σ → Except Failure (Option Template) × σ}
    (h : c.entries.Holds k.template?) (ha : Answered good load (k.template (catalogKey name)))
    {s : σ} (hs : good s) :
    (c.getOrLoad name load s).1.toOption.join = k.template? (catalogKey name) ∧
      (c.getOrLoad name load s).2.1.entries.Holds k.template? ∧
      good (c.getOrLoad name load s).2.2 := by
  cases hc : (c.get name).1 with
  | some t =>
      have hpeek : c.entries.peek? (catalogKey name) = some t :=
        (TemplateCache.get_fst c name).symm.trans hc
      rw [TemplateCache.getOrLoad_of_some hc]
      exact ⟨(h.peek? hpeek).symm, h.get (catalogKey name), hs⟩
  | none =>
      obtain ⟨hload, hgood⟩ := ha s hs
      rw [TemplateCache.getOrLoad_of_none hc]
      rcases hr : load s with ⟨e | t, s'⟩
      · rw [hr] at hload hgood
        exact ⟨by rw [Knowledge.template?, ← hload]; rfl, h, hgood⟩
      · rw [hr] at hload hgood
        have ht : k.template? (catalogKey name) = t := by
          rw [Knowledge.template?, ← hload]
          rfl
        refine ⟨ht.symm, ?_, hgood⟩
        cases t with
        | none => exact h
        | some t => exact h.insert ht

/-! ### Two sources that tell the same -/

/-- A shelf for a source that tells what is known: its cached templates are known ones, and the
state of the source is good. -/
structure Shelf.Good (k : Knowledge) (good : σ → Prop) (p : Shelf σ) : Prop where
  /-- The cached templates are those that are known. -/
  cache : p.cache.entries.Holds k.template?
  /-- The state of the source is good. -/
  source : good p.source

/-- Two good shelves, each for its own source. -/
def GoodShelves (k : Knowledge) (good : σ → Prop) (good' : τ → Prop) (p : Shelf σ) (q : Shelf τ) :
    Prop :=
  p.Good k good ∧ q.Good k good'

/-- Titles of the same items are shown alike. -/
theorem TitlesOf.sameTitles {title : String → String} {items : List String}
    {d d' : Dictionary String} (h : TitlesOf title items d) (h' : TitlesOf title items d') :
    SameTitles items d d' :=
  fun item _ => (h item).trans (h' item).symm

/-- So they are if asking for them fails. -/
theorem TitlesAnswered.sameTitles {title? : Option (String → String)} {items : List String}
    {answer answer' : Except Failure (Dictionary String)} (h : TitlesAnswered items title? answer)
    (h' : TitlesAnswered items title? answer') :
    SameTitles items (answer.toOption.getD []) (answer'.toOption.getD []) := by
  cases h with
  | fails e =>
      cases h'
      exact fun _ _ => rfl
  | gives hd =>
      cases h' with
      | gives hd' => exact hd.sameTitles hd'

/-- A question that is answered alike on good shelves. -/
theorem Answered.shelf {k : Knowledge} {good : σ → Prop} {ask : σ → Except Failure α × σ}
    {answer : Option α} (h : Answered good ask answer) {p : Shelf σ} (hp : p.Good k good) :
    (ask p.source).1.toOption = answer ∧
      ({ p with source := (ask p.source).2 } : Shelf σ).Good k good :=
  ⟨(h _ hp.source).1, hp.cache, (h _ hp.source).2⟩

namespace Source.Tells

variable {k : Knowledge} {good : σ → Prop} {good' : τ → Prop} {source : Source σ}
  {source' : Source τ}

theorem namedTemplate (h : source.Tells good k) (h' : source'.Tells good' k) (scope : Scope)
    (name : String) :
    Tandem (GoodShelves k good good') Eq (namedTemplate (some source) scope name)
      (EventRules.namedTemplate (some source') scope name) := by
  by_cases hn : name = ""
  · rw [hn, namedTemplate_empty, namedTemplate_empty]
    exact .pure rfl
  · cases ho : scope.owns name with
    | true =>
        rw [namedTemplate_of_owns _ hn ho, namedTemplate_of_owns _ hn ho]
        exact .pure rfl
    | false =>
        rintro p q ⟨hp, hq⟩
        rw [namedTemplate_eq hn ho, namedTemplate_eq hn ho]
        obtain ⟨hpa, hpc, hps⟩ :=
          TemplateCache.getOrLoad_of_holds hp.cache (h.template name) hp.source
        obtain ⟨hqa, hqc, hqs⟩ :=
          TemplateCache.getOrLoad_of_holds hq.cache (h'.template name) hq.source
        exact ⟨hpa.trans hqa.symm, ⟨hpc, hps⟩, ⟨hqc, hqs⟩⟩

theorem member? (h : source.Tells good k) (h' : source'.Tells good' k) (scope : Scope) (n : Node) :
    Tandem (GoodShelves k good good') Eq (member? (some source) scope n)
      (EventRules.member? (some source') scope n) := by
  unfold EventRules.member?
  split
  · exact .pure rfl
  · refine .bind (h.namedTemplate h' scope _) ?_
    rintro template _ rfl
    exact .pure rfl

/-- **The other three questions are answered alike.** -/
theorem sourceTandem (h : source.Tells good k) (h' : source'.Tells good' k) :
    SourceTandem (GoodShelves k good good') source source' where
  indexKeys table index := by
    rintro p q ⟨hp, hq⟩
    cases hi : Numeral.strict? index with
    | none =>
        rw [indexKeys_of_none _ _ hi, indexKeys_of_none _ _ hi]
        exact ⟨rfl, hp, hq⟩
    | some id =>
        obtain ⟨hpa, hpg⟩ := (h.indexes table).shelf hp
        obtain ⟨hqa, hqg⟩ := (h'.indexes table).shelf hq
        rw [indexKeys_eq hi, indexKeys_eq hi, keyColumnsIn, keyColumnsIn, hpa, hqa]
        exact ⟨rfl, hpg, hqg⟩
  itemTitles items := by
    rintro p q ⟨hp, hq⟩
    cases items with
    | nil => exact ⟨fun _ _ => rfl, hp, hq⟩
    | cons item items =>
        obtain ⟨hpt, hps⟩ := h.titles _ (List.cons_ne_nil item items) _ hp.source
        obtain ⟨hqt, hqs⟩ := h'.titles _ (List.cons_ne_nil item items) _ hq.source
        rw [itemTitles_eq rfl, itemTitles_eq rfl]
        refine ⟨?_, ⟨hp.cache, hps⟩, ⟨hq.cache, hqs⟩⟩
        exact hpt.sameTitles hqt
  functionModule name := by
    rintro p q ⟨hp, hq⟩
    obtain ⟨hpa, hpg⟩ := (h.functionObject name).shelf hp
    obtain ⟨hqa, hqg⟩ := (h'.functionObject name).shelf hq
    rw [functionModule_eq, functionModule_eq, moduleIn, moduleIn, hpa, hqa]
    exact ⟨rfl, hpg, hqg⟩

/-- So all questions of all elements are. -/
theorem questionsTandem (h : source.Tells good k) (h' : source'.Tells good' k)
    (primary : Option Template) (n : Node) :
    QuestionsTandem (GoodShelves k good good') (some source) (some source') primary primary n :=
  fun vars =>
    { sources := .present (h.sourceTandem h')
      lookups := fun _ _ _ => rfl
      member := fun m _ _ => h.member? h' ⟨primary, vars⟩ m
      callee := fun _ => h.namedTemplate h' ⟨primary, vars⟩ _ }

/-- **Two sources that tell the same are good for the same passes**: from good shelves they come to
the same result, and the shelves stay good. -/
theorem decompile_eq (h : source.Tells good k) (h' : source'.Tells good' k) {d d' : Decompiler}
    {s : σ} {s' : τ} (hp : Shelf.Good k good ⟨d.cache, s⟩) (hq : Shelf.Good k good' ⟨d'.cache, s'⟩)
    (events : List Bytes) (template : Bytes) :
    (Decompiler.decompile (some source) events template d s).1 =
        (Decompiler.decompile (some source') events template d' s').1 ∧
      GoodShelves k good good'
        ⟨(Decompiler.decompile (some source) events template d s).2.1.cache,
          (Decompiler.decompile (some source) events template d s).2.2⟩
        ⟨(Decompiler.decompile (some source') events template d' s').2.1.cache,
          (Decompiler.decompile (some source') events template d' s').2.2⟩ :=
  decompile_tandem (R := GoodShelves k good good')
    (fun primary n _ => h.questionsTandem h' primary n) ⟨hp, hq⟩

end Source.Tells

/-! ### Titles through a cache -/

theorem shownTitle_insert (d : Dictionary String) (first item t : String) :
    shownTitle (d.insert first t) item = if item = first then t else shownTitle d item := by
  by_cases h : item = first
  · subst h
    rw [shownTitle, Dictionary.get?_insert_self, if_pos rfl]
    rfl
  · rw [shownTitle, Dictionary.get?_insert_of_ne _ _ h, if_neg h]
    rfl

namespace SourceCaches

variable {title : String → String} {cache : Lru String}

/-- An item that is not in the cache is missing. -/
theorem cachedTitles_miss {item : String} (h : cache.peek? (catalogKey item) = none)
    (items : List String) :
    cachedTitles cache (item :: items) =
      (item :: (cachedTitles cache items).1, (cachedTitles cache items).2) := by
  rw [cachedTitles, Lru.get, h]

/-- An item that is in the cache has its title, unless that is empty. -/
theorem cachedTitles_hit {item t : String} (h : cache.peek? (catalogKey item) = some t)
    (items : List String) :
    cachedTitles cache (item :: items) =
      ((cachedTitles (cache.get (catalogKey item)).2 items).1,
        if t = "" then (cachedTitles (cache.get (catalogKey item)).2 items).2.1
        else (cachedTitles (cache.get (catalogKey item)).2 items).2.1.insert item t,
        (cachedTitles (cache.get (catalogKey item)).2 items).2.2) := by
  have hget : cache.get (catalogKey item) = (some t, (cache.get (catalogKey item)).2) :=
    Prod.ext ((cache.get_fst _).trans h) rfl
  rw [cachedTitles, hget]
  by_cases ht : t = ""
  · subst ht
    rfl
  · simp [ht]

/-- A missing item is one that was asked for. -/
theorem mem_of_mem_missing {items : List String} {item : String}
    (h : item ∈ (cachedTitles cache items).1) : item ∈ items := by
  induction items generalizing cache with
  | nil => cases h
  | cons first rest ih =>
      cases hp : cache.peek? (catalogKey first) with
      | none =>
          rw [cachedTitles_miss hp] at h
          rcases List.mem_cons.1 h with rfl | h
          · exact List.mem_cons_self
          · exact List.mem_cons_of_mem _ (ih h)
      | some t =>
          rw [cachedTitles_hit hp] at h
          exact List.mem_cons_of_mem _ (ih h)

/-- If there are no titles in the cache, all items are missing. -/
theorem missing_of_holds_none (h : cache.Holds fun _ => none) (items : List String) :
    (cachedTitles cache items).1 = items := by
  induction items with
  | nil => rfl
  | cons first rest ih =>
      have hp : cache.peek? (catalogKey first) = none := by
        cases hp : cache.peek? (catalogKey first) with
        | none => rfl
        | some t => cases h.peek? hp
      rw [cachedTitles_miss hp]
      exact congrArg (first :: ·) ih

/-- Looking up titles adds no entry. -/
theorem cachedTitles_holds {answer : String → Option String} (h : cache.Holds answer)
    (items : List String) : (cachedTitles cache items).2.2.Holds answer := by
  induction items generalizing cache with
  | nil => exact h
  | cons first rest ih =>
      cases hp : cache.peek? (catalogKey first) with
      | none =>
          rw [cachedTitles_miss hp]
          exact ih h
      | some t =>
          rw [cachedTitles_hit hp]
          exact ih (h.get (catalogKey first))

/-- **The cache shows no wrong title**, and for an item that is not missing it shows the right
one. -/
theorem shownTitle_cachedTitles (h : cache.Holds fun key => some (title key)) (items : List String)
    (item : String) :
    (shownTitle (cachedTitles cache items).2.1 item = "" ∨
        item ∈ items ∧ shownTitle (cachedTitles cache items).2.1 item = title (catalogKey item)) ∧
      (item ∈ items → item ∉ (cachedTitles cache items).1 →
        shownTitle (cachedTitles cache items).2.1 item = title (catalogKey item)) := by
  induction items generalizing cache with
  | nil => exact ⟨.inl rfl, fun h => absurd h List.not_mem_nil⟩
  | cons first rest ih =>
      cases hp : cache.peek? (catalogKey first) with
      | none =>
          obtain ⟨hright, hall⟩ := ih h
          rw [cachedTitles_miss hp]
          refine ⟨hright.imp_right (.imp_left (List.mem_cons_of_mem _)), fun hm hn => ?_⟩
          obtain ⟨hne, hn⟩ := not_or.1 (mt List.mem_cons.2 hn)
          exact hall ((List.mem_cons.1 hm).resolve_left hne) hn
      | some t =>
          obtain ⟨hright, hall⟩ := ih (h.get (catalogKey first))
          have ht : title (catalogKey first) = t := Option.some.inj (h.peek? hp)
          rw [cachedTitles_hit hp]
          by_cases he : t = ""
          · -- an item that is known to have no title
            simp only [if_pos he]
            refine ⟨hright.imp_right (.imp_left (List.mem_cons_of_mem _)), fun hm hn => ?_⟩
            rcases List.mem_cons.1 hm with rfl | hm
            · rcases hright with hnone | hsome
              · exact hnone.trans (ht.trans he).symm
              · exact hsome.2
            · exact hall hm hn
          · simp only [if_neg he, shownTitle_insert]
            by_cases hi : item = first
            · subst hi
              simp only [if_true]
              exact ⟨.inr ⟨List.mem_cons_self, ht.symm⟩, fun _ _ => ht.symm⟩
            · simp only [if_neg hi]
              exact ⟨hright.imp_right (.imp_left (List.mem_cons_of_mem _)),
                fun hm hn => hall ((List.mem_cons.1 hm).resolve_left hi) hn⟩

/-- **Keeping fetched titles** adds those that are not empty. -/
theorem shownTitle_keepTitles {fetched : Dictionary String} {missing : List String}
    (hf : ∀ item ∈ missing, shownTitle fetched item = title (catalogKey item))
    (known : Dictionary String) (c : Lru String) (item : String) :
    shownTitle (keepTitles fetched missing (known, c)).1 item =
      if item ∈ missing ∧ title (catalogKey item) ≠ "" then title (catalogKey item)
      else shownTitle known item := by
  induction missing generalizing known c with
  | nil => simp [keepTitles]
  | cons first rest ih =>
      have hfirst : (fetched.get? first).getD "" = title (catalogKey first) :=
        hf first List.mem_cons_self
      rw [keepTitles, hfirst, ih fun item hm => hf item (List.mem_cons_of_mem _ hm)]
      by_cases he : title (catalogKey first) = ""
      · -- nothing was added, and if the item is the first one, it has no title
        rw [if_pos he]
        by_cases hi : item = first
        · simp [hi, he]
        · simp [hi]
      · rw [if_neg he, shownTitle_insert]
        by_cases hi : item = first
        · simp [hi, he]
        · simp [hi]

/-- What is kept are the titles of the items. -/
theorem keepTitles_holds {fetched : Dictionary String} {missing : List String}
    (hf : ∀ item ∈ missing, shownTitle fetched item = title (catalogKey item))
    (known : Dictionary String) {c : Lru String} (h : c.Holds fun key => some (title key)) :
    (keepTitles fetched missing (known, c)).2.Holds fun key => some (title key) := by
  induction missing generalizing known c with
  | nil => exact h
  | cons first rest ih =>
      have hfirst : (fetched.get? first).getD "" = title (catalogKey first) :=
        hf first List.mem_cons_self
      rw [keepTitles, hfirst]
      exact ih (fun item hm => hf item (List.mem_cons_of_mem _ hm)) _ (h.insert rfl)

/-- **Cached and fetched titles together** are the titles of the items that were asked for. -/
theorem titlesOf_keepTitles (h : cache.Holds fun key => some (title key)) {items : List String}
    {fetched : Dictionary String} (hf : TitlesOf title (cachedTitles cache items).1 fetched)
    (c : Lru String) :
    TitlesOf title items
      (keepTitles fetched (cachedTitles cache items).1 ((cachedTitles cache items).2.1, c)).1 := by
  intro item
  obtain ⟨hright, hall⟩ := shownTitle_cachedTitles h items item
  rw [shownTitle_keepTitles fun item hm => (hf item).trans (if_pos hm)]
  by_cases hi : item ∈ items
  · rw [if_pos hi]
    by_cases hm : item ∈ (cachedTitles cache items).1
    · by_cases he : title (catalogKey item) = ""
      · rw [if_neg fun hne => hne.2 he]
        exact hright.elim (·.trans he.symm) (·.2)
      · rw [if_pos ⟨hm, he⟩]
    · rw [if_neg fun hne => hm hne.1]
      exact hall hi hm
  · rw [if_neg hi, if_neg fun hne => hi (mem_of_mem_missing hne.1)]
    exact hright.resolve_right fun hsome => hi hsome.1

/-- If no item is missing, the cache has all titles. -/
theorem titlesOf_cachedTitles (h : cache.Holds fun key => some (title key)) {items : List String}
    (hm : (cachedTitles cache items).1 = []) :
    TitlesOf title items (cachedTitles cache items).2.1 := by
  intro item
  obtain ⟨hright, hall⟩ := shownTitle_cachedTitles h items item
  by_cases hi : item ∈ items
  · rw [if_pos hi]
    exact hall hi (hm ▸ List.not_mem_nil)
  · rw [if_neg hi]
    exact hright.resolve_right fun hsome => hi hsome.1

/-! ### A source behind caches -/

/-- **Every entry of every cache is an answer.** -/
structure Hold (c : SourceCaches) (k : Knowledge) : Prop where
  /-- The cached templates. -/
  templates : c.templates.Holds k.template
  /-- The cached indexes. -/
  indexes : c.indexes.Holds k.indexes
  /-- The cached titles, of which there are none if asking for titles fails. -/
  titles : c.titles.Holds fun key => k.titles.map (· key)
  /-- The cached modules. -/
  functionObjects : c.functionObjects.Holds k.functionObject

theorem Hold.ofSize (size : Int) (k : Knowledge) : (SourceCaches.ofSize size).Hold k :=
  ⟨.of_empty _, .of_empty _, .of_empty _, .of_empty _⟩

theorem Hold.clear (c : SourceCaches) (k : Knowledge) : c.clear.Hold k :=
  ⟨.clear _, .clear _, .clear _, .clear _⟩

end SourceCaches

/-- The state of a source behind caches is good if its own state is and the caches hold answers. -/
def GoodCaches (k : Knowledge) (good : σ → Prop) (q : SourceCaches × σ) : Prop :=
  q.1.Hold k ∧ good q.2

namespace Source.Tells

variable {k : Knowledge} {good : σ → Prop} {source : Source σ}

/-- Titles are told through the caches. -/
theorem cached_titles (h : source.Tells good k) {items : List String} (hi : items ≠ [])
    {q : SourceCaches × σ} (hq : GoodCaches k good q) :
    TitlesAnswered items k.titles (source.cached.titles items q).1 ∧
      GoodCaches k good (source.cached.titles items q).2 := by
  obtain ⟨caches, s⟩ := q
  obtain ⟨hcaches, hs⟩ := hq
  have htitles := hcaches.titles
  have hkept := SourceCaches.cachedTitles_holds htitles items
  unfold Source.cached
  dsimp only
  cases hk : k.titles with
  | none =>
      -- nothing can be in the cache, so the source is asked for all the items, and fails
      rw [hk] at htitles hkept
      obtain ⟨hanswer, hgood⟩ := h.titles items hi s hs
      have hmissing := SourceCaches.missing_of_holds_none htitles items
      rw [hmissing, if_neg (by simpa using hi)]
      rw [hk] at hanswer
      generalize source.titles items s = r at hanswer hgood
      obtain ⟨answer, s'⟩ := r
      cases hanswer with
      | fails e => exact ⟨.fails e, { hcaches with titles := by rw [hk]; exact hkept }, hgood⟩
  | some title =>
      rw [hk] at htitles hkept
      cases hm : (SourceCaches.cachedTitles caches.titles items).1 with
      | nil =>
          exact ⟨.gives (SourceCaches.titlesOf_cachedTitles htitles hm),
            { hcaches with titles := by rw [hk]; exact hkept }, hs⟩
      | cons first rest =>
          obtain ⟨hanswer, hgood⟩ := h.titles (first :: rest) (List.cons_ne_nil first rest) s hs
          rw [hk] at hanswer
          rw [if_neg (by simp)]
          generalize source.titles (first :: rest) s = r at hanswer hgood
          obtain ⟨answer, s'⟩ := r
          cases hanswer with
          | gives hd =>
              refine ⟨.gives ?_, { hcaches with titles := ?_ }, hgood⟩
              · rw [← hm] at hd ⊢
                exact SourceCaches.titlesOf_keepTitles htitles hd _
              · rw [hk]
                exact SourceCaches.keepTitles_holds (fun item hm => (hd item).trans (if_pos hm)) _
                  hkept

/-- **A source behind caches tells what it told before**, as long as the caches hold answers. -/
theorem cached (h : source.Tells good k) : source.cached.Tells (GoodCaches k good) k where
  template name := by
    rintro ⟨caches, s⟩ ⟨hcaches, hs⟩
    obtain ⟨hanswer, hkept, hgood⟩ := Lru.answer_of_holds hcaches.templates (h.template name) hs
    exact ⟨hanswer, { hcaches with templates := hkept }, hgood⟩
  indexes table := by
    rintro ⟨caches, s⟩ ⟨hcaches, hs⟩
    obtain ⟨hanswer, hkept, hgood⟩ := Lru.answer_of_holds hcaches.indexes (h.indexes table) hs
    exact ⟨hanswer, { hcaches with indexes := hkept }, hgood⟩
  titles _ hi _ hq := h.cached_titles hi hq
  functionObject name := by
    rintro ⟨caches, s⟩ ⟨hcaches, hs⟩
    obtain ⟨hanswer, hkept, hgood⟩ :=
      Lru.answer_of_holds hcaches.functionObjects (h.functionObject name) hs
    exact ⟨hanswer, { hcaches with functionObjects := hkept }, hgood⟩

end Source.Tells

/-! ### Used caches -/

/-- **What can be done with a source behind caches.** -/
inductive CacheUse where
  /-- Asking a question. -/
  | ask (question : Question)
  /-- Emptying the caches. -/
  | purge

/-- The state after a question. -/
def Source.afterQuestion (source : Source σ) (question : Question) (s : σ) : σ :=
  match question with
  | .template name => (source.template name s).2
  | .indexes table => (source.indexes table s).2
  | .titles items => (source.titles items s).2
  | .functionObject name => (source.functionObject name s).2

/-- The state after one use. -/
def Source.afterUse (source : Source σ) (q : SourceCaches × σ) : CacheUse → SourceCaches × σ
  | .ask question => source.cached.afterQuestion question q
  | .purge => (q.1.clear, q.2)

/-- **The state after a run of uses.** -/
def Source.afterUses (source : Source σ) (uses : List CacheUse) (q : SourceCaches × σ) :
    SourceCaches × σ :=
  uses.foldl source.afterUse q

namespace Source.Tells

variable {k : Knowledge} {good : σ → Prop} {source : Source σ}

/-- Asking for the titles of no items does not reach the source. -/
theorem good_titles_nil {q : SourceCaches × σ} (hq : GoodCaches k good q) :
    GoodCaches k good (source.cached.titles [] q).2 := hq

/-- **One use** keeps the caches good. -/
theorem good_afterUse (h : source.Tells good k) {q : SourceCaches × σ} (hq : GoodCaches k good q)
    (use : CacheUse) : GoodCaches k good (source.afterUse q use) := by
  cases use with
  | purge => exact ⟨.clear _ _, hq.2⟩
  | ask question =>
      cases question with
      | template name => exact (h.cached.template name q hq).2
      | indexes table => exact (h.cached.indexes table q hq).2
      | titles items =>
          cases items with
          | nil => exact good_titles_nil hq
          | cons item items => exact (h.cached.titles _ (List.cons_ne_nil item items) q hq).2
      | functionObject name => exact (h.cached.functionObject name q hq).2

/-- **So does a whole run.** -/
theorem good_afterUses (h : source.Tells good k) (uses : List CacheUse) {q : SourceCaches × σ}
    (hq : GoodCaches k good q) : GoodCaches k good (source.afterUses uses q) := by
  induction uses generalizing q with
  | nil => exact hq
  | cons use uses ih => exact ih (h.good_afterUse hq use)

end Source.Tells

/-- A new cache of templates holds answers. -/
theorem TemplateCache.default_holds (k : Knowledge) :
    TemplateCache.default.entries.Holds k.template? :=
  .of_empty _

/-- **Caches do not show.**  A new decompiler on a source behind caches of any size, whatever they
have been used for, returns what a new decompiler returns on the source itself. -/
theorem decompile_cached {source : Source σ} {good : σ → Prop} {k : Knowledge}
    (h : source.Tells good k) (size : Int) (uses : List CacheUse) {s s' : σ} (hs : good s)
    (hs' : good s') (events : List Bytes) (template : Bytes) :
    (Decompiler.decompile (some source.cached) events template {}
        (source.afterUses uses (SourceCaches.ofSize size, s))).1 =
      (Decompiler.decompile (some source) events template {} s').1 :=
  (h.cached.decompile_eq h
    ⟨TemplateCache.default_holds k, h.good_afterUses uses ⟨.ofSize size k, hs⟩⟩
    ⟨TemplateCache.default_holds k, hs'⟩ events template).1

/-- The source that answers from what is known. -/
def Knowledge.source (k : Knowledge) : Source Unit where
  template name s := (failing (k.template (catalogKey name)), s)
  indexes table s := (failing (k.indexes (catalogKey table)), s)
  titles items s :=
    (failing (k.titles.map fun title =>
      items.foldr (fun item d => Dictionary.insert item (title (catalogKey item)) d) []), s)
  functionObject name s := (failing (k.functionObject (catalogKey name)), s)
where
  /-- An answer, or a failure in place of none. -/
  failing {α : Type} (answer : Option α) : Except Failure α :=
    answer.elim (.error (.sentinel .notFound)) .ok

theorem Knowledge.titlesOf_source (title : String → String) (items : List String) :
    TitlesOf title items
      (items.foldr (fun item d => Dictionary.insert item (title (catalogKey item)) d) []) := by
  induction items with
  | nil => exact fun _ => rfl
  | cons first rest ih =>
      intro item
      rw [List.foldr_cons, shownTitle_insert, ih item]
      by_cases hi : item = first
      · simp [hi]
      · simp [hi]

/-- It tells what is known. -/
theorem Knowledge.source_tells (k : Knowledge) : k.source.Tells (fun _ => True) k := by
  have htell {α : Type} (answer : Option α) : (source.failing answer).toOption = answer := by
    cases answer <;> rfl
  refine ⟨fun _ _ _ => ⟨htell _, trivial⟩, fun _ _ _ => ⟨htell _, trivial⟩, ?_,
    fun _ _ _ => ⟨htell _, trivial⟩⟩
  rintro items - s -
  refine ⟨?_, trivial⟩
  unfold source
  cases k.titles with
  | none => exact .fails _
  | some title => exact .gives (titlesOf_source title items)

/-- Caches with room for one entry each: a table operation on two titles, one of them empty, evicts
the first while it keeps the second, and a call asks for a template that is known to be absent. -/
theorem decompile_cached_small :
    let k : Knowledge :=
      { template := fun key => if key = "D1" then some none else none
        indexes := fun key => if key = "F01" then some (some [⟨1, some ["AN8", "TY"]⟩]) else none
        titles := some fun key => if key = "AN8" then "Address" else ""
        functionObject := fun key => if key = "D1" then some "B01" else none }
    let events : List Bytes :=
      ["<E szEventSpecKey='K'><GBRFileIOOp szTable='f01' operation='SELECT' indexId='1'>",
        "<GBRParam><DSItem szDict='an8'/></GBRParam><GBRParam><DSItem szDict='ty'/></GBRParam>",
        "</GBRFileIOOp><GBRBF szFuncName='F' szTmplName='d1'/></E>"].map (·.toUTF8.toList)
    let uses : List CacheUse :=
      [.ask (.titles ["AN8", "an8 ", "TY"]), .ask (.template "D1"), .purge,
        .ask (.indexes " f01"), .ask (.functionObject "none")]
    (Decompiler.decompile (some k.source.cached) [events.flatten] [] {}
        (k.source.afterUses uses (SourceCaches.ofSize 1, ()))).1 =
      (Decompiler.decompile (some k.source) [events.flatten] [] {} ()).1 := by
  intro k events uses
  exact decompile_cached k.source_tells 1 uses trivial trivial [events.flatten] []

end EventRules
