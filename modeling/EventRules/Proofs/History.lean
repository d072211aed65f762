/-
**The decompiler has no memory.**

A decompiler is used again and again, several of them share one cache of templates, and the cache
outlives every pass.  Nothing of this shows: as long as the source gives the same answer to the same
question, and the same template for all spellings of a name, each pass returns what the first pass
of a new decompiler with an empty cache returns.

The invariant is that the cache is *coherent*: every template that it keeps is what the source would
answer for every name with that key.  The template that comes with a rule is not kept there, so it
cannot be found by a later pass.  Coherence survives lookups, evictions and passes that fail.

Main definitions:

* `Source.Fixed`, `Source.TemplatesByKey`, `Steady` — sources whose answers do not change;
* `Coherent` — a cache that keeps only what the source would answer;
* `Workshop`, `Job`, `Workshop.perform`, `Workshop.performAll` — decompilers that share a cache,
  and what can be done with them;
* `Job.alone`, `answersAlone` — the answers of new decompilers with empty caches.

Main results:

* `Coherent.getOrLoad` — a lookup in a coherent cache answers as the source does;
* `Coherent.decompile_eq` — two passes on coherent caches return the same;
* `answers_performAll` — **every pass of every run is as good as the first**.
-/

import EventRules.Proofs.Dictionaries
import EventRules.Proofs.Tandem

set_option relaxedAutoImplicit false
set_option autoImplicit false

namespace EventRules

/-! ### What a bounded cache can hold -/

namespace Lru

variable {α : Type}

theorem mem_of_peek? {c : Lru α} {key : String} {value : α} (h : c.peek? key = some value) :
    (key, value) ∈ c.entries :=
  Dictionary.mem_of_lookup h

theorem mem_of_mem_others {c : Lru α} {key : String} {e : String × α} (h : e ∈ c.others key) :
    e ∈ c.entries :=
  (List.mem_filter.1 h).1

/-- Using an entry adds none. -/
theorem mem_of_mem_get {c : Lru α} {key : String} {e : String × α}
    (h : e ∈ (c.get key).2.entries) : e ∈ c.entries := by
  unfold get at h
  split at h
  · rename_i value hv
    rcases List.mem_cons.1 h with rfl | h
    · exact mem_of_peek? hv
    · exact mem_of_mem_others h
  · exact h

/-- Storing a value replaces the entry of its key. -/
theorem mem_insert_cases {c : Lru α} {key : String} {value : α} {e : String × α}
    (h : e ∈ (c.insert key value).entries) : e = (key, value) ∨ e.1 ≠ key ∧ e ∈ c.entries := by
  rcases List.mem_cons.1 (List.mem_of_mem_take h) with rfl | h
  · exact .inl rfl
  · exact .inr ⟨by simpa using (List.mem_filter.1 h).2, mem_of_mem_others h⟩

/-- Storing a value adds that entry only. -/
theorem mem_of_mem_insert {c : Lru α} {key : String} {value : α} {e : String × α}
    (h : e ∈ (c.insert key value).entries) : e = (key, value) ∨ e ∈ c.entries :=
  (mem_insert_cases h).imp_right (·.2)

end Lru

variable {σ : Type}

/-! ### Sources whose answers do not change -/

/-- **A fixed source**: the same question always gets the same answer. -/
structure Source.Fixed (source : Source σ) : Prop where
  /-- The answers about templates. -/
  template : ∀ name s s', (source.template name s).1 = (source.template name s').1
  /-- The answers about indexes. -/
  indexes : ∀ table s s', (source.indexes table s).1 = (source.indexes table s').1
  /-- The answers about titles. -/
  titles : ∀ items s s', (source.titles items s).1 = (source.titles items s').1
  /-- The answers about business functions. -/
  functionObject : ∀ name s s', (source.functionObject name s).1 = (source.functionObject name s').1

/-- **Templates go by the keys of their names**: all spellings of a name get the same template, or
none, or some failure. -/
def Source.TemplatesByKey (source : Source σ) : Prop :=
  ∀ name name' s, catalogKey name = catalogKey name' →
    (source.template name s).1.toOption = (source.template name' s).1.toOption

/-- A source, if there is one at all, is fixed and knows templates by their keys. -/
structure Steady (source : Option (Source σ)) : Prop where
  /-- The same question gets the same answer. -/
  fixed : ∀ src ∈ source, src.Fixed
  /-- All spellings of a name mean the same template. -/
  byKey : ∀ src ∈ source, src.TemplatesByKey

/-- What is loaded depends on the key of the name only. -/
theorem Steady.loadTemplate {source : Option (Source σ)} (h : Steady source) {name name' : String}
    (hk : catalogKey name = catalogKey name') (s s' : σ) :
    (loadTemplate source name s).1.toOption = (loadTemplate source name' s').1.toOption := by
  cases source with
  | none => rfl
  | some src =>
      have hfixed := (h.fixed src rfl).template name s s'
      have hkey := h.byKey src rfl name name' s' hk
      exact (congrArg Except.toOption hfixed).trans hkey

/-! ### Coherent caches -/

/-- **A coherent cache** keeps under a key only what the source answers for every name with that
key. -/
def Coherent (source : Option (Source σ)) (c : TemplateCache) : Prop :=
  ∀ key t, (key, t) ∈ c.entries.entries → ∀ name, catalogKey name = key → ∀ s,
    (loadTemplate source name s).1.toOption = some (some t)

namespace Coherent

variable {source : Option (Source σ)} {c : TemplateCache}

theorem ofSize (source : Option (Source σ)) (size : Int) :
    Coherent source (TemplateCache.ofSize size) := by
  intro key t h
  cases h

theorem clear (source : Option (Source σ)) (c : TemplateCache) : Coherent source c.clear := by
  intro key t h
  cases h

theorem get (h : Coherent source c) (name : String) : Coherent source (c.get name).2 :=
  fun key t hm => h key t (Lru.mem_of_mem_get hm)

/-- Keeping what was loaded under a name is coherent if the source is steady. -/
theorem add (hs : Steady source) (h : Coherent source c) {name : String} {t : Option Template}
    {s : σ} (ht : (loadTemplate source name s).1.toOption = some t) :
    Coherent source (c.add name t) := by
  cases t with
  | none => exact h
  | some t =>
      intro key t' hm name' hk s'
      -- the new entry answers for every spelling of `name`, the old ones as before
      rcases Lru.mem_of_mem_insert hm with he | hm
      · obtain ⟨rfl, rfl⟩ := Prod.mk.inj he
        exact (hs.loadTemplate hk s' s).trans ht
      · exact h key t' hm name' hk s'

/-- **A lookup in a coherent cache answers as the source does**, and the cache stays coherent. -/
theorem getOrLoad (hs : Steady source) (h : Coherent source c) (name : String) (s : σ) :
    (c.getOrLoad name (loadTemplate source name) s).1.toOption =
        (loadTemplate source name s).1.toOption ∧
      Coherent source (c.getOrLoad name (loadTemplate source name) s).2.1 := by
  cases hc : (c.get name).1 with
  | some t =>
      -- found: the source would have answered the same
      have hpeek : c.entries.peek? (catalogKey name) = some t :=
        (TemplateCache.get_fst c name).symm.trans hc
      rw [TemplateCache.getOrLoad_of_some hc]
      exact ⟨(h _ t (Lru.mem_of_peek? hpeek) name rfl s).symm, h.get name⟩
  | none =>
      -- not found: the answer is that of the source, kept if it is a template
      rw [TemplateCache.getOrLoad_of_none hc]
      cases hl : loadTemplate source name s with
      | mk answer s' =>
          cases answer with
          | error e => exact ⟨rfl, h⟩
          | ok t =>
              have ht : (loadTemplate source name s).1.toOption = some t := by
                rw [hl]
                rfl
              exact ⟨rfl, h.add hs ht⟩

end Coherent

/-! ### Passes on coherent caches -/

/-- Two shelves with coherent caches; the states of the source do not matter. -/
def CoherentShelves (source : Option (Source σ)) (p q : Shelf σ) : Prop :=
  Coherent source p.cache ∧ Coherent source q.cache

namespace Steady

variable {source : Option (Source σ)}

theorem namedTemplate (hs : Steady source) (scope : Scope) (name : String) :
    Tandem (CoherentShelves source) Eq (namedTemplate source scope name)
      (namedTemplate source scope name) := by
  by_cases hn : name = ""
  · rw [hn, namedTemplate_empty]
    exact .pure rfl
  · cases ho : scope.owns name with
    | true =>
        rw [namedTemplate_of_owns _ hn ho]
        exact .pure rfl
    | false =>
        rintro p q ⟨hp, hq⟩
        rw [namedTemplate_eq hn ho, namedTemplate_eq hn ho]
        obtain ⟨hpa, hpc⟩ := hp.getOrLoad hs name p.source
        obtain ⟨hqa, hqc⟩ := hq.getOrLoad hs name q.source
        refine ⟨?_, hpc, hqc⟩
        rw [hpa, hqa, hs.loadTemplate rfl p.source q.source]

theorem member? (hs : Steady source) (scope : Scope) (n : Node) :
    Tandem (CoherentShelves source) Eq (member? source scope n) (member? source scope n) := by
  unfold EventRules.member?
  split
  · exact .pure rfl
  · refine .bind (hs.namedTemplate scope _) ?_
    rintro template _ rfl
    exact .pure rfl

/-- The other three answers are the same whatever the state of the source. -/
theorem sourceTandem {src : Source σ} (h : src.Fixed) (source : Option (Source σ)) :
    SourceTandem (CoherentShelves source) src src where
  indexKeys table index := by
    rintro p q hpq
    cases hi : Numeral.strict? index with
    | none =>
        rw [indexKeys_of_none _ _ hi]
        exact ⟨rfl, hpq⟩
    | some id =>
        rw [indexKeys_eq hi, indexKeys_eq hi, h.indexes table p.source q.source]
        exact ⟨rfl, hpq⟩
  itemTitles items := by
    rintro p q hpq
    cases hi : items.isEmpty with
    | true =>
        rw [itemTitles_of_isEmpty _ hi]
        exact ⟨fun _ _ => rfl, hpq⟩
    | false =>
        rw [itemTitles_eq hi, itemTitles_eq hi, h.titles items p.source q.source]
        exact ⟨fun _ _ => rfl, hpq⟩
  functionModule template := by
    rintro p q hpq
    rw [functionModule_eq, functionModule_eq, h.functionObject template p.source q.source]
    exact ⟨rfl, hpq⟩

theorem sourcesTandem (hs : Steady source) :
    SourcesTandem (CoherentShelves source) source source := by
  cases source with
  | none => exact .absent
  | some src => exact .present (sourceTandem (hs.fixed src rfl) _)

/-- All questions of all elements are answered alike on coherent caches. -/
theorem questionsTandem (hs : Steady source) (primary : Option Template) (n : Node) :
    QuestionsTandem (CoherentShelves source) source source primary primary n := fun vars =>
  { sources := hs.sourcesTandem
    lookups := fun _ _ _ => rfl
    member := fun m _ _ => hs.member? ⟨primary, vars⟩ m
    callee := fun _ => hs.namedTemplate ⟨primary, vars⟩ _ }

end Steady

namespace Coherent

variable {source : Option (Source σ)} {d d' : Decompiler}

/-- **Two passes on coherent caches return the same**, whatever the decompilers did before. -/
theorem decompile_eq (hs : Steady source) (h : Coherent source d.cache)
    (h' : Coherent source d'.cache) (events : List Bytes) (template : Bytes) (s s' : σ) :
    (Decompiler.decompile source events template d s).1 =
      (Decompiler.decompile source events template d' s').1 :=
  (decompile_tandem (R := CoherentShelves source)
    (fun primary n _ => hs.questionsTandem primary n) ⟨h, h'⟩).1

/-- A pass, successful or not, leaves its cache coherent. -/
theorem decompile (hs : Steady source) (h : Coherent source d.cache) (events : List Bytes)
    (template : Bytes) (s : σ) :
    Coherent source (Decompiler.decompile source events template d s).2.1.cache := by
  have hself : CoherentShelves source ⟨d.cache, s⟩ ⟨d.cache, s⟩ := ⟨h, h⟩
  exact (decompile_tandem (fun primary n _ => hs.questionsTandem primary n) hself).2.1

end Coherent

/-! ### Decompilers at work -/

/-- **Decompilers that share a cache and a source.**  Each of them keeps its own lines, depth and
scope from one job to the next; the cache that it has seen last is out of date as soon as another
one has worked. -/
structure Workshop (σ : Type) where
  /-- The shared cache. -/
  cache : TemplateCache
  /-- The decompilers in the order of their creation. -/
  decompilers : List Decompiler := []
  /-- The state of the source. -/
  source : σ

/-- **What can be done in a workshop.** -/
inductive Job where
  /-- A pass of the `i`-th decompiler. -/
  | decompile (i : Nat) (events : List Bytes) (template : Bytes)
  /-- Clearing the `i`-th decompiler. -/
  | reset (i : Nat)
  /-- Creating one more decompiler. -/
  | create
  /-- Emptying the shared cache. -/
  | purge

/-- The outcome of a pass. -/
abbrev Answer := Except Failure Decompiled

namespace Workshop

/-- The `i`-th decompiler as it goes to work, on the shared cache. -/
def decompiler? (w : Workshop σ) (i : Nat) : Option Decompiler :=
  w.decompilers[i]?.map fun d => { d with cache := w.cache }

/-- The workshop after the `i`-th decompiler has worked. -/
def store (w : Workshop σ) (i : Nat) (d : Decompiler) (s : σ) : Workshop σ :=
  { cache := d.cache, decompilers := w.decompilers.set i d, source := s }

/-- **Performs a job.**  A pass gives an answer; what concerns a decompiler that does not exist
does nothing. -/
def perform (source : Option (Source σ)) (w : Workshop σ) : Job → Option Answer × Workshop σ
  | .decompile i events template =>
      match w.decompiler? i with
      | none => (none, w)
      | some d =>
          let (answer, d', s') := d.decompile source events template w.source
          (some answer, w.store i d' s')
  | .reset i =>
      match w.decompiler? i with
      | none => (none, w)
      | some d => (none, w.store i d.reset w.source)
  | .create => (none, { w with decompilers := w.decompilers ++ [{ cache := w.cache }] })
  | .purge => (none, { w with cache := w.cache.clear })

/-- **Performs jobs in order**, and gives the answers of all of them. -/
def performAll (source : Option (Source σ)) : List Job → Workshop σ → List (Option Answer)
  | [], _ => []
  | job :: jobs, w => (w.perform source job).1 :: performAll source jobs (w.perform source job).2

end Workshop

namespace Job

/-- How many decompilers there are after a job. -/
def countAfter (count : Nat) : Job → Nat
  | .create => count + 1
  | _ => count

/-- **The answer to a job without any history**: a pass of a new decompiler with an empty cache of
some size, if the job is a pass of one of `count` decompilers. -/
def alone (source : Option (Source σ)) (size : Int) (s : σ) (count : Nat) : Job → Option Answer
  | .decompile i events template =>
      if i < count then
        some (Decompiler.decompile source events template { cache := .ofSize size } s).1
      else none
  | _ => none

end Job

/-- **The answers to jobs without any history**, with `count` decompilers at the start. -/
def answersAlone (source : Option (Source σ)) (size : Int) (s : σ) :
    Nat → List Job → List (Option Answer)
  | _, [] => []
  | count, job :: jobs =>
      job.alone source size s count :: answersAlone source size s (job.countAfter count) jobs

namespace Workshop

variable {source : Option (Source σ)} {w : Workshop σ}

theorem decompiler?_of_lt {i : Nat} (h : i < w.decompilers.length) :
    ∃ d, w.decompiler? i = some d ∧ d.cache = w.cache := by
  refine ⟨{ w.decompilers[i] with cache := w.cache }, ?_, rfl⟩
  rw [decompiler?, List.getElem?_eq_getElem h]
  rfl

theorem decompiler?_of_le {i : Nat} (h : w.decompilers.length ≤ i) : w.decompiler? i = none := by
  rw [decompiler?, List.getElem?_eq_none h]
  rfl

theorem perform_decompile {i : Nat} {d : Decompiler} (hd : w.decompiler? i = some d)
    (events : List Bytes) (template : Bytes) :
    w.perform source (.decompile i events template) =
      (some (d.decompile source events template w.source).1,
        w.store i (d.decompile source events template w.source).2.1
          (d.decompile source events template w.source).2.2) := by
  rw [perform, hd]

theorem perform_reset {i : Nat} {d : Decompiler} (hd : w.decompiler? i = some d) :
    w.perform source (.reset i) = (none, w.store i d.reset w.source) := by
  rw [perform, hd]

/-- **One job**: it is answered as if there had been no history, and keeps the cache coherent. -/
theorem perform_coherent (hs : Steady source) (hw : Coherent source w.cache) (size : Int) (s : σ)
    (job : Job) :
    (w.perform source job).1 = job.alone source size s w.decompilers.length ∧
      (w.perform source job).2.decompilers.length = job.countAfter w.decompilers.length ∧
      Coherent source (w.perform source job).2.cache := by
  cases job with
  | decompile i events template =>
      rcases Nat.lt_or_ge i w.decompilers.length with hi | hi
      · obtain ⟨d, hd, hc⟩ := decompiler?_of_lt hi
        -- a pass clears everything of its decompiler but the cache
        have hdc : Coherent source d.cache := by rwa [hc]
        rw [perform_decompile hd, Job.alone, if_pos hi]
        refine ⟨?_, List.length_set, hdc.decompile hs events template w.source⟩
        exact congrArg some (hdc.decompile_eq hs (.ofSize source size) events template w.source s)
      · rw [perform, decompiler?_of_le hi, Job.alone, if_neg (Nat.not_lt.2 hi)]
        exact ⟨rfl, rfl, hw⟩
  | reset i =>
      rcases Nat.lt_or_ge i w.decompilers.length with hi | hi
      · obtain ⟨d, hd, hc⟩ := decompiler?_of_lt hi
        rw [perform_reset hd]
        exact ⟨rfl, List.length_set, show Coherent source d.cache by rwa [hc]⟩
      · rw [perform, decompiler?_of_le hi]
        exact ⟨rfl, rfl, hw⟩
  | create => exact ⟨rfl, List.length_append, hw⟩
  | purge => exact ⟨rfl, rfl, .clear source w.cache⟩

/-- The answers of a run in a workshop with a coherent cache. -/
theorem performAll_coherent (hs : Steady source) (size : Int) (s : σ) (jobs : List Job)
    (w : Workshop σ) (hw : Coherent source w.cache) :
    performAll source jobs w = answersAlone source size s w.decompilers.length jobs := by
  induction jobs generalizing w with
  | nil => rfl
  | cons job jobs ih =>
      obtain ⟨hanswer, hcount, hcoherent⟩ := perform_coherent hs hw size s job
      rw [performAll, answersAlone, hanswer, ih _ hcoherent, hcount]

end Workshop

/-- **Every pass of every run is as good as the first.**  In a workshop that starts without
decompilers and with an empty cache of any size, whatever is done in whatever order, each pass
answers as a new decompiler with an empty cache of any size does. -/
theorem answers_performAll (source : Option (Source σ)) (hs : Steady source) (size size' : Int)
    (s s' : σ) (jobs : List Job) :
    Workshop.performAll source jobs { cache := .ofSize size, source := s } =
      answersAlone source size' s' 0 jobs :=
  Workshop.performAll_coherent hs size' s' jobs _ (.ofSize source size)

/-- A source that knows one template and counts the questions it is asked. -/
def Source.knowing (t : Template) : Source Nat where
  template name s :=
    (if catalogKey name = catalogKey t.name then .ok (some t) else .error (.sentinel .notFound),
      s + 1)
  indexes _ s := (.error (.sentinel .notFound), s + 1)
  titles _ s := (.ok [], s + 1)
  functionObject _ s := (.error (.sentinel .notFound), s + 1)

theorem Source.knowing_steady (t : Template) : Steady (some (knowing t)) where
  fixed := by
    intro src hsrc
    obtain rfl : knowing t = src := Option.some.inj hsrc
    constructor <;> intros <;> simp only [knowing]
  byKey := by
    intro src hsrc name name' s hk
    obtain rfl : knowing t = src := Option.some.inj hsrc
    simp only [knowing, hk]

/-- Two decompilers on a cache for one template: the first brings a template of its own with the
name under which the second asks the source, fails in between, and the cache is emptied. -/
theorem answers_performAll_shared :
    let t : Template := .ofItems "D1" "" [⟨"1", "AN8", "mnAddress", 0, ""⟩]
    let event : Bytes :=
      "<E szEventSpecKey='K'><GBRASSIGN textString='a=b'><ObjTo>".toUTF8.toList ++
        "<DSOBJMember idItem='1' szTmplName='d1'/></ObjTo></GBRASSIGN></E>".toUTF8.toList
    let own : Bytes := "<T szTmplName='D1'><I idItem='1' szDict='X'/></T>".toUTF8.toList
    let jobs : List Job :=
      [.create, .decompile 0 [event] own, .create, .decompile 1 [event] [], .decompile 0 [[60]] [],
        .reset 0, .purge, .decompile 0 [event] []]
    Workshop.performAll (some (Source.knowing t)) jobs { cache := .ofSize 1, source := 0 } =
      answersAlone (some (Source.knowing t)) 512 7 0 jobs := by
  intro t event own jobs
  exact answers_performAll _ (Source.knowing_steady t) 1 512 0 7 jobs

end EventRules
