/-
**A batch is as good as its requests one by one.**

The requests of a batch share a template cache for each environment, the open catalogs and the
caches in front of those.  All of this is filled in the order in which the requests happen to be
run.  None of it shows: each request is answered as it would be alone, before the batch.

What a request is answered depends on the store of its environment only.  As long as nobody writes,
a store is what opening its catalog anew gives, and that is not changed by opening other catalogs,
or by closing one and opening it again.  So the invariant of a run has two parts: the site is
*settled*, that is, every open catalog holds its contents and every cache answers of them; and each
shared template cache *fits* the contents of its environment.

Main definitions:

* `Catalog.Store.knowledge` — what a store knows;
* `Site.Settled`, `Service.Settled` — nobody has written behind the back of an open catalog;
* `DecompileRequest.answer` — the answer to a request, given the contents of its environment;
* `Fits` — a template cache that requests on these contents can share.

Main results:

* `Catalog.Store.source_tells` — a store tells what it knows;
* `Service.decompileWith_answer` — one request on any caches that fit;
* `Service.runItem_good`, `Service.run_good` — one item, and any run of items;
* `Service.failures_run` — what the counter of a batch counts;
* `runBatch_pointwise` — **a batch is the pointwise single decompile, in any order**.
-/

import Mathlib.Data.List.Basic
import EventRules.Service
import EventRules.Proofs.Caching
import EventRules.Proofs.Opening
import EventRules.Proofs.Storing

set_option relaxedAutoImplicit false
set_option autoImplicit false

namespace EventRules

/-! ### What a store knows -/

namespace Catalog.Store

/-- **What a store knows.** -/
def knowledge (store : Store) : Knowledge where
  template key :=
    (store.lookup? .templates Record.document? key).bind fun doc =>
      (Template.parse "" doc).toOption.map some
  indexes key := store.lookup? .indexes Record.indexes? key
  titles := some fun key => (store.title? key).getD ""
  functionObject key := store.lookup? .functionObjects Record.text? key

theorem toOption_find {α : Type} (store : Store) (space : Space) (read : Record → Option α)
    (name : String) :
    (store.find space read name).toOption = store.lookup? space read (catalogKey name) := by
  unfold find
  cases store.lookup? space read (catalogKey name) <;> rfl

theorem toOption_template (store : Store) (name : String) :
    ((store.template name).map some).toOption = store.knowledge.template (catalogKey name) := by
  have hfind := store.toOption_find .templates Record.document? name
  unfold template templateDocument knowledge
  dsimp only
  rw [← hfind]
  cases store.find .templates Record.document? name with
  | error e => rfl
  | ok doc =>
      have hparse := Template.toOption_parse name "" doc
      change ((Template.parse name doc).map some).toOption = (Template.parse "" doc).toOption.map some
      rw [← hparse]
      cases Template.parse name doc <;> rfl

theorem titlesOf_titles (store : Store) (items : List String) :
    TitlesOf (fun key => (store.title? key).getD "") items (store.titles items) := by
  intro item
  rw [shownTitle, get?_titles]
  by_cases hi : item ∈ items
  · simp [hi]
  · simp [hi]

/-- **A store tells what it knows**, and asking it changes nothing. -/
theorem source_tells (store : Store) :
    (source false).Tells (fun s => s = store) store.knowledge where
  template name := by
    rintro s rfl
    exact ⟨s.toOption_template name, rfl⟩
  indexes table := by
    rintro s rfl
    exact ⟨s.toOption_find _ _ _, rfl⟩
  titles items _ := by
    rintro s rfl
    exact ⟨.gives (s.titlesOf_titles items), rfl⟩
  functionObject name := by
    rintro s rfl
    exact ⟨s.toOption_find _ _ _, rfl⟩

end Catalog.Store

/-! ### Settled sites -/

namespace Site

variable {s u : Site} {environment : String} {catalog : OpenCatalog}

/-- An open catalog that holds the contents of its environment, with caches that hold answers. -/
structure Shows (s : Site) (environment : String) (catalog : OpenCatalog) : Prop where
  /-- Opening it once more would give the same store. -/
  contents : s.contents environment = .ok catalog.store
  /-- What its caches have seen is what the store knows. -/
  caches : catalog.caches.Hold catalog.store.knowledge

/-- **A settled site**: nobody has written behind the back of an open catalog. -/
def Settled (s : Site) : Prop :=
  ∀ environment catalog, (environment, catalog) ∈ s.registry.opened.entries →
    s.Shows environment catalog

/-- A site where catalogs have been used: it is settled still, and the contents are the same. -/
structure Keeps (s u : Site) : Prop where
  /-- It is settled. -/
  settled : u.Settled
  /-- All catalogs have the same contents. -/
  contents : ∀ environment, u.contents environment = s.contents environment

theorem Keeps.trans {w : Site} (h : s.Keeps u) (h' : u.Keeps w) : s.Keeps w :=
  ⟨h'.settled, fun e => (h'.contents e).trans (h.contents e)⟩

/-- The open catalogs do not matter for the contents. -/
theorem contents_withOpened (s : Site) (opened : Lru OpenCatalog) (environment : String) :
    contents { s with registry := { s.registry with opened := opened } } environment =
      s.contents environment :=
  contents_congr ⟨rfl, rfl, rfl⟩ fun _ => ⟨rfl, fun _ => rfl⟩

/-- A site with other open catalogs is as good if these show the contents. -/
theorem keeps_withOpened {opened : Lru OpenCatalog}
    (h : ∀ environment catalog, (environment, catalog) ∈ opened.entries →
      s.Shows environment catalog) :
    s.Keeps { s with registry := { s.registry with opened := opened } } where
  settled environment catalog hm :=
    ⟨(contents_withOpened s opened environment).trans (h environment catalog hm).contents,
      (h environment catalog hm).caches⟩
  contents := contents_withOpened s opened

/-- Opening a catalog anew gives the contents. -/
theorem openAnew_settled (hs : s.Settled) (hn : isEnvironmentName environment = true) :
    (s.openAnew environment).1.map (·.store) = s.contents environment ∧
      (∀ catalog, (s.openAnew environment).1 = .ok catalog → s.Shows environment catalog) ∧
      s.Keeps (s.openAnew environment).2 := by
  have hstore : (s.openAnew environment).1.map (·.store) = s.contents environment := by
    rw [contents, if_pos hn]
  refine ⟨hstore, ?_⟩
  rcases hopen : s.openAnew environment with ⟨e | catalog, u⟩
  · rw [openAnew_error hopen]
    exact ⟨fun _ he => (by cases he), hs, fun _ => rfl⟩
  · obtain ⟨-, -, hcaches, hregistry⟩ := openAnew_ok hopen
    have hcontents := openAnew_contents hn hopen
    have hshows : s.Shows environment catalog := by
      rw [hopen] at hstore
      exact ⟨hstore.symm, by rw [hcaches]; exact .ofSize 0 _⟩
    refine ⟨fun catalog' he => Except.ok.inj he ▸ hshows, ?_, hcontents⟩
    intro other catalog' hm
    rw [hregistry] at hm
    rcases Lru.mem_of_mem_insert hm with he | hm
    · obtain ⟨rfl, rfl⟩ := Prod.mk.inj he
      exact ⟨(hcontents _).trans hshows.contents, hshows.caches⟩
    · exact ⟨(hcontents _).trans (hs other catalog' hm).contents, (hs other catalog' hm).caches⟩

/-- **In a settled site the catalog of an environment has its contents**, be it open or not. -/
theorem openCatalog_settled (hs : s.Settled) (environment : String) :
    (s.openCatalog environment).1.map (·.store) = s.contents environment ∧
      (∀ catalog, (s.openCatalog environment).1 = .ok catalog → s.Shows environment catalog) ∧
      s.Keeps (s.openCatalog environment).2 := by
  have hfst := s.registry.opened.get_fst environment
  have hsnd {e : String × OpenCatalog} (h : e ∈ (s.registry.opened.get environment).2.entries) :=
    Lru.mem_of_mem_get h
  unfold openCatalog
  rcases hget : s.registry.opened.get environment with ⟨_ | catalog, opened⟩
  · dsimp only
    split
    · exact openAnew_settled hs ‹_›
    · rename_i hn
      refine ⟨?_, fun _ he => (by cases he), hs, fun _ => rfl⟩
      rw [contents, if_neg hn]
      rfl
  · rw [hget] at hfst hsnd
    have hshows := hs environment catalog (Lru.mem_of_peek? hfst.symm)
    refine ⟨hshows.contents.symm, fun catalog' he => Except.ok.inj he ▸ hshows, ?_⟩
    exact keeps_withOpened fun other catalog' hm => hs other catalog' (hsnd hm)

/-- Putting a catalog back with caches that hold answers. -/
theorem keepCaches_settled (hs : s.Settled) (hc : s.contents environment = .ok catalog.store)
    {caches : SourceCaches} (hh : caches.Hold catalog.store.knowledge) :
    s.Keeps (s.keepCaches environment catalog caches) := by
  refine keeps_withOpened fun other catalog' hm => ?_
  rcases Lru.mem_of_mem_insert hm with he | hm
  · obtain ⟨rfl, rfl⟩ := Prod.mk.inj he
    exact ⟨hc, hh⟩
  · exact hs other catalog' hm

end Site

/-! ### One request -/

/-- **The answer to a request**, given the contents of its environment. -/
def DecompileRequest.answer (r : DecompileRequest) (contents : Except Failure Catalog.Store) :
    Except Failure Decompiled :=
  if r.events.isEmpty then .error (.explain .invalidInput "no event documents")
  else if r.environment = "" then (Service.decompileAlone r .default).1
  else do
    let store ← contents
    let template ← r.templateDocument store
    (Decompiler.decompile (some (Catalog.Store.source false)) r.events template {} store).1

theorem DecompileRequest.answer_in {r : DecompileRequest} (hevents : ¬ r.events.isEmpty = true)
    (henv : r.environment ≠ "") (contents : Except Failure Catalog.Store) :
    r.answer contents = (do
      let store ← contents
      let template ← r.templateDocument store
      (Decompiler.decompile (some (Catalog.Store.source false)) r.events template {} store).1) := by
  unfold answer
  rw [if_neg hevents, if_neg henv]

/-- **A template cache fits contents** if its templates are those of the store; without a store it
has seen passes without a source only. -/
def Fits (contents : Except Failure Catalog.Store) (cache : TemplateCache) : Prop :=
  match contents with
  | .ok store => cache.entries.Holds store.knowledge.template?
  | .error _ => Coherent (none : Option (Source Unit)) cache

theorem fits_default (contents : Except Failure Catalog.Store) : Fits contents .default := by
  cases contents with
  | ok store => exact TemplateCache.default_holds _
  | error e => exact .ofSize none _

theorem steady_none : Steady (none : Option (Source Unit)) := ⟨nofun, nofun⟩

namespace Service

/-- A request without an environment is answered alike on all caches that have seen no source. -/
theorem decompileAlone_answer (r : DecompileRequest) {cache : TemplateCache}
    (hc : Coherent (none : Option (Source Unit)) cache) :
    (decompileAlone r cache).1 = (decompileAlone r .default).1 ∧
      Coherent (none : Option (Source Unit)) (decompileAlone r cache).2 := by
  unfold decompileAlone
  split
  · exact ⟨rfl, hc⟩
  · have hcache : Coherent (none : Option (Source Unit)) ({ cache := cache } : Decompiler).cache := hc
    have hdefault : Coherent (none : Option (Source Unit))
        ({ cache := .default } : Decompiler).cache := .ofSize none _
    exact ⟨hcache.decompile_eq steady_none hdefault r.events r.template () (),
      hcache.decompile steady_none r.events r.template ()⟩

/-- What is returned in an environment: the failure, or the answer and the cache. -/
theorem decompileIn_answer {r : DecompileRequest} {s : Site} {cache : TemplateCache}
    (hs : s.Settled) (hevents : ¬ r.events.isEmpty = true) (henv : r.environment ≠ "")
    (hc : Fits (s.contents r.environment) cache) :
    (match (decompileIn false r cache s).1 with
      | .error e => r.answer (s.contents r.environment) = .error e
      | .ok (result, cache') =>
          r.answer (s.contents r.environment) = result ∧ Fits (s.contents r.environment) cache') ∧
      s.Keeps (decompileIn false r cache s).2 := by
  have hanswer := DecompileRequest.answer_in hevents henv (s.contents r.environment)
  obtain ⟨hstore, hshows, hkeeps⟩ := Site.openCatalog_settled hs r.environment
  unfold decompileIn
  rcases hopen : s.openCatalog r.environment with ⟨e | catalog, u⟩
  · rw [hopen] at hstore hkeeps
    have hcontents : s.contents r.environment = .error e := hstore.symm
    rw [hcontents] at hanswer ⊢
    exact ⟨hanswer, hkeeps⟩
  · rw [hopen] at hkeeps hshows
    obtain ⟨hcontents, hcaches⟩ := hshows catalog rfl
    rw [hcontents] at hanswer hc ⊢
    dsimp only [bind, Except.bind] at hanswer ⊢
    cases hdoc : r.templateDocument catalog.store with
    | error e =>
        rw [hdoc] at hanswer
        exact ⟨hanswer, hkeeps⟩
    | ok template =>
        rw [hdoc] at hanswer
        have htells := catalog.store.source_tells
        have hshelf : Shelf.Good catalog.store.knowledge
            (GoodCaches catalog.store.knowledge fun s => s = catalog.store)
            ⟨({ cache := cache } : Decompiler).cache, (catalog.caches, catalog.store)⟩ :=
          ⟨hc, hcaches, rfl⟩
        have hnew : Shelf.Good catalog.store.knowledge (fun s => s = catalog.store)
            ⟨({} : Decompiler).cache, catalog.store⟩ :=
          ⟨TemplateCache.default_holds _, rfl⟩
        obtain ⟨heq, hgood, -⟩ :=
          htells.cached.decompile_eq htells hshelf hnew r.events template
        refine ⟨⟨hanswer.trans heq.symm, hgood.cache⟩, hkeeps.trans ?_⟩
        exact Site.keepCaches_settled hkeeps.settled ((hkeeps.contents _).trans hcontents)
          hgood.source.1

/-- The contents of an environment; without any environments it is not found. -/
def contents (s : Service) (environment : String) : Except Failure Catalog.Store :=
  match s.registry with
  | none => .error (noEnvironment environment)
  | some registry => Site.contents ⟨registry, s.files⟩ environment

/-- **A settled service**: if it has environments, their site is settled. -/
def Settled (s : Service) : Prop :=
  ∀ registry ∈ s.registry, Site.Settled ⟨registry, s.files⟩

/-- A service that has just been set up is settled, whatever the files hold. -/
theorem settled_of_nothing_opened {s : Service}
    (h : ∀ registry ∈ s.registry, registry.opened.entries = []) : s.Settled := by
  intro registry hr environment catalog hm
  rw [show ({ registry := registry, files := s.files } : Site).registry.opened.entries = [] from
    h registry hr] at hm
  cases hm

/-- A service that has been used: it is settled still, and the contents are the same. -/
structure Keeps (s u : Service) : Prop where
  /-- It is settled. -/
  settled : u.Settled
  /-- All catalogs have the same contents. -/
  contents : ∀ environment, u.contents environment = s.contents environment

theorem Keeps.trans {s u w : Service} (h : s.Keeps u) (h' : u.Keeps w) : s.Keeps w :=
  ⟨h'.settled, fun e => (h'.contents e).trans (h.contents e)⟩

/-- No environment has an empty name. -/
theorem contents_empty (s : Service) : ∃ e, s.contents "" = .error e := by
  unfold contents
  split
  · exact ⟨_, rfl⟩
  · exact ⟨_, if_neg (by decide)⟩

/-- **One request on caches that fit**: it has its answer, and everything stays as good. -/
theorem decompileWith_answer {s : Service} (hs : s.Settled) (r : DecompileRequest)
    {cache : TemplateCache} (hc : Fits (s.contents r.environment) cache) :
    (decompileWith false r cache s).1 = r.answer (s.contents r.environment) ∧
      Fits (s.contents r.environment) (decompileWith false r cache s).2.1 ∧
      s.Keeps (decompileWith false r cache s).2.2 := by
  have hself : s.Keeps s := ⟨hs, fun _ => rfl⟩
  unfold decompileWith
  split
  · rename_i hevents
    refine ⟨?_, hc, hself⟩
    unfold DecompileRequest.answer
    rw [if_pos hevents]
  · rename_i hevents
    split
    · rename_i henv
      obtain ⟨e, he⟩ := s.contents_empty
      rw [henv, he] at hc ⊢
      obtain ⟨hanswer, hcoherent⟩ := decompileAlone_answer r hc
      refine ⟨?_, hcoherent, hself⟩
      unfold DecompileRequest.answer
      rw [if_neg hevents, if_pos henv]
      exact hanswer
    · rename_i henv
      cases hr : s.registry with
      | none =>
          have hcontents : s.contents r.environment = .error (noEnvironment r.environment) := by
            rw [contents, hr]
          rw [onSite, hr]
          refine ⟨?_, hc, hself⟩
          rw [hcontents, DecompileRequest.answer_in hevents henv]
          rfl
      | some registry =>
          have hcontents (e : String) :
              s.contents e = Site.contents ⟨registry, s.files⟩ e := by
            rw [contents, hr]
          rw [hcontents] at hc ⊢
          obtain ⟨hanswer, hkeeps⟩ :=
            decompileIn_answer (hs registry hr) hevents henv hc
          rw [onSite, hr]
          dsimp only
          rcases hd : decompileIn false r cache ⟨registry, s.files⟩ with ⟨result, u⟩
          rw [hd] at hanswer hkeeps
          have hkept : s.Keeps (ofSite u) := by
            refine ⟨?_, fun e => ?_⟩
            · rintro registry' ⟨rfl⟩
              exact hkeeps.settled
            · exact (hkeeps.contents e).trans (hcontents e).symm
          cases result with
          | error e => exact ⟨hanswer.symm, hc, hkept⟩
          | ok p => exact ⟨hanswer.1.symm, hanswer.2, hkept⟩

/-- A request alone has its answer. -/
theorem decompile_answer {s : Service} (hs : s.Settled) (r : DecompileRequest) :
    (decompile false r s).1 = r.answer (s.contents r.environment) :=
  (decompileWith_answer hs r (fits_default _)).1

/-! ### Runs -/

/-- The outcome that the request at a position should have. -/
def outcomeAt? (requests : List DecompileRequest) (s : Service) (position : Nat) :
    Option BatchItem :=
  requests[position]?.map fun r =>
    ⟨r.id, (r.answer (s.contents r.environment)).mapError (·.message)⟩

/-- **A batch after the requests at some positions have been run.** -/
structure Good (requests : List DecompileRequest) (s : Service) (done : List Nat) (b : BatchRun) :
    Prop where
  /-- The service is as good as before. -/
  keeps : s.Keeps b.service
  /-- Each template cache fits the contents of its environment. -/
  caches : ∀ environment cache, b.caches.get? environment = some cache →
    Fits (s.contents environment) cache
  /-- The outcomes are those that the requests should have. -/
  outcomes : b.outcomes =
    done.filterMap fun i => (outcomeAt? requests s i).map fun item => (i, item)
  /-- The failures among them have been counted. -/
  failures : b.failures = b.outcomes.countP (·.2.failed)

theorem good_start {s : Service} (hs : s.Settled) (requests : List DecompileRequest) :
    Good requests s [] { service := s } where
  keeps := ⟨hs, fun _ => rfl⟩
  caches _ _ h := by cases h
  outcomes := rfl
  failures := rfl

/-- The cache of an environment fits, also if it has to be made. -/
theorem Good.cache_fits {requests : List DecompileRequest} {s : Service} {done : List Nat}
    {b : BatchRun} (h : Good requests s done b) (environment : String) :
    Fits (s.contents environment) ((b.caches.get? environment).getD .default) := by
  cases hc : b.caches.get? environment with
  | none => exact fits_default _
  | some cache => exact h.caches environment cache hc

/-- **One item**: it has the outcome of its request alone, and touches nothing else. -/
theorem runItem_good {requests : List DecompileRequest} {s : Service} {done : List Nat}
    {b : BatchRun} (h : Good requests s done b) (position : Nat) :
    Good requests s (done ++ [position]) (runItem requests b position) := by
  unfold runItem
  cases hr : requests[position]? with
  | none =>
      refine ⟨h.keeps, h.caches, ?_, h.failures⟩
      rw [List.filterMap_append, ← h.outcomes]
      simp [outcomeAt?, hr]
  | some r =>
      have hcontents := h.keeps.contents r.environment
      obtain ⟨hanswer, hfits, hkeeps⟩ := decompileWith_answer h.keeps.settled r
        (by rw [hcontents]; exact h.cache_fits r.environment)
      rw [hcontents] at hanswer hfits
      refine ⟨h.keeps.trans hkeeps, fun environment cache hm => ?_, ?_, ?_⟩
      · by_cases he : environment = r.environment
        · subst he
          rw [Dictionary.get?_insert_self] at hm
          exact Option.some.inj hm ▸ hfits
        · rw [Dictionary.get?_insert_of_ne _ _ he] at hm
          exact h.caches environment cache hm
      · rw [List.filterMap_append, ← h.outcomes]
        simp [outcomeAt?, hr, hanswer]
      · dsimp only
        rw [List.countP_append, List.countP_singleton, ← h.failures]
        split <;> rfl

/-- **Any run of items.** -/
theorem run_good {requests : List DecompileRequest} {s : Service} {done : List Nat} {b : BatchRun}
    (h : Good requests s done b) (order : List Nat) :
    Good requests s (done ++ order) (order.foldl (runItem requests) b) := by
  induction order generalizing done b with
  | nil => simpa using h
  | cons position order ih => simpa using ih (runItem_good h position)

/-- The outcome of a position that has been run. -/
theorem lookup_outcomes {outcome : Nat → Option BatchItem} {order : List Nat} {i : Nat}
    (h : i ∈ order) :
    (order.filterMap fun j => (outcome j).map fun item => (j, item)).lookup i = outcome i := by
  induction order with
  | nil => cases h
  | cons j order ih =>
      rw [List.filterMap_cons]
      cases hj : outcome j with
      | some item =>
          by_cases hij : i = j
          · subst hij
            simp [hj]
          · have hne : (i == j) = false := by simpa using hij
            simpa [List.lookup_cons, hne] using ih ((List.mem_cons.1 h).resolve_left hij)
      | none =>
          by_cases hm : i ∈ order
          · simpa using ih hm
          · -- nothing has been recorded for the position
            obtain rfl : i = j := (List.mem_cons.1 h).resolve_right hm
            have hnone : ∀ e ∈ order.filterMap fun j => (outcome j).map fun item => (j, item),
                e.1 ≠ i := by
              intro e he hei
              obtain ⟨k, hk, hke⟩ := List.mem_filterMap.1 he
              obtain ⟨item, -, rfl⟩ := Option.map_eq_some_iff.1 hke
              exact hm (hei ▸ hk)
            simp only [Option.map_none]
            rw [hj]
            exact List.lookup_eq_none_iff.2 fun e he => by
              simpa using fun hei => hnone e he hei.symm

/-- What is found at all positions, in their order. -/
theorem filterMap_range_getElem? {α β : Type} (l : List α) (f : α → β) :
    (List.range l.length).filterMap (fun i => l[i]?.map f) = l.map f := by
  induction l with
  | nil => rfl
  | cons a l ih =>
      rw [List.length_cons, List.range_succ_eq_map, List.filterMap_cons, List.filterMap_map]
      simpa [Function.comp_def] using ih

/-- What does not depend on positions is counted as without them. -/
theorem countP_mapIdx {α β : Type} {f : Nat → α → β} {p : β → Bool} {q : α → Bool}
    (h : ∀ i a, p (f i a) = q a) (l : List α) : (l.mapIdx f).countP p = l.countP q := by
  induction l generalizing f with
  | nil => rfl
  | cons a l ih =>
      rw [List.mapIdx_cons, List.countP_cons, List.countP_cons, ih fun i a => h (i + 1) a, h]

/-- **All requests in any order**: the outcomes by position are the answers. -/
theorem lookup_run {requests : List DecompileRequest} {s : Service} (hs : s.Settled)
    (order : List Nat) (horder : order.Perm (List.range requests.length)) :
    ((List.range requests.length).filterMap fun i =>
        (order.foldl (runItem requests) { service := s }).outcomes.lookup i) =
      requests.map fun r =>
        ⟨r.id, (r.answer (s.contents r.environment)).mapError (·.message)⟩ := by
  rw [(run_good (good_start hs requests) order).outcomes, ← filterMap_range_getElem?]
  exact List.filterMap_congr fun i hi => lookup_outcomes (horder.mem_iff.2 hi)

/-- **The counter counts the items that failed**, in whatever order they have been run. -/
theorem failures_run {requests : List DecompileRequest} {s : Service} (hs : s.Settled)
    (order : List Nat) (horder : order.Perm (List.range requests.length)) :
    (order.foldl (runItem requests) { service := s }).failures =
      ((List.range requests.length).filterMap fun i =>
        (order.foldl (runItem requests) { service := s }).outcomes.lookup i).countP (·.failed) := by
  have hrun := run_good (good_start hs requests) order
  have hitems (positions : List Nat) :
      (positions.filterMap fun i => (outcomeAt? requests s i).map fun item => (i, item)).map (·.2) =
        positions.filterMap (outcomeAt? requests s) := by
    rw [List.map_filterMap]
    refine List.filterMap_congr fun i _ => ?_
    rw [Option.map_map]
    exact Option.map_id'
  calc (order.foldl (runItem requests) { service := s }).failures
      = ((order.filterMap fun i => (outcomeAt? requests s i).map fun item => (i, item)).map
          (·.2)).countP (·.failed) := by
        rw [hrun.failures, hrun.outcomes, List.nil_append, List.countP_map]
        rfl
    _ = ((List.range requests.length).filterMap (outcomeAt? requests s)).countP (·.failed) := by
        rw [hitems]
        exact (horder.filterMap _).countP_eq _
    _ = _ := by
        rw [hrun.outcomes]
        exact congrArg (List.countP _) (List.filterMap_congr fun i hi =>
          (lookup_outcomes (horder.mem_iff.2 hi)).symm)

end Service

/-! ### Batches -/

/-- The request as it is run in a batch: without an environment it takes that of the batch. -/
def DecompileRequest.within (environment : String) (r : DecompileRequest) : DecompileRequest :=
  { r with environment := if r.environment = "" then environment else r.environment }

/-- **A batch is the pointwise single decompile, in any order.**  On a settled service, a batch that
is not empty has one item for each request, in their order, with the id that the request has, and
the result or the wording of the failure that the request has alone.  The failures that it has
counted are those of its items, and as many requests fail alone.  Afterwards every request is
answered as before. -/
theorem runBatch_pointwise (newId : Nat → String) (environment : String)
    {requests : List DecompileRequest} (hne : requests ≠ []) {order : List Nat}
    (horder : order.Perm (List.range requests.length)) {s : Service} (hs : s.Settled) :
    ∃ batch, (Service.runBatch newId order false environment requests s).1 = .ok batch ∧
      batch.items = requests.mapIdx (fun i r =>
        ⟨if r.id = "" then newId (i + 1) else r.id,
          (Service.decompile false (r.within environment) s).1.mapError (·.message)⟩) ∧
      batch.failures = batch.items.countP (·.failed) ∧
      batch.failures = requests.countP (fun r =>
        (Service.decompile false (r.within environment) s).1.toOption.isNone) ∧
      (Service.runBatch newId order false environment requests s).2.Settled ∧
      ∀ r, ((Service.runBatch newId order false environment requests s).2.decompile false r).1 =
        (s.decompile false r).1 := by
  have hlength : (requests.mapIdx (Service.complete newId environment)).length = requests.length :=
    List.length_mapIdx
  have hrun := Service.lookup_run hs order (by rwa [hlength])
  have hkeeps := (Service.run_good
    (Service.good_start hs (requests.mapIdx (Service.complete newId environment))) order).keeps
  have hitems : ((List.range requests.length).filterMap fun i =>
      (order.foldl (Service.runItem (requests.mapIdx (Service.complete newId environment)))
        { service := s }).outcomes.lookup i) =
      requests.mapIdx (fun i r =>
        ⟨if r.id = "" then newId (i + 1) else r.id,
          (Service.decompile false (r.within environment) s).1.mapError (·.message)⟩) := by
    rw [← hlength, hrun]
    refine List.ext_getElem? fun i => ?_
    rw [List.getElem?_map, List.getElem?_mapIdx, List.getElem?_mapIdx, Option.map_map]
    refine congrArg (requests[i]?.map ·) (funext fun r => ?_)
    rw [Service.decompile_answer hs]
    rfl
  have hfailures := Service.failures_run hs order (by rwa [hlength])
  rw [hlength] at hfailures
  rw [Service.runBatch, if_neg (by simpa using hne), if_neg Bool.false_ne_true]
  refine ⟨_, rfl, hitems, hfailures, ?_, hkeeps.settled, fun r => ?_⟩
  · dsimp only
    rw [hfailures, hitems]
    refine Service.countP_mapIdx (fun i r => ?_) requests
    cases (Service.decompile false (r.within environment) s).1 <;> rfl
  · rw [Service.decompile_answer hkeeps.settled, Service.decompile_answer hs, hkeeps.contents]

/-- Two requests on one cache, with a template of the catalog and with another one of the same name
that comes with the request; a third one on an environment that does not exist; the last one is run
first. -/
theorem runBatch_pointwise_mixed :
    let catalogTemplate : Bytes := "<T szTmplName='D1'><I idItem='1' szDict='AN8'/></T>".toUTF8.toList
    let ownTemplate : Bytes := "<T szTmplName='d1'><I idItem='1' szDict='X'/></T>".toUTF8.toList
    let event : Bytes :=
      "<E szEventSpecKey='K'><GBRASSIGN textString='a=b'><ObjTo>".toUTF8.toList ++
        "<DSOBJMember idItem='1' szTmplName='d1'/></ObjTo></GBRASSIGN></E>".toUTF8.toList
    let s : Service :=
      { files :=
          { entries :=
              [("/data", .directory), ("/data/dev", .directory),
                ("/data/dev/badger", .database ⟨[("tmpl/D1", .document catalogTemplate)]⟩)] }
        registry := some { base := "/data" } }
    let requests : List DecompileRequest :=
      [{ id := "first", events := [event] }, { events := [event], template := ownTemplate },
        { environment := "none", events := [event] }, { events := [event], templateName := " d1" }]
    ∃ batch, (Service.runBatch toString [3, 1, 0, 2] false "dev" requests s).1 = .ok batch ∧
      batch.items = requests.mapIdx (fun i r =>
        ⟨if r.id = "" then toString (i + 1) else r.id,
          (Service.decompile false (r.within "dev") s).1.mapError (·.message)⟩) ∧
      batch.items.map (·.id) = ["first", "2", "3", "4"] := by
  intro catalogTemplate ownTemplate event s requests
  have hne : requests ≠ [] := nofun
  have horder : [3, 1, 0, 2].Perm (List.range requests.length) := by decide
  have hs : s.Settled := Service.settled_of_nothing_opened (by rintro registry ⟨rfl⟩; rfl)
  obtain ⟨batch, hok, hitems, -⟩ := runBatch_pointwise toString "dev" hne horder hs
  refine ⟨batch, hok, hitems, ?_⟩
  have hids : Nat.repr 2 = "2" ∧ Nat.repr 3 = "3" ∧ Nat.repr 4 = "4" := by decide
  simpa [hitems, requests] using hids

end EventRules
