/-
**What the outside world is told of a request.**

A request to decompile passes through several hands, and each can turn it down: the service, which
wants events and, for some requests, an environment; the environments, which want a proper name with
a directory; the catalog, which may lack the template; the decompiler, which rejects broken
documents.  All of them fail in words of their own, and the outside world is told a status code.

The code can be told beforehand.  The *grounds* on which a request can be turned down stand in an
order, each with its code, and the first one that applies decides; if none does, the request
succeeds.  They speak of the request, its documents and the files only: what is looked up while a
rule is decompiled does not matter, and neither does which catalogs are open.

This holds in every state that a service gets into, since its site stays sound whatever is done
with it.

Main definitions:

* `statusOf` — the status code of a result that is a failure;
* `Decides` — the first ground that applies decides;
* `Service.Supplies`, `Service.grounds` — the template document of a request, and **the grounds on
  which it can be turned down**;
* `Service.Operation`, `Service.performAll` — what can be done with a service;
* `Http.Request.AsksFor` — what a request asks for over HTTP;
* `Service.Classified` — **a request whose status is known**.

Main results:

* `decides_decompile` — a pass is turned down for broken documents only, as unprocessable;
* `Service.sound_performAll` — a service stays sound;
* `Service.decides_grounds` — what the grounds decide is the outcome;
* `Service.classified_of_run` — **after every run each request has the status of its grounds**.
-/

import EventRules.Http.Server
import EventRules.Proofs.Faults
import EventRules.Proofs.Isolation

set_option relaxedAutoImplicit false
set_option autoImplicit false

namespace EventRules

/-! ### Status codes -/

namespace Failure

variable {f : Failure}

@[simp] theorem carriedStatus?_sentinel (kind : Sentinel) :
    (sentinel kind).carriedStatus? = none := by
  simp [carriedStatus?, chain]

@[simp] theorem carriedStatus?_markup (fault : Markup.Fault) :
    (markup fault).carriedStatus? = none := by
  simp [carriedStatus?, chain]

@[simp] theorem carriedStatus?_within (before after : String) (cause : Failure) :
    (within before cause after).carriedStatus? = cause.carriedStatus? := by
  simp [carriedStatus?, chain]

@[simp] theorem carriedStatus?_malformed (document reason : String) (cause : Failure) :
    (malformed document reason (some cause)).carriedStatus? = cause.carriedStatus? := by
  simp [carriedStatus?, chain]

/-- The code of a failure that carries none. -/
theorem status_code (h : f.carriedStatus? = none) : f.status.code = f.statusByKind.1 := by
  rw [status, h]

/-- Malformed documents cannot be processed. -/
theorem status_code_of_malformed (h : f.carriedStatus? = none)
    (hm : f.is .malformedDocument = true) : f.status.code = 422 := by
  rw [status_code h, statusByKind, if_pos hm]

@[simp] theorem status_code_invalidInput (text : String) :
    (explain .invalidInput text).status.code = 400 := by
  rw [explain, status_code (by simp), statusByKind]
  simp

@[simp] theorem status_code_notFound (text : String) :
    (because text (.sentinel .notFound)).status.code = 404 := by
  rw [because, status_code (by simp), statusByKind]
  simp

end Failure

/-- **The status code of a result**, if it is a failure. -/
def statusOf {α : Type} : Except Failure α → Option Int
  | .error f => some f.status.code
  | .ok _ => none

/-- What a result holds does not matter. -/
theorem statusOf_map {α β : Type} (f : α → β) (result : Except Failure α) :
    statusOf (result.map f) = statusOf result := by
  cases result <;> rfl

/-! ### Grounds -/

/-- **The first ground that applies decides**; without one there is no objection. -/
inductive Decides : List (Prop × Int) → Option Int → Prop
  | success : Decides [] none
  | here {ground : Prop} {code : Int} {rest : List (Prop × Int)} (h : ground) :
      Decides ((ground, code) :: rest) (some code)
  | later {ground : Prop} {code : Int} {rest : List (Prop × Int)} {outcome : Option Int}
      (h : ¬ ground) (hr : Decides rest outcome) : Decides ((ground, code) :: rest) outcome

namespace Decides

variable {grounds : List (Prop × Int)} {outcome outcome' : Option Int}

/-- They decide in one way. -/
theorem unique (h : Decides grounds outcome) (h' : Decides grounds outcome') :
    outcome = outcome' := by
  induction h with
  | success =>
      cases h'
      rfl
  | here h =>
      cases h' with
      | here _ => rfl
      | later hn _ => exact absurd h hn
  | later hn _ ih =>
      cases h' with
      | here h => exact absurd h hn
      | later _ hr => exact ih hr

/-- Only the codes of the grounds are told. -/
theorem mem (h : Decides grounds outcome) : outcome ∈ none :: grounds.map fun g => some g.2 := by
  induction h with
  | success => exact List.mem_cons_self
  | here h => exact List.mem_cons_of_mem _ List.mem_cons_self
  | later hn _ ih =>
      rcases List.mem_cons.1 ih with rfl | hm
      · exact List.mem_cons_self
      · exact List.mem_cons_of_mem _ (List.mem_cons_of_mem _ hm)

end Decides

/-! ### Broken documents -/

theorem Template.status_code_of_parse {label : String} {doc : Bytes} {e : Failure}
    (h : parse label doc = .error e) : e.status.code = 422 := by
  refine Failure.status_code_of_malformed ?_ (is_of_parse h .malformedDocument)
  unfold parse at h
  split at h
  · cases h
    simp
  · unfold ofNode at h
    split at h
    · cases h
      simp [malformed]
    · dsimp only at h
      split at h
      · cases h
        simp [malformed]
      · cases h

theorem EventFault.status_code {i : Nat} {doc : Bytes} {e : Failure} (h : EventFault i doc e) :
    e.status.code = 422 := by
  cases h with
  | unreadable _ => exact Failure.status_code_of_malformed (by simp) (by simp)
  | keyless _ _ => exact Failure.status_code_of_malformed (by simp) (by simp)

/-- **A pass is turned down for broken documents only**, whatever the source answers or fails to
answer, and whatever has been cached. -/
theorem decides_decompile {σ : Type} (source : Option (Source σ)) (events : List Bytes)
    (template : Bytes) (d : Decompiler) (s : σ) :
    Decides [(Broken events template, 422)]
      (statusOf (Decompiler.decompile source events template d s).1) := by
  cases ht : Decompiler.readTemplate template with
  | error e =>
      obtain ⟨hrejected, hparse⟩ := Decompiler.rejected_of_readTemplate ht
      rw [Decompiler.decompile_eq_of_template_error ht, statusOf,
        Template.status_code_of_parse hparse]
      exact .here (.inl hrejected)
  | ok primary =>
      obtain ⟨hrejected, -⟩ := Decompiler.title_of_readTemplate ht
      rw [Decompiler.decompile_eq_of_template ht]
      dsimp only
      rw [statusOf_map]
      cases hk : (Decompiler.readEvents 0 events).1 with
      | error e =>
          obtain ⟨j, doc, hfirst, hfault⟩ := Decompiler.exists_firstOffence hk
          rw [statusOf, hfault.status_code]
          exact .here (.inr ⟨doc, List.mem_of_getElem? hfirst.at_place, hfirst.offends⟩)
      | ok key =>
          refine .later ?_ .success
          rintro (hr | ⟨doc, hmem, hoff⟩)
          · exact hrejected hr
          · exact (Decompiler.eventsKey_of_readEvents hk).2 doc hmem hoff

namespace Service

variable {s : Service} {r : DecompileRequest}

/-! ### Runs -/

/-- **What can be done with a service.** -/
inductive Operation where
  /-- One request. -/
  | decompile (withdrawn : Bool) (r : DecompileRequest)
  /-- A batch of requests. -/
  | batch (newId : Nat → String) (order : List Nat) (withdrawn : Bool) (environment : String)
      (requests : List DecompileRequest)
  /-- The templates of an environment are listed. -/
  | templates (environment query : String) (limit : Int)
  /-- A template is read. -/
  | template (withdrawn : Bool) (environment name : String)
  /-- The environments are listed. -/
  | environments
  /-- Somebody works with the environments themselves. -/
  | manage (operation : Site.Operation)

/-- The service after its environments, if there are any, have been worked with. -/
def manage (s : Service) (operation : Site.Operation) : Service :=
  match s.registry with
  | none => s
  | some registry => ofSite (Site.perform ⟨registry, s.files⟩ operation)

/-- The service after an operation. -/
def perform (s : Service) : Operation → Service
  | .decompile withdrawn r => (s.decompile withdrawn r).2
  | .batch newId order withdrawn environment requests =>
      (s.runBatch newId order withdrawn environment requests).2
  | .templates environment query limit => (s.templates environment query limit).2
  | .template withdrawn environment name => (s.template withdrawn environment name).2
  | .environments => s.environments.2
  | .manage operation => s.manage operation

/-- **The service after a run of operations.** -/
def performAll (s : Service) (operations : List Operation) : Service :=
  operations.foldl perform s

/-- **A sound service**: if it has environments, their site is sound. -/
def Sound (s : Service) : Prop :=
  ∀ registry ∈ s.registry, Site.Sound ⟨registry, s.files⟩

theorem sound_ofSite {site : Site} (h : site.Sound) : (ofSite site).Sound := by
  rintro registry ⟨rfl⟩
  exact h

theorem sound_onSite {α : Type} {work : Site → Except Failure α × Site} (h : s.Sound)
    (hwork : ∀ site, site.Sound → (work site).2.Sound) (environment : String) :
    (s.onSite environment work).2.Sound := by
  unfold onSite
  split
  · exact h
  · rename_i registry hr
    exact sound_ofSite (hwork _ (h registry hr))

theorem sound_catalog (h : s.Sound) (environment : String) : (s.catalog environment).2.Sound := by
  unfold catalog
  split
  · exact h
  · exact sound_onSite h (fun _ hs => Site.sound_openCatalog hs environment) environment

theorem sound_decompileIn {site : Site} (h : site.Sound) (withdrawn : Bool)
    (r : DecompileRequest) (cache : TemplateCache) :
    (decompileIn withdrawn r cache site).2.Sound := by
  unfold decompileIn
  rcases hopen : site.openCatalog r.environment with ⟨f | catalog, u⟩
  · exact Site.openCatalog_error hopen ▸ h
  · obtain ⟨hleaves, -, hholds⟩ := Site.openCatalog_ok h hopen
    dsimp only
    split
    · exact hleaves.sound h
    · exact Site.sound_keepCaches (hleaves.sound h) hholds _

theorem sound_decompileWith (h : s.Sound) (withdrawn : Bool) (r : DecompileRequest)
    (cache : TemplateCache) : (decompileWith withdrawn r cache s).2.2.Sound := by
  unfold decompileWith
  split
  · exact h
  · split
    · exact h
    · have hsound := sound_onSite h
        (fun _ hs => sound_decompileIn hs withdrawn r cache) r.environment
      split
      · rename_i hwork
        rwa [hwork] at hsound
      · rename_i hwork
        rwa [hwork] at hsound

theorem sound_runItem (requests : List DecompileRequest) {b : BatchRun} (h : b.service.Sound)
    (position : Nat) : (runItem requests b position).service.Sound := by
  unfold runItem
  split
  · exact h
  · exact sound_decompileWith h _ _ _

theorem sound_runBatch (h : s.Sound) (newId : Nat → String) (order : List Nat) (withdrawn : Bool)
    (environment : String) (requests : List DecompileRequest) :
    (s.runBatch newId order withdrawn environment requests).2.Sound := by
  unfold runBatch
  split
  · exact h
  · split
    · exact h
    · exact List.foldlRecOn (motive := fun b : BatchRun => b.service.Sound) order _ h
        fun b hb position _ => sound_runItem _ hb position

/-- **One operation** keeps a service sound. -/
theorem sound_perform (h : s.Sound) (operation : Operation) : (s.perform operation).Sound := by
  cases operation with
  | decompile withdrawn r => exact sound_decompileWith h withdrawn r .default
  | batch newId order withdrawn environment requests =>
      exact sound_runBatch h newId order withdrawn environment requests
  | templates environment query limit =>
      have hsound := sound_catalog h environment
      rw [perform, templates]
      split <;> rename_i hcatalog <;> rwa [hcatalog] at hsound
  | template withdrawn environment name =>
      have hsound := sound_catalog h environment
      rw [perform, template]
      split <;> rename_i hcatalog <;> rwa [hcatalog] at hsound
  | environments =>
      rw [perform, environments]
      split
      · exact h
      · rename_i registry hr
        exact sound_ofSite (Site.sound_list (h registry hr))
  | manage operation =>
      rw [perform, manage]
      split
      · exact h
      · rename_i registry hr
        exact sound_ofSite (Site.step_perform (h registry hr) operation "").sound

/-- **A run** keeps a service sound. -/
theorem sound_performAll (h : s.Sound) (operations : List Operation) :
    (s.performAll operations).Sound := by
  induction operations generalizing s with
  | nil => exact h
  | cons operation rest ih => exact ih (sound_perform h operation)

/-! ### What a request is turned down for -/

variable {document : Bytes} {outcome : Option Int}

/-- **The template document of a request**: its own, or the one that the catalog of its environment
has under the name. -/
inductive Supplies (s : Service) (r : DecompileRequest) : Bytes → Prop
  | own (h : r.usesCatalogTemplate = false) : Supplies s r r.template
  | stored {registry : Registry} {document : Bytes} (h : r.usesCatalogTemplate = true)
      (hr : s.registry = some registry)
      (hd : Catalog.Store.lookup? { tables := Site.tables ⟨registry, s.files⟩ r.environment }
        .templates Catalog.Record.document? (catalogKey r.templateName) = some document) :
      Supplies s r document

theorem supplies_iff {registry : Registry} (h : r.usesCatalogTemplate = true)
    (hr : s.registry = some registry) : s.Supplies r document ↔
      Catalog.Store.lookup? { tables := Site.tables ⟨registry, s.files⟩ r.environment }
        .templates Catalog.Record.document? (catalogKey r.templateName) = some document := by
  refine ⟨fun hd => ?_, .stored h hr⟩
  cases hd with
  | own hown => exact absurd h (by simp [hown])
  | stored _ hr' hd =>
      obtain rfl := Option.some.inj (hr.symm.trans hr')
      exact hd

theorem Supplies.unique {document' : Bytes} (h : s.Supplies r document)
    (h' : s.Supplies r document') : document = document' := by
  cases h with
  | own hown =>
      cases h' with
      | own _ => rfl
      | stored hname _ _ => exact absurd hname (by simp [hown])
  | stored hname hr hd => exact Option.some.inj (hd.symm.trans ((supplies_iff hname hr).1 h'))

/-- The grounds that concern the documents. -/
def documentGrounds (s : Service) (r : DecompileRequest) : List (Prop × Int) :=
  [ -- the catalog does not have the template
    ((∀ document, ¬ s.Supplies r document), 404),
    -- the decompiler rejects a document
    ((∃ document, s.Supplies r document ∧ Broken r.events document), 422)]

/-- **The grounds on which a request can be turned down**, in their order. -/
def grounds (s : Service) (r : DecompileRequest) : List (Prop × Int) :=
  [ -- there are no events
    (r.events = [], 400),
    -- there are no environments
    (r.environment ≠ "" ∧ s.registry = none, 404),
    -- no environment can have this name
    (r.environment ≠ "" ∧ Site.Straying r.environment, 400),
    -- the environment has no directory
    (r.environment ≠ "" ∧ ∃ registry ∈ s.registry,
      s.files.look (registry.directory r.environment) = .error .missing, 404),
    -- a template is named, but no environment to take it from
    (r.usesCatalogTemplate = true ∧ r.environment = "", 400)] ++ s.documentGrounds r

/-- An environment can be opened, unless its name or its directory is at fault. -/
def CanOpen (s : Service) (environment : String) : Prop :=
  ∀ registry ∈ s.registry, ¬ Site.Straying environment →
    s.files.look (registry.directory environment) ≠ .error .missing →
      ∃ catalog u, Site.openCatalog environment ⟨registry, s.files⟩ = (.ok catalog, u)

/-- With a template document the decompiler decides. -/
theorem Supplies.decides (h : s.Supplies r document)
    (hd : Decides [(Broken r.events document, 422)] outcome) :
    Decides (s.documentGrounds r) outcome := by
  have hbroken : (∃ document, s.Supplies r document ∧ Broken r.events document) ↔
      Broken r.events document :=
    ⟨fun ⟨_, h', hb⟩ => h.unique h' ▸ hb, fun hb => ⟨document, h, hb⟩⟩
  refine .later (fun hnone => hnone document h) ?_
  rw [hbroken]
  exact hd

/-- A request without an environment. -/
theorem decides_decompileAlone (s : Service) (henv : r.environment = "") (cache : TemplateCache) :
    Decides ((r.usesCatalogTemplate = true ∧ r.environment = "", 400) :: s.documentGrounds r)
      (statusOf (decompileAlone r cache).1) := by
  unfold decompileAlone
  by_cases hname : r.usesCatalogTemplate = true
  · rw [if_pos hname, statusOf, Failure.status_code_invalidInput]
    exact .here ⟨hname, henv⟩
  · rw [if_neg hname]
    refine .later (fun h => hname h.1) ?_
    exact (Supplies.own (eq_false_of_ne_true hname)).decides (decides_decompile _ _ _ _ _)

/-- A request whose environment is opened. -/
theorem decides_decompileIn {registry : Registry} (hs : s.Sound) (hr : s.registry = some registry)
    {catalog : OpenCatalog} {u : Site}
    (ho : Site.openCatalog r.environment ⟨registry, s.files⟩ = (.ok catalog, u)) (withdrawn : Bool)
    (cache : TemplateCache) :
    Decides (s.documentGrounds r)
      (statusOf ((decompileIn withdrawn r cache ⟨registry, s.files⟩).1.bind (·.1))) := by
  have htables := (Site.openCatalog_ok (hs registry hr) ho).2.1.tables_eq
  unfold decompileIn
  rw [ho]
  dsimp only
  by_cases hname : r.usesCatalogTemplate = true
  · rw [DecompileRequest.templateDocument, if_pos hname, Catalog.Store.templateDocument,
      Catalog.Store.find]
    have hstored (document : Bytes) : s.Supplies r document ↔
        catalog.store.lookup? .templates Catalog.Record.document? (catalogKey r.templateName) =
          some document := by
      rw [supplies_iff hname hr, htables]
      rfl
    cases hd : catalog.store.lookup? .templates Catalog.Record.document?
        (catalogKey r.templateName) with
    | none =>
        refine .here fun document h => ?_
        rw [hstored, hd] at h
        cases h
    | some document =>
        exact ((hstored document).2 hd).decides (decides_decompile _ _ _ _ _)
  · rw [DecompileRequest.templateDocument, if_neg hname]
    exact (Supplies.own (eq_false_of_ne_true hname)).decides (decides_decompile _ _ _ _ _)

/-- A request in an environment. -/
theorem decompile_inside (hevents : r.events ≠ []) (henv : r.environment ≠ "")
    (withdrawn : Bool) (s : Service) :
    (s.decompile withdrawn r).1 =
      (s.onSite r.environment (decompileIn withdrawn r .default)).1.bind (·.1) := by
  rw [decompile, decompileWith, if_neg (by simpa using hevents), if_neg henv]
  rcases s.onSite r.environment (decompileIn withdrawn r .default) with ⟨f | result, u⟩
  · rfl
  · rfl

theorem decompileIn_error {site u : Site} {f : Failure}
    (h : site.openCatalog r.environment = (.error f, u)) (withdrawn : Bool)
    (cache : TemplateCache) : decompileIn withdrawn r cache site = (.error f, u) := by
  rw [decompileIn, h]

/-- **What the grounds decide is the outcome**, whether or not the request has been withdrawn. -/
theorem decides_grounds (hs : s.Sound) (ho : s.CanOpen r.environment) (withdrawn : Bool) :
    Decides (s.grounds r) (statusOf (s.decompile withdrawn r).1) := by
  by_cases hevents : r.events = []
  · rw [decompile, decompileWith, if_pos (by simp [hevents]), statusOf,
      Failure.status_code_invalidInput]
    exact .here hevents
  refine .later hevents ?_
  by_cases henv : r.environment = ""
  · rw [decompile, decompileWith, if_neg (by simpa using hevents), if_pos henv]
    exact .later (fun h => h.1 henv) (.later (fun h => h.1 henv) (.later (fun h => h.1 henv)
      (decides_decompileAlone s henv .default)))
  rw [decompile_inside hevents henv, onSite]
  cases hr : s.registry with
  | none =>
      dsimp only [Except.bind]
      rw [statusOf, noEnvironment, Failure.status_code_notFound]
      exact .here ⟨henv, rfl⟩
  | some registry =>
      refine .later (fun h => nomatch h.2) ?_
      dsimp only
      have hsite := hs registry hr
      by_cases hname : Site.Straying r.environment
      · have hopen := Site.openCatalog_refused hsite (Site.not_isEnvironmentName hname)
        rw [decompileIn_error hopen]
        dsimp only [Except.bind]
        rw [statusOf, badEnvironmentName, Failure.status_code_invalidInput]
        exact .here ⟨henv, hname⟩
      refine .later (fun h => hname h.2) ?_
      by_cases hmissing : s.files.look (registry.directory r.environment) = .error .missing
      · have hopen := Site.openCatalog_missing hsite (Site.isEnvironmentName_iff.2 hname) hmissing
        rw [decompileIn_error hopen]
        dsimp only [Except.bind]
        rw [statusOf, noEnvironment, Failure.status_code_notFound]
        exact .here ⟨henv, registry, rfl, hmissing⟩
      refine .later ?_ (.later (fun h => henv h.2) ?_)
      · rintro ⟨-, registry', hr', hmissing'⟩
        obtain rfl := Option.some.inj hr'
        exact hmissing hmissing'
      · obtain ⟨catalog, u, hopen⟩ := ho registry hr hname hmissing
        exact decides_decompileIn hs hr hopen withdrawn .default

end Service

/-! ### Over HTTP -/

namespace Http

/-- **What a request asks for over HTTP**: it is posted to the path for one rule, and has a
well-formed body.  The query may name the environment. -/
structure Request.AsksFor (q : Request) (r : DecompileRequest) : Prop where
  /-- It is posted. -/
  method : q.method = "POST"
  /-- The path is the one for one rule. -/
  path : (Target.parse q.target).pathText = "/v1/decompile"
  /-- The body says what to decompile. -/
  body : ∃ written, (Json.read q.body).bind (readRequest {}) = .ok written ∧
    r = { written.request with
          environment :=
            if written.environment = "" then (Target.parse q.target).value "env"
            else written.environment }

variable {q : Request} {r : DecompileRequest}

theorem serve_decompile (h : q.AsksFor r) (newId : Nat → String) (s : Service) :
    serve newId (Target.parse q.target) q.body .decompile s =
      ((s.decompile false r).1.map Decompiled.json, (s.decompile false r).2) := by
  obtain ⟨written, hwritten, rfl⟩ := h.body
  rw [serve, hwritten]
  dsimp only [RequestBody.request]
  split <;> rfl

/-- The status of the answer is that of the outcome. -/
theorem status_answer (h : q.AsksFor r) (newId : Nat → String) (s : Service) :
    (answer newId q s).1.status = (statusOf (s.decompile false r).1).getD 200 := by
  have hroute : Route.find? "POST" "/v1/decompile" = some .decompile := by decide
  rw [answer, h.method, h.path, hroute]
  dsimp only
  rw [serve_decompile h]
  cases (s.decompile false r).1 with
  | error f => rfl
  | ok result => rfl

end Http

/-! ### After every run -/

namespace Service

variable {s : Service} {r : DecompileRequest}

/-- **A request whose status is known.** -/
structure Classified (s : Service) (r : DecompileRequest) : Prop where
  /-- The first ground that applies decides, and without one the request succeeds. -/
  decided : ∀ withdrawn outcome,
    Decides (s.grounds r) outcome ↔ statusOf (s.decompile withdrawn r).1 = outcome
  /-- It is never told that something is wrong on this side. -/
  never_internal : ∀ withdrawn,
    statusOf (s.decompile withdrawn r).1 ∈ [none, some 400, some 404, some 422]
  /-- The decompiler itself turns down nothing but broken documents, however lookups fail. -/
  decompiler : ∀ {σ : Type} (source : Option (Source σ)) template d state,
    Decides [(Broken r.events template, 422)]
      (statusOf (Decompiler.decompile source r.events template d state).1)
  /-- Over HTTP the answer has the status. -/
  answered : ∀ newId (q : Http.Request), q.AsksFor r → ∀ outcome, Decides (s.grounds r) outcome →
    (Http.answer newId q s).1.status = outcome.getD 200 ∧
      (Http.answer newId q s).1.status ≠ 500

theorem sound_of_nothing_opened (hf : s.files.Rooted)
    (ho : ∀ registry ∈ s.registry, registry.opened.entries = []) : s.Sound :=
  fun registry hr => Site.sound_of_nothing_opened hf (ho registry hr)

/-- The codes that can be told. -/
theorem mem_of_decides {outcome : Option Int} (h : Decides (s.grounds r) outcome) :
    outcome ∈ [none, some 400, some 404, some 422] := by
  have hcodes : none :: [400, 404, 400, 404, 400, 404, (422 : Int)].map some ⊆
      [none, some 400, some 404, some 422] := by
    decide
  exact hcodes h.mem

/-- **After every run each request has the status of its grounds**, if its environment can be
opened or is at fault itself. -/
theorem classified_of_run (s : Service) (hf : s.files.Rooted)
    (ho : ∀ registry ∈ s.registry, registry.opened.entries = []) (operations : List Operation)
    (r : DecompileRequest) (hr : (s.performAll operations).CanOpen r.environment) :
    (s.performAll operations).Classified r := by
  have hs := sound_performAll (sound_of_nothing_opened hf ho) operations
  have hdecides := decides_grounds hs hr
  refine ⟨fun withdrawn outcome => ⟨(hdecides withdrawn).unique, fun h => h ▸ hdecides withdrawn⟩,
    fun withdrawn => mem_of_decides (hdecides withdrawn),
    fun source => decides_decompile source r.events, fun newId q hq outcome h => ?_⟩
  have hstatus := Http.status_answer hq newId (s.performAll operations)
  have hcodes : ∀ code ∈ [none, some 400, some 404, some 422], code.getD (200 : Int) ≠ 500 := by
    decide
  rw [hstatus, (hdecides false).unique h]
  exact ⟨rfl, hcodes outcome (mem_of_decides h)⟩

/-- A document without a key, in an environment that has been created. -/
theorem classified_of_run_keyless :
    let s : Service := { registry := some { base := "data" } }
    let operations : List Operation := [.manage (.create ⟨"A", "", ""⟩ [])]
    let q : Http.Request :=
      { method := "POST"
        target := "/v1/decompile?env=A"
        body := "\x7b\"events\":[\"<E/>\"]\x7d".toUTF8.toList }
    let r : DecompileRequest := { environment := "A", events := ["<E/>".toUTF8.toList] }
    (s.performAll operations).CanOpen "A" ∧ q.AsksFor r ∧ (s.performAll operations).Classified r ∧
      (Http.answer toString q (s.performAll operations)).1.status = 422 := by
  intro s operations q r
  have hopens : (s.performAll operations).registry.all (fun registry =>
      (Site.openCatalog "A" ⟨registry, (s.performAll operations).files⟩).1.toOption.isSome) := by
    decide +kernel
  have hopen : (s.performAll operations).CanOpen "A" := by
    intro registry hr _ _
    rw [hr, Option.all_some] at hopens
    obtain ⟨catalog, hcatalog⟩ := Option.isSome_iff_exists.1 hopens
    exact ⟨catalog, _, Prod.ext (Except.eq_ok_of_toOption hcatalog) rfl⟩
  have hasks : q.AsksFor r := by
    refine ⟨rfl, by decide +kernel, { events := { items := ["<E/>"] } }, ?_, by decide +kernel⟩
    exact Except.eq_ok_of_toOption (by decide +kernel)
  refine ⟨hopen, hasks, classified_of_run s FileTree.rooted_empty ?_ operations r hopen, ?_⟩
  · rintro registry ⟨rfl⟩
    rfl
  · decide +kernel

end Service

end EventRules
