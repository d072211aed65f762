/-
**The decompiling service.**

A request names its event documents and its template document, or the name of a template to take
from the catalog of its environment.  Without an environment nothing can be looked up; the rule is
then decompiled from its documents alone.

A batch runs several requests.  They share a template cache for each environment; otherwise they
do not touch each other, so the order in which they are run does not matter, and a request that
fails does not stop the others.

Main definitions:

* `Service` — the files and, if there are any, the environments that requests work with;
* `DecompileRequest`, `Service.decompile` — one request;
* `BatchItem`, `Batch`, `Service.runBatch` — several of them;
* `Service.templates`, `Service.template`, `Service.environments` — what the catalogs hold.
-/

import EventRules.Environments
import EventRules.Rule.Decompiler
import EventRules.Suggest

set_option relaxedAutoImplicit false
set_option autoImplicit false

namespace EventRules

/-- **What requests work with**: files, and perhaps environments. -/
structure Service where
  files : FileTree := {}
  registry : Option Registry := none

namespace Service

def ofSite (s : Site) : Service :=
  ⟨s.files, some s.registry⟩

/-- Works with the environments; without any, `environment` is not found. -/
def onSite {α : Type} (environment : String) (work : Site → Except Failure α × Site)
    (s : Service) : Except Failure α × Service :=
  match s.registry with
  | none => (.error (noEnvironment environment), s)
  | some registry =>
      let (result, site) := work ⟨registry, s.files⟩
      (result, ofSite site)

/-- **The catalog of an environment**, which has to be named. -/
def catalog (environment : String) (s : Service) : Except Failure OpenCatalog × Service :=
  if environment = "" then (.error (.explain .invalidInput "environment is required"), s)
  else s.onSite environment (Site.openCatalog environment)

end Service

/-! ### One request -/

/-- **A request to decompile an event rule.** -/
structure DecompileRequest where
  id : String := ""
  /-- The environment whose catalog is used for lookups; an empty one stands for none. -/
  environment : String := ""
  events : List Bytes := []
  template : Bytes := []
  /-- The name of the template that is taken from the catalog if there is no document. -/
  templateName : String := ""
  deriving DecidableEq, Repr

def DecompileRequest.usesCatalogTemplate (r : DecompileRequest) : Bool :=
  Text.isBlank (Utf8.text r.template) && r.templateName != ""

/-- The template document of a request, given the store of its environment. -/
def DecompileRequest.templateDocument (r : DecompileRequest) (store : Catalog.Store) :
    Except Failure Bytes :=
  if r.usesCatalogTemplate then store.templateDocument r.templateName else .ok r.template

namespace Service

def decompileAlone (r : DecompileRequest) (cache : TemplateCache) :
    Except Failure Decompiled × TemplateCache :=
  if r.usesCatalogTemplate then
    (.error (.explain .invalidInput "environment is required"), cache)
  else
    let (result, d, _) :=
      Decompiler.decompile (none : Option (Source Unit)) r.events r.template { cache := cache } ()
    (result, d.cache)

def decompileIn (withdrawn : Bool) (r : DecompileRequest) (cache : TemplateCache) (s : Site) :
    Except Failure (Except Failure Decompiled × TemplateCache) × Site :=
  match s.openCatalog r.environment with
  | (.error e, s') => (.error e, s')
  | (.ok catalog, s') =>
      match r.templateDocument catalog.store with
      | .error e => (.error e, s')
      | .ok template =>
          let (result, d, caches, _) :=
            Decompiler.decompile (some (Catalog.Store.source withdrawn).cached) r.events template
              { cache := cache } (catalog.caches, catalog.store)
          (.ok (result, d.cache), s'.keepCaches r.environment catalog caches)

def decompileWith (withdrawn : Bool) (r : DecompileRequest) (cache : TemplateCache) (s : Service) :
    Except Failure Decompiled × TemplateCache × Service :=
  if r.events.isEmpty then (.error (.explain .invalidInput "no event documents"), cache, s)
  else if r.environment = "" then
    let (result, cache') := decompileAlone r cache
    (result, cache', s)
  else
    match s.onSite r.environment (decompileIn withdrawn r cache) with
    | (.error e, s') => (.error e, cache, s')
    | (.ok (result, cache'), s') => (result, cache', s')

/-- **Decompiles one event rule.**  Once the request has been withdrawn, the catalog answers
nothing any more. -/
def decompile (withdrawn : Bool) (r : DecompileRequest) (s : Service) :
    Except Failure Decompiled × Service :=
  let (result, _, s') := decompileWith withdrawn r .default s
  (result, s')

end Service

/-! ### Batches -/

structure BatchItem where
  id : String
  /-- Its result, or the wording of its failure. -/
  outcome : Except String Decompiled

def BatchItem.failed (i : BatchItem) : Bool :=
  match i.outcome with
  | .ok _ => false
  | .error _ => true

/-- **The outcome of a batch.** -/
structure Batch where
  id : String
  items : List BatchItem
  failures : Nat

structure BatchRun where
  caches : Dictionary TemplateCache := []
  /-- The outcomes so far, by the position of the request. -/
  outcomes : List (Nat × BatchItem) := []
  failures : Nat := 0
  service : Service

namespace Service

/-- The request at a position with what it leaves open filled in: the environment, and an id from
the supply. -/
def complete (newId : Nat → String) (environment : String) (position : Nat)
    (r : DecompileRequest) : DecompileRequest :=
  { r with
    environment := if r.environment = "" then environment else r.environment
    id := if r.id = "" then newId (position + 1) else r.id }

def runItem (requests : List DecompileRequest) (b : BatchRun) (position : Nat) : BatchRun :=
  match requests[position]? with
  | none => b
  | some r =>
      let cache := (b.caches.get? r.environment).getD .default
      let (result, cache', service) := decompileWith false r cache b.service
      let item : BatchItem := ⟨r.id, result.mapError (·.message)⟩
      { caches := b.caches.insert r.environment cache'
        outcomes := b.outcomes ++ [(position, item)]
        failures := if item.failed then b.failures + 1 else b.failures
        service := service }

/-- **Runs a batch.**  `newId` is the supply of ids, the first of which goes to the batch, and
`order` the order in which the requests are run, by their positions. -/
def runBatch (newId : Nat → String) (order : List Nat) (withdrawn : Bool) (environment : String)
    (requests : List DecompileRequest) (s : Service) : Except Failure Batch × Service :=
  if requests.isEmpty then (.error (.explain .invalidInput "empty batch"), s)
  else if withdrawn then (.error .cancelled, s)
  else
    let filled := requests.mapIdx (complete newId environment)
    let run := order.foldl (runItem filled) { service := s }
    let items := (List.range requests.length).filterMap fun i => run.outcomes.lookup i
    (.ok ⟨newId 0, items, run.failures⟩, run.service)

/-! ### Catalogs -/

/-- **The templates of an environment**: all of them, or those most like a search text. -/
def templates (environment query : String) (limit : Int) (s : Service) :
    Except Failure (List TemplateMatch) × Service :=
  match s.catalog environment with
  | (.error e, s') => (.error e, s')
  | (.ok catalog, s') =>
      let names := catalog.store.templateNames
      (.ok (if Text.isBlank query then names.map (⟨·, .unranked⟩) else suggest query names limit),
        s')

/-- **A template of an environment.** -/
def template (withdrawn : Bool) (environment name : String) (s : Service) :
    Except Failure Template × Service :=
  match s.catalog environment with
  | (.error e, s') => (.error e, s')
  | (.ok catalog, s') =>
      (if withdrawn then .error .cancelled else catalog.store.template name, s')

/-- **The environments.** -/
def environments (s : Service) : Except Failure (List Environment) × Service :=
  match s.registry with
  | none => (.ok [], s)
  | some registry =>
      let (result, site) := Site.list ⟨registry, s.files⟩
      (result, ofSite site)

end Service

end EventRules
