/-
**Environments are isolated, and eviction does not show.**

An environment is looked up by what has been put into it: not by what has been put into others, and
not by what has been opened or closed in between.  Only a few catalogs stay open, so a catalog may
be closed at any time and opened again later; what was put into it is in its database then.

A run creates environments, puts entries into catalogs and closes all of them.  One operation gives
the catalog of its own environment what it puts there, and leaves every other environment alone; a
run follows by induction.

Main definitions:

* `Site.Operation`, `Site.performAll` — a run of creating, using and closing;
* `Site.uses`, `Site.acceptedIn` — what a run puts into an environment;
* `Site.Isolated` — **environments that do not see each other**.

Main results:

* `Site.step_perform` — what one operation does to an environment;
* `Site.get?_performAll` — a record after a run;
* `Site.isolated_of_run` — **environments are isolated after every run**.
-/

import EventRules.Proofs.Sites

set_option relaxedAutoImplicit false
set_option autoImplicit false

namespace EventRules

/-- **What a store answers** that held these tables and has accepted these puts since: the last
value put under the key, or the one before. -/
def Catalog.Kind.answerOver {α : Type} (k : Kind α) (before : Tables) (done : List Put)
    (name : String) : Except Failure α :=
  match (k.lastPut? (catalogKey name) done).or
      (({ tables := before } : Store).lookup? k.space k.read (catalogKey name)) with
  | some a => .ok a
  | none => .error (Store.notFound (k.space.key name))

namespace Site

variable {s u : Site} {environment : String} {store : Catalog.Store}

/-! ### Runs -/

/-- **What can be done with environments.** -/
inductive Operation where
  /-- An environment is created, and entries are put into its catalog. -/
  | create (e : Environment) (puts : List Catalog.Put)
  /-- Entries are put into the catalog of an environment; none, if it is only looked at. -/
  | use (environment : String) (puts : List Catalog.Put)
  /-- All catalogs are closed. -/
  | closeAll

/-- Puts entries into the catalog of an environment that has just been opened, if it has been. -/
def putInto (environment : String) (puts : List Catalog.Put) :
    Except Failure OpenCatalog × Site → Site
  | (.error _, s) => s
  | (.ok catalog, s) => s.keepStore environment catalog (catalog.store.putAll puts)

/-- The site after an operation. -/
def perform (s : Site) : Operation → Site
  | .create e puts => putInto e.id puts (s.create e)
  | .use environment puts => putInto environment puts (s.openCatalog environment)
  | .closeAll => s.closeAll

/-- **The site after a run of operations.** -/
def performAll (s : Site) (operations : List Operation) : Site :=
  operations.foldl perform s

/-- The store of an environment that an operation is given, with the entries that it puts in. -/
def given (environment : String) (s : Site) : Operation → Option (Catalog.Store × List Catalog.Put)
  | .create e puts =>
      if e.id = environment then (s.create e).1.toOption.map fun c => (c.store, puts) else none
  | .use name puts =>
      if name = environment then (s.openCatalog name).1.toOption.map fun c => (c.store, puts)
      else none
  | .closeAll => none

/-- All the stores of an environment that the operations of a run are given. -/
def uses (environment : String) (s : Site) :
    List Operation → List (Catalog.Store × List Catalog.Put)
  | [] => []
  | operation :: rest =>
      (s.given environment operation).toList ++ (s.perform operation).uses environment rest

/-- **The entries that a run puts into an environment**, without those that are refused. -/
def acceptedIn (environment : String) (s : Site) (operations : List Operation) :
    List Catalog.Put :=
  (s.uses environment operations).flatMap fun use => use.1.accepted use.2

/-- **What opening a catalog comes to**: every environment is left alone, and if it succeeds, the
catalog has the tables of its environment and stands. -/
inductive Opened (s : Site) (name : String) : Except Failure OpenCatalog × Site → Prop
  | error {f : Failure} {u : Site} (h : s.Leaves u) : Opened s name (.error f, u)
  | ok {catalog : OpenCatalog} {u : Site} (h : s.Leaves u)
      (ht : catalog.store.tables = s.tables name) (hh : u.Holds name catalog.store) :
      Opened s name (.ok catalog, u)

theorem opened_openCatalog (h : s.Sound) (name : String) : s.Opened name (s.openCatalog name) := by
  rcases hopen : s.openCatalog name with ⟨f | catalog, u⟩
  · rw [openCatalog_error hopen]
    exact .error (.refl s)
  · obtain ⟨hleaves, hoffers, hholds⟩ := openCatalog_ok h hopen
    exact .ok hleaves hoffers.tables_eq.symm hholds

theorem opened_create (h : s.Sound) (e : Environment) : s.Opened e.id (s.create e) := by
  rcases s.create_leaves e with ⟨f, u, hcreate, hleaves⟩ | ⟨u, hleaves, hcreate⟩
  · rw [hcreate]
    exact .error hleaves
  · rw [hcreate]
    have htables := (hleaves.spares h e.id).tables
    have hopened := opened_openCatalog (hleaves.sound h) e.id
    generalize u.openCatalog e.id = opened at hopened ⊢
    cases hopened with
    | error hopened => exact .error (hleaves.trans hopened)
    | ok hopened ht hh => exact .ok (hleaves.trans hopened) (ht.trans htables) hh

/-- **What one operation does to an environment**, given what it puts there. -/
structure Step (s u : Site) (environment : String)
    (given : Option (Catalog.Store × List Catalog.Put)) : Prop where
  /-- The site is sound still. -/
  sound : u.Sound
  /-- Its settings stay. -/
  settings : SameSettings s.registry u.registry
  /-- If nothing is put there, the environment is left alone. -/
  spares : given = none → s.Spares u environment
  /-- Otherwise its catalog holds what was there with the entries put in. -/
  holds : ∀ store puts, given = some (store, puts) →
    store.tables = s.tables environment ∧ u.Holds environment (store.putAll puts)

/-- Work that leaves every environment alone. -/
theorem Leaves.step (h : s.Leaves u) (hs : s.Sound) (environment : String) :
    s.Step u environment none :=
  ⟨h.sound hs, h.settings, fun _ => h.spares hs environment, nofun⟩

theorem Opened.step {name : String} {opened : Except Failure OpenCatalog × Site} (h : s.Sound)
    (ho : s.Opened name opened) (puts : List Catalog.Put) (environment : String) :
    s.Step (putInto name puts opened) environment
      (if name = environment then opened.1.toOption.map fun c => (c.store, puts) else none) := by
  cases ho with
  | @error f u hleaves =>
      change s.Step u environment (if name = environment then none else none)
      rw [ite_self]
      exact hleaves.step h environment
  | @ok catalog u hleaves ht hh =>
      obtain ⟨hsound, hholds, hspares⟩ :=
        keepStore_holds (hleaves.sound h) hh (readOnly_putAll catalog.store puts)
      have hs : SameSettings s.registry (putInto name puts (.ok catalog, u)).registry :=
        ⟨hleaves.settings.base, hleaves.settings.lowMemory, hleaves.settings.readOnly⟩
      refine ⟨hsound, hs, fun hnone => ?_, fun store given hgiven => ?_⟩
      · have hne : environment ≠ name := by
          rintro rfl
          rw [if_pos rfl] at hnone
          cases hnone
        exact (hleaves.spares h environment).trans (hspares environment hne)
      · split at hgiven
        · rename_i he
          cases hgiven
          exact ⟨he ▸ ht, he ▸ hholds⟩
        · cases hgiven

/-- **One operation.** -/
theorem step_perform (h : s.Sound) (operation : Operation) (environment : String) :
    s.Step (s.perform operation) environment (s.given environment operation) := by
  cases operation with
  | create e puts => exact (opened_create h e).step h puts environment
  | use name puts => exact (opened_openCatalog h name).step h puts environment
  | closeAll => exact (leaves_closeAll s).step h environment

/-! ### What a run does to an environment -/

/-- **A run** keeps a site sound. -/
theorem sound_performAll (h : s.Sound) (operations : List Operation) :
    (s.performAll operations).Sound ∧
      SameSettings s.registry (s.performAll operations).registry := by
  induction operations generalizing s with
  | nil => exact ⟨h, rfl, rfl, rfl⟩
  | cons operation rest ih =>
      have hstep := step_perform h operation ""
      obtain ⟨hsound, hsettings⟩ := ih hstep.sound
      exact ⟨hsound, hstep.settings.trans hsettings⟩

/-- **An environment that could be opened can be opened after the run**, and so can one that has
been opened in it. -/
theorem exists_offers_performAll (h : s.Sound) (operations : List Operation)
    (ho : (∃ store, s.Offers environment store) ∨ s.uses environment operations ≠ []) :
    ∃ store, (s.performAll operations).Offers environment store := by
  induction operations generalizing s with
  | nil => exact ho.resolve_right fun hne => hne rfl
  | cons operation rest ih =>
      have hstep := step_perform h operation environment
      refine ih hstep.sound ?_
      cases hg : s.given environment operation with
      | none =>
          rw [uses, hg] at ho
          exact ho.imp_left fun ⟨store, hs⟩ => ⟨store, (hstep.spares hg).offers store hs⟩
      | some given => exact .inl ⟨_, (hstep.holds _ _ hg).2.toOffers⟩

variable {α : Type}

/-- A record after one operation. -/
theorem get?_perform (h : s.Sound) (k : Catalog.Kind α) (operation : Operation) (key : String) :
    ((s.perform operation).tables environment).records.get? (k.space.start ++ key) =
      ((k.lastPut? key ((s.given environment operation).elim [] fun use =>
          use.1.accepted use.2)).map k.write).or
        ((s.tables environment).records.get? (k.space.start ++ key)) := by
  have hstep := step_perform h operation environment
  cases hg : s.given environment operation with
  | none =>
      rw [(hstep.spares hg).tables]
      rfl
  | some given =>
      obtain ⟨store, puts⟩ := given
      obtain ⟨htables, hholds⟩ := hstep.holds store puts hg
      rw [hholds.toOffers.tables_eq, ← htables]
      exact k.get?_putAll store puts key

/-- **A record after a run**: that of the last entry with its key that was put into this
environment, or what it was before. -/
theorem get?_performAll (h : s.Sound) (k : Catalog.Kind α) (operations : List Operation)
    (key : String) :
    ((s.performAll operations).tables environment).records.get? (k.space.start ++ key) =
      ((k.lastPut? key (s.acceptedIn environment operations)).map k.write).or
        ((s.tables environment).records.get? (k.space.start ++ key)) := by
  induction operations generalizing s with
  | nil => rfl
  | cons operation rest ih =>
      have hrun : s.acceptedIn environment (operation :: rest) =
          ((s.given environment operation).elim [] fun use => use.1.accepted use.2) ++
            (s.perform operation).acceptedIn environment rest := by
        rw [acceptedIn, uses, List.flatMap_append]
        congr 1
        cases s.given environment operation with
        | none => rfl
        | some use => simp
      rw [hrun, k.lastPut?_append, Option.map_or, Option.or_assoc, ← get?_perform h k operation key]
      exact ih (step_perform h operation environment).sound

/-! ### Names -/

/-- Creating an environment with a straying name is refused, and nothing is changed. -/
theorem create_refused (s : Site) {e : Environment} (h : Straying e.id) :
    ∃ f, f.is .invalidInput = true ∧ s.create e = (.error f, s) := by
  unfold create
  split
  · exact ⟨_, rfl, rfl⟩
  · rw [not_isEnvironmentName h]
    exact ⟨_, rfl, rfl⟩

/-- The directories of environments have their names. -/
theorem directory_inj {r : Registry} {name other : String} (hn : ¬ Straying name)
    (hother : ¬ Straying other) (h : r.directory name = r.directory other) : name = other := by
  have hplain := isPlain_of_isEnvironmentName (isEnvironmentName_iff.2 hn)
  have hplainother := isPlain_of_isEnvironmentName (isEnvironmentName_iff.2 hother)
  have hnames := congrArg Path.names h
  rw [Registry.directory, Registry.directory, Path.names_join_base r.base hplain,
    Path.names_join_base r.base hplainother] at hnames
  exact List.singleton_inj.1 (List.append_cancel_left hnames)

/-! ### Isolation -/

/-- **Isolated environments**, after a run that began with the site `s`. -/
structure Isolated (s : Site) (operations : List Operation) : Prop where
  /-- An environment that could be opened at first, or has been opened in the run, can be opened. -/
  lasting : ∀ environment,
    (∃ store, s.contents environment = .ok store) ∨ s.uses environment operations ≠ [] →
      ∃ catalog u, (s.performAll operations).openCatalog environment = (.ok catalog, u)
  /-- Its catalog answers by what was put into this environment, and by what it held at first. -/
  lookups : ∀ environment catalog u,
    (s.performAll operations).openCatalog environment = (.ok catalog, u) →
      ∀ {α : Type} (k : Catalog.Kind α) name, catalog.store.find k.space k.read name =
        k.answerOver (s.tables environment) (s.acceptedIn environment operations) name
  /-- Its database is in the directory of this name, right below the base directory. -/
  place : ∀ environment catalog u,
    (s.performAll operations).openCatalog environment = (.ok catalog, u) →
      ∃ base, u.files.find (Path.clean s.registry.base) = .ok base ∧
        u.files.entry? (base ++ [environment] ++ ["badger"]) =
          some (.database catalog.store.tables)
  /-- Different names have different directories. -/
  distinct : ∀ name other, ¬ Straying name → ¬ Straying other → name ≠ other →
    s.registry.directory name ≠ s.registry.directory other
  /-- A straying name is never opened, and nothing is changed. -/
  not_opened : ∀ name, Straying name → ∃ f, f.is .invalidInput = true ∧
    (s.performAll operations).openCatalog name = (.error f, s.performAll operations)
  /-- Nor is it created. -/
  not_created : ∀ e : Environment, Straying e.id → ∃ f, f.is .invalidInput = true ∧
    (s.performAll operations).create e = (.error f, s.performAll operations)

/-- The answers of a catalog after a run. -/
theorem find_performAll (h : s.Sound) (operations : List Operation)
    (ho : (s.performAll operations).Offers environment store) (k : Catalog.Kind α) (name : String) :
    store.find k.space k.read name =
      k.answerOver (s.tables environment) (s.acceptedIn environment operations) name := by
  have hrecord : ((s.performAll operations).tables environment).records.get? _ = _ :=
    get?_performAll h k operations (catalogKey name)
  rw [ho.tables_eq] at hrecord
  rw [Catalog.Store.find, Catalog.Store.lookup?, hrecord, Catalog.Kind.answerOver,
    Catalog.Store.lookup?]
  cases k.lastPut? (catalogKey name) (s.acceptedIn environment operations) with
  | none => rfl
  | some a =>
      simp only [Option.map_some, Option.some_or, Option.bind_some, k.read_write]

/-- The place of a database that stands. -/
theorem Holds.place (h : s.Holds environment store) :
    ∃ base, s.files.find (Path.clean s.registry.base) = .ok base ∧
      s.files.entry? (base ++ [environment] ++ ["badger"]) = some (.database store.tables) := by
  have hplain := isPlain_of_isEnvironmentName h.named
  obtain ⟨place, hplace, hstands⟩ := h.stands
  obtain ⟨base, hbase, hb, rfl⟩ := FileTree.exists_base hplain hplace
  exact ⟨base, FileTree.find_clean_base hplain
    (FileTree.not_refused_join hplain (FileTree.find_ok hplace).1) hbase hb, hstands⟩

theorem sound_of_nothing_opened (hf : s.files.Rooted) (ho : s.registry.opened.entries = []) :
    s.Sound :=
  ⟨hf, fun environment catalog hm => by rw [ho] at hm; cases hm⟩

/-- **Environments are isolated**, however many there are and however many of them are open. -/
theorem isolated_of_run (s : Site) (hf : s.files.Rooted) (ho : s.registry.opened.entries = [])
    (operations : List Operation) : s.Isolated operations := by
  have hs := sound_of_nothing_opened hf ho
  obtain ⟨hsound, hsettings⟩ := sound_performAll hs operations
  refine ⟨fun environment h => ?_, fun environment catalog u hopen α k name => ?_,
    fun environment catalog u hopen => ?_, fun name other hn hother hne he => ?_,
    fun name hn => ?_, fun e he => create_refused _ he⟩
  · obtain ⟨store, hoffers⟩ := exists_offers_performAll hs operations
      (h.imp_left fun ⟨store, hstore⟩ => ⟨store, contents_eq_ok_iff.1 hstore⟩)
    obtain ⟨catalog, u, hopen, -⟩ := openCatalog_of_offers hsound hoffers
    exact ⟨catalog, u, hopen⟩
  · exact find_performAll hs operations (openCatalog_ok hsound hopen).2.1 k name
  · obtain ⟨hleaves, -, hholds⟩ := openCatalog_ok hsound hopen
    rw [← (hsettings.trans hleaves.settings).base]
    exact hholds.place
  · exact hne (directory_inj hn hother he)
  · exact ⟨_, rfl, openCatalog_refused hsound (not_isEnvironmentName hn)⟩

/-- One catalog at a time stays open here, so the first one has been closed when it is used
again. -/
theorem isolated_of_run_evicted :
    let s : Site := { registry := { base := "data", opened := { capacity := 1 } }, files := {} }
    let operations : List Operation :=
      [.create ⟨"A", "", ""⟩ [.title "X" "one"], .create ⟨"B", "", ""⟩ [.title "X" "two"]]
    s.files.Rooted ∧ s.registry.opened.entries = [] ∧ s.Isolated operations ∧
      ((s.performAll operations).openCatalog "A").1.toOption.map
        (fun c => (c.opening, c.store.titles ["x"])) = some (2, [("x", "one")]) :=
  ⟨FileTree.rooted_empty, rfl, isolated_of_run _ FileTree.rooted_empty rfl _, by decide +kernel⟩

end Site

end EventRules
