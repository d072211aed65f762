/-
**Work on sites.**

The files of a site say what opening a catalog gives: an environment is *offered* a store if its
database is there, or if there is room for one.  All work on a site is judged by this.  Most of it
leaves every environment alone: opening and closing catalogs, making directories, writing records.
Putting an open catalog back changes the database of its own environment only, since databases of
different names are in different directories.

The invariant is that the database of every open catalog stands and has the tables that the catalog
has.  So it does not matter whether a catalog is open, and what is offered is opened.

An environment that is new has no tables yet.  This is where it matters that everything stands in
directories: a database below a directory that is made just now would have been found before.

Main definitions:

* `Site.Straying` — names that could lead elsewhere;
* `Site.Offers`, `Site.Holds` — what opening a catalog gives, and a database that stands;
* `Site.tables` — the tables of an environment;
* `Site.Spares`, `Site.Leaves` — work that leaves one environment alone, or all of them;
* `Site.Sound` — **the invariant of sites**;
* `Site.recorded?`, `Site.Making` — how far creating an environment gets.

Main results:

* `Site.spares_of_files` — what a change of files has to keep;
* `Site.openCatalog_ok`, `Site.openCatalog_of_offers` — **an opened catalog has what was offered**;
* `Site.openCatalog_refused` — names that no environment can have;
* `Site.create_cases`, `Site.create_leaves` — what creating an environment does;
* `Site.keepStore_holds` — what putting a catalog back does.
-/

import EventRules.Proofs.Directories
import EventRules.Proofs.History
import EventRules.Proofs.Storing

set_option relaxedAutoImplicit false
set_option autoImplicit false

namespace EventRules

namespace Site

variable {s u w : Site} {environment : String} {store : Catalog.Store} {catalog : OpenCatalog}

/-! ### Names -/

/-- **A name that could lead elsewhere.** -/
def Straying (name : String) : Prop :=
  name = "" ∨ name = "." ∨ name = ".." ∨ '/' ∈ name.toList ∨ '\\' ∈ name.toList

theorem isEnvironmentName_iff {name : String} :
    isEnvironmentName name = true ↔ ¬ Straying name := by
  simp only [isEnvironmentName, Straying, Bool.not_eq_true', Bool.or_eq_false_iff,
    decide_eq_false_iff_not, List.contains_eq_mem, not_or, and_assoc]

theorem not_isEnvironmentName {name : String} (h : Straying name) :
    isEnvironmentName name = false := by
  rw [← Bool.not_eq_true, isEnvironmentName_iff, not_not]
  exact h

/-! ### What environments hold -/

/-- **What opening the catalog of an environment gives**, said by the files. -/
structure Offers (s : Site) (environment : String) (store : Catalog.Store) : Prop where
  /-- The name is one of an environment. -/
  named : isEnvironmentName environment = true
  /-- The settings make sense. -/
  sensible : (s.registry.config (s.registry.directory environment)).fault? = none
  /-- The store is opened as the settings say. -/
  readOnly : store.readOnly = s.registry.readOnly
  /-- Its tables are offered at the place of the database. -/
  tables : ∃ place,
    s.files.find (Catalog.databasePath (s.registry.directory environment)) = .ok place ∧
      s.files.offers s.registry.readOnly place = some store.tables

/-- **A database that stands** with these tables. -/
structure Holds (s : Site) (environment : String) (store : Catalog.Store) : Prop
    extends s.Offers environment store where
  /-- It is in the directory of its environment. -/
  stands : ∃ place,
    s.files.find (Catalog.databasePath (s.registry.directory environment)) = .ok place ∧
      s.files.entry? place = some (.database store.tables)

theorem Offers.unique {store' : Catalog.Store} (h : s.Offers environment store)
    (h' : s.Offers environment store') : store = store' := by
  obtain ⟨place, hp, ht⟩ := h.tables
  obtain ⟨place', hp', ht'⟩ := h'.tables
  obtain rfl := Except.ok.inj (hp.symm.trans hp')
  have htables : store.tables = store'.tables := Option.some.inj (ht.symm.trans ht')
  have hreadOnly : store.readOnly = store'.readOnly := h.readOnly.trans h'.readOnly.symm
  cases store
  cases store'
  simp_all

/-- If opening a catalog anew succeeds, its database has been opened at its place. -/
theorem openAnew_database (hn : isEnvironmentName environment = true)
    (ho : s.openAnew environment = (.ok catalog, u)) :
    ∃ place, s.files.find (Catalog.databasePath (s.registry.directory environment)) = .ok place ∧
      place ≠ [] ∧
      Catalog.openDatabase s.registry.readOnly false
        (Catalog.databasePath (s.registry.directory environment)) s.files =
          .ok (catalog.store.tables, u.files) := by
  have hplain := isPlain_of_isEnvironmentName hn
  obtain ⟨hlook, hstore, -, -⟩ := openAnew_ok ho
  have hd := Catalog.openDatabase_of_openStore rfl hstore
  obtain ⟨place, hplace⟩ := Catalog.find_of_openDatabase hplain hlook hd
  exact ⟨place, hplace, FileTree.databasePath_place hplain hplace, hd⟩

/-- **Opening a catalog anew** gives what is offered. -/
theorem openAnew_ok_iff (hn : isEnvironmentName environment = true) :
    (∃ catalog u, s.openAnew environment = (.ok catalog, u) ∧ catalog.store = store) ↔
      s.Offers environment store := by
  have hplain := isPlain_of_isEnvironmentName hn
  constructor
  · rintro ⟨catalog, u, hopen, rfl⟩
    obtain ⟨-, hstore, -, -⟩ := openAnew_ok hopen
    obtain ⟨hfault, hreadOnly, -⟩ := (Catalog.openStore_ok_iff rfl).1 hstore
    obtain ⟨place, hplace, hne, hd⟩ := openAnew_database hn hopen
    exact ⟨hn, hfault, hreadOnly, place, hplace,
      (Catalog.openDatabase_ok_iff hplace hne).1 ⟨_, hd⟩⟩
  · intro h
    obtain ⟨place, hplace, htables⟩ := h.tables
    have hne := FileTree.databasePath_place hplain hplace
    obtain ⟨u, hd⟩ := (Catalog.openDatabase_ok_iff hplace hne).2 htables
    have hstore := (Catalog.openStore_ok_iff rfl).2 ⟨h.sensible, h.readOnly, hd⟩
    unfold openAnew
    dsimp only
    split
    · exact absurd ‹_› (FileTree.look_join_of_databasePath hplain hplace)
    · rw [hstore]
      exact ⟨_, _, rfl, rfl⟩

theorem contents_eq_ok_iff : s.contents environment = .ok store ↔ s.Offers environment store := by
  by_cases hn : isEnvironmentName environment = true
  · rw [← openAnew_ok_iff hn, contents, if_pos hn]
    rcases s.openAnew environment with ⟨e | catalog, u⟩
    · simp [Except.map]
    · simp [Except.map]
  · rw [contents, if_neg hn]
    constructor
    · intro h
      cases h
    · intro h
      exact absurd h.named hn

/-- **The tables of an environment**, none yet if it cannot be opened. -/
def tables (s : Site) (environment : String) : Catalog.Tables :=
  (s.contents environment).toOption.elim {} (·.tables)

theorem Offers.tables_eq (h : s.Offers environment store) :
    s.tables environment = store.tables := by
  rw [Site.tables, contents_eq_ok_iff.2 h]
  rfl

theorem tables_of_not_offers (h : ∀ store, ¬ s.Offers environment store) :
    s.tables environment = {} := by
  rw [Site.tables]
  cases hc : s.contents environment with
  | error e => rfl
  | ok store => exact absurd (contents_eq_ok_iff.1 hc) (h store)

/-! ### Work that leaves an environment alone -/

/-- **Work on a site that leaves an environment alone.** -/
structure Spares (s u : Site) (environment : String) : Prop where
  /-- What could be opened can be opened. -/
  offers : ∀ store, s.Offers environment store → u.Offers environment store
  /-- A database stays. -/
  holds : ∀ store, s.Holds environment store → u.Holds environment store
  /-- The tables are the same. -/
  tables : u.tables environment = s.tables environment

theorem Spares.refl (s : Site) (environment : String) : s.Spares s environment :=
  ⟨fun _ h => h, fun _ h => h, rfl⟩

theorem Spares.trans (h : s.Spares u environment) (h' : u.Spares w environment) :
    s.Spares w environment :=
  ⟨fun store ho => h'.offers store (h.offers store ho),
    fun store hh => h'.holds store (h.holds store hh), h'.tables.trans h.tables⟩

/-- Tables that are offered and not there are empty. -/
theorem entry_of_offers {t : FileTree} {readOnly : Bool} {place : List String}
    {tables : Catalog.Tables} (h : t.offers readOnly place = some tables) :
    t.entry? place = some (.database tables) ∨ tables = {} := by
  unfold FileTree.offers at h
  split at h
  · rename_i he
    exact .inl (Option.some.inj h ▸ he)
  · cases h
  · split at h
    · cases h
    · exact .inr (Option.some.inj h).symm
  · split at h
    · cases h
    · exact .inr (Option.some.inj h).symm

/-- **When files are changed**: nothing that could be followed is blocked, and the database of the
environment is offered as before, if it can be found. -/
theorem spares_of_files (hs : SameSettings s.registry u.registry) (hr : s.files.Rooted)
    (hg : s.files.Grows u.files)
    (ho : isEnvironmentName environment = true → ∀ place,
      u.files.find (Catalog.databasePath (s.registry.directory environment)) = .ok place →
        u.files.offers s.registry.readOnly place = s.files.offers s.registry.readOnly place ∧
          ∀ tables, s.files.entry? place = some (.database tables) →
            u.files.entry? place = some (.database tables)) :
    s.Spares u environment := by
  have hdirectory : u.registry.directory environment = s.registry.directory environment := by
    rw [Registry.directory, Registry.directory, hs.base]
  have hconfig : u.registry.config (s.registry.directory environment) =
      s.registry.config (s.registry.directory environment) := by
    rw [Registry.config, Registry.config, hs.lowMemory, hs.readOnly]
  have hoffers (store : Catalog.Store) (h : s.Offers environment store) :
      u.Offers environment store := by
    obtain ⟨place, hplace, htables⟩ := h.tables
    refine ⟨h.named, ?_, h.readOnly.trans hs.readOnly.symm, place, ?_, ?_⟩
    · rw [hdirectory, hconfig]
      exact h.sensible
    · rw [hdirectory]
      exact hg.find hplace
    · rw [hs.readOnly, (ho h.named place (hg.find hplace)).1]
      exact htables
  refine ⟨hoffers, fun store h => ⟨hoffers store h.toOffers, ?_⟩, ?_⟩
  · obtain ⟨place, hplace, he⟩ := h.stands
    rw [hdirectory]
    exact ⟨place, hg.find hplace, (ho h.named place (hg.find hplace)).2 _ he⟩
  · by_cases hsome : ∃ store, s.Offers environment store
    · obtain ⟨store, h⟩ := hsome
      rw [h.tables_eq, (hoffers store h).tables_eq]
    · have hnone (store : Catalog.Store) : ¬ s.Offers environment store := fun h => hsome ⟨store, h⟩
      rw [tables_of_not_offers hnone]
      by_cases hnew : ∃ store, u.Offers environment store
      · -- what can be opened now but could not before has no tables: they would have been found
        obtain ⟨store, h⟩ := hnew
        obtain ⟨place, hplace, htables⟩ := h.tables
        rw [hdirectory] at hplace
        rw [hs.readOnly, (ho h.named place hplace).1] at htables
        rw [h.tables_eq]
        refine (entry_of_offers htables).resolve_left fun he => hnone store ?_
        have hsensible := h.sensible
        rw [hdirectory, hconfig] at hsensible
        refine ⟨h.named, hsensible, h.readOnly.trans hs.readOnly, place, ?_, htables⟩
        exact hr.find_databasePath hg (isPlain_of_isEnvironmentName h.named) hplace (by simp [he])
      · exact tables_of_not_offers fun store h => hnew ⟨store, h⟩

/-- **A sound site**: everything stands in directories, and every open catalog has its tables in its
database. -/
structure Sound (s : Site) : Prop where
  /-- The files are rooted. -/
  rooted : s.files.Rooted
  /-- What is open stands. -/
  open_holds : ∀ environment catalog, (environment, catalog) ∈ s.registry.opened.entries →
    s.Holds environment catalog.store

/-- **Work that leaves every environment alone.** -/
structure Leaves (s u : Site) : Prop where
  /-- The settings stay. -/
  settings : SameSettings s.registry u.registry
  /-- The site is sound still. -/
  sound : s.Sound → u.Sound
  /-- Each environment is left alone. -/
  spares : s.Sound → ∀ environment, s.Spares u environment

theorem Leaves.refl (s : Site) : s.Leaves s :=
  ⟨⟨rfl, rfl, rfl⟩, fun h => h, fun _ e => .refl s e⟩

theorem Leaves.trans (h : s.Leaves u) (h' : u.Leaves w) : s.Leaves w :=
  ⟨h.settings.trans h'.settings, fun hs => h'.sound (h.sound hs),
    fun hs e => (h.spares hs e).trans (h'.spares (h.sound hs) e)⟩

/-- When files are changed and the open catalogs are the same. -/
theorem leaves_of_files (hs : SameSettings s.registry u.registry)
    (hopened : ∀ e ∈ u.registry.opened.entries, e ∈ s.registry.opened.entries)
    (hrooted : s.files.Rooted → u.files.Rooted)
    (hspares : s.files.Rooted → ∀ environment, s.Spares u environment) : s.Leaves u where
  settings := hs
  sound h := ⟨hrooted h.rooted, fun environment _ hm =>
    (hspares h.rooted environment).holds _ (h.open_holds _ _ (hopened _ hm))⟩
  spares h := hspares h.rooted

/-- When files are gained. -/
theorem leaves_of_gains (hs : SameSettings s.registry u.registry)
    (hopened : ∀ e ∈ u.registry.opened.entries, e ∈ s.registry.opened.entries)
    (hg : s.files.Gains s.registry.readOnly u.files) : s.Leaves u :=
  leaves_of_files hs hopened hg.rooted fun hr _ =>
    spares_of_files hs hr hg.grows fun _ place _ => ⟨hg.offers place, hg.databases place⟩

/-- **Closing all catalogs** leaves every environment alone. -/
theorem leaves_closeAll (s : Site) : s.Leaves s.closeAll :=
  leaves_of_gains ⟨rfl, rfl, rfl⟩ (fun _ hm => by cases hm) (.refl _)

/-! ### Opening -/

/-- **What opening a catalog does**: an open one is used, any other one is opened anew. -/
theorem openCatalog_cases (s : Site) (environment : String) :
    (∃ catalog opened, s.registry.opened.get environment = (some catalog, opened) ∧
      s.openCatalog environment =
        (.ok catalog, { s with registry := { s.registry with opened := opened } })) ∨
    s.registry.opened.peek? environment = none ∧ s.openCatalog environment =
      if isEnvironmentName environment then s.openAnew environment
      else (.error (badEnvironmentName environment), s) := by
  have hpeek := s.registry.opened.get_fst environment
  unfold openCatalog
  rcases hget : s.registry.opened.get environment with ⟨_ | catalog, opened⟩
  · rw [hget] at hpeek
    exact .inr ⟨hpeek.symm, rfl⟩
  · exact .inl ⟨catalog, opened, rfl, rfl⟩

/-- A catalog that is opened anew stands. -/
theorem openAnew_holds (h : s.Sound) (hn : isEnvironmentName environment = true)
    (ho : s.openAnew environment = (.ok catalog, u)) :
    s.Leaves u ∧ u.Holds environment catalog.store := by
  have hoffers := (openAnew_ok_iff hn).1 ⟨catalog, u, ho, rfl⟩
  obtain ⟨-, -, -, hregistry⟩ := openAnew_ok ho
  obtain ⟨place, hplace, hne, hd⟩ := openAnew_database hn ho
  obtain ⟨hgains, hstands⟩ := Catalog.database_of_openDatabase hplace hne hd
  have hs : SameSettings s.registry u.registry := by
    rw [hregistry]
    exact ⟨rfl, rfl, rfl⟩
  have hspares (e : String) : s.Spares u e :=
    spares_of_files hs h.rooted hgains.grows fun _ q _ => ⟨hgains.offers q, hgains.databases q⟩
  have hholds : u.Holds environment catalog.store := by
    refine ⟨(hspares environment).offers _ hoffers, place, ?_, hstands⟩
    rw [Registry.directory, hs.base]
    exact hgains.grows.find hplace
  refine ⟨⟨hs, fun _ => ⟨hgains.rooted h.rooted, fun e c hm => ?_⟩, fun _ => hspares⟩, hholds⟩
  rw [hregistry] at hm
  rcases Lru.mem_of_mem_insert hm with he | hm
  · obtain ⟨rfl, rfl⟩ := Prod.mk.inj he
    exact hholds
  · exact (hspares e).holds _ (h.open_holds e c hm)

/-- **A catalog that is opened holds what was offered.** -/
theorem openCatalog_ok (h : s.Sound) (ho : s.openCatalog environment = (.ok catalog, u)) :
    s.Leaves u ∧ s.Offers environment catalog.store ∧ u.Holds environment catalog.store := by
  rcases s.openCatalog_cases environment with ⟨found, opened, hget, hopen⟩ | ⟨-, hopen⟩
  · rw [hopen] at ho
    obtain ⟨hc, rfl⟩ := Prod.mk.inj ho
    obtain rfl := Except.ok.inj hc
    have hfound := s.registry.opened.get_fst environment
    rw [hget] at hfound
    have hholds := h.open_holds environment found (Lru.mem_of_peek? hfound.symm)
    have hleaves : s.Leaves { s with registry := { s.registry with opened := opened } } := by
      refine leaves_of_gains ⟨rfl, rfl, rfl⟩ (fun e hm => ?_) (.refl _)
      have hopened : (s.registry.opened.get environment).2 = opened := by rw [hget]
      exact Lru.mem_of_mem_get (hopened ▸ hm)
    exact ⟨hleaves, hholds.toOffers, (hleaves.spares h environment).holds _ hholds⟩
  · rw [hopen] at ho
    split at ho
    · rename_i hn
      obtain ⟨hleaves, hholds⟩ := openAnew_holds h hn ho
      exact ⟨hleaves, (openAnew_ok_iff hn).1 ⟨catalog, u, ho, rfl⟩, hholds⟩
    · cases ho

/-- If opening a catalog fails, nothing is changed. -/
theorem openCatalog_error {e : Failure} (ho : s.openCatalog environment = (.error e, u)) :
    u = s := by
  rcases s.openCatalog_cases environment with ⟨found, opened, -, hopen⟩ | ⟨-, hopen⟩
  · rw [hopen] at ho
    cases ho
  · rw [hopen] at ho
    split at ho
    · exact openAnew_error ho
    · exact (Prod.mk.inj ho).2.symm

/-- **What is offered is opened**, whatever has been opened and closed. -/
theorem openCatalog_of_offers (h : s.Sound) (ho : s.Offers environment store) :
    ∃ catalog u, s.openCatalog environment = (.ok catalog, u) ∧ catalog.store = store := by
  rcases s.openCatalog_cases environment with ⟨found, opened, -, hopen⟩ | ⟨-, hopen⟩
  · exact ⟨_, _, hopen, (openCatalog_ok h hopen).2.1.unique ho⟩
  · rw [hopen, if_pos ho.named]
    exact (openAnew_ok_iff ho.named).2 ho

/-- **A name that no environment can have is refused**, and nothing is changed. -/
theorem openCatalog_refused (h : s.Sound) (hn : isEnvironmentName environment = false) :
    s.openCatalog environment = (.error (badEnvironmentName environment), s) := by
  rcases s.openCatalog_cases environment with ⟨found, opened, -, hopen⟩ | ⟨-, hopen⟩
  · have hnamed := (openCatalog_ok h hopen).2.1.named
    rw [hn] at hnamed
    cases hnamed
  · rw [hopen, if_neg (by simp [hn])]

/-- **An environment without a directory is not found**: none of its catalogs can be open. -/
theorem openCatalog_missing (h : s.Sound) (hn : isEnvironmentName environment = true)
    (hm : s.files.look (s.registry.directory environment) = .error .missing) :
    s.openCatalog environment = (.error (noEnvironment environment), s) := by
  rcases s.openCatalog_cases environment with ⟨found, opened, -, hopen⟩ | ⟨-, hopen⟩
  · obtain ⟨place, hplace, -⟩ := (openCatalog_ok h hopen).2.1.tables
    exact absurd hm
      (FileTree.look_join_of_databasePath (isPlain_of_isEnvironmentName hn) hplace)
  · rw [hopen, if_pos hn, openAnew, hm]

theorem sound_openCatalog (h : s.Sound) (environment : String) :
    (s.openCatalog environment).2.Sound := by
  rcases hopen : s.openCatalog environment with ⟨f | catalog, u⟩
  · exact openCatalog_error hopen ▸ h
  · exact (openCatalog_ok h hopen).1.sound h

/-! ### Creating -/

theorem isPlain_recordFile : Path.IsPlain recordFile :=
  ⟨by decide, by decide, by decide, by decide⟩

/-- **Writing a record** leaves every environment alone. -/
theorem leaves_write {content : Bytes} {files : FileTree}
    (hn : isEnvironmentName environment = true)
    (hw : s.files.write (Path.join (s.registry.directory environment) recordFile) content =
      .ok files) :
    s.Leaves { s with files := files } := by
  obtain ⟨place, hplace, hgrows, hrooted, hother⟩ := FileTree.grows_write hw
  refine leaves_of_files ⟨rfl, rfl, rfl⟩ (fun _ hm => hm) hrooted fun hr other =>
    spares_of_files ⟨rfl, rfl, rfl⟩ hr hgrows fun hnother q hq => ?_
  -- a record and a database have different names
  have hne : FileTree.key q ≠ FileTree.key place := by
    obtain ⟨b, -, -, rfl⟩ := FileTree.exists_base_of_below (isPlain_of_isEnvironmentName hn)
      isPlain_recordFile hplace
    obtain ⟨b', -, -, rfl⟩ := FileTree.exists_base (isPlain_of_isEnvironmentName hnother) hq
    intro hkey
    exact absurd (FileTree.key_append_inj (by decide) (by decide) hkey).2 (by decide)
  have hsame := hother q hne
  exact ⟨FileTree.offers_congr hsame, fun _ he => hsame.trans he⟩

/-- **The files once the record of an environment has been written**, if creating it gets that
far. -/
def recorded? (e : Environment) (s : Site) : Option FileTree :=
  if s.registry.readOnly || !isEnvironmentName e.id then none
  else
    match s.files.makeAll (s.registry.directory e.id) with
    | (.error _, _) => none
    | (.ok (), made) =>
        (made.write (Path.join (s.registry.directory e.id) recordFile) e.record.document).toOption

/-- A site that may create an environment, with the files in which its directory has been made, or
as many of the directories on the way to it as could be made. -/
structure Making (s : Site) (e : Environment) (result : Except Failure Unit) (files : FileTree) :
    Prop where
  /-- Catalogs may be written. -/
  writable : s.registry.readOnly = false
  /-- The name is one of an environment. -/
  named : isEnvironmentName e.id = true
  /-- The directory is made. -/
  made : s.files.makeAll (s.registry.directory e.id) = (result, files)

section

variable {e : Environment} {result : Except Failure Unit} {files made : FileTree}

theorem recorded?_eq_some (h : s.recorded? e = some files) :
    ∃ made, s.Making e (.ok ()) made ∧
      made.write (Path.join (s.registry.directory e.id) recordFile) e.record.document =
        .ok files := by
  unfold recorded? at h
  split at h
  · cases h
  · rename_i hn
    obtain ⟨hwritable, hnamed⟩ := not_or.1 (mt Bool.or_eq_true_iff.2 hn)
    split at h
    · cases h
    · rename_i made hmade
      refine ⟨made, ⟨eq_false_of_ne_true hwritable, by simpa using hnamed, hmade⟩, ?_⟩
      cases hw : made.write (Path.join (s.registry.directory e.id) recordFile)
          e.record.document with
      | error f =>
          rw [hw] at h
          cases h
      | ok files' =>
          rw [hw] at h
          rw [Option.some.inj h]

/-- **What creating an environment does**: it writes the record, drops the list of environments and
opens the catalog; or it fails before that, when it may have made the directory. -/
theorem create_cases (s : Site) (e : Environment) :
    (∃ files, s.recorded? e = some files ∧
      s.create e = openCatalog e.id
        { registry := { s.registry with listing := none }, files := files }) ∨
    s.recorded? e = none ∧ ∃ f files, s.create e = (.error f, { s with files := files }) ∧
      (files = s.files ∨ ∃ result, s.Making e result files ∧
        (result = .ok () → ∀ files',
          files.write (Path.join (s.registry.directory e.id) recordFile) e.record.document ≠
            .ok files')) := by
  unfold create recorded?
  cases hr : s.registry.readOnly with
  | true => exact .inr ⟨rfl, _, _, rfl, .inl rfl⟩
  | false =>
      cases hn : isEnvironmentName e.id with
      | false => exact .inr ⟨rfl, _, _, rfl, .inl rfl⟩
      | true =>
          dsimp only
          rcases hm : s.files.makeAll (s.registry.directory e.id) with ⟨f | ⟨⟩, made⟩
          · exact .inr ⟨rfl, _, _, rfl, .inr ⟨_, ⟨hr, hn, hm⟩, nofun⟩⟩
          · dsimp only
            cases hw : made.write (Path.join (s.registry.directory e.id) recordFile)
                e.record.document with
            | error f =>
                refine .inr ⟨rfl, _, _, rfl, .inr ⟨_, ⟨hr, hn, hm⟩, fun _ files' he => ?_⟩⟩
                rw [hw] at he
                cases he
            | ok files => exact .inl ⟨files, rfl, rfl⟩

/-- **An environment that has been created is recorded.** -/
theorem recorded?_of_create (h : s.create e = (.ok catalog, u)) :
    ∃ files, s.recorded? e = some files := by
  rcases s.create_cases e with ⟨files, hfiles, -⟩ | ⟨-, f, files, hcreate, -⟩
  · exact ⟨files, hfiles⟩
  · rw [hcreate] at h
    cases h

/-- Making the directory leaves every environment alone. -/
theorem Making.leaves (h : s.Making e result files) : s.Leaves { s with files := files } := by
  have hgains := s.files.gains_makeAll (s.registry.directory e.id)
  rw [h.made] at hgains
  exact leaves_of_gains ⟨rfl, rfl, rfl⟩ (fun _ hm => hm) (h.writable ▸ hgains)

/-- **Creating an environment leaves every environment alone**, whether it fails or opens the
catalog in the end. -/
theorem create_leaves (s : Site) (e : Environment) :
    (∃ f u, s.create e = (.error f, u) ∧ s.Leaves u) ∨
      ∃ u, s.Leaves u ∧ s.create e = u.openCatalog e.id := by
  rcases s.create_cases e with ⟨files, hfiles, hcreate⟩ | ⟨-, f, files, hcreate, hcase⟩
  · obtain ⟨made, hmaking, hw⟩ := recorded?_eq_some hfiles
    refine .inr ⟨_, (hmaking.leaves.trans (leaves_write hmaking.named hw)).trans ?_, hcreate⟩
    exact leaves_of_gains ⟨rfl, rfl, rfl⟩ (fun _ hm => hm) (.refl _)
  · refine .inl ⟨f, _, hcreate, ?_⟩
    rcases hcase with rfl | ⟨result, hmaking, -⟩
    · exact .refl s
    · exact hmaking.leaves

end

/-! ### Putting -/

/-- Puts do not change what a store is opened for. -/
theorem readOnly_putAll (store : Catalog.Store) (puts : List Catalog.Put) :
    (store.putAll puts).readOnly = store.readOnly := by
  induction puts generalizing store with
  | nil => rfl
  | cons p puts ih =>
      rw [Catalog.Store.putAll_cons, ih]
      cases hp : store.put p with
      | error f => rfl
      | ok store' =>
          obtain ⟨e, -, -, rfl⟩ := Catalog.Store.put_ok hp
          rfl

section

variable {place : List String} {store' : Catalog.Store}

/-- Other tables in a database are what it holds then. -/
theorem holds_of_set (hh : s.Holds environment store) (hs : SameSettings s.registry u.registry)
    (hplace : s.files.find (Catalog.databasePath (s.registry.directory environment)) = .ok place)
    (hfiles : u.files = s.files.set place (.database store'.tables))
    (hreadOnly : store'.readOnly = store.readOnly) : u.Holds environment store' := by
  have hne := FileTree.databasePath_place (isPlain_of_isEnvironmentName hh.named) hplace
  have hfind :
      u.files.find (Catalog.databasePath (u.registry.directory environment)) = .ok place := by
    rw [Registry.directory, hs.base, hfiles]
    exact (s.files.grows_set hne rfl).find hplace
  have hstands : u.files.entry? place = some (.database store'.tables) := by
    rw [hfiles]
    exact s.files.entry?_set_self hne _
  refine ⟨⟨hh.named, ?_, ?_, place, hfind, ?_⟩, place, hfind, hstands⟩
  · rw [Registry.directory, Registry.config, hs.base, hs.lowMemory, hs.readOnly]
    exact hh.sensible
  · rw [hreadOnly, hh.readOnly, hs.readOnly]
  · rw [FileTree.offers, hstands]

/-- They leave every other environment alone. -/
theorem spares_of_set (hr : s.files.Rooted) (hn : isEnvironmentName environment = true)
    (hs : SameSettings s.registry u.registry)
    (hplace : s.files.find (Catalog.databasePath (s.registry.directory environment)) = .ok place)
    (hfiles : u.files = s.files.set place (.database store'.tables)) {other : String}
    (ho : other ≠ environment) : s.Spares u other := by
  have hplain := isPlain_of_isEnvironmentName hn
  have hne := FileTree.databasePath_place hplain hplace
  have hgrows : s.files.Grows u.files := by
    rw [hfiles]
    exact s.files.grows_set hne rfl
  refine spares_of_files hs hr hgrows fun hnother q hq => ?_
  have hplainother := isPlain_of_isEnvironmentName hnother
  -- the databases are in directories with different names
  have hkey : FileTree.key q ≠ FileTree.key place := by
    obtain ⟨b, -, -, rfl⟩ := FileTree.exists_base hplain hplace
    obtain ⟨b', -, -, rfl⟩ := FileTree.exists_base hplainother hq
    intro hkey
    have habove := (FileTree.key_append_inj (by decide) (by decide) hkey).1
    exact ho (FileTree.key_append_inj hplainother.no_slash hplain.no_slash habove).2
  have hsame : u.files.entry? q = s.files.entry? q := by
    rw [hfiles]
    exact s.files.entry?_set_of_ne hkey _
  exact ⟨FileTree.offers_congr hsame, fun _ he => hsame.trans he⟩

/-- **Putting an open catalog back with another store** writes it through. -/
theorem keepStore_holds (h : s.Sound) (hh : s.Holds environment catalog.store)
    (hreadOnly : store'.readOnly = catalog.store.readOnly) :
    (s.keepStore environment catalog store').Sound ∧
      (s.keepStore environment catalog store').Holds environment store' ∧
      ∀ other, other ≠ environment → s.Spares (s.keepStore environment catalog store') other := by
  obtain ⟨place, hplace, hstands⟩ := hh.stands
  have hs : SameSettings s.registry (s.keepStore environment catalog store').registry :=
    ⟨rfl, rfl, rfl⟩
  have hfiles : (s.keepStore environment catalog store').files =
      s.files.set place (.database store'.tables) := Catalog.save_of_database hplace hstands
  have hholds := holds_of_set hh hs hplace hfiles hreadOnly
  have hspares (other : String) (ho : other ≠ environment) :=
    spares_of_set h.rooted hh.named hs hplace hfiles ho
  refine ⟨⟨?_, fun e c hm => ?_⟩, hholds, hspares⟩
  · have hne := FileTree.databasePath_place (isPlain_of_isEnvironmentName hh.named) hplace
    rw [hfiles]
    exact h.rooted.of_grows (s.files.grows_set hne rfl) (h.rooted.within_of_find hplace)
      fun q hq => s.files.entry?_set_of_ne hq _
  · rcases Lru.mem_insert_cases hm with he | ⟨hne, hm⟩
    · obtain ⟨rfl, rfl⟩ := Prod.mk.inj he
      exact hholds
    · exact (hspares e hne).holds _ (h.open_holds e c hm)

end

/-! ### Caches and listings -/

/-- Putting an open catalog back with other caches keeps a site sound. -/
theorem sound_keepCaches (h : s.Sound) (hh : s.Holds environment catalog.store)
    (caches : SourceCaches) : (s.keepCaches environment catalog caches).Sound := by
  have hspares (e : String) : s.Spares (s.keepCaches environment catalog caches) e :=
    spares_of_files ⟨rfl, rfl, rfl⟩ h.rooted ⟨rfl, fun _ h => h⟩
      fun _ _ _ => ⟨rfl, fun _ he => he⟩
  refine ⟨h.rooted, fun e c hm => ?_⟩
  rcases Lru.mem_of_mem_insert hm with he | hm
  · obtain ⟨rfl, rfl⟩ := Prod.mk.inj he
    exact (hspares e).holds _ hh
  · exact (hspares e).holds _ (h.open_holds e c hm)

/-- So does listing the environments. -/
theorem sound_list (h : s.Sound) : s.list.2.Sound := by
  unfold list
  split
  · exact h
  · split
    · exact h
    · rename_i l _
      have hleaves : s.Leaves { s with registry := { s.registry with listing := some l } } :=
        leaves_of_gains ⟨rfl, rfl, rfl⟩ (fun _ hm => hm) (.refl _)
      exact hleaves.sound h

end Site

end EventRules
