/-
**Opening a catalog leaves the others alone.**

A catalog is opened when it is first needed.  That may make its database, so opening changes the
files.  What opening a catalog gives, though, does not depend on which others have been opened: the
only place that opening changes is the one of its own database.  A catalog whose database has just
been made is empty, and so it is when it is opened once more.

Main definitions:

* `Site.contents` — the store that opening the catalog of an environment anew gives.

Main results:

* `Catalog.openDatabase_cases` — what opening a database does to the files;
* `Catalog.openDatabase_openDatabase` — opening a database changes none;
* `Site.openAnew_contents` — **opening a catalog changes no catalog**.
-/

import EventRules.Environments
import EventRules.Proofs.Places

set_option relaxedAutoImplicit false
set_option autoImplicit false

namespace EventRules

/-! ### Opening databases -/

namespace Catalog

variable {t u : FileTree} {place : List String} {path : String} {readOnly exclusive : Bool}
  {tables : Tables}

/-- A database that is there is opened as it is. -/
theorem openDatabase_of_database (h : t.find path = .ok place)
    (he : t.entry? place = some (.database tables)) :
    openDatabase readOnly exclusive path t = .ok (tables, t) := by
  rw [openDatabase, FileTree.look_of_find h, he]

/-- **What opening a database does to the files**: nothing if it is there; otherwise it makes it. -/
theorem openDatabase_cases (h : t.find path = .ok place) (hne : place ≠ [])
    (ho : openDatabase readOnly exclusive path t = .ok (tables, u)) :
    t.entry? place = some (.database tables) ∧ u = t ∨
      tables = {} ∧ t.GainsDatabase u place := by
  rw [openDatabase, FileTree.look_of_find h] at ho
  cases he : t.entry? place with
  | none =>
      rw [he] at ho
      dsimp only at ho
      split at ho
      · cases ho
      · rw [FileTree.makeAll_of_vacant h he] at ho
        dsimp only at ho
        rw [openDatabase.fresh, (t.grows_set hne rfl).find h] at ho
        obtain ⟨rfl, rfl⟩ := Prod.mk.inj (Except.ok.inj ho)
        exact .inr ⟨rfl, t.gainsDatabase_set_set hne⟩
  | some e =>
      rw [he] at ho
      cases e with
      | database tables' =>
          obtain ⟨rfl, rfl⟩ := Prod.mk.inj (Except.ok.inj ho)
          exact .inl ⟨rfl, rfl⟩
      | directory =>
          dsimp only at ho
          split at ho
          · cases ho
          · rw [openDatabase.fresh, h] at ho
            obtain ⟨rfl, rfl⟩ := Prod.mk.inj (Except.ok.inj ho)
            exact .inr ⟨rfl, t.gainsDatabase_set hne⟩
      | file content => cases ho

/-- What opening a database gives depends on what stands at its place only. -/
theorem openDatabase_congr (hw : u.workingPlace = t.workingPlace) (hf : u.find path = t.find path)
    (hm : t.find path ≠ .error .missing)
    (he : ∀ place, t.find path = .ok place → place ≠ [] ∧ u.entry? place = t.entry? place) :
    (openDatabase readOnly exclusive path u).map (·.1) =
      (openDatabase readOnly exclusive path t).map (·.1) := by
  cases hp : t.find path with
  | error fault =>
      rw [openDatabase, openDatabase, FileTree.look_of_find_error hp,
        FileTree.look_of_find_error (hf.trans hp)]
      cases fault with
      | missing => exact absurd hp hm
      | _ => rfl
  | ok place =>
      obtain ⟨hne, hentry⟩ := he place hp
      have hpu := hf.trans hp
      rw [openDatabase, openDatabase, FileTree.look_of_find hp, FileTree.look_of_find hpu, hentry]
      cases hv : t.entry? place with
      | none =>
          dsimp only
          split
          · rfl
          · rw [FileTree.makeAll_of_vacant hp hv, FileTree.makeAll_of_vacant hpu (hentry.trans hv)]
            dsimp only
            rw [openDatabase.fresh, openDatabase.fresh, (t.grows_set hne rfl).find hp,
              (u.grows_set hne rfl).find hpu]
            rfl
      | some e =>
          cases e with
          | database tables => rfl
          | directory =>
              dsimp only
              split
              · rfl
              · rw [openDatabase.fresh, openDatabase.fresh, hp, hpu]
                rfl
          | file content =>
              dsimp only
              rw [noDatabase, noDatabase, FileTree.absolute, FileTree.absolute, hw]

/-- If there is something in place of the directory of a plain name, opening its database succeeds
only if the database can be looked for. -/
theorem find_of_openDatabase {base name : String} (hn : Path.IsPlain name)
    (hl : t.look (Path.join base name) ≠ .error .missing)
    (ho : openDatabase readOnly exclusive (databasePath (Path.join base name)) t =
      .ok (tables, u)) :
    ∃ place, t.find (databasePath (Path.join base name)) = .ok place := by
  cases hf : t.find (databasePath (Path.join base name)) with
  | ok place => exact ⟨place, rfl⟩
  | error fault =>
      rw [openDatabase, FileTree.look_of_find_error hf] at ho
      cases fault with
      | missing => exact absurd hf (FileTree.find_databasePath_ne_missing hn hl)
      | _ => cases ho

/-- **Opening the database of one name changes the database of no name.** -/
theorem openDatabase_openDatabase {base name other : String} (hn : Path.IsPlain name)
    (hother : Path.IsPlain other) (hl : t.look (Path.join base name) ≠ .error .missing)
    (ho : openDatabase readOnly exclusive (databasePath (Path.join base name)) t =
      .ok (tables, u)) :
    u.look (Path.join base other) = t.look (Path.join base other) ∧
      (t.look (Path.join base other) ≠ .error .missing →
        (openDatabase readOnly exclusive (databasePath (Path.join base other)) u).map (·.1) =
          (openDatabase readOnly exclusive (databasePath (Path.join base other)) t).map (·.1)) := by
  obtain ⟨place, hplace⟩ := find_of_openDatabase hn hl ho
  obtain ⟨q, hq, hb, rfl⟩ := FileTree.exists_base hn hplace
  rcases openDatabase_cases hplace (by simp) ho with ⟨-, rfl⟩ | ⟨rfl, hgain⟩
  · exact ⟨rfl, fun _ => rfl⟩
  · refine ⟨hgain.look_join hq hb hother, fun hlook => ?_⟩
    have hfind := hgain.find_databasePath hq hb hother
    by_cases hsame : other = name
    · -- it was made empty, and it is there now
      subst hsame
      rw [openDatabase_of_database (hfind.trans hplace) hgain.entry_self, ho]
    · refine openDatabase_congr hgain.grows.workingPlace hfind
        (FileTree.find_databasePath_ne_missing hother hlook) fun place' hplace' => ?_
      obtain ⟨q', hq', -, rfl⟩ := FileTree.exists_base hother hplace'
      obtain rfl : q = q' := Except.ok.inj (hq.symm.trans hq')
      exact ⟨by simp, hgain.entry_other _ (FileTree.key_database_ne q hsame)⟩

/-- A catalog on disk is opened if its settings make sense and its database is opened. -/
theorem openStore_onDisk {config : Config} (hc : config.inMemory = false) (t : FileTree) :
    openStore config t =
      match config.fault? with
      | some fault => .error (.because "invalid catalog config" (.plain fault.message))
      | none =>
          match openDatabase config.readOnly config.exclusive (databasePath config.dataDir) t with
          | .ok (tables, u) => .ok (⟨tables, config.readOnly⟩, u)
          | .error e => .error (.because "failed to open catalog" e) := by
  unfold openStore
  cases config.fault? with
  | some fault => rfl
  | none =>
      rw [hc]
      rfl

/-- **What an opened catalog is**: its settings make sense, and its database has been opened. -/
theorem openStore_ok_iff {config : Config} (hc : config.inMemory = false) {store : Store} :
    openStore config t = .ok (store, u) ↔
      config.fault? = none ∧ store.readOnly = config.readOnly ∧
        openDatabase config.readOnly config.exclusive (databasePath config.dataDir) t =
          .ok (store.tables, u) := by
  rw [openStore_onDisk hc]
  cases config.fault? with
  | some fault => simp
  | none =>
      rcases openDatabase config.readOnly config.exclusive (databasePath config.dataDir) t with
        e | ⟨tables, u'⟩
      · simp
      · obtain ⟨tables', readOnly⟩ := store
        simp [eq_comm, and_comm, and_left_comm]

/-- If opening a catalog succeeds, its database has been opened. -/
theorem openDatabase_of_openStore {config : Config} (hc : config.inMemory = false) {store : Store}
    (ho : openStore config t = .ok (store, u)) :
    openDatabase config.readOnly config.exclusive (databasePath config.dataDir) t =
      .ok (store.tables, u) :=
  ((openStore_ok_iff hc).1 ho).2.2

/-- The store of a catalog depends on its database only. -/
theorem openStore_congr {config : Config} (hc : config.inMemory = false)
    (h : (openDatabase config.readOnly config.exclusive (databasePath config.dataDir) u).map (·.1) =
      (openDatabase config.readOnly config.exclusive (databasePath config.dataDir) t).map (·.1)) :
    (openStore config u).map (·.1) = (openStore config t).map (·.1) := by
  rw [openStore_onDisk hc, openStore_onDisk hc]
  generalize openDatabase config.readOnly config.exclusive (databasePath config.dataDir) u = r at h
  generalize openDatabase config.readOnly config.exclusive (databasePath config.dataDir) t = r' at h
  cases config.fault? with
  | some fault => rfl
  | none =>
      cases r with
      | error e =>
          cases r' with
          | error e' => rw [Except.error.inj h]
          | ok p' => cases h
      | ok p =>
          cases r' with
          | error e' => cases h
          | ok p' =>
              have hp : p.1 = p'.1 := Except.ok.inj h
              dsimp only [Except.map]
              rw [hp]

end Catalog

/-! ### The contents of catalogs -/

/-- Environments have plain names. -/
theorem isPlain_of_isEnvironmentName {environment : String}
    (h : isEnvironmentName environment = true) : Path.IsPlain environment := by
  simp only [isEnvironmentName, Bool.not_eq_true', Bool.or_eq_false_iff, decide_eq_false_iff_not,
    List.contains_eq_mem] at h
  exact ⟨h.1.1.1.1, h.1.1.1.2, h.1.1.2, h.1.2⟩

namespace Site

variable {s s' : Site} {environment : String}

/-- **The store that opening the catalog of an environment anew gives.** -/
def contents (s : Site) (environment : String) : Except Failure Catalog.Store :=
  if isEnvironmentName environment then (s.openAnew environment).1.map (·.store)
  else .error (badEnvironmentName environment)

/-- Registries that open catalogs alike. -/
structure SameSettings (r r' : Registry) : Prop where
  /-- The base directory is the same. -/
  base : r'.base = r.base
  /-- So is the use of memory. -/
  lowMemory : r'.lowMemory = r.lowMemory
  /-- So is what catalogs are opened for. -/
  readOnly : r'.readOnly = r.readOnly

theorem SameSettings.trans {r r' r'' : Registry} (h : SameSettings r r')
    (h' : SameSettings r' r'') : SameSettings r r'' :=
  ⟨h'.base.trans h.base, h'.lowMemory.trans h.lowMemory, h'.readOnly.trans h.readOnly⟩

theorem contents_of_missing (h : isEnvironmentName environment = true)
    (hm : s.files.look (s.registry.directory environment) = .error .missing) :
    s.contents environment = .error (noEnvironment environment) := by
  rw [contents, if_pos h, openAnew, hm]
  rfl

theorem contents_of_present (h : isEnvironmentName environment = true)
    (hm : s.files.look (s.registry.directory environment) ≠ .error .missing) :
    s.contents environment =
      ((Catalog.openStore (s.registry.config (s.registry.directory environment))
          s.files).map (·.1)).mapError
        (.because ("failed to open catalog for environment " ++ environment)) := by
  rw [contents, if_pos h, openAnew]
  dsimp only
  split
  · exact absurd ‹_› hm
  · cases Catalog.openStore (s.registry.config (s.registry.directory environment)) s.files <;> rfl

/-- Contents depend on the settings and on the directory and the store of the environment. -/
theorem contents_congr (hs : SameSettings s.registry s'.registry)
    (h : isEnvironmentName environment = true →
      s'.files.look (s.registry.directory environment) =
          s.files.look (s.registry.directory environment) ∧
        (s.files.look (s.registry.directory environment) ≠ .error .missing →
          (Catalog.openStore (s.registry.config (s.registry.directory environment))
              s'.files).map (·.1) =
            (Catalog.openStore (s.registry.config (s.registry.directory environment))
              s.files).map (·.1))) :
    s'.contents environment = s.contents environment := by
  by_cases he : isEnvironmentName environment = true
  · obtain ⟨hlook, hstore⟩ := h he
    have hdirectory : s'.registry.directory environment = s.registry.directory environment := by
      rw [Registry.directory, Registry.directory, hs.base]
    have hconfig : s'.registry.config (s.registry.directory environment) =
        s.registry.config (s.registry.directory environment) := by
      rw [Registry.config, Registry.config, hs.lowMemory, hs.readOnly]
    by_cases hm : s.files.look (s.registry.directory environment) = .error .missing
    · rw [contents_of_missing he hm, contents_of_missing he (by rw [hdirectory, hlook, hm])]
    · rw [contents_of_present he hm, contents_of_present he (by rwa [hdirectory, hlook]),
        hdirectory, hconfig, hstore hm]
  · rw [contents, contents, if_neg he, if_neg he]

/-- If opening a catalog anew succeeds, its directory is there and its store has been opened. -/
theorem openAnew_ok {catalog : OpenCatalog} (h : s.openAnew environment = (.ok catalog, s')) :
    s.files.look (s.registry.directory environment) ≠ .error .missing ∧
      Catalog.openStore (s.registry.config (s.registry.directory environment)) s.files =
        .ok (catalog.store, s'.files) ∧
      catalog.caches = SourceCaches.ofSize 0 ∧
      s'.registry = { s.registry with
        opened := s.registry.opened.insert environment catalog
        openings := s.registry.openings + 1 } := by
  unfold openAnew at h
  dsimp only at h
  split at h
  · cases h
  · rename_i hm
    split at h
    · cases h
    · rename_i store files ho
      obtain ⟨hc, rfl⟩ := Prod.mk.inj h
      obtain rfl := Except.ok.inj hc
      exact ⟨hm, ho, rfl, rfl⟩

/-- If it fails, nothing is changed. -/
theorem openAnew_error {e : Failure} (h : s.openAnew environment = (.error e, s')) : s' = s := by
  unfold openAnew at h
  dsimp only at h
  split at h
  · exact (Prod.mk.inj h).2.symm
  · split at h
    · exact (Prod.mk.inj h).2.symm
    · cases h

/-- **Opening a catalog changes no catalog**, neither another one nor its own. -/
theorem openAnew_contents {catalog : OpenCatalog} (hn : isEnvironmentName environment = true)
    (h : s.openAnew environment = (.ok catalog, s')) (other : String) :
    s'.contents other = s.contents other := by
  obtain ⟨hlook, hstore, -, hregistry⟩ := openAnew_ok h
  have hd := Catalog.openDatabase_of_openStore rfl hstore
  refine contents_congr (by rw [hregistry]; exact ⟨rfl, rfl, rfl⟩) fun ho => ?_
  obtain ⟨hl, hdatabase⟩ := Catalog.openDatabase_openDatabase (isPlain_of_isEnvironmentName hn)
    (isPlain_of_isEnvironmentName ho) hlook hd
  exact ⟨hl, fun hm => Catalog.openStore_congr rfl (hdatabase hm)⟩

end Site

end EventRules
