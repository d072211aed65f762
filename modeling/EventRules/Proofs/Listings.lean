/-
**What the list of environments shows.**

In a run of calls the list of environments is built, kept, dropped by the environments that are
created, and built anew.  At the end of the run it shows every directory right below the base
directory, in the order of the bytes of the names, but for those that have been stranded since the
list was built: their directories have been made, and then there was no room for their records.

Every environment is listed by its latest record: the one that was written last in the run, or the
one that was there at first.

Main definitions:

* `Site.Call`, `Site.callAll` — a run of what can be asked of a site;
* `Site.written`, `Site.latest` — the records that a run writes, and the latest ones;
* `Site.stranded` — what a run strands and the list does not show;
* `Site.ListsAllBut` — the list as it is.

Main results:

* `Site.upkeep_call`, `Site.lacks_callAll` — one call, and a run of them;
* `Site.record_callAll` — the record of an environment after a run;
* `Site.latest_of_create` — the latest record of an environment that has been created;
* `Site.listsAllBut_of_run` — **after every run the list shows every directory by its latest record,
  but for those that have been stranded since it was built**;
* `Site.outdated_atRoot` — a list that is out of date.
-/

import EventRules.Proofs.KeptLists

set_option relaxedAutoImplicit false
set_option autoImplicit false

namespace EventRules

namespace Site

variable {s u : Site} {base id : String} {e : Environment} {q : List String}

/-! ### Runs -/

/-- **What can be asked of a site.** -/
inductive Call where
  /-- An environment is created. -/
  | create (e : Environment)
  /-- A catalog is opened. -/
  | fetch (environment : String)
  /-- Entries are put into a catalog. -/
  | put (environment : String) (puts : List Catalog.Put)
  /-- A catalog is asked through its caches, which changes them in some way. -/
  | resolve (environment : String) (change : SourceCaches → SourceCaches)
  /-- The environments are listed. -/
  | list
  /-- All catalogs are closed. -/
  | closeAll

/-- The site after a call. -/
def call (s : Site) : Call → Site
  | .create e => (s.create e).2
  | .fetch environment => (s.openCatalog environment).2
  | .put environment puts =>
      match s.openCatalog environment with
      | (.error _, u) => u
      | (.ok catalog, u) => u.keepStore environment catalog (catalog.store.putAll puts)
  | .resolve environment change =>
      match s.openCatalog environment with
      | (.error _, u) => u
      | (.ok catalog, u) => u.keepCaches environment catalog (change catalog.caches)
  | .list => s.list.2
  | .closeAll => s.closeAll

/-- **The site after a run of calls.** -/
def callAll (s : Site) (calls : List Call) : Site :=
  calls.foldl call s

/-- The environment whose record a call writes. -/
def written? (s : Site) : Call → Option Environment
  | .create e => if (s.recorded? e).isSome then some e else none
  | _ => none

/-- The environments whose records a run writes, in their order. -/
def written (s : Site) : List Call → List Environment
  | [] => []
  | c :: rest => (s.written? c).toList ++ (s.call c).written rest

/-- What the kept list lacks after a call. -/
def lostAfter (s : Site) : Call → List String → List String
  | .create e, lost => s.lostBy e lost
  | _, lost => lost

/-- What the kept list lacks after a run of calls. -/
def lostFrom (s : Site) : List Call → List String → List String
  | [], lost => lost
  | c :: rest, lost => (s.call c).lostFrom rest (s.lostAfter c lost)

/-- **The environments that a run strands** and does not show, as the list has been kept since. -/
def stranded (s : Site) (calls : List Call) : List String :=
  s.lostFrom calls []

/-- **The latest record of an environment**: the one that a run writes last, or the one that was
there at first. -/
def latest (s : Site) (calls : List Call) (id : String) : EnvironmentRecord :=
  ((((s.written calls).filter (·.id = id)).getLast?).map (·.record)).getD
    (record s.files (s.registry.directory id))

/-- **One call.** -/
theorem upkeep_call (s : Site) (c : Call) (hr : ∀ e, c = .create e → e.Readable) :
    s.Upkeep (s.call c) (s.written? c) (s.lostAfter c) := by
  cases c with
  | create e => exact s.upkeep_create (hr e rfl)
  | fetch environment => exact s.keepsList_openCatalog environment
  | put environment puts =>
      have hopen := s.keepsList_openCatalog environment
      dsimp only [call]
      generalize s.openCatalog environment = opened at hopen ⊢
      obtain ⟨f | catalog, u⟩ := opened
      · exact hopen
      · exact hopen.trans (keepsList_keepStore environment catalog _ u)
  | resolve environment change =>
      have hopen := s.keepsList_openCatalog environment
      dsimp only [call]
      generalize s.openCatalog environment = opened at hopen ⊢
      obtain ⟨f | catalog, u⟩ := opened
      · exact hopen
      · exact hopen.trans (keepsList_of_files rfl rfl rfl)
  | list => exact s.keepsList_list
  | closeAll => exact keepsList_of_files rfl rfl rfl

/-- **After a run** the kept list lacks what has been stranded since it was built. -/
theorem lacks_callAll (calls : List Call) (hp : s.files.Proper) {lost : List String}
    (hl : s.Lacks lost) (hr : ∀ e, Call.create e ∈ calls → e.Readable) :
    (s.callAll calls).files.Proper ∧ (s.callAll calls).Lacks (s.lostFrom calls lost) ∧
      (s.callAll calls).registry.base = s.registry.base := by
  induction calls generalizing s lost with
  | nil => exact ⟨hp, hl, rfl⟩
  | cons c rest ih =>
      have hstep := s.upkeep_call c fun e he => hr e (he ▸ List.mem_cons_self)
      obtain ⟨hproper, hlacks, hbase⟩ := ih (hstep.proper hp) (hstep.lacks hp lost hl)
        fun e he => hr e (List.mem_cons_of_mem _ he)
      exact ⟨hproper, hlacks, hbase.trans hstep.base⟩

/-- What is lost has been created in the run. -/
theorem exists_create_of_mem_lostFrom (calls : List Call) {lost : List String}
    (h : id ∈ s.lostFrom calls lost) : id ∈ lost ∨ ∃ e, Call.create e ∈ calls ∧ e.id = id := by
  induction calls generalizing s lost with
  | nil => exact .inl h
  | cons c rest ih =>
      rcases ih h with hid | ⟨e, he, hid⟩
      · cases c with
        | create e =>
            rw [lostAfter, lostBy] at hid
            split at hid
            · cases hid
            · split at hid
              · rcases List.mem_cons.1 hid with rfl | hid
                · exact .inr ⟨e, List.mem_cons_self, rfl⟩
                · exact .inl hid
              · exact .inl hid
        | _ => exact .inl hid
      · exact .inr ⟨e, List.mem_cons_of_mem _ he, hid⟩

/-- **The record of an environment after a run** is its latest one. -/
theorem record_callAll (calls : List Call) (hp : s.files.Proper)
    (hr : ∀ e, Call.create e ∈ calls → e.Readable) (hn : Path.IsPlain id) :
    record (s.callAll calls).files ((s.callAll calls).registry.directory id) =
      s.latest calls id := by
  induction calls generalizing s with
  | nil => rfl
  | cons c rest ih =>
      have hstep := s.upkeep_call c fun e he => hr e (he ▸ List.mem_cons_self)
      have hrest := ih (hstep.proper hp) fun e he => hr e (List.mem_cons_of_mem _ he)
      refine hrest.trans ?_
      rw [latest, hstep.record hp id hn, latest, written, List.filter_append, List.getLast?_append]
      cases ((s.call c).written rest).filter (·.id = id) |>.getLast? with
      | some e => rfl
      | none =>
          cases s.written? c with
          | none => rfl
          | some e => by_cases he : e.id = id <;> simp [Option.filter_some, he]

theorem written_append (s : Site) (calls more : List Call) :
    s.written (calls ++ more) = s.written calls ++ (s.callAll calls).written more := by
  induction calls generalizing s with
  | nil => rfl
  | cons c rest ih =>
      rw [List.cons_append, written, ih, written, List.append_assoc]
      rfl

/-- **An environment that has been created has the record that was asked for**, also if it was there
before. -/
theorem latest_of_create {catalog : OpenCatalog} (s : Site) (calls : List Call)
    (h : (s.callAll calls).create e = (.ok catalog, u)) :
    s.latest (calls ++ [.create e]) e.id = e.record := by
  obtain ⟨files, hfiles⟩ := recorded?_of_create h
  have hwritten : (s.callAll calls).written [.create e] = [e] := by
    rw [written, written?, hfiles]
    rfl
  rw [latest, written_append, hwritten, List.filter_append]
  simp

/-! ### The list as it is -/

/-- **A list that shows every directory right below a place once**, but for some, in the order of
the bytes of the names, by its record. -/
structure ShowsDirectories (s : Site) (record : String → EnvironmentRecord) (lost : List String)
    (place : List String) (l : List Environment) : Prop where
  /-- The bytes of the names ascend. -/
  ascending : (l.map fun e => Utf8.encode e.id).Pairwise (· < ·)
  /-- The names are those of directories, not those of files. -/
  exists_iff : ∀ id, (∃ e ∈ l, e.id = id) ↔ id ∉ lost ∧
    '/' ∉ id.toList ∧ ∃ e, s.files.entry? (place ++ [id]) = some e ∧ e.isDirectory = true
  /-- Those that are not shown are directories, too. -/
  lost_directory : ∀ id ∈ lost, '/' ∉ id.toList ∧
    ∃ e, s.files.entry? (place ++ [id]) = some e ∧ e.isDirectory = true
  /-- Each is shown by its record, and without a name there by that of its directory. -/
  shown : ∀ e ∈ l, e = (record e.id).shown e.id

/-- **The list as it is.** -/
structure ListsAllBut (s : Site) (record : String → EnvironmentRecord) (lost : List String) :
    Prop where
  /-- It is what building it anew gives just if nothing is lost. -/
  kept_iff : s.list.1 = s.build ↔ lost = []
  /-- It shows the directories in the base directory. -/
  listed : ∀ place, s.files.LeadsTo s.registry.base place →
    ∃ l, s.list.1 = .ok l ∧ s.ShowsDirectories record lost place l
  /-- Without a base directory there is none. -/
  refused : (∀ place, ¬ s.files.LeadsTo s.registry.base place) → ∃ f, s.list.1 = .error f

namespace Lacks

variable {lost : List String}

/-- What listing gives. -/
theorem list_eq (h : s.Lacks lost) (hq : s.files.LeadsTo s.registry.base q) :
    s.list.1 = .ok (((s.files.subdirectories q).filter (· ∉ lost)).map s.environment) ∧
      ∀ id ∈ lost, id ∈ s.files.subdirectories q := by
  unfold list
  cases hl : s.registry.listing with
  | some l =>
      obtain ⟨q', hq', rfl, hlost⟩ := h.kept l hl
      obtain rfl : q = q' := Except.ok.inj (hq.find.symm.trans hq'.find)
      exact ⟨rfl, fun id hid => (hlost id hid).1⟩
  | none =>
      obtain rfl := h.unkept hl
      rw [build_eq hq, List.filter_eq_self.2 fun _ _ => by simp]
      exact ⟨rfl, List.forall_mem_nil _⟩

/-- Without a base directory nothing is kept. -/
theorem list_eq_error (h : s.Lacks lost)
    (hnone : ∀ place, ¬ s.files.LeadsTo s.registry.base place) :
    lost = [] ∧ ∃ f, s.list.1 = .error f ∧ s.build = .error f := by
  unfold list
  cases hl : s.registry.listing with
  | some l =>
      obtain ⟨q, hq, -⟩ := h.kept l hl
      exact absurd hq (hnone q)
  | none =>
      refine ⟨h.unkept hl, ?_⟩
      cases hbuild : s.build with
      | error f => exact ⟨f, rfl, rfl⟩
      | ok l =>
          obtain ⟨place, hplace⟩ := exists_leadsTo hbuild
          exact absurd hplace (hnone place)

/-- **What is kept is up to date** just if it lacks nothing. -/
theorem list_eq_build_iff (h : s.Lacks lost) : s.list.1 = s.build ↔ lost = [] := by
  by_cases hlead : ∃ q, s.files.LeadsTo s.registry.base q
  · obtain ⟨q, hq⟩ := hlead
    obtain ⟨hlist, hlost⟩ := h.list_eq hq
    rw [hlist, build_eq hq]
    constructor
    · intro hsame
      have hids := congrArg (List.map (·.id)) (Except.ok.inj hsame)
      have hid : (·.id) ∘ s.environment = id := rfl
      rw [List.map_map, List.map_map, hid, List.map_id, List.map_id] at hids
      refine List.eq_nil_iff_forall_not_mem.2 fun name hname => ?_
      have hshown := hids ▸ hlost name hname
      simpa [hname] using (List.mem_filter.1 hshown).2
    · rintro rfl
      rw [List.filter_eq_self.2 fun _ _ => by simp]
  · obtain ⟨hnil, f, hlist, hbuild⟩ := h.list_eq_error fun q hq => hlead ⟨q, hq⟩
    exact iff_of_true (hlist.trans hbuild.symm) hnil

/-- A kept list that lacks some directories shows the others by their records. -/
theorem listsAllBut (h : s.Lacks lost) (hp : s.files.Proper)
    {latest : String → EnvironmentRecord}
    (hr : ∀ id, Path.IsPlain id → record s.files (s.registry.directory id) = latest id) :
    s.ListsAllBut latest lost := by
  refine ⟨h.list_eq_build_iff, fun place hplace => ?_, fun hnone => ?_⟩
  · obtain ⟨hlist, hlost⟩ := h.list_eq hplace
    have hmem (id : String) : id ∈ s.files.subdirectories place ↔
        '/' ∉ id.toList ∧ ∃ e, s.files.entry? (place ++ [id]) = some e ∧ e.isDirectory = true :=
      FileTree.mem_subdirectories_iff hp.sorted
    refine ⟨_, hlist, ?_, fun id => ?_, fun id hid => (hmem id).1 (hlost id hid), fun e he => ?_⟩
    · rw [List.map_map, List.pairwise_map]
      exact ((FileTree.subdirectories_ascending hp.sorted place).filter _).imp Utf8.encode_lt
    · rw [← hmem]
      simp [environment, and_comm]
    · obtain ⟨id, hid, rfl⟩ := List.mem_map.1 he
      rw [environment_eq, hr id (hp.isPlain_of_mem_subdirectories (List.mem_filter.1 hid).1)]
      rfl
  · obtain ⟨-, f, hlist, -⟩ := h.list_eq_error hnone
    exact ⟨f, hlist⟩

end Lacks

/-- **After every run the list shows every directory by its latest record**, but for those that have
been stranded since it was built, if no list has been kept before and the records are read back as
they are written.  An environment is stranded by a call to create it if there is no room for its
record, and only then does the list differ from what building it anew gives. -/
theorem listsAllBut_of_run (s : Site) (hp : s.files.Proper) (hl : s.registry.listing = none)
    (calls : List Call) (hr : ∀ e, Call.create e ∈ calls → e.Readable) :
    (s.callAll calls).ListsAllBut (s.latest calls) (s.stranded calls) ∧
      ∀ id ∈ s.stranded calls,
        NoRoom s.registry.base id ∧ ∃ e, Call.create e ∈ calls ∧ e.id = id := by
  have hnothing : s.Lacks [] := by
    refine ⟨fun _ => rfl, fun l hm => ?_⟩
    rw [hl] at hm
    cases hm
  obtain ⟨hproper, hlacks, hbase⟩ := lacks_callAll calls hp hnothing hr
  refine ⟨hlacks.listsAllBut hproper fun _ hn => record_callAll calls hp hr hn,
    fun id hid => ⟨?_, ?_⟩⟩
  · rw [← hbase]
    exact hlacks.noRoom id hid
  · exact (exists_create_of_mem_lostFrom calls hid).resolve_left List.not_mem_nil

/-- A base directory with a directory and a file in it. -/
def shelf : Site where
  registry := { base := "data" }
  files :=
    ((({} : FileTree).set ["data"] .directory).set ["data", "B"] .directory).set
      ["data", "notes"] (.file [])

theorem proper_shelf : shelf.files.Proper := by
  have hdata : ({} : FileTree).find "data" = .ok ["data"] := rfl
  have h := FileTree.proper_empty.set hdata (FileTree.grows_set _ (by simp) (e := .directory) rfl)
  have hb : (({} : FileTree).set ["data"] .directory).find "data/B" = .ok ["data", "B"] := rfl
  have h := h.set hb (FileTree.grows_set _ (by simp) (e := .directory) rfl)
  have hnotes : ((({} : FileTree).set ["data"] .directory).set ["data", "B"] .directory).find
      "data/notes" = .ok ["data", "notes"] := rfl
  exact h.set hnotes (FileTree.grows_set_of_blocked _ (by decide) _)

/-- An environment that is there already is listed by its new record, and a file is not listed. -/
theorem listsAllBut_of_run_again :
    let calls : List Call :=
      [.create ⟨"A", "First", "one"⟩, .list, .create ⟨"A", "", "two"⟩, .create ⟨"..", "Up", ""⟩,
        .fetch "B", .list]
    shelf.files.Proper ∧ shelf.registry.listing = none ∧
      (∀ e, Call.create e ∈ calls → e.Readable) ∧
      (shelf.callAll calls).ListsAllBut (shelf.latest calls) (shelf.stranded calls) ∧
      shelf.stranded calls = [] ∧
      (shelf.callAll calls).list.1.toOption = some [⟨"A", "A", "two"⟩, ⟨"B", "B", ""⟩] := by
  intro calls
  have hr : ∀ e, Call.create e ∈ calls → e.Readable := by
    intro e he
    obtain rfl | rfl | rfl : e = ⟨"A", "First", "one"⟩ ∨ e = ⟨"A", "", "two"⟩ ∨
        e = ⟨"..", "Up", ""⟩ := by simpa [calls] using he
    all_goals exact Except.eq_ok_of_toOption (by decide +kernel)
  exact ⟨proper_shelf, rfl, hr, (listsAllBut_of_run shelf proper_shelf rfl calls hr).1,
    by decide +kernel, by decide +kernel⟩

/-! ### A list that is out of date -/

/-- The path that leads up from where relative paths start, one step and `n` more. -/
def upward : Nat → String
  | 0 => ".."
  | n + 1 => upward n ++ "/" ++ ".."

theorem size_upward (n : Nat) : Utf8.size (upward n) = 3 * n + 2 := by
  induction n with
  | zero => decide
  | succ n ih =>
      have hmore : Utf8.size "/" + Utf8.size ".." = 3 := by decide
      rw [upward, FileTree.size_append, FileTree.size_append, ih]
      omega

theorem names_upward (n : Nat) : Path.names (upward n) = List.replicate (n + 1) ".." := by
  induction n with
  | zero => exact Path.names_of_not_mem (by decide)
  | succ n ih =>
      rw [upward, Path.names_append, ih, Path.names_of_not_mem (by decide),
        ← List.replicate_succ']

theorem zero_not_mem_upward (n : Nat) : '\x00' ∉ (upward n).toList := by
  induction n with
  | zero => decide
  | succ n ih =>
      have hmore : '\x00' ∉ ("/" ++ "..").toList := by decide
      rw [upward, String.append_assoc, String.toList_append, List.mem_append, not_or]
      exact ⟨ih, hmore⟩

theorem upward_ne_empty (n : Nat) : upward n ≠ "" := by
  intro h
  have hsize := size_upward n
  rw [h] at hsize
  exact absurd hsize.symm (by simp [Utf8.size, Utf8.encode, Utf8.encodeChars])

theorem isAbsolute_upward (n : Nat) : Path.isAbsolute (upward n) = false := by
  induction n with
  | zero => decide
  | succ n ih => rw [upward, String.append_assoc, Path.isAbsolute_append (upward_ne_empty n), ih]

theorem tidy_upward (n : Nat) : Path.tidy false (List.replicate (n + 1) "..") = upward n := by
  induction n with
  | zero => decide
  | succ n ih => rw [List.replicate_succ, Path.tidy_cons (by simp), ih, upward]

theorem keptOf_upward (n : Nat) : Path.keptOf (upward n) = List.replicate (n + 1) ".." := by
  rw [Path.keptOf, isAbsolute_upward, names_upward]
  induction n with
  | zero => decide
  | succ n ih =>
      rw [List.replicate_succ', List.foldl_append, ih, ← List.replicate_succ']
      rfl

/-- The path of a name there. -/
theorem join_upward (n : Nat) {name : String} (hn : Path.IsPlain name) :
    Path.join (upward n) name = upward n ++ "/" ++ name := by
  rw [Path.join_eq_tidy _ hn, isAbsolute_upward, keptOf_upward, Path.tidy_cons (by simp),
    tidy_upward]

theorem not_refused_upward {n : Nat} {after : String} (hz : '\x00' ∉ after.toList)
    (hsize : 3 * n + 2 + Utf8.size after ≤ FileTree.pathLimit) :
    FileTree.refused? (upward n ++ after) = none := by
  rw [FileTree.refused?, if_neg, if_neg, if_neg]
  · rw [FileTree.size_append, size_upward]
    omega
  · simp [upward_ne_empty n]
  · simpa using ⟨zero_not_mem_upward n, hz⟩

/-- At the root it leads to the root. -/
theorem leadsTo_upward {n : Nat} (hsize : 3 * n + 2 ≤ FileTree.pathLimit) :
    ({} : FileTree).LeadsTo (upward n) [] := by
  have hfollow (m : Nat) : ({} : FileTree).follow [] (List.replicate m "..") = .ok [] := by
    induction m with
    | zero => rfl
    | succ m ih =>
        rw [List.replicate_succ]
        exact ih
  have hempty : Utf8.size "" = 0 := by decide
  have hr : FileTree.refused? (upward n ++ "") = none :=
    not_refused_upward (by simp) (by rw [hempty]; omega)
  rw [String.append_empty] at hr
  refine ⟨FileTree.find_of_follow hr ?_, rfl⟩
  rw [names_upward, FileTree.startOf, isAbsolute_upward]
  exact hfollow (n + 1)

/-- A base directory at the root, by a path that leads up `n` steps more than it has to. -/
def atRoot (n : Nat) : Site where
  registry := { base := upward n }
  files := {}

/-- What is kept once it has been listed. -/
def atRootListed (n : Nat) : Site :=
  { atRoot n with registry := { (atRoot n).registry with listing := some [] } }

/-- An environment for whose record there may be no room. -/
def cramped : Environment := ⟨"E", "E", ""⟩

theorem isPlain_cramped : Path.IsPlain cramped.id :=
  ⟨by decide, by decide, by decide, by decide⟩

theorem stranding_atRoot {n : Nat} (hdirectory : 3 * n + 4 ≤ FileTree.pathLimit)
    (hrecord : FileTree.pathLimit < 3 * n + 21) : (atRootListed n).Stranding cramped [] := by
  have hpath : Path.join (upward n) cramped.id = upward n ++ ("/" ++ cramped.id) := by
    rw [join_upward n isPlain_cramped, String.append_assoc]
  have hsize : Utf8.size ("/" ++ cramped.id) = 2 := by decide
  refine ⟨rfl, by decide, ?_, rfl, ?_⟩
  · have hr : FileTree.refused? (Path.join (upward n) cramped.id) = none := by
      rw [hpath]
      exact not_refused_upward (by decide) (by omega)
    have hq : ({} : FileTree).LeadsTo (upward n) [] := leadsTo_upward (by omega)
    have hfind := FileTree.find_join {} (upward n) isPlain_cramped
    rw [hr] at hfind
    dsimp only at hfind
    rw [FileTree.follow_append, FileTree.follow_namesOn hq.find] at hfind
    exact hfind
  · have hbelow : Utf8.size "/" + Utf8.size recordFile = 17 := by decide
    have hbase : (atRootListed n).registry.base = upward n := rfl
    rw [NoRoom, hbase, Path.join_join_base _ isPlain_cramped isPlain_recordFile, hpath,
      FileTree.size_append, FileTree.size_append, FileTree.size_append, size_upward]
    omega

/-- **A list that is kept although an environment has been made.** -/
theorem outdated_atRoot {n : Nat} (hdirectory : 3 * n + 4 ≤ FileTree.pathLimit)
    (hrecord : FileTree.pathLimit < 3 * n + 21) :
    let u := (atRoot n).callAll [.list, .create cramped]
    u.list.1 = .ok [] ∧ u.build = .ok [cramped] := by
  intro u
  have hq : (atRoot n).files.LeadsTo (atRoot n).registry.base [] := leadsTo_upward (by omega)
  have hlisted : (atRoot n).call .list = atRootListed n := by
    have hbuild : (atRoot n).build = .ok [] := build_eq hq
    rw [call, list]
    dsimp only [atRoot, atRootListed] at hbuild ⊢
    rw [hbuild]
  have hstranding := stranding_atRoot hdirectory hrecord
  have hu : u = ((atRootListed n).create cramped).2 := by
    rw [← hlisted]
    rfl
  rw [hstranding.create_eq.2] at hu
  have hregistry : u.registry = (atRootListed n).registry := by rw [hu]
  have hfiles : u.files = ({} : FileTree).set [cramped.id] .directory := by
    rw [hu]
    rfl
  have hmade : u.files.LeadsTo u.registry.base [] := by
    rw [hregistry, hfiles]
    exact hq.of_grows (FileTree.grows_set _ (by simp) rfl)
  have hnames : u.files.subdirectories [] = [cramped.id] := by
    rw [hfiles]
    decide
  have henvironment : u.environment cramped.id = cramped := by
    rw [environment_eq, Registry.directory, hregistry, record_of_noRoom hstranding.noRoom]
    decide
  constructor
  · rw [list, hregistry]
    rfl
  · rw [build_eq hmade, hnames, List.map_singleton, henvironment]

/-- Below a path of 4082 bytes there is room for a directory and none for its record. -/
theorem list_outdated :
    let s : Site := atRoot 1360
    let calls : List Call := [.list, .create cramped]
    (s.callAll calls).list.1 = .ok [] ∧ (s.callAll calls).build = .ok [cramped] :=
  outdated_atRoot (by decide) (by decide)

end Site

end EventRules
