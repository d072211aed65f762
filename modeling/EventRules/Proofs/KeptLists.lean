/-
**What becomes of the list that is kept.**

The list of environments is built once and kept.  Opening catalogs and writing to them adds
databases two steps below the base directory, so what has been kept outlives that.  Creating an
environment makes a directory and writes a record, and that drops the list, also when the
environment has been there before.

Between making the directory and writing the record something can go wrong, and then the list is not
dropped: the directory is there, but a kept list does not show it.  Creating *strands* such an
environment.  It happens to new directories only, and just if the path of the record is too long
while that of the directory is not.  So what is kept *lacks* the environments that have been
stranded since it was built, and is otherwise what building it anew gives: the same directories
right below the base directory, with the same records in them.

Main definitions:

* `Site.Lacks` — **a kept list that lacks some directories only**;
* `Site.Upkeep`, `Site.KeepsList` — what is done to the list and to the records, or that nothing
  is;
* `Site.strands`, `Site.Stranding` — a directory without its record;
* `Site.lostBy` — what the kept list lacks after an environment has been created.

Main results:

* `Site.build_eq` — what building the list shows;
* `Site.keepsList_openCatalog`, `Site.keepsList_keepStore`, `Site.keepsList_list` — **what the list
  outlives**;
* `Site.strands_iff` — **when an environment is stranded**;
* `Site.upkeep_create` — **what creating an environment does**.
-/

import EventRules.Proofs.Sites
import EventRules.Proofs.Subdirectories

set_option relaxedAutoImplicit false
set_option autoImplicit false

namespace EventRules

/-- **An environment by its record**; without a name there it is called by its directory. -/
def EnvironmentRecord.shown (r : EnvironmentRecord) (id : String) : Environment :=
  ⟨id, if r.name = "" then id else r.name, r.description⟩

/-- **An environment whose record is read back** as it is written. -/
def Environment.Readable (e : Environment) : Prop :=
  EnvironmentRecord.read e.record.document = .ok e.record

namespace Site

variable {s u w : Site} {t files : FileTree} {base id : String} {e : Environment}
  {q : List String}

/-! ### Records -/

theorem environment_eq (s : Site) (id : String) :
    s.environment id = (record s.files (s.registry.directory id)).shown id := rfl

/-- A record depends on what can be read of it. -/
theorem record_congr {directory : String}
    (h : ∀ content, files.read (Path.join directory recordFile) = .ok content ↔
      t.read (Path.join directory recordFile) = .ok content) :
    record files directory = record t directory := by
  unfold record
  cases ht : t.read (Path.join directory recordFile) with
  | ok content => rw [(h content).2 ht]
  | error f =>
      cases hfiles : files.read (Path.join directory recordFile) with
      | ok content =>
          rw [(h content).1 hfiles] at ht
          cases ht
      | error f' => rfl

/-- **Furnishing keeps all records.** -/
theorem record_of_furnished {allowed : List String → Prop} (h : t.Furnished allowed files)
    (hr : t.Rooted) (hn : Path.IsPlain id) :
    record files (Path.join base id) = record t (Path.join base id) :=
  record_congr (h.read_below hr hn isPlain_recordFile)

section

variable {content : Bytes}

/-- **A record that is written is read back.** -/
theorem record_written
    (hw : t.write (Path.join (Path.join base id) recordFile) content = .ok files) :
    record files (Path.join base id) = (EnvironmentRecord.read content).toOption.getD {} := by
  obtain ⟨place, hplace, hb, rfl⟩ := FileTree.write_ok hw
  have hne : place ≠ [] := by
    rintro rfl
    exact hb rfl
  have hread : (t.set place (.file content)).read (Path.join (Path.join base id) recordFile) =
      .ok content :=
    FileTree.read_eq_ok_iff.2
      ⟨place, (t.grows_set_of_blocked hb _).find hplace, t.entry?_set_self hne _⟩
  rw [record, hread]

/-- **Every other record stays.** -/
theorem record_unwritten {other : String} (hr : t.Rooted) (hn : Path.IsPlain id)
    (ho : Path.IsPlain other) (hne : other ≠ id)
    (hw : t.write (Path.join (Path.join base id) recordFile) content = .ok files) :
    record files (Path.join base other) = record t (Path.join base other) := by
  obtain ⟨place, hplace, hgrows, -, hother⟩ := FileTree.grows_write hw
  refine record_congr fun c => hr.read_below hgrows ho isPlain_recordFile fun p hp => ?_
  rw [hother p]
  -- the records are in directories with different names
  obtain ⟨b, -, -, rfl⟩ := FileTree.exists_base_of_below hn isPlain_recordFile hplace
  obtain ⟨b', -, -, rfl⟩ := FileTree.exists_base_of_below ho isPlain_recordFile hp
  intro hkey
  have habove := (FileTree.key_append_inj (by decide) (by decide) hkey).1
  exact hne (FileTree.key_append_inj ho.no_slash hn.no_slash habove).2

end

/-! ### The list that is kept -/

/-- **Building the list** shows the directories right below the base directory. -/
theorem build_eq (h : s.files.LeadsTo s.registry.base q) :
    s.build = .ok ((s.files.subdirectories q).map s.environment) := by
  rw [build, FileTree.list, h.find]
  dsimp only
  rw [h.unblocked, FileTree.subdirectories, List.map_map]
  rfl

/-- It needs that directory. -/
theorem exists_leadsTo {l : List Environment} (h : s.build = .ok l) :
    ∃ q, s.files.LeadsTo s.registry.base q := by
  unfold build FileTree.list at h
  cases hf : s.files.find s.registry.base with
  | error fault =>
      rw [hf] at h
      cases h
  | ok q =>
      rw [hf] at h
      cases hb : s.files.blocked? q with
      | some fault =>
          dsimp only at h
          rw [hb] at h
          cases h
      | none => exact ⟨q, hf, hb⟩

/-- There is no room for the record of an environment: its path is too long. -/
def NoRoom (base id : String) : Prop :=
  FileTree.pathLimit < Utf8.size (Path.join (Path.join base id) recordFile)

/-- **A kept list that lacks some directories only**, and otherwise is what building it anew
gives. -/
structure Lacks (s : Site) (lost : List String) : Prop where
  /-- Where none is kept there is nothing that it lacks. -/
  unkept : s.registry.listing = none → lost = []
  /-- It shows all directories but those, and for their records there is no room. -/
  kept : ∀ l ∈ s.registry.listing, ∃ q, s.files.LeadsTo s.registry.base q ∧
    l = ((s.files.subdirectories q).filter (· ∉ lost)).map s.environment ∧
    ∀ id ∈ lost, id ∈ s.files.subdirectories q ∧ NoRoom s.registry.base id

theorem Lacks.noRoom {lost : List String} (h : s.Lacks lost) :
    ∀ id ∈ lost, NoRoom s.registry.base id := by
  intro id hid
  cases hl : s.registry.listing with
  | none =>
      rw [h.unkept hl] at hid
      cases hid
  | some l =>
      obtain ⟨q, hq, hshown, hlost⟩ := h.kept l hl
      exact (hlost id hid).2

/-- **What is done to the list and to the records**, given the environment whose record is
written, and what the kept list lacks afterwards. -/
structure Upkeep (s u : Site) (written : Option Environment)
    (after : List String → List String) : Prop where
  /-- The base directory stays. -/
  base : u.registry.base = s.registry.base
  /-- The files stay proper. -/
  proper : s.files.Proper → u.files.Proper
  /-- The list lacks some directories only. -/
  lacks : s.files.Proper → ∀ lost, s.Lacks lost → u.Lacks (after lost)
  /-- The record is the one that is written, or the one that was there. -/
  record : s.files.Proper → ∀ id, Path.IsPlain id →
    record u.files (u.registry.directory id) =
      ((written.filter (·.id = id)).map (·.record)).getD
        (record s.files (s.registry.directory id))

/-- Nothing is done to either. -/
abbrev KeepsList (s u : Site) : Prop :=
  s.Upkeep u none fun lost => lost

theorem KeepsList.refl (s : Site) : s.KeepsList s :=
  ⟨rfl, fun h => h, fun _ _ h => h, fun _ _ _ => rfl⟩

theorem Upkeep.trans {written : Option Environment} {after : List String → List String}
    (h : s.Upkeep u written after) (h' : u.KeepsList w) : s.Upkeep w written after :=
  ⟨h'.base.trans h.base, fun hp => h'.proper (h.proper hp),
    fun hp lost hl => h'.lacks (h.proper hp) _ (h.lacks hp lost hl),
    fun hp id hn => (h'.record (h.proper hp) id hn).trans (h.record hp id hn)⟩

/-- Environments with the same records are the same. -/
theorem map_environment_congr (hb : u.registry.base = s.registry.base) {ids : List String}
    (hids : ∀ id ∈ ids, Path.IsPlain id)
    (hr : ∀ id, Path.IsPlain id →
      record u.files (Path.join s.registry.base id) =
        record s.files (Path.join s.registry.base id)) :
    ids.map s.environment = ids.map u.environment := by
  refine List.map_congr_left fun id hid => ?_
  rw [environment_eq, environment_eq, Registry.directory, Registry.directory, hb,
    hr id (hids id hid)]

/-- **Furnishing away from the base directory.** -/
theorem keepsList_of_furnished {allowed : List String → Prop}
    (hb : u.registry.base = s.registry.base) (hl : u.registry.listing = s.registry.listing)
    (h : s.files.Furnished allowed u.files)
    (hnone : ∀ q, s.files.LeadsTo s.registry.base q → ∀ name, '/' ∉ name.toList →
      ∀ p, allowed p → FileTree.key (q ++ [name]) ≠ FileTree.key p) : s.KeepsList u := by
  have hrecord (hp : s.files.Proper) (id : String) (hn : Path.IsPlain id) :
      record u.files (Path.join s.registry.base id) =
        record s.files (Path.join s.registry.base id) :=
    record_of_furnished h hp.toRooted hn
  refine ⟨hb, h.proper, fun hp lost hlacks => ⟨fun hno => hlacks.unkept (hl ▸ hno), ?_⟩,
    fun hp id hn => ?_⟩
  · intro l hm
    obtain ⟨q, hq, rfl, hlost⟩ := hlacks.kept l (hl ▸ hm)
    have hsame := h.subdirectories hp (hnone q hq)
    refine ⟨q, hb ▸ hq.of_grows h.grows, ?_, ?_⟩
    · rw [hsame]
      exact map_environment_congr hb (fun id hid =>
        hp.isPlain_of_mem_subdirectories (List.mem_filter.1 hid).1) (hrecord hp)
    · rw [hsame, hb]
      exact hlost
  · rw [Registry.directory, hb]
    exact hrecord hp id hn

/-- Keeping the files. -/
theorem keepsList_of_files (hb : u.registry.base = s.registry.base)
    (hl : u.registry.listing = s.registry.listing) (hf : u.files = s.files) : s.KeepsList u := by
  have hfurnished : s.files.Furnished (fun _ => False) u.files := by
    rw [hf]
    exact .refl _ _
  exact keepsList_of_furnished hb hl hfurnished fun _ _ _ _ _ hnowhere => hnowhere.elim

/-! ### What the list outlives -/

/-- **Opening a catalog.** -/
theorem keepsList_openCatalog (s : Site) (environment : String) :
    s.KeepsList (s.openCatalog environment).2 := by
  rcases s.openCatalog_cases environment with ⟨catalog, opened, -, hopen⟩ | ⟨-, hopen⟩
  · rw [hopen]
    exact keepsList_of_files rfl rfl rfl
  · rw [hopen]
    split
    · rename_i hn
      rcases hanew : s.openAnew environment with ⟨f | catalog, u⟩
      · rw [openAnew_error hanew]
        exact .refl s
      · obtain ⟨-, -, -, hregistry⟩ := openAnew_ok hanew
        obtain ⟨place, hplace, hne, hd⟩ := openAnew_database hn hanew
        obtain ⟨b, hbase, -, hbelow⟩ :=
          FileTree.exists_base (isPlain_of_isEnvironmentName hn) hplace
        refine keepsList_of_furnished (by rw [hregistry]) (by rw [hregistry])
          (FileTree.furnished_openDatabase hplace hne hd) ?_
        -- a database is in the directory of its environment
        rintro q hq name hslash p rfl hkey
        obtain rfl : q = b :=
          Except.ok.inj ((FileTree.follow_namesOn hq.find).symm.trans hbase)
        rw [hbelow] at hkey
        exact FileTree.key_append_ne q environment
          (FileTree.key_append_inj hslash (by decide) hkey).1.symm
    · exact .refl s

/-- **Putting an open catalog back** with another store. -/
theorem keepsList_keepStore (environment : String) (catalog : OpenCatalog) (store : Catalog.Store)
    (s : Site) : s.KeepsList (s.keepStore environment catalog store) :=
  keepsList_of_furnished rfl rfl (FileTree.furnished_save _ _ _) fun _ _ _ _ _ hnowhere =>
    hnowhere.elim

/-- **Listing** keeps what it builds, which lacks nothing. -/
theorem keepsList_list (s : Site) : s.KeepsList s.list.2 := by
  unfold list
  cases hl : s.registry.listing with
  | some l => exact .refl s
  | none =>
      cases hbuild : s.build with
      | error f => exact .refl s
      | ok l =>
          obtain ⟨q, hq⟩ := exists_leadsTo hbuild
          refine ⟨rfl, fun h => h, fun _ lost hlacks => ⟨nofun, fun l' hl' => ⟨q, hq, ?_⟩⟩,
            fun _ _ _ => rfl⟩
          obtain rfl := hlacks.unkept hl
          obtain rfl : l = l' := Option.some.inj hl'
          refine ⟨?_, List.forall_mem_nil _⟩
          rw [build_eq hq] at hbuild
          rw [List.filter_eq_self.2 fun _ _ => by simp]
          exact (Except.ok.inj hbuild).symm

/-! ### What drops it -/

/-- Making a directory keeps all records. -/
theorem Making.furnished {result : Except Failure Unit} (h : s.Making e result files) :
    s.files.Furnished (fun _ => True) files := by
  have hfurnished := s.files.furnished_makeAll (s.registry.directory e.id)
  rwa [h.made] at hfurnished

/-- **Writing a record** drops the list. -/
theorem upkeep_recorded (h : s.recorded? e = some files) (hr : e.Readable) :
    s.Upkeep { registry := { s.registry with listing := none }, files := files } (some e)
      fun _ => [] := by
  obtain ⟨made, hmaking, hw⟩ := recorded?_eq_some h
  have hplain := isPlain_of_isEnvironmentName hmaking.named
  refine ⟨rfl, fun hp => ?_, fun _ _ _ => ⟨fun _ => rfl, nofun⟩, fun hp id hid => ?_⟩
  · obtain ⟨place, hplace, hb, rfl⟩ := FileTree.write_ok hw
    exact (hmaking.furnished.proper hp).set hplace (made.grows_set_of_blocked hb _)
  · by_cases hid' : e.id = id
    · subst hid'
      have hown := record_written hw
      rw [hr] at hown
      rw [Option.filter_some, if_pos (by simp)]
      exact hown
    · have hrooted := (hmaking.furnished.proper hp).toRooted
      have hother := record_unwritten hrooted hplain hid (Ne.symm hid') hw
      have hbefore : record made (Path.join s.registry.base id) =
          record s.files (Path.join s.registry.base id) :=
        record_of_furnished hmaking.furnished hp.toRooted hid
      rw [Option.filter_some, if_neg (by simpa using hid')]
      exact hother.trans hbefore

/-! ### What it misses -/

/-- **Does creating the environment make its directory without writing its record?** -/
def strands (s : Site) (e : Environment) : Bool :=
  (s.recorded? e).isNone && !(s.files.look (s.registry.directory e.id)).isOk &&
    ((s.create e).2.files.look (s.registry.directory e.id)).isOk

theorem strands_of_files (h : (s.create e).2.files = s.files) : s.strands e = false := by
  rw [strands, h, Bool.and_assoc, Bool.not_and_self, Bool.and_false]

/-- **An environment that can be stranded**: there is no directory of its name yet, one can be made,
and there is no room for its record. -/
structure Stranding (s : Site) (e : Environment) (q : List String) : Prop where
  /-- Catalogs may be written. -/
  writable : s.registry.readOnly = false
  /-- The name is one of an environment. -/
  named : isEnvironmentName e.id = true
  /-- The path of the directory leads below the base directory. -/
  find : s.files.find (s.registry.directory e.id) = .ok (q ++ [e.id])
  /-- Nothing stands there. -/
  vacant : s.files.entry? (q ++ [e.id]) = none
  /-- The path of the record is too long. -/
  noRoom : NoRoom s.registry.base e.id

theorem exists_refused (h : NoRoom base id) :
    ∃ fault, FileTree.refused? (Path.join (Path.join base id) recordFile) = some fault := by
  unfold FileTree.refused?
  split
  · exact ⟨_, rfl⟩
  · split
    · exact ⟨_, rfl⟩
    · exact ⟨_, if_pos h⟩

/-- Without room there is no record. -/
theorem record_of_noRoom (h : NoRoom base id) : record t (Path.join base id) = {} := by
  obtain ⟨fault, hfault⟩ := exists_refused h
  have hfind : t.find (Path.join (Path.join base id) recordFile) = .error fault := by
    rw [FileTree.find_eq, hfault]
  rw [record, FileTree.read, FileTree.look_of_find_error hfind]

/-- The path of a record is refused for want of room only, if that of its directory is not. -/
theorem not_refused (hroom : ¬ NoRoom base id) (hn : Path.IsPlain id)
    (hr : FileTree.refused? (Path.join base id) = none) :
    FileTree.refused? (Path.join (Path.join base id) recordFile) = none := by
  rw [NoRoom, Path.join_join_base base hn isPlain_recordFile] at hroom
  rw [Path.join_join_base base hn isPlain_recordFile]
  unfold FileTree.refused? at hr ⊢
  split at hr
  · cases hr
  · rename_i hzero
    have hlast : ("/" ++ recordFile).toList.contains '\x00' = false := by decide
    rw [if_neg (by
        rw [String.append_assoc, String.toList_append, List.contains_append, hlast]
        simpa using hzero),
      if_neg (by simp), if_neg hroom]

/-- **What creating it does**: the directory is made and nothing else. -/
theorem Stranding.create_eq (h : s.Stranding e q) :
    s.recorded? e = none ∧
      (s.create e).2 = { s with files := s.files.set (q ++ [e.id]) .directory } := by
  have hmade := FileTree.makeAll_of_vacant h.find h.vacant
  obtain ⟨fault, hfault⟩ := exists_refused h.noRoom
  have hfind (t : FileTree) :
      t.find (Path.join (s.registry.directory e.id) recordFile) = .error fault := by
    rw [FileTree.find_eq, Registry.directory, hfault]
  unfold recorded? create
  simp only [h.writable, h.named, Bool.not_true, Bool.or_false, Bool.false_eq_true, if_false, hmade,
    FileTree.write, hfind]
  exact ⟨rfl, trivial⟩

/-- If the record is not written, nothing happens or the environment is stranded. -/
theorem create_unrecorded (hp : s.files.Proper) (hq : s.files.LeadsTo s.registry.base q)
    (h : s.recorded? e = none) : (s.create e).2 = s ∨ s.Stranding e q := by
  rcases s.create_cases e with ⟨files, hfiles, -⟩ | ⟨-, f, files, hcreate, hcase⟩
  · rw [h] at hfiles
    cases hfiles
  · rw [hcreate]
    rcases hcase with rfl | ⟨result, hmaking, hfail⟩
    · exact .inl rfl
    · have hplain := isPlain_of_isEnvironmentName hmaking.named
      rcases hq.makeAll_join hplain with hsame | ⟨hfind, hvacant, hnew⟩
      · have hfiles : files = s.files := by
          rw [← hsame]
          exact (congrArg Prod.snd hmaking.made).symm
        rw [hfiles]
        exact .inl rfl
      · refine .inr ⟨hmaking.writable, hmaking.named, hfind, hvacant, ?_⟩
        by_contra hroom
        -- a record can be written in a new directory if there is room for it
        obtain ⟨hresult, rfl⟩ := Prod.mk.inj (hnew.symm.trans hmaking.made)
        obtain ⟨files', hw⟩ := hp.toRooted.exists_write hplain isPlain_recordFile (by decide) hfind
          hvacant (not_refused hroom hplain (FileTree.find_ok hfind).1) e.record.document
        exact hfail hresult.symm files' hw

/-- **When an environment is stranded.** -/
theorem strands_iff (hp : s.files.Proper) (hq : s.files.LeadsTo s.registry.base q) :
    s.strands e = true ↔ s.Stranding e q := by
  constructor
  · intro h
    have hnone : s.recorded? e = none := by
      simp only [strands, Bool.and_eq_true, Option.isNone_iff_eq_none] at h
      exact h.1.1
    refine (create_unrecorded hp hq hnone).resolve_left fun hsame => ?_
    rw [strands_of_files (congrArg Site.files hsame)] at h
    cases h
  · intro h
    obtain ⟨hnone, hcreate⟩ := h.create_eq
    have hne : q ++ [e.id] ≠ [] := by simp
    have hmade := (s.files.grows_set hne (e := .directory) rfl).find h.find
    rw [strands, hnone, hcreate, FileTree.look_of_find h.find, h.vacant,
      FileTree.look_of_find hmade, s.files.entry?_set_self hne]
    rfl

/-- **What the kept list lacks** after an environment has been created. -/
def lostBy (s : Site) (e : Environment) (lost : List String) : List String :=
  if (s.recorded? e).isSome then []
  else if s.registry.listing.isSome && s.strands e then e.id :: lost
  else lost

/-- The directory of a stranded environment is one more that the kept list lacks. -/
theorem Stranding.lacks (h : s.Stranding e q) (hp : s.files.Proper)
    (hq : s.files.LeadsTo s.registry.base q) {lost : List String} (hlacks : s.Lacks lost)
    (hl : s.registry.listing ≠ none) :
    Lacks { s with files := s.files.set (q ++ [e.id]) .directory } (e.id :: lost) := by
  have hplain := isPlain_of_isEnvironmentName h.named
  have hne : q ++ [e.id] ≠ [] := by simp
  have hfurnished : s.files.Furnished (fun _ => True) (s.files.set (q ++ [e.id]) .directory) :=
    .set h.find hne rfl (by simp [h.vacant]) fun _ => trivial
  refine ⟨fun hno => absurd hno hl, fun l hm => ?_⟩
  obtain ⟨q', hq', rfl, hlost⟩ := hlacks.kept l hm
  obtain rfl : q = q' := Except.ok.inj (hq.find.symm.trans hq'.find)
  have hmem (name : String) :
      name ∈ (s.files.set (q ++ [e.id]) .directory).subdirectories q ↔
        name = e.id ∨ name ∈ s.files.subdirectories q :=
    FileTree.mem_subdirectories_set hp h.find hplain
  have hnew : e.id ∉ s.files.subdirectories q := by
    rw [FileTree.mem_subdirectories_iff hp.sorted, h.vacant]
    simp
  refine ⟨q, hq.of_grows hfurnished.grows, ?_, List.forall_mem_cons.2 ⟨?_, fun id hid => ?_⟩⟩
  · -- without the new directory the list is the one that is kept
    have hsame : ((s.files.set (q ++ [e.id]) .directory).subdirectories q).filter
          (· ∉ e.id :: lost) = (s.files.subdirectories q).filter (· ∉ lost) := by
      refine FileTree.eq_of_ascending ?_ ?_ fun name => ?_
      · exact (FileTree.subdirectories_ascending (hfurnished.proper hp).sorted q).filter _
      · exact (FileTree.subdirectories_ascending hp.sorted q).filter _
      · rw [List.mem_filter, List.mem_filter, hmem]
        by_cases hname : name = e.id
        · simp [hname, hnew]
        · simp [hname]
    rw [hsame]
    exact map_environment_congr (s := s) (u := { s with files := s.files.set _ .directory }) rfl
      (fun id hid => hp.isPlain_of_mem_subdirectories (List.mem_filter.1 hid).1)
      fun id hid => record_of_furnished hfurnished hp.toRooted hid
  · exact ⟨(hmem e.id).2 (.inl rfl), h.noRoom⟩
  · exact ⟨(hmem id).2 (.inr (hlost id hid).1), (hlost id hid).2⟩

/-- **If the record is not written**, a kept list lacks the directory that has been made. -/
theorem lacks_unrecorded (h : s.recorded? e = none) (hr : (s.create e).2.registry = s.registry)
    (hp : s.files.Proper) {lost : List String} (hlacks : s.Lacks lost) :
    (s.create e).2.Lacks (s.lostBy e lost) := by
  rw [lostBy, h, Option.isSome_none, if_neg Bool.false_ne_true]
  cases hl : s.registry.listing with
  | none =>
      refine ⟨fun _ => hlacks.unkept hl, fun l hm => ?_⟩
      rw [hr, hl] at hm
      cases hm
  | some l =>
      obtain ⟨q, hq, -⟩ := hlacks.kept l hl
      rcases create_unrecorded hp hq h with hsame | hstrand
      · rw [strands_of_files (congrArg Site.files hsame), hsame]
        exact hlacks
      · rw [(strands_iff hp hq).2 hstrand, hstrand.create_eq.2]
        exact hstrand.lacks hp hq hlacks (by simp [hl])

/-- **Creating an environment.** -/
theorem upkeep_create (s : Site) (hr : e.Readable) :
    s.Upkeep (s.create e).2 (if (s.recorded? e).isSome then some e else none) (s.lostBy e) := by
  rcases s.create_cases e with ⟨files, hfiles, hcreate⟩ | ⟨hnone, f, files, hcreate, hcase⟩
  · have hlost : s.lostBy e = fun _ => [] := by
      funext lost
      rw [lostBy, hfiles, Option.isSome_some, if_pos rfl]
    rw [hcreate, hlost, hfiles]
    exact (upkeep_recorded hfiles hr).trans (keepsList_openCatalog _ e.id)
  · have hfurnished : s.files.Furnished (fun _ => True) files := by
      rcases hcase with rfl | ⟨result, hmaking, -⟩
      · exact .refl _ _
      · exact hmaking.furnished
    have hlacks (hp : s.files.Proper) (lost : List String) (h : s.Lacks lost) :=
      lacks_unrecorded hnone (by rw [hcreate]) hp h
    rw [hcreate] at hlacks ⊢
    rw [hnone]
    exact ⟨rfl, hfurnished.proper, hlacks, fun hp id hid =>
      record_of_furnished hfurnished hp.toRooted hid⟩

end Site

end EventRules
