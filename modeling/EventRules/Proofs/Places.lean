/-
**Places in a tree of files.**

The paths below a base directory lead through it and then one step further, or two to a database.
A tree may gain a database where there was nothing or a directory.  Directories stay directories
then, so whatever could be followed leads where it did, and only one place holds something else.  No
path to another name below the same base directory leads through that place or to it.

Main definitions:

* `FileTree.Grows` — trees in which nothing that could be followed is blocked;
* `FileTree.GainsDatabase` — a tree with a new database at a place.

Main results:

* `FileTree.make_of_mem_ancestors` — the directories on the way to a path that can be followed exist;
* `FileTree.makeAll_of_vacant` — making a directory where there is nothing makes that one only;
* `FileTree.find_databasePath_ne_missing` — below a directory that is there, a database can be
  looked for;
* `FileTree.GainsDatabase.look_join`, `FileTree.GainsDatabase.find_databasePath` — **what a new
  database leaves alone**.
-/

import EventRules.Catalog.Opening
import EventRules.Proofs.Paths

set_option relaxedAutoImplicit false
set_option autoImplicit false

namespace EventRules

namespace FileTree

variable {t u : FileTree} {place q : List String} {path : String}

/-! ### What stands at a place -/

@[simp] theorem workingPlace_set (t : FileTree) (place : List String) (e : FileEntry) :
    (t.set place e).workingPlace = t.workingPlace := rfl

theorem entry?_of_ne_nil (t : FileTree) (h : place ≠ []) :
    t.entry? place = t.entries.get? (key place) := by
  unfold entry?
  rw [if_neg (by simpa using h)]

theorem entry?_set_self (t : FileTree) (h : place ≠ []) (e : FileEntry) :
    FileTree.entry? (t.set place e) place = some e := by
  rw [entry?_of_ne_nil _ h]
  exact Dictionary.get?_insert_self _ _ _

theorem entry?_set_of_ne (t : FileTree) (h : key q ≠ key place) (e : FileEntry) :
    FileTree.entry? (t.set place e) q = t.entry? q := by
  by_cases hq : q = []
  · subst hq
    rfl
  · rw [entry?_of_ne_nil _ hq, entry?_of_ne_nil _ hq]
    exact Dictionary.get?_insert_of_ne _ _ h

theorem exists_directory_of_unblocked (h : t.blocked? q = none) :
    ∃ e, t.entry? q = some e ∧ e.isDirectory = true := by
  unfold blocked? at h
  split at h
  · cases h
  · rename_i e he
    split at h
    · exact ⟨e, he, ‹_›⟩
    · cases h

theorem unblocked_of_directory {e : FileEntry} (h : t.entry? q = some e)
    (he : e.isDirectory = true) : t.blocked? q = none := by
  simp [blocked?, h, he]

/-! ### Following -/

theorem follow_append (t : FileTree) (place ns ms : List String) :
    t.follow place (ns ++ ms) =
      match t.follow place ns with
      | .ok q => t.follow q ms
      | .error fault => .error fault := by
  induction ns generalizing place with
  | nil => rfl
  | cons n ns ih =>
      rw [List.cons_append, follow, follow]
      cases t.blocked? place with
      | some fault => rfl
      | none =>
          dsimp only
          split
          · exact ih _
          · split
            · exact ih _
            · split
              · rfl
              · exact ih _

/-- A plain name is followed unless it is too long. -/
theorem follow_plain {name : String} (hn : Path.IsPlain name) (place : List String) :
    t.follow place [name] =
      match t.blocked? place with
      | some fault => .error fault
      | none => if nameLimit < Utf8.size name then .error .tooLong else .ok (place ++ [name]) := by
  rw [follow]
  cases t.blocked? place with
  | some fault => rfl
  | none => simp [hn.ne_empty, hn.ne_dot, hn.ne_up, follow]

theorem follow_append_ok {ns ms : List String} {r : List String}
    (h : t.follow place (ns ++ ms) = .ok r) :
    ∃ q, t.follow place ns = .ok q ∧ t.follow q ms = .ok r := by
  rw [follow_append] at h
  cases hq : t.follow place ns with
  | error fault =>
      rw [hq] at h
      cases h
  | ok q =>
      rw [hq] at h
      exact ⟨q, rfl, h⟩

theorem follow_plain_ok {name : String} (hn : Path.IsPlain name) {r : List String}
    (h : t.follow place [name] = .ok r) : t.blocked? place = none ∧ r = place ++ [name] := by
  rw [follow_plain hn] at h
  cases hb : t.blocked? place with
  | some fault =>
      rw [hb] at h
      cases h
  | none =>
      rw [hb] at h
      dsimp only at h
      split at h
      · cases h
      · exact ⟨rfl, (Except.ok.inj h).symm⟩

/-- A place at which a name is followed is a directory. -/
theorem unblocked_of_follow {n : String} {ns : List String}
    (h : t.follow place (n :: ns) = .ok q) : t.blocked? place = none := by
  rw [follow] at h
  cases hb : t.blocked? place with
  | none => rfl
  | some fault =>
      rw [hb] at h
      cases h

/-- **A tree in which nothing that could be followed is blocked.** -/
structure Grows (t u : FileTree) : Prop where
  /-- Relative paths start where they did. -/
  workingPlace : u.workingPlace = t.workingPlace
  /-- Directories stay directories. -/
  unblocked : ∀ q, t.blocked? q = none → u.blocked? q = none

theorem grows_set (t : FileTree) (h : place ≠ []) {e : FileEntry} (he : e.isDirectory = true) :
    t.Grows (t.set place e) := by
  refine ⟨rfl, fun q hq => ?_⟩
  by_cases hk : key q = key place
  · by_cases hroot : q = []
    · subst hroot
      rfl
    · refine unblocked_of_directory ?_ he
      rw [entry?_of_ne_nil _ hroot, hk, ← entry?_of_ne_nil _ h, entry?_set_self t h]
  · rwa [blocked?, entry?_set_of_ne t hk]

theorem Grows.trans {w : FileTree} (h : t.Grows u) (h' : u.Grows w) : t.Grows w :=
  ⟨h'.workingPlace.trans h.workingPlace, fun q hq => h'.unblocked q (h.unblocked q hq)⟩

/-- What could be followed leads where it did. -/
theorem Grows.follow (h : t.Grows u) {ns : List String} (hf : t.follow place ns = .ok q) :
    u.follow place ns = .ok q := by
  induction ns generalizing place with
  | nil => exact hf
  | cons n ns ih =>
      have hb := unblocked_of_follow hf
      rw [FileTree.follow, hb] at hf
      rw [FileTree.follow, h.unblocked _ hb]
      dsimp only at hf ⊢
      split
      · rename_i hn
        rw [if_pos hn] at hf
        exact ih hf
      · rename_i hn
        rw [if_neg hn] at hf
        split
        · rename_i hu
          rw [if_pos hu] at hf
          exact ih hf
        · rename_i hu
          rw [if_neg hu] at hf
          split
          · rename_i hl
            rw [if_pos hl] at hf
            cases hf
          · rename_i hl
            rw [if_neg hl] at hf
            exact ih hf

/-! ### Finding -/

/-- Why a path is refused for its text alone. -/
def refused? (path : String) : Option FileFault :=
  if path.toList.contains '\x00' then some .invalid
  else if path = "" then some .missing
  else if pathLimit < Utf8.size path then some .tooLong
  else none

/-- The place where the path starts. -/
def startOf (t : FileTree) (path : String) : List String :=
  if Path.isAbsolute path then [] else t.workingPlace

theorem find_eq (t : FileTree) (path : String) :
    t.find path =
      match refused? path with
      | some fault => .error fault
      | none => t.follow (t.startOf path) (Path.names path) := by
  unfold find refused? startOf
  split
  · rfl
  · split
    · rfl
    · split <;> rfl

theorem find_ok (h : t.find path = .ok q) :
    refused? path = none ∧ t.follow (t.startOf path) (Path.names path) = .ok q := by
  rw [find_eq] at h
  cases hr : refused? path with
  | some fault =>
      rw [hr] at h
      cases h
  | none =>
      rw [hr] at h
      exact ⟨rfl, h⟩

theorem find_of_follow (hr : refused? path = none)
    (h : t.follow (t.startOf path) (Path.names path) = .ok q) : t.find path = .ok q := by
  rw [find_eq, hr]
  exact h

theorem Grows.find (h : t.Grows u) (hf : t.find path = .ok q) : u.find path = .ok q := by
  obtain ⟨hr, hfollow⟩ := find_ok hf
  refine find_of_follow hr ?_
  rw [startOf, h.workingPlace]
  exact h.follow hfollow

theorem size_append (before after : String) :
    Utf8.size (before ++ after) = Utf8.size before + Utf8.size after := by
  simp [Utf8.size, Utf8.encode, Utf8.encodeChars]

/-- A beginning of a path that is not refused is not refused either. -/
theorem not_refused_of_append {before after : String} (hne : before ≠ "")
    (h : refused? (before ++ after) = none) : refused? before = none := by
  unfold refused? at h ⊢
  split at h
  · cases h
  · rename_i hc
    split at h
    · cases h
    · split at h
      · cases h
      · rename_i hs
        rw [size_append] at hs
        have hc' : ¬ before.toList.contains '\x00' = true := by
          simp only [String.toList_append, List.contains_iff_mem, List.mem_append, not_or] at hc
          simpa using hc.1
        rw [if_neg hc', if_neg hne, if_neg (by omega)]

/-- The fault of a path that is not empty is never that there is nothing. -/
theorem refused_ne_missing (h : path ≠ "") : refused? path ≠ some .missing := by
  unfold refused?
  rw [if_neg h]
  split
  · simp
  · split <;> simp

/-! ### Making directories -/

theorem look_of_find (h : t.find path = .ok q) :
    t.look path = match t.entry? q with
      | some e => .ok e
      | none => .error .missing := by
  unfold look
  rw [h]
  rfl

theorem look_of_find_error {fault : FileFault} (h : t.find path = .error fault) :
    t.look path = .error fault := by
  unfold look
  rw [h]
  rfl

theorem make_of_directory {e : FileEntry} (h : t.look path = .ok e) (he : e.isDirectory = true) :
    t.make path = .ok t := by
  rw [make, h]
  exact if_pos he

/-- **The directories on the way to a path that can be followed exist.** -/
theorem make_of_mem_ancestors (h : t.find path = .ok q) {ancestor : String}
    (ha : ancestor ∈ Path.ancestors path) : t.make ancestor = .ok t := by
  obtain ⟨hne, rest, rfl⟩ := Path.append_of_mem_ancestors ha
  obtain ⟨hr, hfollow⟩ := find_ok h
  rw [Path.names_append] at hfollow
  rw [String.append_assoc] at hr hfollow
  have hstart : t.startOf (ancestor ++ ("/" ++ rest)) = t.startOf ancestor := by
    rw [startOf, startOf, Path.isAbsolute_append hne]
  rw [hstart] at hfollow
  obtain ⟨p, hp, hrest⟩ := follow_append_ok hfollow
  -- another name follows, so there is a directory
  have hnames : Path.names rest ≠ [] := by
    simpa [Path.names] using Text.splitOn_ne_nil '/' rest.toList
  obtain ⟨n, ns, hns⟩ := List.exists_cons_of_ne_nil hnames
  rw [hns] at hrest
  obtain ⟨e, he, hd⟩ := exists_directory_of_unblocked (unblocked_of_follow hrest)
  refine make_of_directory (e := e) ?_ hd
  rw [look_of_find (find_of_follow (not_refused_of_append hne hr) hp), he]

theorem makeEach_append {paths : List String} (h : ∀ p ∈ paths, t.make p = .ok t)
    (more : List String) : t.makeEach (paths ++ more) = t.makeEach more := by
  induction paths with
  | nil => rfl
  | cons p paths ih =>
      rw [List.cons_append, makeEach, h p List.mem_cons_self]
      exact ih fun p' hp' => h p' (List.mem_cons_of_mem _ hp')

/-- Making a directory where there is nothing. -/
theorem makeAll_of_vacant (h : t.find path = .ok q) (hv : t.entry? q = none) :
    t.makeAll path = (.ok (), t.set q .directory) := by
  have hmake : t.make path = .ok (t.set q .directory) := by
    rw [make, look_of_find h, hv, h]
  rw [makeAll, makeEach_append fun p hp => make_of_mem_ancestors h hp, makeEach, hmake]
  rfl

/-! ### New databases -/

/-- **A tree with a new database** at a place where there was nothing or a directory. -/
structure GainsDatabase (t u : FileTree) (place : List String) : Prop where
  /-- Nothing else is blocked by it. -/
  grows : t.Grows u
  /-- There is an empty database now. -/
  entry_self : u.entry? place = some (.database {})
  /-- Whatever stands elsewhere stays. -/
  entry_other : ∀ q, key q ≠ key place → u.entry? q = t.entry? q

theorem gainsDatabase_set (t : FileTree) (h : place ≠ []) :
    t.GainsDatabase (t.set place (.database {})) place :=
  ⟨t.grows_set h rfl, t.entry?_set_self h _, fun _ hq => t.entry?_set_of_ne hq _⟩

theorem gainsDatabase_set_set (t : FileTree) (h : place ≠ []) :
    t.GainsDatabase ((t.set place .directory).set place (.database {})) place where
  grows := (t.grows_set h rfl).trans (grows_set _ h rfl)
  entry_self := entry?_set_self _ h _
  entry_other _ hq := (entry?_set_of_ne _ hq _).trans (t.entry?_set_of_ne hq _)

/-! ### Places below a base directory -/

variable {base name other below : String}

/-- The path of a plain name below a base directory leads one step further than the base. -/
theorem find_join (t : FileTree) (base : String) (hn : Path.IsPlain name) :
    t.find (Path.join base name) =
      match refused? (Path.join base name) with
      | some fault => .error fault
      | none => t.follow (t.startOf base) (Path.namesOn base ++ [name]) := by
  rw [find_eq, Path.names_join_base base hn, startOf, Path.isAbsolute_join_base base hn, startOf]

theorem isPlain_badger : Path.IsPlain "badger" := ⟨by decide, by decide, by decide, by decide⟩

theorem databasePath_join (base : String) (hn : Path.IsPlain name) :
    Catalog.databasePath (Path.join base name) = Path.join base name ++ "/" ++ "badger" :=
  Path.join_join_base base hn isPlain_badger

/-- A path below that one leads one step further still. -/
theorem find_join_join (t : FileTree) (base : String) (hn : Path.IsPlain name)
    (hb : Path.IsPlain below) :
    t.find (Path.join (Path.join base name) below) =
      match refused? (Path.join (Path.join base name) below) with
      | some fault => .error fault
      | none => t.follow (t.startOf base) (Path.namesOn base ++ [name] ++ [below]) := by
  rw [find_eq, Path.join_join_base base hn hb, Path.names_append, Path.names_join_base base hn,
    String.append_assoc, startOf, Path.isAbsolute_append (Path.join_base_ne_empty base hn),
    Path.isAbsolute_join_base base hn, startOf, Path.names_of_not_mem hb.no_slash]

/-- The path of a database leads one step further than that of its directory. -/
theorem find_databasePath (t : FileTree) (base : String) (hn : Path.IsPlain name) :
    t.find (Catalog.databasePath (Path.join base name)) =
      match refused? (Catalog.databasePath (Path.join base name)) with
      | some fault => .error fault
      | none => t.follow (t.startOf base) (Path.namesOn base ++ [name] ++ ["badger"]) :=
  t.find_join_join base hn isPlain_badger

theorem not_refused_join (hn : Path.IsPlain name)
    (h : refused? (Catalog.databasePath (Path.join base name)) = none) :
    refused? (Path.join base name) = none := by
  rw [databasePath_join base hn, String.append_assoc] at h
  exact not_refused_of_append (Path.join_base_ne_empty base hn) h

/-- **If there is something in place of a directory, its database can be looked for.** -/
theorem find_databasePath_ne_missing (hn : Path.IsPlain name)
    (h : t.look (Path.join base name) ≠ .error .missing) :
    t.find (Catalog.databasePath (Path.join base name)) ≠ .error .missing := by
  rw [find_databasePath t base hn]
  cases hr : refused? (Catalog.databasePath (Path.join base name)) with
  | some fault =>
      have hne : Catalog.databasePath (Path.join base name) ≠ "" := by
        rw [databasePath_join base hn]
        simp
      rintro ⟨rfl⟩
      exact refused_ne_missing hne hr
  | none =>
      have hfind := find_join t base hn
      rw [not_refused_join hn hr] at hfind
      dsimp only at hfind ⊢
      rw [follow_append, ← hfind]
      cases hf : t.find (Path.join base name) with
      | error fault =>
          rw [look_of_find_error hf] at h
          dsimp only
          intro he
          cases he
          exact h rfl
      | ok q =>
          rw [look_of_find hf] at h
          dsimp only
          rw [follow_plain isPlain_badger]
          cases hb : t.blocked? q with
          | none =>
              dsimp only
              rw [if_neg (by decide)]
              nofun
          | some fault =>
              rintro ⟨rfl⟩
              -- only where nothing stands is anything missing
              unfold blocked? at hb
              cases he : t.entry? q with
              | none =>
                  rw [he] at h
                  exact h rfl
              | some e =>
                  rw [he] at hb
                  dsimp only at hb
                  split at hb <;> cases hb

/-- Where something in the directory of a plain name is: two steps below the base directory, which
is there. -/
theorem exists_base_of_below (hn : Path.IsPlain name) (hb : Path.IsPlain below)
    (h : t.find (Path.join (Path.join base name) below) = .ok place) :
    ∃ q, t.follow (t.startOf base) (Path.namesOn base) = .ok q ∧ t.blocked? q = none ∧
      place = q ++ [name] ++ [below] := by
  rw [find_join_join t base hn hb] at h
  cases hr : refused? (Path.join (Path.join base name) below) with
  | some fault =>
      rw [hr] at h
      cases h
  | none =>
      rw [hr] at h
      obtain ⟨r, hr, hlast⟩ := follow_append_ok h
      obtain ⟨q, hq, hname⟩ := follow_append_ok hr
      obtain ⟨hunblocked, rfl⟩ := follow_plain_ok hn hname
      exact ⟨q, hq, hunblocked, (follow_plain_ok hb hlast).2⟩

/-- Where the database of a plain name is. -/
theorem exists_base (hn : Path.IsPlain name)
    (h : t.find (Catalog.databasePath (Path.join base name)) = .ok place) :
    ∃ q, t.follow (t.startOf base) (Path.namesOn base) = .ok q ∧ t.blocked? q = none ∧
      place = q ++ [name] ++ ["badger"] :=
  exists_base_of_below hn isPlain_badger h

/-! ### What a new database leaves alone -/

theorem key_ne_of_plain (q : List String) (name : String) (hother : Path.IsPlain other) :
    key (q ++ [other]) ≠ key (q ++ [name] ++ ["badger"]) := by
  intro h
  have heq : other = name ++ ("/" ++ "badger") := by
    simpa [key, String.append_assoc] using h
  exact hother.no_slash (by rw [heq]; simp)

theorem key_database_ne (q : List String) (h : other ≠ name) :
    key (q ++ [other] ++ ["badger"]) ≠ key (q ++ [name] ++ ["badger"]) := by
  intro he
  exact h (by simpa [key, String.append_assoc] using he)

namespace GainsDatabase

variable {q : List String}

/-- The paths of all plain names below the base directory are found as before. -/
theorem find_join (h : t.GainsDatabase u (q ++ [name] ++ ["badger"]))
    (hq : t.follow (t.startOf base) (Path.namesOn base) = .ok q) (hb : t.blocked? q = none)
    (hother : Path.IsPlain other) :
    u.find (Path.join base other) = t.find (Path.join base other) := by
  rw [FileTree.find_join u base hother, FileTree.find_join t base hother, follow_append,
    follow_append, startOf, h.grows.workingPlace, ← startOf, h.grows.follow hq, hq]
  dsimp only
  rw [follow_plain hother, follow_plain hother, h.grows.unblocked q hb, hb]

/-- So is what stands there. -/
theorem look_join (h : t.GainsDatabase u (q ++ [name] ++ ["badger"]))
    (hq : t.follow (t.startOf base) (Path.namesOn base) = .ok q) (hb : t.blocked? q = none)
    (hother : Path.IsPlain other) :
    u.look (Path.join base other) = t.look (Path.join base other) := by
  have hfind := h.find_join hq hb hother
  cases hf : t.find (Path.join base other) with
  | error fault => rw [look_of_find_error hf, look_of_find_error (hfind.trans hf)]
  | ok r =>
      rw [look_of_find hf, look_of_find (hfind.trans hf)]
      rw [FileTree.find_join t base hother] at hf
      split at hf
      · cases hf
      · obtain ⟨q', hq', hr⟩ := follow_append_ok hf
        obtain rfl : q = q' := Except.ok.inj (hq.symm.trans hq')
        obtain ⟨-, rfl⟩ := follow_plain_ok hother hr
        rw [h.entry_other _ (key_ne_of_plain q name hother)]

/-- The paths of their databases are found as before. -/
theorem find_databasePath (h : t.GainsDatabase u (q ++ [name] ++ ["badger"]))
    (hq : t.follow (t.startOf base) (Path.namesOn base) = .ok q) (hb : t.blocked? q = none)
    (hother : Path.IsPlain other) :
    u.find (Catalog.databasePath (Path.join base other)) =
      t.find (Catalog.databasePath (Path.join base other)) := by
  have hstart : u.startOf base = t.startOf base := by rw [startOf, h.grows.workingPlace, startOf]
  have hname : u.follow q [other] = t.follow q [other] := by
    rw [follow_plain hother, follow_plain hother, h.grows.unblocked q hb, hb]
  rw [FileTree.find_databasePath u base hother, FileTree.find_databasePath t base hother, hstart,
    follow_append, follow_append, follow_append, follow_append, h.grows.follow hq, hq]
  dsimp only
  rw [hname]
  cases hr : t.follow q [other] with
  | error fault => rfl
  | ok r =>
      obtain ⟨-, rfl⟩ := follow_plain_ok hother hr
      dsimp only
      rw [follow_plain isPlain_badger, follow_plain isPlain_badger, blocked?, blocked?,
        h.entry_other _ (key_ne_of_plain q name hother)]

end GainsDatabase

end FileTree

end EventRules
