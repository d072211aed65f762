/-
**Directories right below a directory.**

A list of the directories below a base directory stays right as long as no directory is made there
and none is removed.  Most work on files makes none there: it *furnishes* a tree, which is to put
directories and databases where paths lead and to replace no file.  A database goes two steps below
the base directory, so only making the directory of a new name changes the list.

A base directory may be given by any path that leads there, with names that are taken back later.
The directories of the names below it are found from the cleaned path.  Both lead to the same place
if the given path leads anywhere, since a name that is taken back is a step down from where taking
it back leads.

Main definitions:

* `FileTree.Proper` — trees as file systems have them;
* `FileTree.Furnished` — **a tree to which only directories and databases have been added**;
* `FileTree.LeadsTo` — a path of a directory;
* `FileTree.subdirectories` — the names of the directories right below a place.

Main results:

* `FileTree.furnished_makeAll`, `FileTree.furnished_openDatabase`, `FileTree.furnished_save` — work
  that furnishes;
* `FileTree.Furnished.read_below` — what can be read stays the same;
* `FileTree.follow_namesOn` — **cleaning a path that can be followed changes nothing**;
* `FileTree.makeAll_below` — making the directory of a name;
* `FileTree.mem_subdirectories_iff`, `FileTree.subdirectories_ascending` — what a list of
  directories shows;
* `FileTree.Furnished.subdirectories` — **what such a list outlives**;
* `FileTree.mem_subdirectories_set` — what it does not.
-/

import EventRules.Proofs.Directories
import EventRules.Proofs.Storing

set_option relaxedAutoImplicit false
set_option autoImplicit false

namespace EventRules

namespace FileTree

variable {t u : FileTree} {place q : List String} {path base name : String}

/-! ### Proper trees -/

/-- A place whose last name is plain, wherever its key is cut. -/
def EndsPlain (place : List String) : Prop :=
  ∀ above name, '/' ∉ name.toList → key (above ++ [name]) = key place → Path.IsPlain name

theorem endsPlain_append (above : List String) (hn : Path.IsPlain name) :
    EndsPlain (above ++ [name]) := by
  intro above' name' hname hkey
  rw [(key_append_inj hname hn.no_slash hkey).2]
  exact hn

/-- **A tree as file systems have them**: everything stands in a directory and has a plain name, and
the entries are in order. -/
structure Proper (t : FileTree) : Prop extends t.Rooted where
  /-- The entries are in order. -/
  sorted : t.entries.IsSorted
  /-- Whatever stands anywhere has a plain name. -/
  plain : ∀ place, t.entry? place ≠ none → EndsPlain place

theorem endsPlain_nil : EndsPlain [] := by
  intro above name _ hkey
  exact absurd (key_eq_empty_iff.1 hkey) (by simp)

theorem proper_empty : ({} : FileTree).Proper := by
  refine ⟨rooted_empty, List.Pairwise.nil, fun place hplace => ?_⟩
  cases place with
  | nil => exact endsPlain_nil
  | cons n ns => exact absurd rfl hplace

namespace Proper

theorem endsPlain_of_unblocked (h : t.Proper) (hb : t.blocked? place = none) :
    EndsPlain place := by
  obtain ⟨e, he, -⟩ := exists_directory_of_unblocked hb
  exact h.plain place (by simp [he])

/-- **Every path leads to a plain name**, or to something that stands. -/
theorem endsPlain_of_find (h : t.Proper) (hf : t.find path = .ok q) : EndsPlain q :=
  h.toRooted.of_find (fun _ hb => h.endsPlain_of_unblocked hb)
    (fun above _ _ hn => endsPlain_append above hn) hf

/-- **One more entry where a path leads** keeps a tree proper if it blocks nothing. -/
theorem set (h : t.Proper) (hf : t.find path = .ok place) {e : FileEntry}
    (hg : t.Grows (t.set place e)) : (t.set place e).Proper := by
  refine ⟨h.toRooted.of_grows hg (h.within_of_find hf) fun q hq => t.entry?_set_of_ne hq e,
    h.sorted.insert _ _, fun q hq => ?_⟩
  by_cases hkey : key q = key place
  · intro above name hname hk
    exact h.endsPlain_of_find hf above name hname (hk.trans hkey)
  · rw [t.entry?_set_of_ne hkey] at hq
    exact h.plain q hq

end Proper

/-! ### Furnished trees -/

/-- **A tree to which only directories and databases have been added**, directories only at some of
the places. -/
structure Furnished (allowed : List String → Prop) (t u : FileTree) : Prop where
  /-- Nothing that could be followed is blocked. -/
  grows : t.Grows u
  /-- The files are the same. -/
  files : ∀ place content,
    u.entry? place = some (.file content) ↔ t.entry? place = some (.file content)
  /-- What is a directory now was one before, or may be one. -/
  directories : ∀ place, u.blocked? place = none →
    t.blocked? place = none ∨ ∃ p, allowed p ∧ key place = key p
  /-- A proper tree stays proper. -/
  proper : t.Proper → u.Proper

namespace Furnished

variable {allowed : List String → Prop}

theorem refl (allowed : List String → Prop) (t : FileTree) : t.Furnished allowed t :=
  ⟨⟨rfl, fun _ h => h⟩, fun _ _ => .rfl, fun _ h => .inl h, fun h => h⟩

theorem trans {w : FileTree} (h : t.Furnished allowed u) (h' : u.Furnished allowed w) :
    t.Furnished allowed w :=
  ⟨h.grows.trans h'.grows,
    fun place content => (h'.files place content).trans (h.files place content),
    fun place hb => (h'.directories place hb).elim (h.directories place) .inr,
    fun hp => h'.proper (h.proper hp)⟩

/-- A directory or database in place of anything but a file. -/
theorem set (hf : t.find path = .ok place) (hne : place ≠ []) {e : FileEntry}
    (he : e.isDirectory = true) (hv : ∀ content, t.entry? place ≠ some (.file content))
    (ha : t.blocked? place ≠ none → allowed place) : t.Furnished allowed (t.set place e) := by
  have hg := t.grows_set hne he
  refine ⟨hg, fun q content => ?_, fun q hq => ?_, fun hp => hp.set hf hg⟩
  · by_cases hkey : key q = key place
    · rw [entry?_congr hkey, entry?_congr hkey, t.entry?_set_self hne]
      refine ⟨?_, fun hc => absurd hc (hv content)⟩
      rintro ⟨rfl⟩
      cases he
    · rw [t.entry?_set_of_ne hkey]
  · by_cases hkey : key q = key place
    · rw [blocked?_congr hkey]
      by_cases hb : t.blocked? place = none
      · exact .inl hb
      · exact .inr ⟨place, ha hb, hkey⟩
    · rw [blocked?, t.entry?_set_of_ne hkey] at hq
      exact .inl hq

end Furnished

/-- **Making directories** furnishes a tree. -/
theorem furnished_makeEach (t : FileTree) (paths : List String) :
    t.Furnished (fun _ => True) (t.makeEach paths).2 := by
  induction paths generalizing t with
  | nil => exact .refl _ t
  | cons path paths ih =>
      rw [makeEach]
      cases hm : t.make path with
      | error f => exact .refl _ t
      | ok u =>
          refine .trans ?_ (ih u)
          rcases make_ok hm with rfl | ⟨place, hf, hv, rfl⟩
          · exact .refl _ _
          · exact .set hf (ne_nil_of_vacant hv) rfl (by simp [hv]) fun _ => trivial

theorem furnished_makeAll (t : FileTree) (path : String) :
    t.Furnished (fun _ => True) (t.makeAll path).2 :=
  t.furnished_makeEach _

/-- **So does opening a database**, at its own place. -/
theorem furnished_openDatabase {readOnly exclusive : Bool} {tables : Catalog.Tables}
    (h : t.find path = .ok place) (hne : place ≠ [])
    (ho : Catalog.openDatabase readOnly exclusive path t = .ok (tables, u)) :
    t.Furnished (· = place) u := by
  rw [Catalog.openDatabase, look_of_find h] at ho
  cases he : t.entry? place with
  | none =>
      have hmade : t.Furnished (· = place) (t.set place .directory) :=
        .set h hne rfl (by simp [he]) fun _ => rfl
      rw [he] at ho
      dsimp only at ho
      split at ho
      · cases ho
      · rw [makeAll_of_vacant h he] at ho
        dsimp only at ho
        rw [Catalog.openDatabase.fresh, hmade.grows.find h] at ho
        obtain ⟨-, rfl⟩ := Prod.mk.inj (Except.ok.inj ho)
        exact hmade.trans (.set (hmade.grows.find h) hne rfl (by simp [t.entry?_set_self hne])
          fun _ => rfl)
  | some e =>
      rw [he] at ho
      cases e with
      | database tables' =>
          obtain ⟨-, rfl⟩ := Prod.mk.inj (Except.ok.inj ho)
          exact .refl _ _
      | directory =>
          dsimp only at ho
          split at ho
          · cases ho
          · rw [Catalog.openDatabase.fresh, h] at ho
            obtain ⟨-, rfl⟩ := Prod.mk.inj (Except.ok.inj ho)
            exact .set h hne rfl (by simp [he]) fun _ => rfl
      | file content => cases ho

/-- **Writing through** makes no directory at all. -/
theorem furnished_save (directory : String) (tables : Catalog.Tables) (t : FileTree) :
    t.Furnished (fun _ => False) (Catalog.save directory tables t) := by
  unfold Catalog.save
  split
  · exact .refl _ t
  · rename_i place hf
    split
    · rename_i old he
      have hne : place ≠ [] := by
        rintro rfl
        cases he
      exact .set hf hne rfl (by simp [he]) fun hb => hb (unblocked_of_directory he rfl)
    · exact .refl _ t

/-! ### Reading -/

/-- **What can be read** is a file that a path leads to. -/
theorem read_eq_ok_iff {content : Bytes} :
    t.read path = .ok content ↔
      ∃ place, t.find path = .ok place ∧ t.entry? place = some (.file content) := by
  unfold read
  cases hf : t.find path with
  | error fault => simp [look_of_find_error hf]
  | ok place =>
      rw [look_of_find hf]
      cases he : t.entry? place with
      | none => simp [he]
      | some e => cases e <;> simp [he]

/-- **What can be read in the directory of a plain name** is the same in a tree that has grown, if
the file that the path leads to is. -/
theorem Rooted.read_below (h : t.Rooted) (hg : t.Grows u) {below : String} (hn : Path.IsPlain name)
    (hbelow : Path.IsPlain below) {content : Bytes}
    (hsame : ∀ place, u.find (Path.join (Path.join base name) below) = .ok place →
      (u.entry? place = some (.file content) ↔ t.entry? place = some (.file content))) :
    u.read (Path.join (Path.join base name) below) = .ok content ↔
      t.read (Path.join (Path.join base name) below) = .ok content := by
  rw [read_eq_ok_iff, read_eq_ok_iff]
  constructor
  · rintro ⟨place, hf, he⟩
    have hstood := (hsame place hf).1 he
    exact ⟨place, h.find_below hg hn hbelow hf (by simp [hstood]), hstood⟩
  · rintro ⟨place, hf, he⟩
    exact ⟨place, hg.find hf, (hsame place (hg.find hf)).2 he⟩

theorem Furnished.read_below {allowed : List String → Prop} (h : t.Furnished allowed u)
    (hr : t.Rooted) {below : String} (hn : Path.IsPlain name) (hbelow : Path.IsPlain below)
    (content : Bytes) :
    u.read (Path.join (Path.join base name) below) = .ok content ↔
      t.read (Path.join (Path.join base name) below) = .ok content :=
  hr.read_below h.grows hn hbelow fun place _ => h.files place content

/-- A place is not the one above it. -/
theorem key_append_ne (place : List String) (name : String) :
    key (place ++ [name]) ≠ key place := by
  intro h
  rw [key_append_singleton, String.append_assoc] at h
  have hlength := congrArg String.length h
  simp only [String.length_append] at hlength
  have hslash : "/".length = 1 := rfl
  omega

/-! ### Base directories -/

/-- The names on the way to what cleaning has kept, the last one first. -/
def onTheWay (absolute : Bool) (kept : List String) : List String :=
  (if absolute then [""] else []) ++ kept.reverse

theorem onTheWay_cons (absolute : Bool) (name : String) (kept : List String) :
    onTheWay absolute (name :: kept) = onTheWay absolute kept ++ [name] := by
  rw [onTheWay, List.reverse_cons, ← List.append_assoc, onTheWay]

/-- One more name that can be followed, as cleaning takes it. -/
theorem follow_cleanName {absolute : Bool} {start : List String}
    (hs : absolute = true → start = []) {kept ns : List String} (hk : Path.Kept absolute kept)
    (hn : '/' ∉ name.toList) (hkept : t.follow start (onTheWay absolute kept) = .ok place)
    (hf : t.follow place (name :: ns) = .ok q) :
    ∃ r, t.follow start (onTheWay absolute (Path.cleanName absolute kept name)) = .ok r ∧
      t.follow r ns = .ok q := by
  have hb := unblocked_of_follow hf
  have hstep {r : List String} (hr : t.follow place [name] = .ok r) :
      t.follow start (onTheWay absolute (name :: kept)) = .ok r := by
    rw [onTheWay_cons, follow_append, hkept]
    exact hr
  rw [follow, hb] at hf
  dsimp only at hf
  unfold Path.cleanName
  split at hf
  · rename_i hdot
    rw [if_pos hdot]
    exact ⟨place, hkept, hf⟩
  · rename_i hdot
    rw [if_neg hdot]
    split at hf
    · rename_i hup
      subst hup
      have hback : t.follow place [".."] = .ok place.dropLast := by
        rw [follow, hb]
        rfl
      refine ⟨place.dropLast, ?_, hf⟩
      rw [if_pos rfl]
      cases hk with
      | nil =>
          cases absolute with
          | true =>
              obtain rfl := hs rfl
              obtain rfl : [] = place := Except.ok.inj hkept
              exact hkept
          | false => exact hstep hback
      | @plain last kept hlast hk =>
          -- the step down to the last name is what the step up takes back
          rw [onTheWay_cons] at hkept
          obtain ⟨r, hr, hdown⟩ := follow_append_ok hkept
          obtain ⟨-, rfl⟩ := follow_plain_ok hlast hdown
          simp only [if_neg hlast.ne_up, List.dropLast_concat]
          exact hr
      | up hr hu hk =>
          simp only [if_true]
          exact hstep hback
    · rename_i hup
      split at hf
      · cases hf
      · rename_i hlong
        rw [if_neg hup]
        refine ⟨place ++ [name], hstep ?_, hf⟩
        simp only [Bool.or_eq_true, decide_eq_true_eq, not_or] at hdot
        rw [follow_plain ⟨hdot.1, hdot.2, hup, hn⟩, hb]
        exact if_neg hlong

/-- So are all of them, one after the other. -/
theorem follow_cleaned {absolute : Bool} {start : List String} (hs : absolute = true → start = [])
    {kept ns : List String} (hk : Path.Kept absolute kept) (hns : ∀ n ∈ ns, '/' ∉ n.toList)
    (hkept : t.follow start (onTheWay absolute kept) = .ok place)
    (hf : t.follow place ns = .ok q) :
    t.follow start (onTheWay absolute (ns.foldl (Path.cleanName absolute) kept)) = .ok q := by
  induction ns generalizing kept place with
  | nil =>
      cases hf
      exact hkept
  | cons n ns ih =>
      obtain ⟨hn, hrest⟩ := List.forall_mem_cons.1 hns
      obtain ⟨r, hr, hf⟩ := follow_cleanName hs hk hn hkept hf
      exact ih (hk.cleanName hn) hrest hr hf

/-- **Cleaning a path that can be followed changes nothing.** -/
theorem follow_namesOn (h : t.find base = .ok q) :
    t.follow (t.startOf base) (Path.namesOn base) = .ok q := by
  obtain ⟨-, hf⟩ := find_ok h
  refine follow_cleaned (fun ha => by rw [startOf, if_pos ha]) .nil
    (fun n hn => Path.not_mem_slash_of_mem_names hn) ?_ hf
  unfold onTheWay startOf
  cases Path.isAbsolute base <;> rfl

/-- **A path of a directory.** -/
structure LeadsTo (t : FileTree) (path : String) (place : List String) : Prop where
  /-- It leads to the place. -/
  find : t.find path = .ok place
  /-- A directory stands there. -/
  unblocked : t.blocked? place = none

namespace LeadsTo

/-- It does so in a tree that has grown. -/
theorem of_grows (h : t.LeadsTo path place) (hg : t.Grows u) : u.LeadsTo path place :=
  ⟨hg.find h.find, hg.unblocked place h.unblocked⟩

/-- **The directories on the way** to a name below the base directory are there. -/
theorem make_ancestor (h : t.LeadsTo base q) (hn : Path.IsPlain name) {ancestor : String}
    (ha : ancestor ∈ Path.ancestors (Path.join base name)) :
    t.make ancestor = .ok t ∨ ∃ f, t.make ancestor = .error f := by
  obtain ⟨hne, rest, hpath⟩ := Path.append_of_mem_ancestors ha
  have habsolute : Path.isAbsolute ancestor = Path.isAbsolute base := by
    rw [← Path.isAbsolute_join_base base hn, hpath, String.append_assoc,
      Path.isAbsolute_append hne]
  have hnames : Path.namesOn base ++ [name] = Path.names ancestor ++ Path.names rest := by
    rw [← Path.names_join_base base hn, hpath, Path.names_append]
  cases hr : refused? ancestor with
  | some fault =>
      have hfind : t.find ancestor = .error fault := by rw [find_eq, hr]
      refine .inr ⟨.file "mkdir" ancestor fault, ?_⟩
      rw [make, look_of_find_error hfind, hfind]
  | none =>
      have hprefix : Path.names ancestor <+: Path.namesOn base := by
        refine (List.prefix_concat_iff.1 ⟨_, hnames.symm⟩).resolve_left fun hall => ?_
        rw [hall] at hnames
        have hrest : Path.names rest = [] := List.self_eq_append_right.1 hnames
        exact Text.splitOn_ne_nil '/' rest.toList (List.map_eq_nil_iff.1 hrest)
      obtain ⟨more, hmore⟩ := hprefix
      obtain ⟨r, hr', hon⟩ := follow_append_ok (hmore ▸ follow_namesOn h.find)
      have hunblocked : t.blocked? r = none := by
        cases more with
        | nil =>
            obtain rfl : r = q := Except.ok.inj hon
            exact h.unblocked
        | cons n ns => exact unblocked_of_follow hon
      obtain ⟨e, he, hd⟩ := exists_directory_of_unblocked hunblocked
      rw [startOf, ← habsolute, ← startOf] at hr'
      refine .inl (make_of_directory (e := e) ?_ hd)
      rw [look_of_find (find_of_follow hr hr'), he]

/-- Where the path of a name below a base directory leads, if it is not refused. -/
theorem find_join (h : t.LeadsTo base q) (hn : Path.IsPlain name)
    (hf : t.find (Path.join base name) = .ok place) : place = q ++ [name] := by
  rw [t.find_join base hn] at hf
  split at hf
  · cases hf
  · obtain ⟨r, hr, hname⟩ := follow_append_ok hf
    obtain rfl : q = r := Except.ok.inj ((follow_namesOn h.find).symm.trans hr)
    exact (follow_plain_ok hn hname).2

/-- Making directories of which each is there or cannot be made changes nothing. -/
theorem makeEach_eq {paths : List String}
    (h : ∀ p ∈ paths, t.make p = .ok t ∨ ∃ f, t.make p = .error f) : (t.makeEach paths).2 = t := by
  induction paths with
  | nil => rfl
  | cons p paths ih =>
      rw [makeEach]
      rcases h p List.mem_cons_self with hp | ⟨f, hp⟩
      · rw [hp]
        exact ih fun p' hp' => h p' (List.mem_cons_of_mem _ hp')
      · rw [hp]

/-- **Making the directory of a name** below a base directory makes that one or nothing. -/
theorem makeAll_join (h : t.LeadsTo base q) (hn : Path.IsPlain name) :
    (t.makeAll (Path.join base name)).2 = t ∨
      t.find (Path.join base name) = .ok (q ++ [name]) ∧ t.entry? (q ++ [name]) = none ∧
        t.makeAll (Path.join base name) = (.ok (), t.set (q ++ [name]) .directory) := by
  by_cases hvacant : t.find (Path.join base name) = .ok (q ++ [name]) ∧
      t.entry? (q ++ [name]) = none
  · exact .inr ⟨hvacant.1, hvacant.2, makeAll_of_vacant hvacant.1 hvacant.2⟩
  · refine .inl (makeEach_eq fun p hp => ?_)
    rcases List.mem_append.1 hp with hp | hp
    · exact h.make_ancestor hn hp
    · obtain rfl := List.mem_singleton.1 hp
      cases hm : t.make (Path.join base name) with
      | error f => exact .inr ⟨f, rfl⟩
      | ok u =>
          rcases make_ok hm with rfl | ⟨place, hf, hv, -⟩
          · exact .inl rfl
          · obtain rfl := h.find_join hn hf
            exact absurd ⟨hf, hv⟩ hvacant

end LeadsTo

/-- **A file can be written in a directory that has just been made**, unless its own name or its
path is too long. -/
theorem Rooted.exists_write (h : t.Rooted) (hn : Path.IsPlain name) {below : String}
    (hbelow : Path.IsPlain below) (hlimit : Utf8.size below ≤ nameLimit)
    (hf : t.find (Path.join base name) = .ok (q ++ [name])) (hv : t.entry? (q ++ [name]) = none)
    (hr : refused? (Path.join (Path.join base name) below) = none) (content : Bytes) :
    ∃ u, (t.set (q ++ [name]) .directory).write (Path.join (Path.join base name) below) content =
      .ok u := by
  have hne := ne_nil_of_vacant hv
  have hgrows := t.grows_set hne (e := .directory) rfl
  have hmade := unblocked_of_directory (t.entry?_set_self hne .directory) rfl
  have hfind : (t.set (q ++ [name]) .directory).find (Path.join (Path.join base name) below) =
      .ok (q ++ [name] ++ [below]) := by
    rw [t.find_join base hn] at hf
    split at hf
    · cases hf
    · rw [find_join_join _ base hn hbelow, hr]
      dsimp only
      rw [startOf, hgrows.workingPlace, ← startOf, follow_append, hgrows.follow hf]
      dsimp only
      rw [follow_plain hbelow, hmade]
      exact if_neg (Nat.not_lt.2 hlimit)
  -- nothing stood in the directory before it was made
  have hvacant :
      FileTree.entry? (t.set (q ++ [name]) .directory) (q ++ [name] ++ [below]) = none := by
    rw [t.entry?_set_of_ne (key_append_ne _ _)]
    by_contra hstood
    obtain ⟨e, he, -⟩ := exists_directory_of_unblocked (h.within _ hstood (q ++ [name]) below rfl)
    rw [hv] at he
    cases he
  rw [write, hfind]
  dsimp only
  rw [List.dropLast_concat, hmade, hvacant]
  exact ⟨_, rfl⟩

/-! ### Lists of directories -/

/-- **The names of the directories right below a place**, as they are listed. -/
def subdirectories (t : FileTree) (place : List String) : List String :=
  ((t.below place).filter (·.2.isDirectory)).map (·.1)

theorem nameBelow?_eq_some_iff {k : String} :
    nameBelow? place k = some name ↔ '/' ∉ name.toList ∧ k = key (place ++ [name]) := by
  rw [key_append_singleton, nameBelow?]
  constructor
  · intro h
    split at h
    · rename_i rest hrest
      split at h
      · cases h
      · rename_i hslash
        obtain rfl := Option.some.inj h
        refine ⟨by simpa using hslash, String.toList_inj.1 ?_⟩
        rw [Text.strip?_eq_some_iff.1 hrest, String.toList_append (s := key place ++ "/"),
          String.toList_ofList]
    · cases h
  · rintro ⟨hslash, rfl⟩
    rw [Text.strip?_eq_some_iff.2 (String.toList_append (s := key place ++ "/"))]
    dsimp only
    rw [if_neg (by simpa using hslash), String.ofList_toList]

/-- **What a list of directories shows.** -/
theorem mem_subdirectories_iff (h : t.entries.IsSorted) :
    name ∈ t.subdirectories place ↔
      '/' ∉ name.toList ∧ ∃ e, t.entry? (place ++ [name]) = some e ∧ e.isDirectory = true := by
  have hentry (e : FileEntry) :
      t.entry? (place ++ [name]) = some e ↔ (key (place ++ [name]), e) ∈ t.entries := by
    rw [entry?_of_ne_nil t (by simp)]
    exact h.lookup_eq_some_iff
  simp only [hentry, subdirectories, below, List.mem_map, List.mem_filter, List.mem_filterMap,
    Option.map_eq_some_iff, nameBelow?_eq_some_iff]
  constructor
  · rintro ⟨_, ⟨⟨⟨k, e⟩, hmem, n, ⟨hslash, rfl⟩, rfl⟩, hd⟩, rfl⟩
    exact ⟨hslash, e, hmem, hd⟩
  · rintro ⟨hslash, e, hmem, hd⟩
    exact ⟨(name, e), ⟨⟨_, hmem, name, ⟨hslash, rfl⟩, rfl⟩, hd⟩, rfl⟩

theorem Proper.isPlain_of_mem_subdirectories (h : t.Proper) (hm : name ∈ t.subdirectories place) :
    Path.IsPlain name := by
  obtain ⟨hslash, e, he, -⟩ := (mem_subdirectories_iff h.sorted).1 hm
  exact h.plain _ (by simp [he]) place name hslash rfl

/-- **It is in the order of the texts**, and shows each of them once. -/
theorem subdirectories_ascending (h : t.entries.IsSorted) (place : List String) :
    (t.subdirectories place).Pairwise (· < ·) := by
  rw [subdirectories, List.pairwise_map]
  refine List.Pairwise.filter _ ?_
  rw [below, List.pairwise_filterMap]
  refine h.imp ?_
  intro a b hlt x hx y hy
  obtain ⟨n, hn, rfl⟩ := Option.map_eq_some_iff.1 hx
  obtain ⟨m, hm, rfl⟩ := Option.map_eq_some_iff.1 hy
  rw [(nameBelow?_eq_some_iff.1 hn).2, (nameBelow?_eq_some_iff.1 hm).2, key_append_singleton,
    key_append_singleton] at hlt
  exact Catalog.Store.lt_of_start_append_lt hlt

/-- Lists in ascending order with the same texts are the same. -/
theorem eq_of_ascending {l l' : List String} (h : l.Pairwise (· < ·)) (h' : l'.Pairwise (· < ·))
    (hmem : ∀ text, text ∈ l ↔ text ∈ l') : l = l' := by
  have hnodup {k : List String} (hk : k.Pairwise (· < ·)) : k.Nodup :=
    hk.imp fun hlt heq => absurd (heq ▸ hlt) (String.lt_irrefl _)
  exact ((List.perm_ext_iff_of_nodup (hnodup h) (hnodup h')).2 hmem).eq_of_pairwise
    (fun _ _ _ _ hab hba => absurd hba (String.lt_asymm hab)) h h'

/-- **So it stays the same** as long as no directory is made there. -/
theorem Furnished.subdirectories {allowed : List String → Prop} (h : t.Furnished allowed u)
    (ht : t.Proper)
    (hnone : ∀ name, '/' ∉ name.toList → ∀ p, allowed p → key (place ++ [name]) ≠ key p) :
    u.subdirectories place = t.subdirectories place := by
  have hu := h.proper ht
  have hmem (name : String) : name ∈ u.subdirectories place ↔ name ∈ t.subdirectories place := by
    rw [mem_subdirectories_iff hu.sorted, mem_subdirectories_iff ht.sorted]
    refine and_congr_right fun hslash => ⟨?_, ?_⟩
    · rintro ⟨e, he, hd⟩
      refine exists_directory_of_unblocked
        ((h.directories _ (unblocked_of_directory he hd)).resolve_right ?_)
      rintro ⟨p, hp, hkey⟩
      exact hnone name hslash p hp hkey
    · rintro ⟨e, he, hd⟩
      exact exists_directory_of_unblocked (h.grows.unblocked _ (unblocked_of_directory he hd))
  exact eq_of_ascending (subdirectories_ascending hu.sorted place)
    (subdirectories_ascending ht.sorted place) hmem

/-- **A directory that is made there** is one name more. -/
theorem mem_subdirectories_set (h : t.Proper) (hf : t.find path = .ok (place ++ [name]))
    (hname : Path.IsPlain name) {other : String} :
    other ∈ (t.set (place ++ [name]) .directory).subdirectories place ↔
      other = name ∨ other ∈ t.subdirectories place := by
  have hbelow (last : String) : place ++ [last] ≠ [] := by simp
  have hgrows : t.Grows (t.set (place ++ [name]) .directory) := t.grows_set (hbelow name) rfl
  rw [mem_subdirectories_iff (h.set hf hgrows).sorted, mem_subdirectories_iff h.sorted]
  by_cases hother : other = name
  · subst hother
    simp [t.entry?_set_self (hbelow other), hname.no_slash, FileEntry.isDirectory]
  · rw [or_iff_right hother]
    refine and_congr_right fun hslash => ?_
    rw [t.entry?_set_of_ne fun hkey => hother (key_append_inj hslash hname.no_slash hkey).2]

end FileTree

end EventRules
