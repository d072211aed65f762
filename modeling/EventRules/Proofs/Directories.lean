/-
**Trees in which everything stands in a directory.**

A tree of files keeps its entries by the keys of their places, and nothing in it says that there is
a directory above each entry.  There always is one, though: a directory is made below another one,
and a file is written only where a path leads.  In such a *rooted* tree something that stands can
also be reached.

That matters when the tree grows.  A database that can be found in the larger tree was found in the
smaller one already, if it stood there: what is new has not brought to light anything that was out
of reach.  And what is new offers no other tables than were offered before, since a place without a
database offers a fresh one.

Main definitions:

* `FileTree.Rooted` — everything stands in a directory;
* `FileTree.UpDown` — names that lead up first and down then, as those of a cleaned path do;
* `FileTree.offers` — the tables that opening a database gives;
* `FileTree.Gains` — a tree with more in it that offers the same.

Main results:

* `FileTree.key_append_inj` — places with the same key have the same last name;
* `FileTree.Rooted.of_find` — what holds wherever a path leads;
* `FileTree.Rooted.find_databasePath` — **a database that stands could always be found**;
* `FileTree.gains_makeAll`, `FileTree.grows_write` — making directories and writing files;
* `FileTree.find_clean_base` — where the directory of a plain name is;
* `Catalog.openDatabase_ok_iff`, `Catalog.database_of_openDatabase` — opening a database gives what
  is offered, and it stands then;
* `Catalog.save_of_database` — writing through.
-/

import EventRules.Proofs.Opening

set_option relaxedAutoImplicit false
set_option autoImplicit false

namespace EventRules

/-! ### Base directories -/

namespace Path

/-- A base directory cleaned, if names are left of it. -/
theorem clean_base {base : String} (h : keptOf base ≠ []) :
    clean base = tidy (isAbsolute base) (keptOf base) :=
  (kept_keptOf base).clean_eq_tidy h rfl rfl

/-- If no names are left, it is the root or the directory where one is. -/
theorem clean_base_nil {base : String} (h : keptOf base = []) :
    clean base = if isAbsolute base then "/" else "." := by
  rw [keptOf] at h
  rw [clean, h]
  cases isAbsolute base <;> rfl

end Path

namespace FileTree

variable {t u : FileTree} {place q : List String} {path : String}

/-! ### Keys of places -/

theorem key_append_singleton (place : List String) (name : String) :
    key (place ++ [name]) = key place ++ "/" ++ name := by
  simp [key, String.append_assoc]

theorem key_eq_empty_iff : key place = "" ↔ place = [] := by
  cases place with
  | nil => simp [key]
  | cons n ns => simp [key]

/-- Places with the same key hold the same. -/
theorem entry?_congr (h : key q = key place) : t.entry? q = t.entry? place := by
  by_cases hp : place = []
  · subst hp
    rw [key_eq_empty_iff.1 h]
  · have hq : q ≠ [] := fun hq => hp (key_eq_empty_iff.1 (by rw [← h, hq]; rfl))
    rw [entry?_of_ne_nil t hq, entry?_of_ne_nil t hp, h]

theorem blocked?_congr (h : key q = key place) : t.blocked? q = t.blocked? place := by
  rw [blocked?, blocked?, entry?_congr h]

/-- A key is cut at its last slash in one way. -/
theorem key_eq_cases {above : List String} {name n : String} (hn : '/' ∉ n.toList)
    (h : key (above ++ [name]) = key (place ++ [n])) :
    key above = key place ∧ name = n ∨
      '/' ∈ name.toList ∧ ∃ m, key (above ++ [m]) = key place := by
  rw [key_append_singleton, key_append_singleton] at h
  have hchars :
      (key above).toList ++ '/' :: name.toList = (key place).toList ++ '/' :: n.toList := by
    simpa using congrArg String.toList h
  rcases List.append_eq_append_iff.1 hchars with ⟨cs, hplace, hname⟩ | ⟨cs, habove, hname⟩
  · cases cs with
    | nil =>
        refine .inl ⟨String.toList_inj.1 (by simpa using hplace.symm), String.toList_inj.1 ?_⟩
        simpa using hname
    | cons c cs =>
        obtain ⟨rfl, hcs⟩ := List.cons.inj hname
        refine .inr ⟨hcs ▸ List.mem_append_right _ List.mem_cons_self, String.ofList cs, ?_⟩
        rw [key_append_singleton]
        exact String.toList_inj.1 (by simpa using hplace.symm)
  · cases cs with
    | nil =>
        refine .inl ⟨String.toList_inj.1 (by simpa using habove), String.toList_inj.1 ?_⟩
        simpa using hname.symm
    | cons c cs =>
        obtain ⟨-, hcs⟩ := List.cons.inj hname
        exact absurd (hcs ▸ List.mem_append_right _ List.mem_cons_self) hn

/-- The key of a place says its last name. -/
theorem key_append_inj {above : List String} {name n : String} (hname : '/' ∉ name.toList)
    (hn : '/' ∉ n.toList) (h : key (above ++ [name]) = key (place ++ [n])) :
    key above = key place ∧ name = n :=
  (key_eq_cases hn h).resolve_right fun hs => hname hs.1

/-! ### Rooted trees -/

/-- Whatever is above the place is a directory. -/
def Within (t : FileTree) (place : List String) : Prop :=
  ∀ above name, key (above ++ [name]) = key place → t.blocked? above = none

/-- **A tree in which everything stands in a directory.** -/
structure Rooted (t : FileTree) : Prop where
  /-- Relative paths start in a directory. -/
  working : t.blocked? t.workingPlace = none
  /-- Whatever is above something is a directory. -/
  within : ∀ place, t.entry? place ≠ none → t.Within place

theorem rooted_empty : ({} : FileTree).Rooted := by
  refine ⟨rfl, fun place hplace above name hkey => ?_⟩
  cases place with
  | nil => exact absurd (key_eq_empty_iff.1 hkey) (by simp)
  | cons n ns => exact absurd rfl hplace

namespace Rooted

theorem within_of_unblocked (h : t.Rooted) (hb : t.blocked? place = none) : t.Within place := by
  obtain ⟨e, he, -⟩ := exists_directory_of_unblocked hb
  exact h.within place (by simp [he])

/-- One step down from a directory. -/
theorem within_step (h : t.Rooted) (hb : t.blocked? place = none) {n : String}
    (hn : '/' ∉ n.toList) : t.Within (place ++ [n]) := by
  intro above name he
  rcases key_eq_cases hn he with ⟨hkey, -⟩ | ⟨-, m, hm⟩
  · rwa [blocked?_congr hkey]
  · exact h.within_of_unblocked hb above m hm

theorem unblocked_dropLast (h : t.Rooted) (hb : t.blocked? place = none) :
    t.blocked? place.dropLast = none := by
  rcases List.eq_nil_or_concat place with rfl | ⟨above, n, rfl⟩
  · rfl
  · rw [List.concat_eq_append] at hb ⊢
    rw [List.dropLast_concat]
    exact h.within_of_unblocked hb above n rfl

/-- **What holds of directories and of each step down from one** holds wherever names lead. -/
theorem of_follow (h : t.Rooted) {P : List String → Prop}
    (hb : ∀ place, t.blocked? place = none → P place)
    (hn : ∀ place n, t.blocked? place = none → Path.IsPlain n → P (place ++ [n]))
    {ns : List String} (hns : ∀ n ∈ ns, '/' ∉ n.toList) (hp : P place)
    (hf : t.follow place ns = .ok q) : P q := by
  induction ns generalizing place with
  | nil =>
      cases hf
      exact hp
  | cons n ns ih =>
      have hunblocked := unblocked_of_follow hf
      rw [follow, hunblocked] at hf
      dsimp only at hf
      have hrest : ∀ m ∈ ns, '/' ∉ m.toList := fun m hm => hns m (List.mem_cons_of_mem _ hm)
      split at hf
      · exact ih hrest hp hf
      · rename_i hdot
        split at hf
        · exact ih hrest (hb _ (h.unblocked_dropLast hunblocked)) hf
        · rename_i hup
          split at hf
          · cases hf
          · simp only [Bool.or_eq_true, decide_eq_true_eq, not_or] at hdot
            have hplain : Path.IsPlain n := ⟨hdot.1, hdot.2, hup, hns n List.mem_cons_self⟩
            exact ih hrest (hn place n hunblocked hplain) hf

/-- So it holds wherever a path leads. -/
theorem of_find (h : t.Rooted) {P : List String → Prop}
    (hb : ∀ place, t.blocked? place = none → P place)
    (hn : ∀ place n, t.blocked? place = none → Path.IsPlain n → P (place ++ [n]))
    (hf : t.find path = .ok q) : P q := by
  obtain ⟨-, hfollow⟩ := find_ok hf
  refine h.of_follow hb hn (fun n hn => Path.not_mem_slash_of_mem_names hn) (hb _ ?_) hfollow
  unfold startOf
  split
  · rfl
  · exact h.working

/-- **Every path leads through directories**, up to its last step. -/
theorem within_of_find (h : t.Rooted) (hf : t.find path = .ok q) : t.Within q :=
  h.of_find (fun _ hb => h.within_of_unblocked hb) (fun _ _ hb hn => h.within_step hb hn.no_slash)
    hf

end Rooted

/-- Something new where nothing was followed blocks nothing. -/
theorem grows_set_of_blocked (t : FileTree) (hb : t.blocked? place ≠ none) (e : FileEntry) :
    t.Grows (t.set place e) := by
  refine ⟨rfl, fun q hq => ?_⟩
  have hne : key q ≠ key place := fun hkey => hb ((blocked?_congr hkey).symm.trans hq)
  rwa [blocked?, entry?_set_of_ne t hne]

/-- One more entry keeps a tree rooted if it blocks nothing and stands in a directory. -/
theorem Rooted.of_grows (h : t.Rooted) (hg : t.Grows u) (hw : t.Within place)
    (ho : ∀ q, key q ≠ key place → u.entry? q = t.entry? q) : u.Rooted := by
  refine ⟨?_, fun q hq above name hkey => hg.unblocked _ ?_⟩
  · rw [hg.workingPlace]
    exact hg.unblocked _ h.working
  · by_cases hplace : key q = key place
    · exact hw above name (hkey.trans hplace)
    · rw [ho q hplace] at hq
      exact h.within q hq above name hkey

/-! ### What stood in a smaller tree -/

/-- **Names that lead up first and down then.** -/
inductive UpDown : List String → Prop
  | down {ns : List String} (h : ∀ n ∈ ns, Path.IsPlain n) : UpDown ns
  | root {ns : List String} (h : UpDown ns) : UpDown ("" :: ns)
  | up {ns : List String} (h : UpDown ns) : UpDown (".." :: ns)

theorem upDown_ups {ups ns : List String} (hups : ∀ n ∈ ups, n = "..") (h : UpDown ns) :
    UpDown (ups ++ ns) := by
  induction ups with
  | nil => exact h
  | cons n ups ih =>
      obtain ⟨rfl, hrest⟩ := List.forall_mem_cons.1 hups
      exact .up (ih hrest)

theorem ups_of_kept {absolute : Bool} {kept : List String} (h : Path.Kept absolute kept)
    (hu : ∀ last ∈ kept.head?, last = "..") : ∀ n ∈ kept, n = ".." := by
  induction h with
  | nil => exact List.forall_mem_nil _
  | plain hn h ih => exact absurd (hu _ rfl) hn.ne_up
  | up hr hu' h ih => exact List.forall_mem_cons.2 ⟨rfl, ih hu'⟩

theorem upDown_kept {absolute : Bool} {kept ns : List String} (h : Path.Kept absolute kept)
    (hns : ∀ n ∈ ns, Path.IsPlain n) : UpDown (kept.reverse ++ ns) := by
  induction h generalizing ns with
  | nil => exact .down hns
  | @plain name kept hn h ih =>
      rw [List.reverse_cons, List.append_assoc]
      exact ih (List.forall_mem_cons.2 ⟨hn, hns⟩)
  | @up kept hr hu h ih =>
      rw [List.reverse_cons, List.append_assoc]
      refine upDown_ups (fun n hn => ups_of_kept h hu n (List.mem_reverse.1 hn)) ?_
      exact .up (.down hns)

/-- The names below a base directory lead up first and down then. -/
theorem upDown_namesOn (base : String) {ns : List String} (hns : ∀ n ∈ ns, Path.IsPlain n) :
    UpDown (Path.namesOn base ++ ns) := by
  have hkept := upDown_kept (Path.kept_keptOf base) hns
  unfold Path.namesOn
  cases Path.isAbsolute base with
  | true => exact .root hkept
  | false => exact hkept

theorem follow_down_eq {ns : List String} (hns : ∀ n ∈ ns, Path.IsPlain n)
    (h : t.follow place ns = .ok q) : q = place ++ ns := by
  induction ns generalizing place with
  | nil =>
      cases h
      simp
  | cons n ns ih =>
      obtain ⟨hn, hrest⟩ := List.forall_mem_cons.1 hns
      have hsteps : t.follow place ([n] ++ ns) = .ok q := h
      obtain ⟨r, hr, hf⟩ := follow_append_ok hsteps
      obtain ⟨-, rfl⟩ := follow_plain_ok hn hr
      rw [ih hrest hf, List.append_assoc]
      rfl

namespace Rooted

/-- The directories above something that stands. -/
theorem unblocked_above (h : t.Rooted) {below : List String} (hne : below ≠ [])
    (he : t.entry? (place ++ below) ≠ none) : t.blocked? place = none := by
  induction below generalizing place with
  | nil => exact absurd rfl hne
  | cons n below ih =>
      by_cases hbelow : below = []
      · subst hbelow
        exact h.within _ he place n rfl
      · have hb : t.blocked? (place ++ [n]) = none := ih hbelow (by rwa [List.append_assoc])
        simpa using h.unblocked_dropLast hb

theorem follow_down (h : t.Rooted) {ns : List String} (hns : ∀ n ∈ ns, Path.IsPlain n)
    (hf : u.follow place ns = .ok q) (he : t.entry? q ≠ none) : t.follow place ns = .ok q := by
  induction ns generalizing place with
  | nil => exact hf
  | cons n ns ih =>
      have hq := follow_down_eq hns hf
      have hb : t.blocked? place = none :=
        h.unblocked_above (List.cons_ne_nil n ns) (hq ▸ he)
      obtain ⟨hn, hrest⟩ := List.forall_mem_cons.1 hns
      rw [follow, unblocked_of_follow hf] at hf
      rw [follow, hb]
      simp only [hn.ne_empty, hn.ne_dot, hn.ne_up, decide_false, Bool.or_self, Bool.false_eq_true,
        if_false] at hf ⊢
      split at hf
      · cases hf
      · rename_i hl
        rw [if_neg hl]
        exact ih hrest hf

/-- **What stands in a rooted tree can be followed there**, if it can in a larger one. -/
theorem follow_upDown (h : t.Rooted) {ns : List String} (hns : UpDown ns)
    (hb : t.blocked? place = none) (hf : u.follow place ns = .ok q) (he : t.entry? q ≠ none) :
    t.follow place ns = .ok q := by
  induction hns generalizing place with
  | down hplain => exact h.follow_down hplain hf he
  | root _ ih =>
      rw [follow, unblocked_of_follow hf] at hf
      rw [follow, hb]
      exact ih hb hf
  | up _ ih =>
      rw [follow, unblocked_of_follow hf] at hf
      rw [follow, hb]
      exact ih (h.unblocked_dropLast hb) hf

/-- So what stands in the directory of a plain name, if it does in the smaller tree, is found
there. -/
theorem find_below (h : t.Rooted) (hg : t.Grows u) {base name below : String}
    (hn : Path.IsPlain name) (hbelow : Path.IsPlain below)
    (hf : u.find (Path.join (Path.join base name) below) = .ok place)
    (he : t.entry? place ≠ none) :
    t.find (Path.join (Path.join base name) below) = .ok place := by
  rw [u.find_join_join base hn hbelow] at hf
  rw [t.find_join_join base hn hbelow]
  cases hr : refused? (Path.join (Path.join base name) below) with
  | some fault =>
      rw [hr] at hf
      cases hf
  | none =>
      rw [hr] at hf
      dsimp only at hf ⊢
      rw [startOf, hg.workingPlace, ← startOf] at hf
      have hstart : t.blocked? (t.startOf base) = none := by
        unfold startOf
        split
        · rfl
        · exact h.working
      have hnames : UpDown (Path.namesOn base ++ [name] ++ [below]) := by
        rw [List.append_assoc]
        exact upDown_namesOn base (by simpa using ⟨hn, hbelow⟩)
      exact h.follow_upDown hnames hstart hf he

/-- In particular its database. -/
theorem find_databasePath (h : t.Rooted) (hg : t.Grows u) {base name : String}
    (hn : Path.IsPlain name) (hf : u.find (Catalog.databasePath (Path.join base name)) = .ok place)
    (he : t.entry? place ≠ none) :
    t.find (Catalog.databasePath (Path.join base name)) = .ok place :=
  h.find_below hg hn isPlain_badger hf he

end Rooted

/-! ### What databases can be opened -/

/-- **The tables that opening a database gives**: those of the database that stands there, and none
yet if nothing stands there or just a directory. -/
def offers (t : FileTree) (readOnly : Bool) (place : List String) : Option Catalog.Tables :=
  match t.entry? place with
  | some (.database tables) => some tables
  | some (.file _) => none
  | some .directory => if readOnly then none else some {}
  | none => if readOnly then none else some {}

theorem offers_congr {readOnly : Bool} (h : u.entry? place = t.entry? place) :
    u.offers readOnly place = t.offers readOnly place := by
  rw [offers, offers, h]

/-- **A tree with more in it that offers the same databases.** -/
structure Gains (readOnly : Bool) (t u : FileTree) : Prop where
  /-- Nothing that could be followed is blocked. -/
  grows : t.Grows u
  /-- Every database gives the same tables. -/
  offers : ∀ place, u.offers readOnly place = t.offers readOnly place
  /-- Databases stay where they stand. -/
  databases : ∀ place tables, t.entry? place = some (.database tables) →
    u.entry? place = some (.database tables)
  /-- What is new stands in directories. -/
  rooted : t.Rooted → u.Rooted

namespace Gains

variable {readOnly : Bool}

theorem refl (t : FileTree) : t.Gains readOnly t :=
  ⟨⟨rfl, fun _ h => h⟩, fun _ => rfl, fun _ _ h => h, fun h => h⟩

theorem trans {w : FileTree} (h : t.Gains readOnly u) (h' : u.Gains readOnly w) :
    t.Gains readOnly w :=
  ⟨h.grows.trans h'.grows, fun place => (h'.offers place).trans (h.offers place),
    fun place tables he => h'.databases place tables (h.databases place tables he),
    fun hr => h'.rooted (h.rooted hr)⟩

/-- One more entry, where no database was and the same tables are offered. -/
theorem of_grows (hg : t.Grows u) (hw : t.Rooted → t.Within place)
    (ho : ∀ q, key q ≠ key place → u.entry? q = t.entry? q)
    (hs : u.offers readOnly place = t.offers readOnly place)
    (hd : ∀ tables, t.entry? place ≠ some (.database tables)) : t.Gains readOnly u := by
  refine ⟨hg, fun q => ?_, fun q tables he => ?_, fun hr => hr.of_grows hg (hw hr) ho⟩
  · by_cases hq : key q = key place
    · rw [FileTree.offers, FileTree.offers, entry?_congr hq, entry?_congr hq]
      exact hs
    · exact offers_congr (ho q hq)
  · have hq : key q ≠ key place := fun hq => hd tables ((entry?_congr hq).symm.trans he)
    rwa [ho q hq]

end Gains

/-- A directory that is made was nothing before. -/
theorem make_ok (h : t.make path = .ok u) :
    u = t ∨ ∃ place, t.find path = .ok place ∧ t.entry? place = none ∧
      u = t.set place .directory := by
  unfold make at h
  cases hf : t.find path with
  | error fault =>
      rw [look_of_find_error hf, hf] at h
      cases h
  | ok place =>
      rw [look_of_find hf, hf] at h
      cases he : t.entry? place with
      | none =>
          rw [he] at h
          exact .inr ⟨place, rfl, he, (Except.ok.inj h).symm⟩
      | some e =>
          rw [he] at h
          dsimp only at h
          split at h
          · exact .inl (Except.ok.inj h).symm
          · cases h

theorem ne_nil_of_vacant (h : t.entry? place = none) : place ≠ [] := by
  rintro rfl
  cases h

/-- **Making a directory** offers no other tables. -/
theorem gains_make (h : t.make path = .ok u) : t.Gains false u := by
  rcases make_ok h with rfl | ⟨place, hf, hv, rfl⟩
  · exact .refl _
  · have hne := ne_nil_of_vacant hv
    refine .of_grows (t.grows_set hne rfl) (fun hr => hr.within_of_find hf)
      (fun q hq => t.entry?_set_of_ne hq _) ?_ (by simp [hv])
    rw [offers, offers, t.entry?_set_self hne, hv]

theorem gains_makeEach (t : FileTree) (paths : List String) :
    t.Gains false (t.makeEach paths).2 := by
  induction paths generalizing t with
  | nil => exact .refl t
  | cons path paths ih =>
      rw [makeEach]
      cases hm : t.make path with
      | error e => exact .refl t
      | ok u => exact (gains_make hm).trans (ih u)

theorem gains_makeAll (t : FileTree) (path : String) : t.Gains false (t.makeAll path).2 :=
  t.gains_makeEach _

/-- A file is written where nothing is followed. -/
theorem write_ok {content : Bytes} (h : t.write path content = .ok u) :
    ∃ place, t.find path = .ok place ∧ t.blocked? place ≠ none ∧
      u = t.set place (.file content) := by
  unfold write at h
  cases hf : t.find path with
  | error fault =>
      rw [hf] at h
      cases h
  | ok place =>
      rw [hf] at h
      dsimp only at h
      split at h
      · cases h
      · rename_i old _ hold
        split at h
        · cases h
        · rename_i hfile
          exact ⟨place, rfl, by simp [blocked?, hold, hfile], (Except.ok.inj h).symm⟩
      · rename_i _ hvacant
        exact ⟨place, rfl, by simp [blocked?, hvacant], (Except.ok.inj h).symm⟩

/-- **Writing a file** changes nothing elsewhere. -/
theorem grows_write {content : Bytes} (h : t.write path content = .ok u) :
    ∃ place, t.find path = .ok place ∧ t.Grows u ∧ (t.Rooted → u.Rooted) ∧
      ∀ q, key q ≠ key place → u.entry? q = t.entry? q := by
  obtain ⟨place, hf, hb, rfl⟩ := write_ok h
  have hg := t.grows_set_of_blocked hb (.file content)
  have ho (q : List String) (hq : key q ≠ key place) := t.entry?_set_of_ne hq (.file content)
  exact ⟨place, hf, hg, fun hr => hr.of_grows hg (hr.within_of_find hf) ho, ho⟩

/-! ### Places of databases -/

variable {base name other : String}

/-- **The directory of a plain name stands in the base directory.** -/
theorem find_clean_base (hn : Path.IsPlain name) (h : refused? (Path.join base name) = none)
    (hq : t.follow (t.startOf base) (Path.namesOn base) = .ok q) (hb : t.blocked? q = none) :
    t.find (Path.clean base) = .ok q := by
  by_cases hkept : Path.keptOf base = []
  · rw [Path.namesOn, hkept] at hq
    rw [Path.clean_base_nil hkept]
    cases ha : Path.isAbsolute base with
    | true =>
        rw [startOf, ha] at hq
        obtain rfl := Except.ok.inj (show Except.ok [] = Except.ok q from hq)
        rfl
    | false =>
        rw [startOf, ha] at hq
        obtain rfl := Except.ok.inj (show Except.ok t.workingPlace = Except.ok q from hq)
        refine find_of_follow rfl ?_
        change t.follow t.workingPlace ["."] = .ok t.workingPlace
        rw [follow, hb]
        rfl
  · rw [Path.join_eq_tidy base hn, Path.tidy_cons hkept, String.append_assoc] at h
    have hkeeps := Path.kept_keptOf base
    rw [Path.clean_base hkept]
    refine find_of_follow (not_refused_of_append (hkeeps.tidy_ne_empty hkept) h) ?_
    rw [startOf, hkeeps.isAbsolute_tidy hkept, hkeeps.names_tidy hkept]
    exact hq

/-- The directory of a database that can be found is there. -/
theorem look_join_of_databasePath (hn : Path.IsPlain name)
    (h : t.find (Catalog.databasePath (Path.join base name)) = .ok place) :
    t.look (Path.join base name) ≠ .error .missing := by
  rw [FileTree.find_databasePath t base hn] at h
  cases hr : refused? (Catalog.databasePath (Path.join base name)) with
  | some fault =>
      rw [hr] at h
      cases h
  | none =>
      rw [hr] at h
      obtain ⟨r, hr', hbadger⟩ := follow_append_ok h
      have hfind := FileTree.find_join t base hn
      rw [not_refused_join hn hr] at hfind
      obtain ⟨e, he, -⟩ := exists_directory_of_unblocked (unblocked_of_follow hbadger)
      rw [look_of_find (hfind.trans hr'), he]
      nofun

/-- The database of a name is two steps below the base directory. -/
theorem databasePath_place (hn : Path.IsPlain name)
    (h : t.find (Catalog.databasePath (Path.join base name)) = .ok place) : place ≠ [] := by
  obtain ⟨q, -, -, rfl⟩ := exists_base hn h
  simp

end FileTree

namespace Catalog

variable {t u : FileTree} {place : List String} {path : String} {readOnly exclusive : Bool}
  {tables : Tables}

/-- **Opening a database** succeeds where tables are offered, and gives these. -/
theorem openDatabase_ok_iff (h : t.find path = .ok place) (hne : place ≠ []) :
    (∃ u, openDatabase readOnly exclusive path t = .ok (tables, u)) ↔
      t.offers readOnly place = some tables := by
  rw [openDatabase, FileTree.look_of_find h, FileTree.offers]
  cases he : t.entry? place with
  | none =>
      dsimp only
      rw [FileTree.makeAll_of_vacant h he]
      dsimp only
      rw [openDatabase.fresh, (t.grows_set hne rfl).find h]
      cases readOnly <;> simp [eq_comm]
  | some e =>
      cases e with
      | database tables' => simp [eq_comm]
      | directory =>
          dsimp only
          rw [openDatabase.fresh, h]
          cases readOnly <;> simp [eq_comm]
      | file content => simp

/-- **A database that has been opened stands at its place**, and others are offered as before. -/
theorem database_of_openDatabase (h : t.find path = .ok place) (hne : place ≠ [])
    (ho : openDatabase readOnly exclusive path t = .ok (tables, u)) :
    t.Gains readOnly u ∧ u.entry? place = some (.database tables) := by
  have hoffers := (openDatabase_ok_iff h hne).1 ⟨u, ho⟩
  by_cases hd : t.entry? place = some (.database tables)
  · rw [openDatabase_of_database h hd] at ho
    obtain ⟨-, rfl⟩ := Prod.mk.inj (Except.ok.inj ho)
    exact ⟨.refl _, hd⟩
  · rcases openDatabase_cases h hne ho with ⟨he, -⟩ | ⟨rfl, hgain⟩
    · exact absurd he hd
    · refine ⟨.of_grows hgain.grows (fun hr => hr.within_of_find h) hgain.entry_other ?_ ?_,
        hgain.entry_self⟩
      · rw [hoffers, FileTree.offers, hgain.entry_self]
      · intro tables he
        rw [FileTree.offers, he] at hoffers
        exact hd (Option.some.inj hoffers ▸ he)

/-- **Writing through** changes the tables of the database, if it stands there, and nothing else. -/
theorem save_of_database {directory : String} {old : Tables}
    (h : t.find (databasePath directory) = .ok place)
    (he : t.entry? place = some (.database old)) :
    save directory tables t = t.set place (.database tables) := by
  rw [save, h]
  dsimp only
  rw [he]

end Catalog

end EventRules
