/-
**The order in which an import visits a manifest.**

The indexes, titles and modules of a manifest are visited in no particular order.  An import that
ends has written the record of each entry, and it has counted each entry; whether it ends and what
it counts does not depend on the order.  What the store holds under a key is the last record written
under it.  Names are not keys: two names of a manifest may have one key, and then the one that is
visited last counts.  So the store depends on the order for exactly those keys under which the
manifest says two things.

Main definitions:

* `Catalog.Entry.record?` — what an entry writes, and where;
* `Catalog.Manifest.Relists` — **the same manifest in another order**;
* `Catalog.Manifest.AgreesOn`, `Catalog.Manifest.IsUnambiguous` — a manifest that says one thing
  only under a key, or under every key.

Main results:

* `Catalog.importEntries_ok_iff` — when an import ends without a failure;
* `Catalog.importEntries_eq` — **what it has done then**;
* `Catalog.Manifest.Relists.import_ok` — another order does not make it fail, nor count otherwise;
* `Catalog.Manifest.get?_relisted_iff` — **which keys do not depend on the order**;
* `Catalog.Manifest.store_relisted_iff` — when no key does;
* `Catalog.import_in_any_order` — imports of one manifest, compared.
-/

import EventRules.Catalog.Manifest
import EventRules.Proofs.Storing

set_option relaxedAutoImplicit false
set_option autoImplicit false

namespace EventRules.Catalog

/-! ### Records of entries -/

/-- **What an entry writes, and under which key**, if it can be put into a store. -/
def Entry.record? (read : String → Except Failure Bytes) (e : Entry) : Option (String × Record) :=
  (e.put read).toOption.bind fun p => p.entry.toOption

section

variable {read : String → Except Failure Bytes}

theorem Entry.record?_indexes (table : String) (list : Option (List TableIndex)) :
    (Entry.indexes table list).record? read =
      (Put.named .indexes "table name" table (.indexes list)).toOption := by
  simp only [record?, put, Except.toOption, Option.bind_some, Put.entry]

theorem Entry.record?_title (item text : String) :
    (Entry.title item text).record? read =
      (Put.named .titles "data item" item (.text text)).toOption := by
  simp only [record?, put, Except.toOption, Option.bind_some, Put.entry]

theorem Entry.record?_functionObject (owner object : String) :
    (Entry.functionObject owner object).record? read =
      (Put.named .functionObjects "template name" owner (.text object)).toOption := by
  simp only [record?, put, Except.toOption, Option.bind_some, Put.entry]

end

/-- A store with records written into it, one after the other. -/
def Store.write (store : Store) (records : List (String × Record)) : Store :=
  { store with tables := ⟨records.foldl (fun d r => d.insert r.1 r.2) store.tables.records⟩ }

section

variable {read : String → Except Failure Bytes} {store store' : Store} {stats : ImportStats}

/-- **One entry** is put into a store if it has a record and the store can be written to. -/
theorem importEntry_ok_iff {e : Entry} :
    importEntry read store e = .ok store' ↔
      ∃ r, e.record? read = some r ∧ store.readOnly = false ∧ store' = store.write [r] := by
  rw [importEntry, Entry.record?]
  cases e.put read with
  | error f => simp [Except.toOption]
  | ok p =>
      simp only [Except.toOption, Option.bind_some, Store.put]
      cases p.entry with
      | error f => simp
      | ok r => cases hreadOnly : store.readOnly <;> simp [Store.write, hreadOnly, eq_comm]

/-- **When an import ends without a failure**: if every entry has a record, and the store can be
written to or nothing is written. -/
theorem importEntries_ok_iff {entries : List Entry} :
    (importEntries read entries store stats).failure = none ↔
      (∀ e ∈ entries, (e.record? read).isSome = true) ∧
        (entries = [] ∨ store.readOnly = false) := by
  induction entries generalizing store stats with
  | nil => simp [importEntries]
  | cons e rest ih =>
      rw [importEntries, List.forall_mem_cons]
      cases he : importEntry read store e with
      | error f =>
          simp only [reduceCtorEq, false_iff, false_or]
          rintro ⟨⟨hrecord, -⟩, hwritable⟩
          obtain ⟨r, hr⟩ := Option.isSome_iff_exists.1 hrecord
          have hok := importEntry_ok_iff.2 ⟨r, hr, hwritable, rfl⟩
          rw [he] at hok
          cases hok
      | ok store' =>
          obtain ⟨r, hr, hwritable, rfl⟩ := importEntry_ok_iff.1 he
          have hwritten : (store.write [r]).readOnly = false := hwritable
          simp [ih, hr, hwritable, hwritten]

/-- **What an import has done that ended without a failure**: each record is written, and each entry
is counted. -/
theorem importEntries_eq {entries : List Entry}
    (h : (importEntries read entries store stats).failure = none) :
    importEntries read entries store stats =
      ⟨store.write (entries.filterMap (Entry.record? read)), entries.foldl ImportStats.count stats,
        none⟩ := by
  induction entries generalizing store stats with
  | nil => rfl
  | cons e rest ih =>
      rw [importEntries] at h ⊢
      cases he : importEntry read store e with
      | error f =>
          rw [he] at h
          cases h
      | ok store' =>
          rw [he] at h
          obtain ⟨r, hr, -, rfl⟩ := importEntry_ok_iff.1 he
          rw [List.filterMap_cons, hr]
          exact ih h

end

/-! ### Another order -/

/-- The counts do not depend on the order. -/
theorem foldl_count_of_perm {entries entries' : List Entry} (hp : entries.Perm entries')
    (stats : ImportStats) :
    entries.foldl ImportStats.count stats = entries'.foldl ImportStats.count stats := by
  refine hp.foldl_eq' (fun e _ f _ s => ?_) stats
  cases e <;> cases f <;> rfl

/-- How an import reads the files of a manifest. -/
def Manifest.reader (m : Manifest) (files : FileTree) (path : String) : Except Failure Bytes :=
  files.read (m.templatePath path)

/-- **The same manifest**, with the indexes, the titles and the modules listed in another order. -/
structure Manifest.Relists (m m' : Manifest) : Prop where
  /-- The templates are in the same order. -/
  templates : m'.templates = m.templates
  /-- They are seen from the same directory. -/
  directory : m'.directory = m.directory
  /-- The indexes are the same. -/
  indexes : m'.indexes.Perm m.indexes
  /-- The titles are the same. -/
  titles : m'.titles.Perm m.titles
  /-- The modules are the same. -/
  functionObjects : m'.functionObjects.Perm m.functionObjects

/-- All entries of a map say the same that have this key. -/
def Space.AgreeOn {α : Type} (space : Space) (key : String) (d : Dictionary α) : Prop :=
  ∀ e ∈ d, ∀ f ∈ d, space.key e.1 = key → space.key f.1 = key → e.2 = f.2

/-- **A manifest that says one thing only under a key.** -/
structure Manifest.AgreesOn (m : Manifest) (key : String) : Prop where
  /-- About the indexes of a table. -/
  indexes : Space.indexes.AgreeOn key m.indexes
  /-- About the title of a data item. -/
  titles : Space.titles.AgreeOn key m.titles
  /-- About the module of a business function. -/
  functionObjects : Space.functionObjects.AgreeOn key m.functionObjects

/-- Names with one key say the same. -/
def Unambiguous {α : Type} (d : Dictionary α) : Prop :=
  ∀ e ∈ d, ∀ f ∈ d, catalogKey e.1 = catalogKey f.1 → e.2 = f.2

instance {α : Type} [DecidableEq α] (d : Dictionary α) : Decidable (Unambiguous d) :=
  inferInstanceAs (Decidable (∀ e ∈ d, ∀ f ∈ d, catalogKey e.1 = catalogKey f.1 → e.2 = f.2))

/-- **A manifest that says one thing only under every key.** -/
structure Manifest.IsUnambiguous (m : Manifest) : Prop where
  /-- About the indexes of a table. -/
  indexes : Unambiguous m.indexes
  /-- About the title of a data item. -/
  titles : Unambiguous m.titles
  /-- About the module of a business function. -/
  functionObjects : Unambiguous m.functionObjects

theorem Space.forall_agreeOn_iff {α : Type} {space : Space} {d : Dictionary α} :
    (∀ key, space.AgreeOn key d) ↔ Unambiguous d := by
  constructor
  · intro h e he f hf hkey
    exact h (space.key e.1) e he f hf rfl (congrArg (space.start ++ ·) hkey).symm
  · intro h key e he f hf hekey hfkey
    exact h e he f hf (Space.start_append_inj (hekey.trans hfkey.symm)).2

namespace Manifest

theorem forall_agreesOn_iff {m : Manifest} : (∀ key, m.AgreesOn key) ↔ m.IsUnambiguous := by
  constructor
  · intro h
    exact ⟨Space.forall_agreeOn_iff.1 fun key => (h key).indexes,
      Space.forall_agreeOn_iff.1 fun key => (h key).titles,
      Space.forall_agreeOn_iff.1 fun key => (h key).functionObjects⟩
  · intro h key
    exact ⟨Space.forall_agreeOn_iff.2 h.indexes key, Space.forall_agreeOn_iff.2 h.titles key,
      Space.forall_agreeOn_iff.2 h.functionObjects key⟩

variable {m m' : Manifest} {files : FileTree} {store : Store}

theorem Relists.reader_eq (h : m.Relists m') (files : FileTree) :
    m'.reader files = m.reader files := by
  funext path
  rw [reader, reader, templatePath, templatePath, h.directory]

theorem Relists.perm_entries (h : m.Relists m') : m'.entries.Perm m.entries := by
  rw [entries, entries, h.templates]
  exact (((List.Perm.refl _).append (h.indexes.map _)).append (h.titles.map _)).append
    (h.functionObjects.map _)

/-- **Another order does not make an import fail**, nor count otherwise. -/
theorem Relists.import_ok (h : m.Relists m') (hok : (m.importInto files store).failure = none) :
    (m'.importInto files store).failure = none ∧
      (m'.importInto files store).stats = (m.importInto files store).stats := by
  have hrecords := importEntries_ok_iff.1 hok
  have hok' : (m'.importInto files store).failure = none := by
    refine importEntries_ok_iff.2 ⟨fun e he => ?_, hrecords.2.imp_left fun hnil => ?_⟩
    · have hread := congrArg (fun read => (e.record? read).isSome) (h.reader_eq files)
      exact hread.trans (hrecords.1 e (h.perm_entries.mem_iff.1 he))
    · exact (hnil ▸ h.perm_entries).eq_nil
  refine ⟨hok', ?_⟩
  rw [importInto, importEntries_eq hok', importInto, importEntries_eq hok]
  exact foldl_count_of_perm h.perm_entries {}

/-! ### Records of a manifest -/

/-- The records of a map. -/
def recordsOf {α : Type} (space : Space) (write : α → Record) (d : Dictionary α) :
    List (String × Record) :=
  d.map fun e => (space.key e.1, write e.2)

/-- The records of the templates, in the order of the manifest. -/
def documents (m : Manifest) (files : FileTree) : List (String × Record) :=
  (m.templates.map Entry.template).filterMap (Entry.record? (m.reader files))

/-- The records of the indexes, the titles and the modules. -/
def listed (m : Manifest) : List (String × Record) :=
  recordsOf .indexes .indexes m.indexes ++ recordsOf .titles .text m.titles ++
    recordsOf .functionObjects .text m.functionObjects

/-- The record of an entry that has a name. -/
theorem toOption_named {space : Space} {what name : String} {record : Record}
    (h : (Put.named space what name record).toOption.isSome = true) :
    (Put.named space what name record).toOption = some (space.key name, record) := by
  obtain ⟨r, hr⟩ := Option.isSome_iff_exists.1 h
  rw [hr, (Put.named_ok_iff.1 (Except.eq_ok_of_toOption hr)).2]

/-- The records of a map whose entries all have one. -/
theorem filterMap_record? {α : Type} {space : Space} {what : String} {write : α → Record}
    {entry : String → α → Entry} {read : String → Except Failure Bytes} {d : Dictionary α}
    (hentry : ∀ name a,
      (entry name a).record? read = (Put.named space what name (write a)).toOption)
    (h : ∀ e ∈ d.map (fun e => entry e.1 e.2), (e.record? read).isSome = true) :
    (d.map fun e => entry e.1 e.2).filterMap (Entry.record? read) = recordsOf space write d := by
  induction d with
  | nil => rfl
  | cons e d ih =>
      rw [List.map_cons, List.forall_mem_cons] at h
      have hrecord := h.1
      rw [hentry] at hrecord
      rw [List.map_cons, List.filterMap_cons, hentry, toOption_named hrecord, ih h.2]
      rfl

/-- **What an import has written** that ended without a failure. -/
theorem store_importInto (hok : (m.importInto files store).failure = none) :
    (m.importInto files store).store = store.write (m.documents files ++ m.listed) := by
  have hrecords : ∀ e ∈ m.entries, (e.record? (m.reader files)).isSome = true :=
    (importEntries_ok_iff.1 hok).1
  simp only [entries, List.forall_mem_append] at hrecords
  obtain ⟨⟨⟨-, hindexes⟩, htitles⟩, hobjects⟩ := hrecords
  have hall : m.entries.filterMap (Entry.record? (m.reader files)) =
      m.documents files ++ m.listed := by
    rw [entries, List.filterMap_append, List.filterMap_append, List.filterMap_append,
      filterMap_record? Entry.record?_indexes hindexes,
      filterMap_record? Entry.record?_title htitles,
      filterMap_record? Entry.record?_functionObject hobjects, ← documents, listed,
      List.append_assoc, List.append_assoc, List.append_assoc]
  rw [← hall]
  exact congrArg Imported.store (importEntries_eq hok)

/-- **What a store holds under a key** after an import: the last record written under it, or what it
held before. -/
theorem get?_importInto (hok : (m.importInto files store).failure = none) (key : String) :
    (m.importInto files store).store.tables.records.get? key =
      (m.listed.reverse.lookup key).or
        (((m.documents files).reverse.lookup key).or (store.tables.records.get? key)) := by
  rw [store_importInto hok, Store.write, Dictionary.get?_foldl_insert, List.reverse_append,
    List.lookup_append, Option.or_assoc]

/-! ### Which keys depend on the order -/

section

variable {α : Type} {space space' : Space} {write : α → Record} {d d' : Dictionary α} {key : String}

/-- A key of one kind has no record of another. -/
theorem lookup_recordsOf_of_ne (h : space ≠ space') (name : String) :
    (recordsOf space write d).reverse.lookup (space'.key name) = none := by
  refine List.lookup_eq_none_iff.2 fun r hr => ?_
  obtain ⟨e, -, rfl⟩ := List.mem_map.1 (List.mem_reverse.1 hr)
  refine bne_iff_ne.2 fun heq => ?_
  exact h (Space.start_append_inj heq.symm).1

/-- The last entry counts. -/
theorem lookup_recordsOf_concat (before : Dictionary α) (e : String × α) :
    (recordsOf space write (before ++ [e])).reverse.lookup (space.key e.1) =
      some (write e.2) := by
  rw [recordsOf, List.map_append, List.map_singleton, List.reverse_append, List.reverse_singleton,
    List.singleton_append, List.lookup_cons_self]

/-- Where all entries say the same, their order does not matter. -/
theorem lookup_recordsOf_of_perm (hp : d'.Perm d) (h : space.AgreeOn key d) :
    (recordsOf space write d').reverse.lookup key = (recordsOf space write d).reverse.lookup key := by
  have hrecords : (recordsOf space write d').reverse.Perm (recordsOf space write d).reverse :=
    ((List.reverse_perm _).trans (hp.map _)).trans (List.reverse_perm _).symm
  refine Dictionary.lookup_of_perm hrecords fun r hr r' hr' hkey hkey' => ?_
  obtain ⟨e, he, rfl⟩ := List.mem_map.1 (List.mem_reverse.1 hr)
  obtain ⟨f, hf, rfl⟩ := List.mem_map.1 (List.mem_reverse.1 hr')
  exact congrArg write (h e he f hf hkey hkey')

/-- Where each entry counts when it comes last, all entries say the same. -/
theorem agreeOn_of_concat (hwrite : ∀ a b, write a = write b → a = b) (found : Option Record)
    (h : ∀ before e, (before ++ [e]).Perm d → space.key e.1 = key → found = some (write e.2)) :
    space.AgreeOn key d := by
  have hfound (e : String × α) (he : e ∈ d) (hkey : space.key e.1 = key) :
      found = some (write e.2) := by
    obtain ⟨before, after, rfl⟩ := List.append_of_mem he
    refine h (before ++ after) e ?_ hkey
    rw [List.append_assoc]
    exact (List.perm_append_singleton e after).append_left before
  intro e he f hf hekey hfkey
  exact hwrite _ _ (Option.some.inj ((hfound e he hekey).symm.trans (hfound f hf hfkey)))

end

theorem lookup_listed (m : Manifest) (key : String) :
    m.listed.reverse.lookup key =
      ((recordsOf .functionObjects .text m.functionObjects).reverse.lookup key).or
        (((recordsOf .titles .text m.titles).reverse.lookup key).or
          ((recordsOf .indexes .indexes m.indexes).reverse.lookup key)) := by
  rw [listed, List.reverse_append, List.reverse_append, List.lookup_append, List.lookup_append]

/-- **Which keys do not depend on the order**: those under which the manifest says one thing only. -/
theorem get?_relisted_iff (hok : (m.importInto files store).failure = none) (key : String) :
    (∀ m', m.Relists m' →
        (m'.importInto files store).store.tables.records.get? key =
          (m.importInto files store).store.tables.records.get? key) ↔
      m.AgreesOn key := by
  constructor
  · intro hsame
    generalize (m.importInto files store).store.tables.records.get? key = found at hsame
    -- any entry of a map may be the one that is visited last
    have hlast (m' : Manifest) (h : m.Relists m') {r : Record}
        (hr : m'.listed.reverse.lookup key = some r) : found = some r := by
      rw [← hsame m' h, get?_importInto (h.import_ok hok).1, hr, Option.some_or]
    refine ⟨agreeOn_of_concat (fun _ _ => Record.indexes.inj) found fun before e hp hkey => ?_,
      agreeOn_of_concat (fun _ _ => Record.text.inj) found fun before e hp hkey => ?_,
      agreeOn_of_concat (fun _ _ => Record.text.inj) found fun before e hp hkey => ?_⟩
    · refine hlast { m with indexes := before ++ [e] } ⟨rfl, rfl, hp, .refl _, .refl _⟩ ?_
      rw [lookup_listed, ← hkey, lookup_recordsOf_of_ne (by decide),
        lookup_recordsOf_of_ne (by decide), lookup_recordsOf_concat, Option.none_or, Option.none_or]
    · refine hlast { m with titles := before ++ [e] } ⟨rfl, rfl, .refl _, hp, .refl _⟩ ?_
      rw [lookup_listed, ← hkey, lookup_recordsOf_of_ne (by decide), lookup_recordsOf_concat,
        Option.none_or, Option.some_or]
    · refine hlast { m with functionObjects := before ++ [e] } ⟨rfl, rfl, .refl _, .refl _, hp⟩ ?_
      rw [lookup_listed, ← hkey, lookup_recordsOf_concat, Option.some_or]
  · intro hagrees m' h
    have hdocuments : m'.documents files = m.documents files := by
      rw [documents, documents, h.templates, h.reader_eq]
    rw [get?_importInto (h.import_ok hok).1, get?_importInto hok, hdocuments, lookup_listed,
      lookup_listed, lookup_recordsOf_of_perm h.indexes hagrees.indexes,
      lookup_recordsOf_of_perm h.titles hagrees.titles,
      lookup_recordsOf_of_perm h.functionObjects hagrees.functionObjects]

/-- An import keeps the records in order. -/
theorem isSorted_importInto (hok : (m.importInto files store).failure = none)
    (hsorted : store.tables.records.IsSorted) :
    (m.importInto files store).store.tables.records.IsSorted := by
  rw [store_importInto hok]
  exact Dictionary.isSorted_foldl _ hsorted

/-- **The whole store** does not depend on the order if and only if the manifest says one thing only
under every key. -/
theorem store_relisted_iff (hok : (m.importInto files store).failure = none)
    (hsorted : store.tables.records.IsSorted) :
    (∀ m', m.Relists m' →
        (m'.importInto files store).store = (m.importInto files store).store) ↔
      m.IsUnambiguous := by
  rw [← forall_agreesOn_iff]
  constructor
  · intro hsame key
    exact (get?_relisted_iff hok key).1 fun m' h =>
      congrArg (fun s : Store => s.tables.records.get? key) (hsame m' h)
  · intro hagrees m' h
    have hok' := (h.import_ok hok).1
    have hrecords : (m'.importInto files store).store.tables.records =
        (m.importInto files store).store.tables.records :=
      (isSorted_importInto hok' hsorted).ext (isSorted_importInto hok hsorted) fun key =>
        (get?_relisted_iff hok key).2 (hagrees key) m' h
    rw [store_importInto hok', store_importInto hok] at hrecords ⊢
    exact congrArg (fun records => { store with tables := ⟨records⟩ }) hrecords

end Manifest

/-! ### Imports compared -/

/-- **One manifest, visited in any two orders.**  If the import succeeds in one of them, it succeeds
in the other and counts the same.  Under a key all orders leave the same record if and only if all
entries of a kind with this key say the same.  They leave the same store if and only if this is so
for every key. -/
theorem import_in_any_order {m : Manifest} {files : FileTree} {store : Store}
    (hok : (m.importInto files store).failure = none) :
    (∀ m', m.Relists m' →
      (m'.importInto files store).failure = none ∧
        (m'.importInto files store).stats = (m.importInto files store).stats) ∧
    (∀ key,
      (∀ m', m.Relists m' →
        (m'.importInto files store).store.tables.records.get? key =
          (m.importInto files store).store.tables.records.get? key) ↔ m.AgreesOn key) ∧
    (store.tables.records.IsSorted →
      ((∀ m', m.Relists m' →
        (m'.importInto files store).store = (m.importInto files store).store) ↔
          m.IsUnambiguous)) :=
  ⟨fun _ h => h.import_ok hok, Manifest.get?_relisted_iff hok, Manifest.store_relisted_iff hok⟩

/-- Two names with one key that say the same. -/
theorem import_in_any_order_agreeing :
    let m : Manifest := { titles := [("AN8", "Address"), ("DSC1", "Text"), ("an8 ", "Address")] }
    let m' : Manifest := { titles := [("an8 ", "Address"), ("DSC1", "Text"), ("AN8", "Address")] }
    m.Relists m' ∧ (m.importInto {} {}).failure = none ∧
      (m'.importInto {} {}).store = (m.importInto {} {}).store := by
  intro m m'
  have hrelists : m.Relists m' := ⟨rfl, rfl, .refl _, by decide +kernel, .refl _⟩
  have hok : (m.importInto {} {}).failure = none :=
    Option.isNone_iff_eq_none.1 (by decide +kernel)
  have hone : m.IsUnambiguous := ⟨by decide +kernel, by decide +kernel, by decide +kernel⟩
  exact ⟨hrelists, hok,
    ((import_in_any_order hok).2.2 List.Pairwise.nil).2 hone m' hrelists⟩

/-- Two names with one key that do not: the title of the item is the one that is visited last. -/
theorem import_order_matters :
    let m : Manifest := { titles := [("AN8", "Address"), ("an8", "Customer")] }
    let m' : Manifest := { titles := [("an8", "Customer"), ("AN8", "Address")] }
    m.Relists m' ∧
      ((m.importInto {} {}).failure = none ∧ (m'.importInto {} {}).failure = none) ∧
      (m'.importInto {} {}).stats = (m.importInto {} {}).stats ∧
      (m.importInto {} {}).store.titles ["AN8"] = [("AN8", "Customer")] ∧
      (m'.importInto {} {}).store.titles ["AN8"] = [("AN8", "Address")] :=
  ⟨⟨rfl, rfl, .refl _, by decide +kernel, .refl _⟩,
    ⟨Option.isNone_iff_eq_none.1 (by decide +kernel),
      Option.isNone_iff_eq_none.1 (by decide +kernel)⟩,
    by decide +kernel, by decide +kernel, by decide +kernel⟩

end EventRules.Catalog
