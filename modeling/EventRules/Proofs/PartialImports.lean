/-
**Imports that stop halfway.**

An import puts the entries of a manifest one after the other: the templates as they are listed, then
the indexes, the titles and the modules.  It stops at the first entry with a fault: a document that
cannot be read or describes no template, a blank name, or a store that cannot be written to.  What
it has done then is what an import of the entries before would have done: their puts are applied and
counted, each for its kind, and nothing else is.

Whether an entry has a fault does not depend on what has been put before it: of the store it only
matters whether it is open for reading only, and puts keep that.

Main definitions:

* `Catalog.Entry.Fault` — **why an entry cannot be put**, and what is reported then;
* `Catalog.ImportStats.after` — the counts after puts;
* `Catalog.Ends`, `Catalog.Stops` — how an import ends, and **what it has done then**.

Main results:

* `Catalog.importEntry_error_iff` — when one entry fails, and how;
* `Catalog.Stops.stopped`, `Catalog.Stops.cons` — what one entry does to an import;
* `Catalog.exists_stops` — every import of entries stops so;
* `Catalog.import_stops_at_first_fault` — and so does every import of a manifest.
-/

import Mathlib.Data.List.Forall2
import EventRules.Proofs.Importing

set_option relaxedAutoImplicit false
set_option autoImplicit false

namespace EventRules.Catalog

/-! ### Faults of entries -/

/-- **Why an entry cannot be put into a store**, with the failure that is reported.  Of the store it
only matters whether it is open for reading only. -/
inductive Entry.Fault (read : String → Except Failure Bytes) (readOnly : Bool) :
    Entry → Failure → Prop
  /-- The template document cannot be read. -/
  | unreadable {path : String} {f : Failure} (h : read path = .error f) :
      Fault read readOnly (.template path) (.because ("failed to read template " ++ path) f)
  /-- It describes no template. -/
  | malformed {path : String} {document : Bytes} {f : Failure} (h : read path = .ok document)
      (ht : Template.parse "template" document = .error f) :
      Fault read readOnly (.template path) (.because ("template " ++ path) f)
  /-- The name of the table is blank. -/
  | table {table : String} (list : Option (List TableIndex)) (h : Text.trim table = "") :
      Fault read readOnly (.indexes table list) (blankName "table name")
  /-- The name of the data item is blank. -/
  | item {item : String} (text : String) (h : Text.trim item = "") :
      Fault read readOnly (.title item text) (blankName "data item")
  /-- The name of the template of the business function is blank. -/
  | owner {owner : String} (object : String) (h : Text.trim owner = "") :
      Fault read readOnly (.functionObject owner object) (blankName "template name")
  /-- There is nothing wrong with the entry, but the store cannot be written to. -/
  | store {e : Entry} {p : Put} (h : e.put read = .ok p) (hp : ¬ p.IsFaulty)
      (hs : readOnly = true) : Fault read readOnly e (e.blame readOnlyStore)

section

variable {read : String → Except Failure Bytes} {store store' : Store} {e : Entry} {f : Failure}

theorem Put.named_error_iff {space : Space} {what name : String} {record : Record} :
    Put.named space what name record = .error f ↔ Text.trim name = "" ∧ f = blankName what := by
  unfold Put.named
  by_cases hname : Text.trim name = ""
  · simp [hname, eq_comm]
  · simp [hname]

theorem Put.template_error_iff {document : Bytes} :
    (Put.template document).entry = .error f ↔ Template.parse "template" document = .error f := by
  rw [entry]
  cases Template.parse "template" document <;> simp [Except.map]

/-- A put is refused for a fault of its own, or else by the store. -/
theorem Store.put_error_iff {p : Put} :
    store.put p = .error f ↔
      p.entry = .error f ∨ ¬ p.IsFaulty ∧ store.readOnly = true ∧ f = readOnlyStore := by
  rw [← Put.exists_entry_iff]
  unfold put
  cases p.entry with
  | error g => simp
  | ok r => cases store.readOnly <;> simp [eq_comm]

/-- What the entry of a template puts is the document that it names. -/
theorem Entry.put_template_ok_iff {path : String} {p : Put} :
    (Entry.template path).put read = .ok p ↔
      ∃ document, read path = .ok document ∧ p = .template document := by
  rw [put]
  cases read path <;> simp [eq_comm]

theorem Entry.put_error_iff :
    e.put read = .error f ↔ ∃ path g, e = .template path ∧ read path = .error g ∧
      f = .because ("failed to read template " ++ path) g := by
  cases e with
  | template path =>
      rw [put]
      cases hread : read path <;> simp [hread, eq_comm]
  | _ => simp [put]

/-- An entry fails as its put does. -/
theorem importEntry_error_of_put {p : Put} (hput : e.put read = .ok p)
    (h : store.put p = .error f) : importEntry read store e = .error (e.blame f) := by
  rw [importEntry, hput]
  dsimp only
  rw [h]

/-- An entry with a blank name fails. -/
theorem importEntry_error_of_blank {p : Put} {space : Space} {what name : String}
    {record : Record} (hput : e.put read = .ok p) (hp : p.entry = Put.named space what name record)
    (h : Text.trim name = "") : importEntry read store e = .error (e.blame (blankName what)) := by
  have hentry : p.entry = .error (blankName what) := hp.trans (Put.named_error_iff.2 ⟨h, rfl⟩)
  exact importEntry_error_of_put hput (Store.put_error_iff.2 (.inl hentry))

/-- An entry with a fault fails. -/
theorem Entry.Fault.importEntry_error (h : e.Fault read store.readOnly f) :
    importEntry read store e = .error f := by
  cases h with
  | unreadable hread => rw [importEntry, put_error_iff.2 ⟨_, _, rfl, hread, rfl⟩]
  | malformed hread hparse =>
      exact importEntry_error_of_put (put_template_ok_iff.2 ⟨_, hread, rfl⟩)
        (Store.put_error_iff.2 (.inl (Put.template_error_iff.2 hparse)))
  | table list hblank => exact importEntry_error_of_blank rfl rfl hblank
  | item text hblank => exact importEntry_error_of_blank rfl rfl hblank
  | owner object hblank => exact importEntry_error_of_blank rfl rfl hblank
  | store hput hfaultless hreadOnly =>
      exact importEntry_error_of_put hput
        (Store.put_error_iff.2 (.inr ⟨hfaultless, hreadOnly, rfl⟩))

/-- An entry whose put has a fault of its own. -/
theorem Entry.fault_of_entry {p : Put} {readOnly : Bool} (hput : e.put read = .ok p)
    (h : p.entry = .error f) : e.Fault read readOnly (e.blame f) := by
  cases e with
  | template path =>
      obtain ⟨document, hread, rfl⟩ := put_template_ok_iff.1 hput
      exact .malformed hread (Put.template_error_iff.1 h)
  | indexes table list =>
      cases hput
      obtain ⟨hblank, rfl⟩ := Put.named_error_iff.1 h
      exact .table list hblank
  | title item text =>
      cases hput
      obtain ⟨hblank, rfl⟩ := Put.named_error_iff.1 h
      exact .item text hblank
  | functionObject owner object =>
      cases hput
      obtain ⟨hblank, rfl⟩ := Put.named_error_iff.1 h
      exact .owner object hblank

/-- **When an entry fails**, and how. -/
theorem importEntry_error_iff :
    importEntry read store e = .error f ↔ e.Fault read store.readOnly f := by
  refine ⟨fun h => ?_, Entry.Fault.importEntry_error⟩
  unfold importEntry at h
  split at h
  · rename_i g hput
    cases h
    obtain ⟨path, g, rfl, hread, rfl⟩ := Entry.put_error_iff.1 hput
    exact .unreadable hread
  · rename_i p hput
    split at h
    · rename_i g hstore
      cases h
      rcases Store.put_error_iff.1 hstore with hown | ⟨hfaultless, hreadOnly, rfl⟩
      · exact Entry.fault_of_entry hput hown
      · exact .store hput hfaultless hreadOnly
    · cases h

/-- **When an entry is put.** -/
theorem importEntry_ok_iff_put :
    importEntry read store e = .ok store' ↔ ∃ p, e.put read = .ok p ∧ store.put p = .ok store' := by
  unfold importEntry
  cases e.put read with
  | error g => simp
  | ok p => cases hp : store.put p <;> simp [hp]

/-- A put keeps a store open as it was. -/
theorem Store.readOnly_put {p : Put} (h : store.put p = .ok store') :
    store'.readOnly = store.readOnly := by
  obtain ⟨-, -, -, rfl⟩ := Store.put_ok h
  rfl

end

/-! ### Imports that stop -/

/-- **The counts after puts**, each counted for its kind. -/
def ImportStats.after (stats : ImportStats) (puts : List Put) : ImportStats where
  templates := stats.templates + puts.countP (·.space = .templates)
  tables := stats.tables + puts.countP (·.space = .indexes)
  titles := stats.titles + puts.countP (·.space = .titles)
  functionObjects := stats.functionObjects + puts.countP (·.space = .functionObjects)

/-- **How an import ends** that has these entries left: at the first one of them, which has a fault,
or because there are none. -/
inductive Ends (read : String → Except Failure Bytes) (readOnly : Bool) :
    List Entry → Option Failure → Prop
  /-- No entry is left. -/
  | complete : Ends read readOnly [] none
  /-- The first one left has a fault. -/
  | stopped {e : Entry} {f : Failure} (h : e.Fault read readOnly f) (rest : List Entry) :
      Ends read readOnly (e :: rest) (some f)

/-- **What an import has done** that has put the entries `done` into a store, with these counts
before, and has left the entries `left`. -/
structure Stops (read : String → Except Failure Bytes) (store : Store) (stats : ImportStats)
    (done left : List Entry) (i : Imported) : Prop where
  /-- The puts of the entries before are applied, one after the other, and counted. -/
  applied : ∃ puts, List.Forall₂ (fun e p => e.put read = .ok p) done puts ∧
    puts.foldlM Store.put store = .ok i.store ∧ i.stats = stats.after puts
  /-- None of them has a fault. -/
  faultless : ∀ e ∈ done, ∀ f, ¬ e.Fault read store.readOnly f
  /-- The first one left has, if there is one, and is reported. -/
  ends : Ends read store.readOnly left i.failure
  /-- What is left has no effect. -/
  alone : importEntries read done store stats = { i with failure := none }

section

variable {read : String → Except Failure Bytes} {store store' : Store} {stats : ImportStats}
  {done left : List Entry} {e : Entry} {f : Failure}

/-- An entry is counted for the kind of its put. -/
theorem after_count {p : Put} (h : e.put read = .ok p) (puts : List Put) :
    (stats.count e).after puts = stats.after (p :: puts) := by
  have hspace : ∀ space, (p :: puts).countP (·.space = space) =
      puts.countP (·.space = space) + if p.space = space then 1 else 0 := by
    intro space
    simp [List.countP_cons]
  simp only [ImportStats.after, hspace]
  cases e with
  | template path =>
      obtain ⟨document, -, rfl⟩ := Entry.put_template_ok_iff.1 h
      simp [ImportStats.count, Put.space]
      omega
  | indexes table list =>
      cases h
      simp [ImportStats.count, Put.space]
      omega
  | title item text =>
      cases h
      simp [ImportStats.count, Put.space]
      omega
  | functionObject owner object =>
      cases h
      simp [ImportStats.count, Put.space]
      omega

/-- An import without entries. -/
theorem Stops.nil : Stops read store stats [] [] ⟨store, stats, none⟩ where
  applied := ⟨[], .nil, rfl, rfl⟩
  faultless := nofun
  ends := .complete
  alone := rfl

/-- An import whose first entry has a fault. -/
theorem Stops.stopped (h : e.Fault read store.readOnly f) (rest : List Entry) :
    Stops read store stats [] (e :: rest) ⟨store, stats, some f⟩ where
  applied := ⟨[], .nil, rfl, rfl⟩
  faultless := nofun
  ends := .stopped h rest
  alone := rfl

/-- **One more entry** before those of an import. -/
theorem Stops.cons {i : Imported} (he : importEntry read store e = .ok store')
    (h : Stops read store' (stats.count e) done left i) :
    Stops read store stats (e :: done) left i := by
  obtain ⟨p, hput, hstore⟩ := importEntry_ok_iff_put.1 he
  obtain ⟨⟨puts, hputs, happlied, hstats⟩, hfaultless, hends, halone⟩ := h
  rw [Store.readOnly_put hstore] at hfaultless hends
  have hnone (f : Failure) : ¬ e.Fault read store.readOnly f := by
    intro hf
    rw [hf.importEntry_error] at he
    cases he
  refine ⟨⟨p :: puts, .cons hput hputs, ?_, hstats.trans (after_count hput puts)⟩,
    List.forall_mem_cons.2 ⟨hnone, hfaultless⟩, hends, ?_⟩
  · rw [List.foldlM_cons, hstore]
    exact happlied
  · rw [importEntries, he]
    exact halone

/-- **Every import puts the entries before the first one with a fault**, and stops there. -/
theorem exists_stops (entries : List Entry) (store : Store) (stats : ImportStats) :
    ∃ done left, entries = done ++ left ∧
      Stops read store stats done left (importEntries read entries store stats) := by
  induction entries generalizing store stats with
  | nil => exact ⟨[], [], rfl, .nil⟩
  | cons e rest ih =>
      rw [importEntries]
      cases he : importEntry read store e with
      | error f => exact ⟨[], e :: rest, rfl, .stopped (importEntry_error_iff.1 he) rest⟩
      | ok store' =>
          obtain ⟨done, left, rfl, hstops⟩ := ih store' (stats.count e)
          exact ⟨e :: done, left, rfl, hstops.cons he⟩

end

/-- **An import is a prefix of the puts of its entries.**  In whatever order the maps of a manifest
are visited, its entries come in the order of their kinds, the templates as they are listed.  The
puts of those before the first entry with a fault are applied and counted, and the others have no
effect; if no entry has a fault, all are. -/
theorem import_stops_at_first_fault {m m' : Manifest} (h : m.Relists m') (files : FileTree)
    (store : Store) :
    ∃ done left,
      m.templates.map .template ++ m'.indexes.map (fun e => .indexes e.1 e.2) ++
          m'.titles.map (fun e => .title e.1 e.2) ++
          m'.functionObjects.map (fun e => .functionObject e.1 e.2) = done ++ left ∧
        Stops (m.reader files) store {} done left (m'.importInto files store) := by
  rw [← h.templates, ← h.reader_eq]
  exact exists_stops m'.entries store {}

/-- A title without a name: the template before it is in the store, and so is the title that comes
before it if the titles are visited the other way round. -/
theorem import_stops_at_first_fault_blank :
    let m : Manifest :=
      { templates := ["/a.xml"]
        titles := [("AN8", "Address"), (" ", "Nothing"), ("DSC1", "Text")] }
    let m' : Manifest :=
      { templates := ["/a.xml"]
        titles := [("DSC1", "Text"), (" ", "Nothing"), ("AN8", "Address")] }
    let files : FileTree := { entries := [("/a.xml", .file "<T szTmplName='D1'/>".toUTF8.toList)] }
    m.Relists m' ∧
      (∃ done left,
        m.templates.map .template ++ m'.indexes.map (fun e => .indexes e.1 e.2) ++
            m'.titles.map (fun e => .title e.1 e.2) ++
            m'.functionObjects.map (fun e => .functionObject e.1 e.2) = done ++ left ∧
          Stops (m.reader files) {} {} done left (m'.importInto files {})) ∧
      (m'.importInto files {}).stats = ⟨1, 0, 1, 0⟩ ∧
      (m'.importInto files {}).failure.isSome = true ∧
      (m'.importInto files {}).store.titles ["AN8", "DSC1"] = [("DSC1", "Text")] := by
  intro m m' files
  have hrelists : m.Relists m' := ⟨rfl, rfl, .refl _, by decide +kernel, .refl _⟩
  refine ⟨hrelists, import_stops_at_first_fault hrelists files {}, ?_⟩
  decide +kernel

end EventRules.Catalog
