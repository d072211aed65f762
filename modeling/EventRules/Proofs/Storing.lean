/-
**A store is four maps.**

All records of a store are in one dictionary, and their keys are made of a word for the kind and of
the key of a name, whatever characters that has.  Still each kind is a map of its own: the words
differ in their first letters, so no key of one kind is one of another, and a word cut off a key
leaves the key of the name.

What a store answers is therefore said by the puts that it has accepted: the last one of its own
kind with the same key counts, and the others do not matter.  One put says what its key has
afterwards, and a run of puts follows by induction.

Main definitions:

* `Catalog.Kind` — a kind of entries, with its puts and its records;
* `Catalog.Kind.lastPut?` — **the last value** that puts give to a key;
* `Catalog.Store.accepted` — the puts of a run that are not refused;
* `Catalog.Store.Remembers` — **a store that answers by its puts**.

Main results:

* `Catalog.Space.start_append_inj` — the keys of a store say their kind;
* `Catalog.Kind.get?_put`, `Catalog.Kind.get?_putAll` — a record after one put, and after a run;
* `Catalog.Store.put_refused_iff` — when a put is refused;
* `Catalog.Store.remembers_putAll` — **every store answers by its puts**.
-/

import EventRules.Catalog.Store
import EventRules.Proofs.Dictionaries
import EventRules.Proofs.Keys
import EventRules.Proofs.Reading

set_option relaxedAutoImplicit false
set_option autoImplicit false

namespace EventRules

/-- The label of a template document only shows in the wording of a failure. -/
theorem Template.toOption_parse (label label' : String) (doc : Bytes) :
    (Template.parse label doc).toOption = (Template.parse label' doc).toOption := by
  unfold Template.parse
  split
  · rfl
  · unfold Template.ofNode
    split
    · rfl
    · dsimp only
      split <;> rfl

namespace Catalog

/-! ### Keys -/

/-- **The keys of a store say their kind.** -/
theorem Space.start_append_inj {space space' : Space} {key key' : String}
    (h : space.start ++ key = space'.start ++ key') : space = space' ∧ key = key' := by
  have hchars : space.start.toList ++ key.toList = space'.start.toList ++ key'.toList := by
    rw [← String.toList_append, h, String.toList_append]
  have hspace : space = space' := by
    cases space <;> cases space' <;> first | rfl | cases hchars
  subst hspace
  exact ⟨rfl, String.toList_inj.1 (List.append_cancel_left hchars)⟩

/-! ### Entries -/

namespace Put

/-- The kind of an entry. -/
def space : Put → Space
  | .template _ => .templates
  | .indexes _ _ => .indexes
  | .title _ _ => .titles
  | .functionObject _ _ => .functionObjects

/-- **An entry that cannot be put into any store**: its template is malformed, or its name is
blank. -/
def IsFaulty : Put → Prop
  | .template document => (Template.parse "template" document).toOption = none
  | .indexes table _ => Text.trim table = ""
  | .title item _ => Text.trim item = ""
  | .functionObject owner _ => Text.trim owner = ""

variable {p : Put} {e : String × Record}

theorem named_ok_iff {space : Space} {what name : String} {record : Record} :
    named space what name record = .ok e ↔ Text.trim name ≠ "" ∧ e = (space.key name, record) := by
  unfold named
  by_cases hname : Text.trim name = ""
  · simp [hname]
  · simp [hname, eq_comm]

theorem template_ok_iff {document : Bytes} :
    (template document).entry = .ok e ↔ ∃ t, Template.parse "template" document = .ok t ∧
      e = (Space.templates.key t.name, .document document) := by
  rw [entry]
  cases Template.parse "template" document with
  | error f => simp [Except.map]
  | ok t => simp [Except.map, eq_comm]

/-- The key of an entry is one of its kind. -/
theorem exists_key (h : p.entry = .ok e) : ∃ name, e.1 = p.space.key name := by
  cases p with
  | template document =>
      obtain ⟨t, -, rfl⟩ := template_ok_iff.1 h
      exact ⟨t.name, rfl⟩
  | indexes table list => exact ⟨table, congrArg Prod.fst (named_ok_iff.1 h).2⟩
  | title item text => exact ⟨item, congrArg Prod.fst (named_ok_iff.1 h).2⟩
  | functionObject owner object => exact ⟨owner, congrArg Prod.fst (named_ok_iff.1 h).2⟩

/-- So it is no key of another kind. -/
theorem key_ne (h : p.entry = .ok e) {space : Space} (hspace : p.space ≠ space) (key : String) :
    e.1 ≠ space.start ++ key := by
  obtain ⟨name, hname⟩ := exists_key h
  intro heq
  exact hspace (Space.start_append_inj (hname.symm.trans heq)).1

/-- An entry has a record unless it is faulty. -/
theorem exists_entry_iff : (∃ e, p.entry = .ok e) ↔ ¬ p.IsFaulty := by
  cases p with
  | template document =>
      rw [entry, IsFaulty]
      cases Template.parse "template" document with
      | error f => simp [Except.map, Except.toOption]
      | ok t => simp [Except.map, Except.toOption]
  | indexes table list => simp [entry, named_ok_iff, IsFaulty]
  | title item text => simp [entry, named_ok_iff, IsFaulty]
  | functionObject owner object => simp [entry, named_ok_iff, IsFaulty]

end Put

/-! ### Kinds -/

/-- **A kind of entries**, with its puts and its records. -/
structure Kind (α : Type) where
  /-- Where its records are. -/
  space : Space
  /-- The record of a value. -/
  write : α → Record
  /-- The value of a record. -/
  read : Record → Option α
  /-- The name and the value of a put of this kind. -/
  given : Put → Option (String × α)
  /-- A record is read as it was written. -/
  read_write : ∀ a, read (write a) = some a
  /-- A put of this kind is written under the key of its name. -/
  entry_of_given : ∀ {p name a e}, given p = some (name, a) → p.entry = .ok e →
    e = (space.key name, write a)
  /-- All other puts are written elsewhere. -/
  key_of_not_given : ∀ {p e}, given p = none → p.entry = .ok e → ∀ key, e.1 ≠ space.start ++ key

namespace Kind

/-- Template documents, under the names that they give themselves. -/
def templates : Kind Bytes where
  space := .templates
  write := .document
  read := Record.document?
  given
    | .template document =>
        (Template.parse "template" document).toOption.map fun t => (t.name, document)
    | _ => none
  read_write _ := rfl
  entry_of_given {p name a e} hp he := by
    cases p with
    | template document =>
        obtain ⟨t, ht, rfl⟩ := Put.template_ok_iff.1 he
        dsimp only at hp
        rw [ht] at hp
        cases hp
        rfl
    | _ => cases hp
  key_of_not_given {p e} hp he := by
    cases p with
    | template document =>
        obtain ⟨t, ht, rfl⟩ := Put.template_ok_iff.1 he
        dsimp only at hp
        rw [ht] at hp
        cases hp
    | _ => exact Put.key_ne he nofun

/-- The indexes of tables. -/
def indexes : Kind (Option (List TableIndex)) where
  space := .indexes
  write := .indexes
  read := Record.indexes?
  given
    | .indexes table list => some (table, list)
    | _ => none
  read_write _ := rfl
  entry_of_given {p name a e} hp he := by
    cases p with
    | indexes table list =>
        cases hp
        exact (Put.named_ok_iff.1 he).2
    | _ => cases hp
  key_of_not_given {p e} hp he := by
    cases p with
    | indexes table list => cases hp
    | _ => exact Put.key_ne he nofun

/-- The titles of data items. -/
def titles : Kind String where
  space := .titles
  write := .text
  read := Record.text?
  given
    | .title item text => some (item, text)
    | _ => none
  read_write _ := rfl
  entry_of_given {p name a e} hp he := by
    cases p with
    | title item text =>
        cases hp
        exact (Put.named_ok_iff.1 he).2
    | _ => cases hp
  key_of_not_given {p e} hp he := by
    cases p with
    | title item text => cases hp
    | _ => exact Put.key_ne he nofun

/-- The modules of business functions, under the names of their templates. -/
def functionObjects : Kind String where
  space := .functionObjects
  write := .text
  read := Record.text?
  given
    | .functionObject owner object => some (owner, object)
    | _ => none
  read_write _ := rfl
  entry_of_given {p name a e} hp he := by
    cases p with
    | functionObject owner object =>
        cases hp
        exact (Put.named_ok_iff.1 he).2
    | _ => cases hp
  key_of_not_given {p e} hp he := by
    cases p with
    | functionObject owner object => cases hp
    | _ => exact Put.key_ne he nofun

variable {α : Type} (k : Kind α)

/-- The value that a put gives to a key. -/
def valueFor? (key : String) (p : Put) : Option α :=
  (k.given p).bind fun given => if catalogKey given.1 = key then some given.2 else none

/-- **The last value that puts give to a key.** -/
def lastPut? (key : String) (done : List Put) : Option α :=
  done.reverse.findSome? (k.valueFor? key)

/-- What a store answers that has accepted these puts. -/
def answer (done : List Put) (name : String) : Except Failure α :=
  match k.lastPut? (catalogKey name) done with
  | some a => .ok a
  | none => .error (Store.notFound (k.space.key name))

theorem lastPut?_append (key : String) (done more : List Put) :
    k.lastPut? key (done ++ more) = (k.lastPut? key more).or (k.lastPut? key done) := by
  rw [lastPut?, List.reverse_append, List.findSome?_append]
  rfl

theorem lastPut?_cons (key : String) (p : Put) (done : List Put) :
    k.lastPut? key (p :: done) = (k.lastPut? key done).or (k.valueFor? key p) := by
  have hone : k.lastPut? key [p] = k.valueFor? key p := List.findSome?_singleton
  rw [← hone]
  exact k.lastPut?_append key [p] done

end Kind

/-! ### Puts -/

variable {α : Type}

theorem Store.put_ok {store store' : Store} {p : Put} (h : store.put p = .ok store') :
    ∃ e, p.entry = .ok e ∧ store.readOnly = false ∧
      store' = { store with tables := ⟨store.tables.records.insert e.1 e.2⟩ } := by
  unfold put at h
  split at h
  · cases h
  · rename_i key record he
    split at h
    · cases h
    · rename_i hwritable
      cases h
      exact ⟨(key, record), he, by simpa using hwritable, rfl⟩

/-- **When a put is refused**: if the store is open for reading only, or if the put is faulty. -/
theorem Store.put_refused_iff {store : Store} {p : Put} :
    (∃ f, store.put p = .error f) ↔ store.readOnly = true ∨ p.IsFaulty := by
  rw [← not_iff_not, not_or, ← Put.exists_entry_iff, Bool.not_eq_true]
  unfold put
  cases p.entry with
  | error f => simp
  | ok e => cases store.readOnly <;> simp

/-- **A record after one put**: that of the put, if it is of the kind and has this key. -/
theorem Kind.get?_put (k : Kind α) {store store' : Store} {p : Put}
    (h : store.put p = .ok store') (key : String) :
    store'.tables.records.get? (k.space.start ++ key) =
      ((k.valueFor? key p).map k.write).or (store.tables.records.get? (k.space.start ++ key)) := by
  obtain ⟨e, he, -, rfl⟩ := Store.put_ok h
  unfold valueFor?
  cases hp : k.given p with
  | none =>
      have hne : k.space.start ++ key ≠ e.1 := (k.key_of_not_given hp he key).symm
      exact Dictionary.get?_insert_of_ne _ _ hne
  | some given =>
      obtain ⟨name, a⟩ := given
      obtain rfl := k.entry_of_given hp he
      by_cases hkey : catalogKey name = key
      · subst hkey
        rw [Option.bind_some, if_pos rfl]
        exact Dictionary.get?_insert_self _ _ _
      · have hne : k.space.start ++ key ≠ k.space.key name := by
          intro heq
          exact hkey (Space.start_append_inj heq).2.symm
        rw [Option.bind_some, if_neg hkey]
        exact Dictionary.get?_insert_of_ne _ _ hne

namespace Store

/-- **The puts of a run that are not refused**, in their order. -/
def accepted (store : Store) : List Put → List Put
  | [] => []
  | p :: puts =>
      match store.put p with
      | .ok store' => p :: store'.accepted puts
      | .error _ => store.accepted puts

theorem putAll_cons (store : Store) (p : Put) (puts : List Put) :
    store.putAll (p :: puts) = ((store.put p).toOption.getD store).putAll puts := rfl

end Store

/-- **A record after a run.** -/
theorem Kind.get?_putAll (k : Kind α) (store : Store) (puts : List Put) (key : String) :
    (store.putAll puts).tables.records.get? (k.space.start ++ key) =
      ((k.lastPut? key (store.accepted puts)).map k.write).or
        (store.tables.records.get? (k.space.start ++ key)) := by
  induction puts generalizing store with
  | nil => rfl
  | cons p puts ih =>
      rw [Store.putAll_cons, Store.accepted]
      cases hp : store.put p with
      | error f => exact ih store
      | ok store' =>
          rw [lastPut?_cons, Option.map_or, Option.or_assoc, ← k.get?_put hp]
          exact ih store'

/-! ### Answers -/

section

variable (readOnly : Bool) (puts : List Put)

/-- What a store that was empty has of a kind after a run. -/
theorem Kind.lookup?_putAll (k : Kind α) (key : String) :
    (Store.putAll { readOnly := readOnly } puts).lookup? k.space k.read key =
      k.lastPut? key (Store.accepted { readOnly := readOnly } puts) := by
  rw [Store.lookup?, k.get?_putAll]
  cases k.lastPut? key (Store.accepted { readOnly := readOnly } puts) with
  | none => rfl
  | some a => exact k.read_write a

theorem Kind.find_putAll (k : Kind α) (name : String) :
    (Store.putAll { readOnly := readOnly } puts).find k.space k.read name =
      k.answer (Store.accepted { readOnly := readOnly } puts) name := by
  rw [Store.find, k.lookup?_putAll]
  rfl

end

/-- A put that gives a value to a key. -/
theorem Kind.exists_of_lastPut? (k : Kind α) {key : String} {done : List Put} {a : α}
    (h : k.lastPut? key done = some a) :
    ∃ p ∈ done, ∃ name, k.given p = some (name, a) ∧ catalogKey name = key := by
  obtain ⟨p, hp, hvalue⟩ := List.exists_of_findSome?_eq_some h
  obtain ⟨⟨name, b⟩, hgiven, hb⟩ := Option.bind_eq_some_iff.1 hvalue
  split at hb
  · rename_i hkey
    cases hb
    exact ⟨p, List.mem_reverse.1 hp, name, hgiven, hkey⟩
  · cases hb

/-- There is a last value if and only if some put gives one. -/
theorem Kind.isSome_lastPut?_iff (k : Kind α) {key : String} {done : List Put} :
    (k.lastPut? key done).isSome = true ↔
      ∃ p ∈ done, ∃ name a, k.given p = some (name, a) ∧ catalogKey name = key := by
  constructor
  · intro h
    obtain ⟨a, ha⟩ := Option.isSome_iff_exists.1 h
    obtain ⟨p, hp, name, hgiven, hkey⟩ := k.exists_of_lastPut? ha
    exact ⟨p, hp, name, a, hgiven, hkey⟩
  · rintro ⟨p, hp, name, a, hgiven, hkey⟩
    refine List.findSome?_isSome_iff.2 ⟨p, List.mem_reverse.2 hp, ?_⟩
    rw [valueFor?, hgiven, Option.bind_some, if_pos hkey]
    rfl

theorem Kind.given_templates {p : Put} {name : String} {document : Bytes}
    (h : Kind.templates.given p = some (name, document)) :
    p = .template document ∧
      ∃ t, Template.parse "template" document = .ok t ∧ t.name = name := by
  cases p with
  | template document' =>
      obtain ⟨t, ht, he⟩ := Option.map_eq_some_iff.1 h
      cases he
      exact ⟨rfl, t, Except.eq_ok_of_toOption ht, rfl⟩
  | _ => cases h

/-- Titles that are added to others. -/
theorem Store.get?_foldl_titles (store : Store) (items : List String) (d : Dictionary String)
    (item : String) :
    Dictionary.get? ((items.filterMap fun item =>
        (store.title? (catalogKey item)).map (item, ·)).foldl
          (fun d e => d.insert e.1 e.2) d) item =
      if item ∈ items then (store.title? (catalogKey item)).or (d.get? item)
      else d.get? item := by
  induction items generalizing d with
  | nil => rfl
  | cons first rest ih =>
      rw [List.filterMap_cons]
      cases ht : store.title? (catalogKey first) with
      | none =>
          simp only [Option.map_none]
          rw [ih]
          by_cases hi : item = first
          · subst hi
            simp [ht]
          · simp [hi]
      | some t =>
          simp only [Option.map_some, List.foldl_cons]
          rw [ih]
          by_cases hi : item = first
          · subst hi
            simp [ht, Dictionary.get?_insert_self]
          · simp [hi, Dictionary.get?_insert_of_ne]

/-- The titles that are found. -/
theorem Store.get?_titles (store : Store) (items : List String) (item : String) :
    (store.titles items).get? item =
      if item ∈ items then store.title? (catalogKey item) else none := by
  rw [titles, Dictionary.ofList, get?_foldl_titles, Dictionary.get?_nil, Option.or_none]

/-! ### Listing -/

namespace Store

theorem templateKey?_eq_some_iff {key rest : String} :
    templateKey? key = some rest ↔ key = Space.templates.start ++ rest := by
  rw [templateKey?, Option.map_eq_some_iff]
  constructor
  · rintro ⟨cs, hcs, rfl⟩
    refine String.toList_inj.1 ?_
    rw [Text.strip?_eq_some_iff.1 hcs, String.toList_append, String.toList_ofList]
  · rintro rfl
    exact ⟨rest.toList, Text.strip?_eq_some_iff.2 String.toList_append, String.ofList_toList⟩

/-- **The names of templates are those of the records.** -/
theorem mem_templateNames_iff {store : Store} {key : String} :
    key ∈ store.templateNames ↔
      (store.tables.records.get? (Space.templates.start ++ key)).isSome = true := by
  rw [Dictionary.isSome_get?_iff, templateNames, List.mem_filterMap]
  constructor
  · rintro ⟨k, hk, hrest⟩
    rwa [← templateKey?_eq_some_iff.1 hrest]
  · intro hk
    exact ⟨_, hk, templateKey?_eq_some_iff.2 rfl⟩

/-- Without the word before them, keys are in the same order. -/
theorem lt_of_start_append_lt {start s t : String} (h : start ++ s < start ++ t) : s < t := by
  rw [String.lt_iff, String.toList_append, String.toList_append] at h
  rw [String.lt_iff]
  generalize start.toList = word at h
  induction word with
  | nil => exact h
  | cons c cs ih =>
      rcases List.cons_lt_cons_iff.1 h with hlt | ⟨-, hlt⟩
      · exact absurd hlt (Char.lt_irrefl c)
      · exact ih hlt

theorem isSorted_put {store store' : Store} {p : Put} (h : store.put p = .ok store')
    (hs : store.tables.records.IsSorted) : store'.tables.records.IsSorted := by
  obtain ⟨e, -, -, rfl⟩ := put_ok h
  exact hs.insert e.1 e.2

theorem isSorted_putAll {store : Store} (puts : List Put)
    (hs : store.tables.records.IsSorted) : (store.putAll puts).tables.records.IsSorted := by
  induction puts generalizing store with
  | nil => exact hs
  | cons p puts ih =>
      rw [putAll_cons]
      cases hp : store.put p with
      | error f => exact ih hs
      | ok store' => exact ih (isSorted_put hp hs)

/-- **Templates are listed in the order of their bytes.** -/
theorem templateNames_ascending {store : Store} (hs : store.tables.records.IsSorted) :
    (store.templateNames.map Utf8.encode).Pairwise (· < ·) := by
  rw [List.pairwise_map, templateNames, List.pairwise_filterMap, Dictionary.keys, List.pairwise_map]
  refine hs.imp ?_
  intro a b hlt s hs t ht
  rw [templateKey?_eq_some_iff.1 hs, templateKey?_eq_some_iff.1 ht] at hlt
  exact Utf8.encode_lt (lt_of_start_append_lt hlt)

/-- **A store that answers by its puts**, of which `done` have been accepted. -/
structure Remembers (store : Store) (done : List Put) : Prop where
  /-- Template documents are given back as they were put in. -/
  templateDocument : ∀ name, store.templateDocument name = Kind.templates.answer done name
  /-- A template is that of its document. -/
  template : ∀ name document, Kind.templates.lastPut? (catalogKey name) done = some document →
    ∃ t, Template.parse "template" document = .ok t ∧ catalogKey t.name = catalogKey name ∧
      store.template name = .ok t
  /-- Other templates are not found. -/
  no_template : ∀ name, Kind.templates.lastPut? (catalogKey name) done = none →
    store.template name = .error (notFound (Space.templates.key name))
  /-- The indexes of tables, absent ones and empty ones told apart. -/
  indexes : ∀ table, store.indexes table = Kind.indexes.answer done table
  /-- The titles of data items, for those that were asked for. -/
  titles : ∀ items item, (store.titles items).get? item =
    if item ∈ items then Kind.titles.lastPut? (catalogKey item) done else none
  /-- The modules of business functions. -/
  functionObject : ∀ template,
    store.functionObject template = Kind.functionObjects.answer done template
  /-- A put is refused if the store is open for reading only or the put is faulty, and not else. -/
  refused_iff : ∀ p, (∃ f, store.put p = .error f) ↔ store.readOnly = true ∨ p.IsFaulty
  /-- A refused put changes nothing. -/
  refused : ∀ p f, store.put p = .error f → store.putAll [p] = store
  /-- Templates are listed in the order of their bytes, each once. -/
  ascending : (store.templateNames.map Utf8.encode).Pairwise (· < ·)
  /-- The keys of the templates that were put in are listed. -/
  mem_names_iff : ∀ key, key ∈ store.templateNames ↔
    ∃ document t, .template document ∈ done ∧ Template.parse "template" document = .ok t ∧
      catalogKey t.name = key
  /-- Each key that is listed gives a template with that key. -/
  listed : ∀ key ∈ store.templateNames, ∃ t, store.template key = .ok t ∧ catalogKey t.name = key

/-- The template of a document that can be read. -/
theorem template_of_document {store : Store} {name : String} {document : Bytes} {t : Template}
    (hdocument : store.templateDocument name = .ok document)
    (ht : Template.parse "template" document = .ok t) : store.template name = .ok t := by
  have hparse : Template.parse name document = .ok t := by
    refine Except.eq_ok_of_toOption ?_
    rw [Template.toOption_parse name "template", ht]
    rfl
  rw [template, hdocument]
  exact hparse

/-- The keys that have a document are those of the templates that were put in. -/
theorem isSome_lastPut?_templates_iff {key : String} {done : List Put} :
    (Kind.templates.lastPut? key done).isSome = true ↔
      ∃ document t, .template document ∈ done ∧ Template.parse "template" document = .ok t ∧
        catalogKey t.name = key := by
  rw [Kind.isSome_lastPut?_iff]
  constructor
  · rintro ⟨p, hp, name, document, hgiven, hkey⟩
    obtain ⟨rfl, t, ht, rfl⟩ := Kind.given_templates hgiven
    exact ⟨document, t, hp, ht, hkey⟩
  · rintro ⟨document, t, hp, ht, hkey⟩
    refine ⟨_, hp, t.name, document, ?_, hkey⟩
    exact congrArg (fun parsed => parsed.toOption.map fun t => (t.name, document)) ht

section

variable (readOnly : Bool) (puts : List Put)

theorem template_putAll {name : String} {document : Bytes}
    (h : Kind.templates.lastPut? (catalogKey name) (accepted { readOnly := readOnly } puts) =
      some document) :
    ∃ t, Template.parse "template" document = .ok t ∧ catalogKey t.name = catalogKey name ∧
      (putAll { readOnly := readOnly } puts).template name = .ok t := by
  obtain ⟨p, -, name', hgiven, hkey⟩ := Kind.templates.exists_of_lastPut? h
  obtain ⟨-, t, ht, rfl⟩ := Kind.given_templates hgiven
  refine ⟨t, ht, hkey, template_of_document ?_ ht⟩
  exact (Kind.templates.find_putAll readOnly puts name).trans (by rw [Kind.answer, h])

theorem template_putAll_none {name : String}
    (h : Kind.templates.lastPut? (catalogKey name) (accepted { readOnly := readOnly } puts) =
      none) :
    (putAll { readOnly := readOnly } puts).template name =
      .error (notFound (Space.templates.key name)) := by
  have hdocument : (putAll { readOnly := readOnly } puts).templateDocument name =
      .error (notFound (Space.templates.key name)) :=
    (Kind.templates.find_putAll readOnly puts name).trans (by rw [Kind.answer, h]; rfl)
  rw [template, hdocument]
  rfl

theorem titles_putAll (items : List String) (item : String) :
    ((putAll { readOnly := readOnly } puts).titles items).get? item =
      if item ∈ items then
        Kind.titles.lastPut? (catalogKey item) (accepted { readOnly := readOnly } puts)
      else none := by
  rw [get?_titles, title?]
  exact congrArg (if item ∈ items then · else none)
    (Kind.titles.lookup?_putAll readOnly puts (catalogKey item))

theorem mem_templateNames_putAll (key : String) :
    key ∈ (putAll { readOnly := readOnly } puts).templateNames ↔
      (Kind.templates.lastPut? key (accepted { readOnly := readOnly } puts)).isSome = true := by
  have hget : (putAll { readOnly := readOnly } puts).tables.records.get?
      (Space.templates.start ++ key) =
        (Kind.templates.lastPut? key (accepted { readOnly := readOnly } puts)).map
          Record.document :=
    (Kind.templates.get?_putAll { readOnly := readOnly } puts key).trans Option.or_none
  rw [mem_templateNames_iff, hget, Option.isSome_map]

/-- A listed key is that of a name, and so its own key. -/
theorem template_of_mem_templateNames {key : String}
    (h : key ∈ (putAll { readOnly := readOnly } puts).templateNames) :
    ∃ t, (putAll { readOnly := readOnly } puts).template key = .ok t ∧
      catalogKey t.name = key := by
  obtain ⟨document, hlast⟩ :=
    Option.isSome_iff_exists.1 ((mem_templateNames_putAll readOnly puts key).1 h)
  obtain ⟨-, -, name, -, rfl⟩ := Kind.templates.exists_of_lastPut? hlast
  rw [← catalogKey_catalogKey] at hlast
  obtain ⟨t, -, ht, hfound⟩ := template_putAll readOnly puts hlast
  exact ⟨t, hfound, ht.trans (catalogKey_catalogKey name)⟩

end

/-- **Every store answers by its puts.** -/
theorem remembers_putAll (readOnly : Bool) (puts : List Put) :
    (putAll { readOnly := readOnly } puts).Remembers (accepted { readOnly := readOnly } puts) where
  templateDocument := Kind.templates.find_putAll readOnly puts
  template name document := template_putAll readOnly puts
  no_template name := template_putAll_none readOnly puts
  indexes := Kind.indexes.find_putAll readOnly puts
  titles := titles_putAll readOnly puts
  functionObject := Kind.functionObjects.find_putAll readOnly puts
  refused_iff p := put_refused_iff
  refused p f hp := by
    rw [putAll_cons, hp]
    rfl
  ascending := templateNames_ascending (isSorted_putAll puts List.Pairwise.nil)
  mem_names_iff key := by
    rw [mem_templateNames_putAll]
    exact isSome_lastPut?_templates_iff
  listed key := template_of_mem_templateNames readOnly puts

/-- The same name in two kinds, and a blank name. -/
example :
    let store := putAll {} [.title " a/b" "x", .functionObject "A/B" "B1", .title "A/b " "y",
      .indexes " " none, .indexes "a/b" (some [])]
    store.titles ["a/B", "c"] = [("a/B", "y")] ∧
      (store.functionObject "a/b").toOption = some "B1" ∧
      (store.indexes "A/B").toOption = some (some []) ∧
      (store.indexes "").toOption = none ∧ store.templateNames = [] := by
  decide +kernel

end Store

end Catalog

end EventRules
