/-
**Caches tell nothing that the source has not said.**

A source may change its mind at any time.  What a cache in front of it answers is then not always
what the source would answer now, but it is always something that the source has said, to the same
kind of question about a name with the same key, and since the caches were emptied.

To say this, the source is *recorded*: whatever it is asked is taken down with the answer it gave.
The record is kept on the side of the source, so that it does not depend on what the caches do.  The
invariant is that the record *vouches* for every entry of every cache.  Finding an entry only moves
it, evicting it or letting it lapse takes it away, and what is added was said just now.

Main definitions:

* `Exchange`, `Source.recorded` — a question with its answer, and a source that is recorded;
* `CacheHistory`, `Source.consult` — caches with the record since they were emptied, and one lookup;
* `CacheEvent`, `Source.afterAll` — a run in which the source may change between any two lookups;
* `Said`, `SaidTitle` — what a record says of a key;
* `Vouched` — caches whose entries are all in the record;
* `Honest` — **a lookup that goes back to the record**, and to the record alone.

Main results:

* `Lru.answer_of_some`, `Lru.answer_of_none` — a lookup asks if and only if nothing is cached;
* `SourceCaches.get?_cachedTitles`, `SourceCaches.get?_keepTitles` — the titles that are answered;
* `Vouched.afterAll` — the record vouches for the caches after every run;
* `honest_consult` — **every lookup of every run goes back to the record**.
-/

import EventRules.Proofs.Caching

set_option relaxedAutoImplicit false
set_option autoImplicit false

namespace EventRules

variable {σ α : Type}

/-! ### Recorded sources -/

/-- **A question with its answer.** -/
inductive Exchange where
  /-- About the template of a name. -/
  | template (name : String) (answer : Except Failure (Option Template))
  /-- About the indexes of a table. -/
  | indexes (table : String) (answer : Except Failure (Option (List TableIndex)))
  /-- About the titles of data items. -/
  | titles (items : List String) (answer : Except Failure (Dictionary String))
  /-- About the module behind a template. -/
  | functionObject (name : String) (answer : Except Failure String)

namespace Exchange

/-- The question. -/
def question : Exchange → Question
  | template name _ => .template name
  | indexes table _ => .indexes table
  | titles items _ => .titles items
  | functionObject name _ => .functionObject name

/-- The failure, if that was the answer. -/
def failure? : Exchange → Option Failure
  | template _ answer => failed answer
  | indexes _ answer => failed answer
  | titles _ answer => failed answer
  | functionObject _ answer => failed answer
where
  /-- The failure that an answer is. -/
  failed {α : Type} : Except Failure α → Option Failure
    | .ok _ => none
    | .error e => some e

/-- A failed answer is an error. -/
theorem error_of_failed {answer : Except Failure α}
    (h : (failure?.failed answer).isSome = true) : ∃ e, answer = .error e := by
  cases answer with
  | ok a => cases h
  | error e => exact ⟨e, rfl⟩

end Exchange

/-- The question with the answer that it gets. -/
def Source.reply (source : Source σ) (question : Question) (s : σ) : Exchange :=
  match question with
  | .template name => .template name (source.template name s).1
  | .indexes table => .indexes table (source.indexes table s).1
  | .titles items => .titles items (source.titles items s).1
  | .functionObject name => .functionObject name (source.functionObject name s).1

/-- **A source that is recorded**: every question is taken down with the answer it got. -/
def Source.recorded (source : Source σ) : Source (σ × List Exchange) where
  template name s :=
    let (answer, s') := source.template name s.1
    (answer, s', s.2 ++ [.template name answer])
  indexes table s :=
    let (answer, s') := source.indexes table s.1
    (answer, s', s.2 ++ [.indexes table answer])
  titles items s :=
    let (answer, s') := source.titles items s.1
    (answer, s', s.2 ++ [.titles items answer])
  functionObject name s :=
    let (answer, s') := source.functionObject name s.1
    (answer, s', s.2 ++ [.functionObject name answer])

theorem Source.recorded_titles (source : Source σ) (items : List String) (s : σ)
    (heard : List Exchange) :
    source.recorded.titles items (s, heard) =
      ((source.titles items s).1, (source.titles items s).2,
        heard ++ [.titles items (source.titles items s).1]) :=
  rfl

/-! ### Runs -/

/-- **Caches with the record of their source** since they were emptied. -/
structure CacheHistory where
  /-- The caches. -/
  caches : SourceCaches
  /-- What the source was asked, and what it said. -/
  heard : List Exchange := []

/-- **One lookup** through the caches; the source is in the state `s`. -/
def Source.consult (source : Source σ) (s : σ) (question : Question) (h : CacheHistory) :
    Exchange × CacheHistory :=
  (source.cached.reply question (h.caches, s),
    { caches := (source.cached.afterQuestion question (h.caches, s)).1
      heard := (source.recorded.cached.afterQuestion question (h.caches, s, h.heard)).2.2 })

/-- **What happens to caches.** -/
inductive CacheEvent (σ : Type) where
  /-- They are asked; the source is in the state `s` then. -/
  | ask (s : σ) (question : Question)
  /-- They are emptied. -/
  | purge
  /-- Their entries for some questions are too old. -/
  | lapse (old : Question → Bool)

/-- The caches without their old entries. -/
def SourceCaches.lapse (old : Question → Bool) (c : SourceCaches) : SourceCaches where
  templates := { c.templates with
    entries := c.templates.entries.filter fun e => !old (.template e.1) }
  indexes := { c.indexes with entries := c.indexes.entries.filter fun e => !old (.indexes e.1) }
  titles := { c.titles with entries := c.titles.entries.filter fun e => !old (.titles [e.1]) }
  functionObjects := { c.functionObjects with
    entries := c.functionObjects.entries.filter fun e => !old (.functionObject e.1) }

/-- What is left after one event. -/
def Source.after (source : Source σ) (h : CacheHistory) : CacheEvent σ → CacheHistory
  | .ask s question => (source.consult s question h).2
  | .purge => { caches := h.caches.clear }
  | .lapse old => { h with caches := h.caches.lapse old }

/-- **A run.**  Nothing relates the state of the source at one lookup to its state at another. -/
def Source.afterAll (source : Source σ) (events : List (CacheEvent σ)) (h : CacheHistory) :
    CacheHistory :=
  events.foldl source.after h

/-! ### What a record says -/

/-- **The record says this of a key**: it holds a question of the kind `kind` about a name with this
key, and the answer was `a`. -/
def Said (kind : String → Except Failure α → Exchange) (heard : List Exchange) (key : String)
    (a : α) : Prop :=
  ∃ name, kind name (.ok a) ∈ heard ∧ catalogKey name = key

/-- **The record gives this title to a key**, an empty one standing for none: some question about
titles was about an item with this key, too, and this is the title that the answer has for it. -/
def SaidTitle (heard : List Exchange) (key title : String) : Prop :=
  ∃ items d item, .titles items (.ok d) ∈ heard ∧ item ∈ items ∧ catalogKey item = key ∧
    shownTitle d item = title

/-- **The record vouches for every entry of every cache.** -/
structure Vouched (h : CacheHistory) : Prop where
  /-- The cached templates. -/
  templates : ∀ key a, (key, a) ∈ h.caches.templates.entries → Said .template h.heard key a
  /-- The cached indexes. -/
  indexes : ∀ key a, (key, a) ∈ h.caches.indexes.entries → Said .indexes h.heard key a
  /-- The cached titles. -/
  titles : ∀ key a, (key, a) ∈ h.caches.titles.entries → SaidTitle h.heard key a
  /-- The cached modules. -/
  functionObjects : ∀ key a, (key, a) ∈ h.caches.functionObjects.entries →
    Said .functionObject h.heard key a

/-! ### The contents of caches -/

namespace Lru

/-- **The same contents**: the same entry, or none, under every key. -/
def SameContents (c c' : Lru α) : Prop :=
  ∀ key, c'.peek? key = c.peek? key

theorem SameContents.trans {c c' c'' : Lru α} (h : c.SameContents c') (h' : c'.SameContents c'') :
    c.SameContents c'' :=
  fun key => (h' key).trans (h key)

theorem SameContents.of_eq {c c' : Lru α} (h : c' = c) : c.SameContents c' :=
  fun _ => by rw [h]

theorem lookup_filter_of_ne {entries : List (String × α)} {key other : String} (h : other ≠ key) :
    (entries.filter (·.1 != key)).lookup other = entries.lookup other := by
  induction entries with
  | nil => rfl
  | cons e entries ih =>
      rw [List.filter_cons, List.lookup_cons]
      by_cases he : e.1 = key
      · have hne : (other == e.1) = false := by simpa [he] using h
        rw [if_neg (by simp [he]), ih, hne]
      · rw [if_pos (by simpa using he), List.lookup_cons, ih]

/-- **Using an entry changes the order only.** -/
theorem sameContents_get (c : Lru α) (key : String) : c.SameContents (c.get key).2 := by
  intro other
  unfold get
  split
  · rename_i value hv
    rw [peek?, List.lookup_cons]
    by_cases h : other = key
    · subst h
      simpa using hv.symm
    · have hne : (other == key) = false := by simpa using h
      rw [hne]
      exact lookup_filter_of_ne h
  · rfl

variable {c : Lru α} {name : String} {ask : σ → Except Failure α × σ}

/-- **What is cached is answered**, and the source is not asked. -/
theorem answer_of_some {a : α} (h : c.peek? (catalogKey name) = some a) (s : σ) :
    c.answer name ask s = (.ok a, (c.get (catalogKey name)).2, s) := by
  have hget : c.get (catalogKey name) = (some a, (c.get (catalogKey name)).2) :=
    Prod.ext ((c.get_fst _).trans h) rfl
  rw [answer, hget]

/-- The cache after the source was asked about a key: a success is kept. -/
def keepAnswer (c : Lru α) (key : String) : Except Failure α → Lru α
  | .ok a => c.insert key a
  | .error _ => c

/-- **What is not cached is asked for.** -/
theorem answer_of_none (h : c.peek? (catalogKey name) = none) (s : σ) :
    c.answer name ask s =
      ((ask s).1, c.keepAnswer (catalogKey name) (ask s).1, (ask s).2) := by
  rw [answer, get, h]
  dsimp only
  rcases ask s with ⟨_ | a, s'⟩
  · rfl
  · rfl

end Lru

/-- The same contents in all four caches. -/
structure SourceCaches.SameContents (c c' : SourceCaches) : Prop where
  /-- The templates. -/
  templates : c.templates.SameContents c'.templates
  /-- The indexes. -/
  indexes : c.indexes.SameContents c'.indexes
  /-- The titles. -/
  titles : c.titles.SameContents c'.titles
  /-- The modules. -/
  functionObjects : c.functionObjects.SameContents c'.functionObjects

/-- **Something that is asked for is not cached.** -/
def SourceCaches.Lacks (c : SourceCaches) : Question → Prop
  | .template name => c.templates.peek? (catalogKey name) = none
  | .indexes table => c.indexes.peek? (catalogKey table) = none
  | .titles items => ∃ item ∈ items, c.titles.peek? (catalogKey item) = none
  | .functionObject name => c.functionObjects.peek? (catalogKey name) = none

/-! ### Honest lookups -/

/-- **A lookup that goes back to the record.**  It led from the history `h` to the reply and the
history in `outcome`. -/
structure Honest (h : CacheHistory) (question : Question) (outcome : Exchange × CacheHistory) :
    Prop where
  /-- The reply is one to the question. -/
  question_eq : outcome.1.question = question
  /-- A template was said to be that of a name with the same key. -/
  template : ∀ name t, outcome.1 = .template name (.ok t) →
    Said .template outcome.2.heard (catalogKey name) t
  /-- So were the indexes. -/
  indexes : ∀ table list, outcome.1 = .indexes table (.ok list) →
    Said .indexes outcome.2.heard (catalogKey table) list
  /-- So was the module. -/
  functionObject : ∀ name object, outcome.1 = .functionObject name (.ok object) →
    Said .functionObject outcome.2.heard (catalogKey name) object
  /-- A title is one of an item that was asked for; it is not empty, and was given to an item with
  the same key. -/
  title : ∀ items d, outcome.1 = .titles items (.ok d) → ∀ item t, d.get? item = some t →
    item ∈ items ∧ t ≠ "" ∧ SaidTitle outcome.2.heard (catalogKey item) t
  /-- An item that is left out was said to have no title, or an empty one. -/
  left_out : ∀ items d, outcome.1 = .titles items (.ok d) → ∀ item ∈ items, d.get? item = none →
    SaidTitle outcome.2.heard (catalogKey item) ""
  /-- The source was asked at most once, and only if something was not cached.  The lookup failed if
  and only if the source did then, and with the same failure. -/
  asked : ∃ new : Option Exchange, outcome.2.heard = h.heard ++ new.toList ∧
    (new.isSome = true ↔ h.caches.Lacks question) ∧
    outcome.1.failure? = new.bind Exchange.failure?
  /-- A failed lookup leaves the contents of all caches as they were. -/
  failed : outcome.1.failure?.isSome = true → h.caches.SameContents outcome.2.caches

/-! ### Looking up one name -/

section

variable {kind : String → Except Failure α → Exchange} {heard : List Exchange} {key : String}
  {c : Lru α}

theorem Said.mono {a : α} (h : Said kind heard key a) (new : List Exchange) :
    Said kind (heard ++ new) key a := by
  obtain ⟨name, hm, hk⟩ := h
  exact ⟨name, List.mem_append_left _ hm, hk⟩

theorem SaidTitle.mono {title : String} (h : SaidTitle heard key title) (new : List Exchange) :
    SaidTitle (heard ++ new) key title := by
  obtain ⟨items, d, item, hm, hi⟩ := h
  exact ⟨items, d, item, List.mem_append_left _ hm, hi⟩

theorem Vouched.ofSize (size : Int) : Vouched { caches := .ofSize size } :=
  ⟨nofun, nofun, nofun, nofun⟩

theorem Vouched.clear (c : SourceCaches) : Vouched { caches := c.clear } :=
  ⟨nofun, nofun, nofun, nofun⟩

theorem Vouched.lapse {h : CacheHistory} (hv : Vouched h) (old : Question → Bool) :
    Vouched { h with caches := h.caches.lapse old } where
  templates key a hm := hv.templates key a (List.mem_filter.mp hm).1
  indexes key a hm := hv.indexes key a (List.mem_filter.mp hm).1
  titles key a hm := hv.titles key a (List.mem_filter.mp hm).1
  functionObjects key a hm := hv.functionObjects key a (List.mem_filter.mp hm).1

/-- The record may go on. -/
theorem Vouched.mono {h : CacheHistory} (hv : Vouched h) (new : List Exchange) :
    Vouched { h with heard := h.heard ++ new } where
  templates key a hm := (hv.templates key a hm).mono new
  indexes key a hm := (hv.indexes key a hm).mono new
  titles key a hm := (hv.titles key a hm).mono new
  functionObjects key a hm := (hv.functionObjects key a hm).mono new

/-- **A lookup of one name** in a cache for which the record vouched: the answer, and what the cache
and the record are then. -/
structure Lru.AnswersFrom (kind : String → Except Failure α → Exchange) (heard : List Exchange)
    (c : Lru α) (name : String) (answer : Except Failure α) (c' : Lru α) (heard' : List Exchange) :
    Prop where
  /-- The answer was said. -/
  said : ∀ a, answer = .ok a → Said kind heard' (catalogKey name) a
  /-- The record vouches for the cache again. -/
  entries : ∀ key a, (key, a) ∈ c'.entries → Said kind heard' key a
  /-- The source was asked if nothing was cached, and its failure is the only one. -/
  asked : ∃ new : Option (Except Failure α), heard' = heard ++ new.toList.map (kind name) ∧
    (new.isSome = true ↔ c.peek? (catalogKey name) = none) ∧
    Exchange.failure?.failed answer = new.bind Exchange.failure?.failed
  /-- A failure changes nothing. -/
  failed : ∀ e, answer = .error e → c' = c

theorem Lru.AnswersFrom.sameContents {name : String} {answer : Except Failure α} {c' : Lru α}
    {heard' : List Exchange} (h : Lru.AnswersFrom kind heard c name answer c' heard')
    (hf : (Exchange.failure?.failed answer).isSome = true) : c.SameContents c' := by
  obtain ⟨e, he⟩ := Exchange.error_of_failed hf
  exact .of_eq (h.failed e he)

/-- **A lookup of one name goes back to the record.**  The second question is the first one,
recorded. -/
theorem Lru.answersFrom_answer (hc : ∀ key a, (key, a) ∈ c.entries → Said kind heard key a)
    (name : String) (ask : σ → Except Failure α × σ) {s : σ}
    (recorded : σ × List Exchange → Except Failure α × σ × List Exchange)
    (hr : recorded (s, heard) = ((ask s).1, (ask s).2, heard ++ [kind name (ask s).1])) :
    Lru.AnswersFrom kind heard c name (c.answer name ask s).1 (c.answer name ask s).2.1
      (c.answer name recorded (s, heard)).2.2.2 := by
  cases hpeek : c.peek? (catalogKey name) with
  | some a =>
      rw [answer_of_some hpeek, answer_of_some hpeek]
      refine ⟨?_, fun k b hm => hc k b (mem_of_mem_get hm), ⟨none, by simp, by simp [hpeek], rfl⟩,
        nofun⟩
      rintro b ⟨rfl⟩
      exact hc _ _ (mem_of_peek? hpeek)
  | none =>
      rw [answer_of_none hpeek, answer_of_none hpeek, hr]
      cases (ask s).1 with
      | error e =>
          exact ⟨nofun, fun k b hm => (hc k b hm).mono _,
            ⟨some (.error e), rfl, by simp [hpeek], rfl⟩, fun _ _ => rfl⟩
      | ok a =>
          have hsaid : Said kind (heard ++ [kind name (.ok a)]) (catalogKey name) a :=
            ⟨name, List.mem_append_right _ List.mem_cons_self, rfl⟩
          refine ⟨?_, fun k b hm => ?_, ⟨some (.ok a), rfl, by simp [hpeek], rfl⟩, nofun⟩
          · rintro b ⟨rfl⟩
            exact hsaid
          · rcases mem_of_mem_insert hm with he | hm
            · obtain ⟨rfl, rfl⟩ := Prod.mk.inj he
              exact hsaid
            · exact (hc k b hm).mono _

end

/-! ### Looking up titles -/

namespace SourceCaches

variable {cache : Lru String}

/-- **The missing items** are those without an entry. -/
theorem missing_eq_filter (cache : Lru String) (items : List String) :
    (cachedTitles cache items).1 =
      items.filter fun item => (cache.peek? (catalogKey item)).isNone := by
  induction items generalizing cache with
  | nil => rfl
  | cons first rest ih =>
      cases hp : cache.peek? (catalogKey first) with
      | none => rw [cachedTitles_miss hp, ih, List.filter_cons, if_pos (by simp [hp])]
      | some t =>
          rw [cachedTitles_hit hp, ih, List.filter_cons, if_neg (by simp [hp])]
          simp only [cache.sameContents_get (catalogKey first) _]

/-- Looking up titles changes the order of the entries only. -/
theorem sameContents_cachedTitles (cache : Lru String) (items : List String) :
    cache.SameContents (cachedTitles cache items).2.2 := by
  induction items generalizing cache with
  | nil => exact fun _ => rfl
  | cons first rest ih =>
      cases hp : cache.peek? (catalogKey first) with
      | none =>
          rw [cachedTitles_miss hp]
          exact ih cache
      | some t =>
          rw [cachedTitles_hit hp]
          exact (cache.sameContents_get _).trans (ih _)

theorem mem_of_mem_cachedTitles {items : List String} {e : String × String}
    (h : e ∈ (cachedTitles cache items).2.2.entries) : e ∈ cache.entries := by
  induction items generalizing cache with
  | nil => exact h
  | cons first rest ih =>
      cases hp : cache.peek? (catalogKey first) with
      | none =>
          rw [cachedTitles_miss hp] at h
          exact ih h
      | some t =>
          rw [cachedTitles_hit hp] at h
          exact Lru.mem_of_mem_get (ih h)

/-- **The titles that are found in the cache**: those that are not empty. -/
theorem get?_cachedTitles (cache : Lru String) (items : List String) (item : String) :
    (cachedTitles cache items).2.1.get? item =
      if item ∈ items then (cache.peek? (catalogKey item)).filter (· != "") else none := by
  induction items generalizing cache with
  | nil => rfl
  | cons first rest ih =>
      cases hp : cache.peek? (catalogKey first) with
      | none =>
          rw [cachedTitles_miss hp, ih]
          by_cases hi : item = first
          · subst hi
            simp [hp]
          · simp [hi]
      | some t =>
          rw [cachedTitles_hit hp]
          have hrest := ih (cache.get (catalogKey first)).2
          rw [cache.sameContents_get (catalogKey first) (catalogKey item)] at hrest
          by_cases hi : item = first
          · subst hi
            by_cases ht : t = ""
            · simp [ht, hp, hrest, Option.filter_some]
            · simp [ht, hp, Option.filter_some]
          · by_cases ht : t = ""
            · simp [ht, hi, hrest]
            · simp only [if_neg ht, Dictionary.get?_insert_of_ne _ _ hi, hrest, List.mem_cons, hi,
                false_or]

/-- **The titles that are answered in the end**: the fetched ones that are not empty, and the known
ones. -/
theorem get?_keepTitles (fetched : Dictionary String) (missing : List String)
    (known : Dictionary String) (c : Lru String) (item : String) :
    (keepTitles fetched missing (known, c)).1.get? item =
      if item ∈ missing ∧ shownTitle fetched item ≠ "" then some (shownTitle fetched item)
      else known.get? item := by
  induction missing generalizing known c with
  | nil => simp [keepTitles]
  | cons first rest ih =>
      rw [keepTitles, ih, ← shownTitle]
      by_cases hi : item = first
      · subst hi
        by_cases ht : shownTitle fetched item = ""
        · simp [ht]
        · simp [ht]
      · by_cases ht : shownTitle fetched first = ""
        · simp [ht, hi]
        · simp [ht, hi, Dictionary.get?_insert_of_ne _ _ hi]

/-- An entry is an old one, or the title that was fetched for a missing item. -/
theorem mem_of_mem_keepTitles {fetched : Dictionary String} {missing : List String}
    {known : Dictionary String} {c : Lru String} {e : String × String}
    (h : e ∈ (keepTitles fetched missing (known, c)).2.entries) :
    e ∈ c.entries ∨ ∃ item ∈ missing, e = (catalogKey item, shownTitle fetched item) := by
  induction missing generalizing known c with
  | nil => exact .inl h
  | cons first rest ih =>
      rw [keepTitles] at h
      rcases ih h with hm | ⟨item, hi, he⟩
      · rcases Lru.mem_of_mem_insert hm with he | hm
        · exact .inr ⟨first, List.mem_cons_self, he⟩
        · exact .inl hm
      · exact .inr ⟨item, List.mem_cons_of_mem _ hi, he⟩

/-- An item is missing if and only if nothing is cached for it. -/
theorem mem_missing (cache : Lru String) (items : List String) (item : String) :
    item ∈ (cachedTitles cache items).1 ↔ item ∈ items ∧ cache.peek? (catalogKey item) = none := by
  rw [missing_eq_filter, List.mem_filter, Option.isNone_iff_eq_none]

/-- Something is missing. -/
theorem missing_ne_nil {items : List String} :
    (cachedTitles cache items).1 ≠ [] ↔ ∃ item ∈ items, cache.peek? (catalogKey item) = none := by
  refine ⟨fun h => ?_, fun ⟨item, h⟩ => List.ne_nil_of_mem ((mem_missing cache items item).mpr h)⟩
  obtain ⟨item, hm⟩ := List.exists_mem_of_ne_nil _ h
  exact ⟨item, (mem_missing cache items item).mp hm⟩

end SourceCaches

/-- **A lookup of titles** in a cache for which the record vouched: the answer, and what the cache
and the record are then. -/
structure TitlesFrom (heard : List Exchange) (c : Lru String) (items : List String)
    (answer : Except Failure (Dictionary String)) (c' : Lru String) (heard' : List Exchange) :
    Prop where
  /-- A title that is answered was said, and is not empty. -/
  title : ∀ d, answer = .ok d → ∀ item t, d.get? item = some t →
    item ∈ items ∧ t ≠ "" ∧ SaidTitle heard' (catalogKey item) t
  /-- An item that is left out was said to have no title. -/
  left_out : ∀ d, answer = .ok d → ∀ item ∈ items, d.get? item = none →
    SaidTitle heard' (catalogKey item) ""
  /-- The record vouches for the cache again. -/
  entries : ∀ key a, (key, a) ∈ c'.entries → SaidTitle heard' key a
  /-- The source was asked for the missing items, if there are any, and its failure is the only
  one. -/
  asked : ∃ new : Option (Except Failure (Dictionary String)),
    heard' = heard ++ new.toList.map (.titles (SourceCaches.cachedTitles c items).1) ∧
      (new.isSome = true ↔ ∃ item ∈ items, c.peek? (catalogKey item) = none) ∧
      Exchange.failure?.failed answer = new.bind Exchange.failure?.failed
  /-- A failure changes the order of the entries only. -/
  failed : ∀ e, answer = .error e → c.SameContents c'

namespace TitlesFrom

open SourceCaches

variable {heard : List Exchange} {c : Lru String} {items : List String}

/-- A title that is found in the cache was said. -/
theorem said_of_known (hc : ∀ key a, (key, a) ∈ c.entries → SaidTitle heard key a)
    {item t : String} (h : (cachedTitles c items).2.1.get? item = some t) :
    item ∈ items ∧ t ≠ "" ∧ SaidTitle heard (catalogKey item) t := by
  rw [get?_cachedTitles] at h
  split at h
  · rename_i hi
    obtain ⟨hp, ht⟩ := Option.filter_eq_some_iff.mp h
    exact ⟨hi, by simpa using ht, hc _ _ (Lru.mem_of_peek? hp)⟩
  · cases h

/-- An item that is cached and left out was said to have no title. -/
theorem said_of_cached (hc : ∀ key a, (key, a) ∈ c.entries → SaidTitle heard key a)
    {item : String} (hi : item ∈ items) (hm : item ∉ (cachedTitles c items).1)
    (h : (cachedTitles c items).2.1.get? item = none) : SaidTitle heard (catalogKey item) "" := by
  rw [mem_missing, not_and] at hm
  obtain ⟨t, hp⟩ := Option.ne_none_iff_exists'.mp (hm hi)
  rw [get?_cachedTitles, if_pos hi, hp] at h
  have ht : t = "" := by simpa [Option.filter_some] using h
  exact ht ▸ hc _ _ (Lru.mem_of_peek? hp)

/-- **All titles are cached.** -/
theorem known (hc : ∀ key a, (key, a) ∈ c.entries → SaidTitle heard key a)
    (hm : (cachedTitles c items).1 = []) :
    TitlesFrom heard c items (.ok (cachedTitles c items).2.1) (cachedTitles c items).2.2 heard where
  title := by
    rintro d ⟨rfl⟩ item t ht
    exact said_of_known hc ht
  left_out := by
    rintro d ⟨rfl⟩ item hi hn
    exact said_of_cached hc hi (by simp [hm]) hn
  entries key a he := hc key a (mem_of_mem_cachedTitles he)
  asked := by
    refine ⟨none, by simp, ?_, rfl⟩
    rw [← missing_ne_nil, hm]
    simp
  failed := nofun

/-- **The source fails** when it is asked for the missing titles. -/
theorem error (hc : ∀ key a, (key, a) ∈ c.entries → SaidTitle heard key a)
    (hm : (cachedTitles c items).1 ≠ []) (e : Failure) :
    TitlesFrom heard c items (.error e) (cachedTitles c items).2.2
      (heard ++ [.titles (cachedTitles c items).1 (.error e)]) where
  title := nofun
  left_out := nofun
  entries key a he := (hc key a (mem_of_mem_cachedTitles he)).mono _
  asked := ⟨some (.error e), rfl, by simpa using missing_ne_nil.mp hm, rfl⟩
  failed _ _ := sameContents_cachedTitles c items

/-- **The source answers** when it is asked for the missing titles. -/
theorem fetched (hc : ∀ key a, (key, a) ∈ c.entries → SaidTitle heard key a)
    (hm : (cachedTitles c items).1 ≠ []) (d : Dictionary String) :
    let kept := keepTitles d (cachedTitles c items).1 (cachedTitles c items).2
    TitlesFrom heard c items (.ok kept.1) kept.2
      (heard ++ [.titles (cachedTitles c items).1 (.ok d)]) := by
  have hsaid : ∀ item ∈ (cachedTitles c items).1,
      SaidTitle (heard ++ [.titles (cachedTitles c items).1 (.ok d)]) (catalogKey item)
        (shownTitle d item) := fun item hi =>
    ⟨_, d, item, List.mem_append_right _ List.mem_cons_self, hi, rfl, rfl⟩
  refine ⟨?_, ?_, fun key a he => ?_, ⟨some (.ok d), rfl, by simpa using missing_ne_nil.mp hm, rfl⟩,
    nofun⟩
  · rintro answer ⟨rfl⟩ item t ht
    rw [get?_keepTitles] at ht
    split at ht
    · rename_i hi
      obtain rfl := Option.some.inj ht
      exact ⟨((mem_missing c items item).mp hi.1).1, hi.2, hsaid item hi.1⟩
    · obtain ⟨hi, hne, hs⟩ := said_of_known hc ht
      exact ⟨hi, hne, hs.mono _⟩
  · rintro answer ⟨rfl⟩ item hi hn
    rw [get?_keepTitles] at hn
    split at hn
    · cases hn
    · rename_i hempty
      by_cases hmissing : item ∈ (cachedTitles c items).1
      · have ht : shownTitle d item = "" := by simpa [hmissing] using hempty
        exact ht ▸ hsaid item hmissing
      · exact (said_of_cached hc hi hmissing hn).mono _
  · rcases mem_of_mem_keepTitles he with he | ⟨item, hi, he⟩
    · exact (hc key a (mem_of_mem_cachedTitles he)).mono _
    · obtain ⟨rfl, rfl⟩ := Prod.mk.inj he
      exact hsaid item hi

end TitlesFrom

/-- **A lookup of titles goes back to the record.** -/
theorem titlesFrom_cached {h : CacheHistory} (hv : Vouched h) (source : Source σ)
    (items : List String) (s : σ) :
    TitlesFrom h.heard h.caches.titles items (source.cached.titles items (h.caches, s)).1
      (source.cached.titles items (h.caches, s)).2.1.titles
      (source.recorded.cached.titles items (h.caches, s, h.heard)).2.2.2 := by
  unfold Source.cached
  dsimp only
  by_cases hm : (SourceCaches.cachedTitles h.caches.titles items).1 = []
  · simp only [hm, List.isEmpty_nil, if_true]
    exact .known hv.titles hm
  · have hne : ((SourceCaches.cachedTitles h.caches.titles items).1.isEmpty) = false := by
      simpa using hm
    simp only [hne, Bool.false_eq_true, if_false, Source.recorded_titles]
    rcases source.titles (SourceCaches.cachedTitles h.caches.titles items).1 s with ⟨e | d, s'⟩
    · exact .error hv.titles hm e
    · exact .fetched hv.titles hm d

/-- The other caches stay when titles are looked up. -/
theorem caches_after_titles (source : Source σ) (items : List String) (c : SourceCaches) (s : σ) :
    (source.cached.titles items (c, s)).2.1.templates = c.templates ∧
      (source.cached.titles items (c, s)).2.1.indexes = c.indexes ∧
      (source.cached.titles items (c, s)).2.1.functionObjects = c.functionObjects := by
  unfold Source.cached
  dsimp only
  split
  · exact ⟨rfl, rfl, rfl⟩
  · split
    · exact ⟨rfl, rfl, rfl⟩
    · exact ⟨rfl, rfl, rfl⟩

/-! ### Every lookup of every run -/

section

variable {h : CacheHistory}

/-- What was asked, as an exchange of its kind. -/
theorem Exchange.of_asked {kind : Except Failure α → Exchange}
    (hk : ∀ answer, (kind answer).failure? = failure?.failed answer) {heard heard' : List Exchange}
    {answer : Except Failure α} {lacks : Prop}
    (h : ∃ new : Option (Except Failure α), heard' = heard ++ new.toList.map kind ∧
      (new.isSome = true ↔ lacks) ∧ failure?.failed answer = new.bind failure?.failed) :
    ∃ new : Option Exchange, heard' = heard ++ new.toList ∧ (new.isSome = true ↔ lacks) ∧
      failure?.failed answer = new.bind failure? := by
  obtain ⟨new, hheard, hlacks, hfailed⟩ := h
  refine ⟨new.map kind, ?_, by simpa using hlacks, ?_⟩
  · cases new with
    | none => exact hheard
    | some answer => exact hheard
  · rw [hfailed]
    cases new with
    | none => rfl
    | some answer => exact (hk answer).symm

/-- **One lookup goes back to the record**, if the record vouches for the caches, and the record
vouches for them again. -/
theorem Vouched.consult (hv : Vouched h) (source : Source σ) (s : σ) (question : Question) :
    Honest h question (source.consult s question h) ∧
      Vouched (source.consult s question h).2 := by
  cases question with
  | template name =>
      have hl := Lru.answersFrom_answer hv.templates name (source.template name)
        (source.recorded.template name) (s := s) rfl
      obtain ⟨new, hnew, -⟩ := hl.asked
      refine ⟨⟨rfl, ?_, nofun, nofun, nofun, nofun, Exchange.of_asked (fun _ => rfl) hl.asked,
        fun hf => ⟨hl.sameContents hf, .of_eq rfl, .of_eq rfl, .of_eq rfl⟩⟩, ?_⟩
      · intro other t he
        injection he with hname hanswer
        exact hname ▸ hl.said t hanswer
      · have hrest := hv.mono (new.toList.map (.template name))
        rw [← hnew] at hrest
        exact { hrest with templates := hl.entries }
  | indexes table =>
      have hl := Lru.answersFrom_answer hv.indexes table (source.indexes table)
        (source.recorded.indexes table) (s := s) rfl
      obtain ⟨new, hnew, -⟩ := hl.asked
      refine ⟨⟨rfl, nofun, ?_, nofun, nofun, nofun, Exchange.of_asked (fun _ => rfl) hl.asked,
        fun hf => ⟨.of_eq rfl, hl.sameContents hf, .of_eq rfl, .of_eq rfl⟩⟩, ?_⟩
      · intro other list he
        injection he with hname hanswer
        exact hname ▸ hl.said list hanswer
      · have hrest := hv.mono (new.toList.map (.indexes table))
        rw [← hnew] at hrest
        exact { hrest with indexes := hl.entries }
  | titles items =>
      have hl := titlesFrom_cached hv source items s
      obtain ⟨htemplates, hindexes, hfunctions⟩ := caches_after_titles source items h.caches s
      obtain ⟨new, hnew, -⟩ := hl.asked
      refine ⟨⟨rfl, nofun, nofun, nofun, ?_, ?_, Exchange.of_asked (fun _ => rfl) hl.asked,
        fun hf => ?_⟩, ?_⟩
      · intro asked d he item t ht
        injection he with hitems hanswer
        exact hitems ▸ hl.title d hanswer item t ht
      · intro asked d he item hi hn
        injection he with hitems hanswer
        exact hl.left_out d hanswer item (hitems ▸ hi) hn
      · obtain ⟨e, he⟩ := Exchange.error_of_failed hf
        exact ⟨.of_eq htemplates, .of_eq hindexes, hl.failed e he, .of_eq hfunctions⟩
      · have hrest := hv.mono
          (new.toList.map (.titles (SourceCaches.cachedTitles h.caches.titles items).1))
        rw [← hnew] at hrest
        exact
          { templates := htemplates ▸ hrest.templates
            indexes := hindexes ▸ hrest.indexes
            titles := hl.entries
            functionObjects := hfunctions ▸ hrest.functionObjects }
  | functionObject name =>
      have hl := Lru.answersFrom_answer hv.functionObjects name (source.functionObject name)
        (source.recorded.functionObject name) (s := s) rfl
      obtain ⟨new, hnew, -⟩ := hl.asked
      refine ⟨⟨rfl, nofun, nofun, ?_, nofun, nofun, Exchange.of_asked (fun _ => rfl) hl.asked,
        fun hf => ⟨.of_eq rfl, .of_eq rfl, .of_eq rfl, hl.sameContents hf⟩⟩, ?_⟩
      · intro other object he
        injection he with hname hanswer
        exact hname ▸ hl.said object hanswer
      · have hrest := hv.mono (new.toList.map (.functionObject name))
        rw [← hnew] at hrest
        exact { hrest with functionObjects := hl.entries }

/-- **So does a whole run.** -/
theorem Vouched.afterAll (hv : Vouched h) (source : Source σ) (events : List (CacheEvent σ)) :
    Vouched (source.afterAll events h) := by
  induction events generalizing h with
  | nil => exact hv
  | cons event events ih =>
      refine ih ?_
      cases event with
      | ask s question => exact (hv.consult source s question).2
      | purge => exact .clear h.caches
      | lapse old => exact hv.lapse old

end

/-- **Caches never make up an answer, and never bring one back.**  After any run from empty caches,
in which the source changed in any way, a lookup goes back to what the source has said since the
caches were emptied. -/
theorem honest_consult (source : Source σ) (size : Int) (events : List (CacheEvent σ)) (s : σ)
    (question : Question) :
    let h := source.afterAll events { caches := .ofSize size }
    Honest h question (source.consult s question h) :=
  (((Vouched.ofSize size).afterAll source events).consult source s question).1

end EventRules
