/-
**What a bounded cache keeps.**

A cache that drops the entry that has not been used for the longest time keeps an entry for as long
as few other keys are used: with room for `n` entries, a key is found as long as fewer than `n`
other keys have been used since it was used itself.  How often they were used does not matter.

To say this, a *log* lists what has happened to the keys, the latest first.  The keys of the cache
are then the different keys of the log, the most recently used first, cut off at the capacity.  This
invariant determines every later answer, and each operation keeps it.

The events of a cache of templates are taken from its answers.  An absent template is no event, nor
is a look that finds nothing, nor a failure to load.

Main definitions:

* `Lru.Event`, `Lru.usedKeys`, `Lru.lastStored` — logs, and what they say about a key;
* `Lru.recency` — the different keys of a list, in the order of their first places;
* `Lru.Follows` — **the invariant** of a cache and its log;
* `TemplateCache.Step`, `TemplateCache.Run` — uses of a cache of templates, and their log.

Main results:

* `Lru.Follows.insert`, `Lru.Follows.hit` — the invariant is kept;
* `Lru.Follows.peek?_eq` — the answer of a cache from its log alone;
* `TemplateCache.answers_of_run` — **what a cache of templates answers after any run**.
-/

import Mathlib.Data.List.Dedup
import EventRules.Proofs.Dictionaries
import EventRules.Proofs.History
import EventRules.Template.Cache

set_option relaxedAutoImplicit false
set_option autoImplicit false

namespace EventRules

namespace Lru

variable {α : Type}

/-! ### The different keys of a list -/

/-- **The different keys of a list**, in the order of their first places. -/
def recency : List String → List String
  | [] => []
  | k :: ks => k :: (recency ks).filter (· != k)

theorem mem_recency {key : String} {ks : List String} : key ∈ recency ks ↔ key ∈ ks := by
  induction ks with
  | nil => exact Iff.rfl
  | cons k ks ih =>
      rw [recency, List.mem_cons, List.mem_cons, List.mem_filter, ih]
      by_cases hk : key = k
      · simp [hk]
      · simp [hk]

theorem nodup_recency (ks : List String) : (recency ks).Nodup := by
  induction ks with
  | nil => exact List.nodup_nil
  | cons k ks ih =>
      rw [recency, List.nodup_cons]
      exact ⟨by simp, ih.filter _⟩

theorem length_recency (ks : List String) : (recency ks).length = ks.dedup.length := by
  have hperm : (recency ks).Perm ks.dedup := by
    refine (List.perm_ext_iff_of_nodup (nodup_recency ks) ks.nodup_dedup).2 fun key => ?_
    rw [mem_recency, List.mem_dedup]
  exact hperm.length_eq

/-- The keys before a key are those that come before it in the list. -/
theorem takeWhile_recency (key : String) (ks : List String) :
    (recency ks).takeWhile (· != key) = recency (ks.takeWhile (· != key)) := by
  induction ks with
  | nil => rfl
  | cons k ks ih =>
      rw [recency, List.takeWhile_cons, List.takeWhile_cons]
      by_cases hk : k = key
      · subst hk
        simp [recency]
      · have hne : (k != key) = true := by simpa using hk
        have hsame : (fun a => !(a != k) || (a != key)) = (· != key) := by
          funext a
          by_cases ha : a = k
          · simp [ha, hk]
          · simp [ha]
        rw [if_pos hne, if_pos hne, recency, List.takeWhile_filter, hsame, ih]

/-- A key is among the first `n` if fewer than `n` come before it. -/
theorem mem_take_iff {key : String} {ks : List String} (n : Nat) :
    key ∈ ks.take n ↔ key ∈ ks ∧ (ks.takeWhile (· != key)).length < n := by
  induction ks generalizing n with
  | nil => simp
  | cons k ks ih =>
      cases n with
      | zero => simp
      | succ n =>
          rw [List.take_succ_cons, List.mem_cons, List.mem_cons, List.takeWhile_cons, ih]
          by_cases hk : key = k
          · subst hk
            simp
          · have hne : (k != key) = true := by simpa using Ne.symm hk
            rw [if_pos hne, List.length_cons]
            simp [hk]

/-- Without one key, the first keys are the same whether one more is kept or not. -/
theorem take_filter_take {key : String} {ks : List String} (h : ks.Nodup) (n : Nat) :
    ((ks.take (n + 1)).filter (· != key)).take n = (ks.filter (· != key)).take n := by
  induction ks generalizing n with
  | nil => simp
  | cons k ks ih =>
      obtain ⟨hk, hks⟩ := List.nodup_cons.1 h
      rw [List.take_succ_cons]
      by_cases hkey : k = key
      · -- the key stands here and nowhere else
        subst hkey
        have hall : ∀ a ∈ ks, (a != k) = true := by
          intro a ha
          have hne : a ≠ k := fun he => hk (he ▸ ha)
          simpa using hne
        have htake : ∀ a ∈ ks.take n, (a != k) = true := fun a ha =>
          hall a (List.mem_of_mem_take ha)
        have hself : ¬(k != k) = true := by simp
        rw [List.filter_cons, List.filter_cons, if_neg hself, if_neg hself,
          List.filter_eq_self.2 hall, List.filter_eq_self.2 htake, List.take_take, Nat.min_self]
      · have hne : (k != key) = true := by simpa using hkey
        rw [List.filter_cons, List.filter_cons, if_pos hne, if_pos hne]
        cases n with
        | zero => rfl
        | succ n => rw [List.take_succ_cons, List.take_succ_cons, ih hks n]

/-- A key moves to the front of the first `n` as it does in the whole list. -/
theorem take_cons_filter_take {key : String} {ks : List String} (h : ks.Nodup) (n : Nat) :
    (key :: (ks.take n).filter (· != key)).take n = (key :: ks.filter (· != key)).take n := by
  cases n with
  | zero => rfl
  | succ n => rw [List.take_succ_cons, List.take_succ_cons, take_filter_take h]

/-! ### Logs -/

/-- **What happens to a cache.** -/
inductive Event (α : Type) where
  /-- A value is stored under a key. -/
  | stored (key : String) (value : α)
  /-- A key is looked up and found. -/
  | hit (key : String)
  /-- Everything is dropped. -/
  | cleared

namespace Event

/-- The key that is used. -/
def key? : Event α → Option String
  | stored key _ => some key
  | hit key => some key
  | cleared => none

/-- The value that is stored under a key. -/
def valueFor? (key : String) : Event α → Option α
  | stored k value => if k = key then some value else none
  | hit _ => none
  | cleared => none

/-- Is everything dropped? -/
def isCleared : Event α → Bool
  | stored _ _ => false
  | hit _ => false
  | cleared => true

end Event

/-- The part of a log since everything was dropped for the last time. -/
def sinceCleared (log : List (Event α)) : List (Event α) :=
  log.takeWhile fun e => !e.isCleared

/-- The keys that were stored or found, the latest first. -/
def usedKeys (log : List (Event α)) : List String :=
  (sinceCleared log).filterMap Event.key?

/-- The keys that were stored or found after the last use of `key`. -/
def usedAfter (key : String) (log : List (Event α)) : List String :=
  (usedKeys log).takeWhile (· != key)

/-- The value that was stored last under a key. -/
def lastStored (key : String) (log : List (Event α)) : Option α :=
  (sinceCleared log).findSome? (Event.valueFor? key)

variable {key : String} {value : α} {log : List (Event α)}

@[simp] theorem usedKeys_stored : usedKeys (.stored key value :: log) = key :: usedKeys log := rfl

@[simp] theorem usedKeys_hit : usedKeys (.hit key :: log) = key :: usedKeys log := rfl

@[simp] theorem usedKeys_cleared : usedKeys (.cleared :: log) = [] := rfl

@[simp] theorem lastStored_hit (key' : String) :
    lastStored key' (.hit key :: log) = lastStored key' log := rfl

theorem lastStored_stored_self : lastStored key (.stored key value :: log) = some value := by
  have hvalue : (Event.stored key value).valueFor? key = some value := if_pos rfl
  have hsince : sinceCleared (.stored key value :: log) = .stored key value :: sinceCleared log :=
    rfl
  rw [lastStored, hsince, List.findSome?_cons, hvalue]

theorem lastStored_stored_of_ne {key' : String} (h : key ≠ key') :
    lastStored key' (.stored key value :: log) = lastStored key' log := by
  have hvalue : (Event.stored key value).valueFor? key' = none := if_neg h
  have hsince : sinceCleared (.stored key value :: log) = .stored key value :: sinceCleared log :=
    rfl
  rw [lastStored, hsince, List.findSome?_cons, hvalue]
  rfl

/-- A value was stored under a key if and only if there is a last one. -/
theorem isSome_lastStored_iff :
    (lastStored key log).isSome = true ↔ ∃ value, .stored key value ∈ sinceCleared log := by
  rw [lastStored, List.findSome?_isSome_iff]
  constructor
  · rintro ⟨e, he, hvalue⟩
    cases e with
    | stored k value =>
        by_cases hk : k = key
        · exact ⟨value, hk ▸ he⟩
        · simp [Event.valueFor?, hk] at hvalue
    | hit k => cases hvalue
    | cleared => cases hvalue
  · rintro ⟨value, he⟩
    exact ⟨_, he, by simp [Event.valueFor?]⟩

/-- A key under which a value was stored has been used. -/
theorem mem_usedKeys_of_lastStored (h : lastStored key log = some value) : key ∈ usedKeys log := by
  obtain ⟨stored, he⟩ := isSome_lastStored_iff.1 (by rw [h]; rfl)
  exact List.mem_filterMap.2 ⟨_, he, rfl⟩

/-! ### The invariant -/

/-- **A cache follows its log.**  Its keys are the different keys of the log, the latest first, as
far as there is room for them; with each of them it has the value that was stored last. -/
structure Follows (c : Lru α) (log : List (Event α)) : Prop where
  /-- The keys are those of the log. -/
  keys : c.entries.map (·.1) = (recency (usedKeys log)).take c.capacity
  /-- The values are those that were stored last. -/
  values : ∀ key value, (key, value) ∈ c.entries → lastStored key log = some value
  /-- A key that is used has been stored. -/
  stored : ∀ key ∈ usedKeys log, (lastStored key log).isSome = true

theorem keys_others (c : Lru α) (key : String) :
    (c.others key).map (·.1) = (c.entries.map (·.1)).filter (· != key) := by
  rw [others, List.filter_map]
  rfl

theorem isSome_peek?_iff {c : Lru α} {key : String} :
    (c.peek? key).isSome = true ↔ key ∈ c.entries.map (·.1) :=
  Dictionary.isSome_get?_iff

namespace Follows

variable {c : Lru α}

theorem empty (capacity : Nat) : (⟨capacity, []⟩ : Lru α).Follows [] where
  keys := by simp [usedKeys, sinceCleared, recency]
  values := by
    intro key value h
    cases h
  stored := by
    intro key h
    cases h

theorem length_le (h : c.Follows log) : c.length ≤ c.capacity := by
  have hlength := congrArg List.length h.keys
  rw [List.length_map, List.length_take] at hlength
  rw [length, hlength]
  exact Nat.min_le_left _ _

theorem clear (log : List (Event α)) : c.clear.Follows (.cleared :: log) where
  keys := by simp [Lru.clear, recency]
  values := by
    intro key value h
    cases h
  stored := by
    intro key h
    cases h

/-- **Storing a value keeps the invariant.** -/
theorem insert (h : c.Follows log) (key : String) (value : α) :
    (c.insert key value).Follows (.stored key value :: log) where
  keys := by
    have hrecency : (recency (usedKeys log)).Nodup := nodup_recency _
    rw [usedKeys_stored, recency, Lru.insert, List.map_take, List.map_cons, keys_others, h.keys]
    exact take_cons_filter_take hrecency c.capacity
  values := by
    intro k v hm
    rcases List.mem_cons.1 (List.mem_of_mem_take hm) with he | hm
    · obtain ⟨rfl, rfl⟩ := Prod.mk.inj he
      exact lastStored_stored_self
    · obtain ⟨hm, hk⟩ := List.mem_filter.1 hm
      have hne : key ≠ k := by
        rintro rfl
        simp at hk
      rw [lastStored_stored_of_ne hne]
      exact h.values k v hm
  stored := by
    intro k hk
    by_cases he : key = k
    · subst he
      rw [lastStored_stored_self]
      rfl
    · rw [lastStored_stored_of_ne he]
      rcases List.mem_cons.1 hk with rfl | hk
      · exact absurd rfl he
      · exact h.stored k hk

/-- The found key is among the keys, so moving it to the front needs no more room. -/
theorem map_hit (h : c.Follows log) {key : String} (hkey : key ∈ c.entries.map (·.1)) :
    key :: (c.entries.map (·.1)).filter (· != key) =
      (key :: (recency (usedKeys log)).filter (· != key)).take c.capacity := by
  have hfewer : ((c.entries.map (·.1)).filter (· != key)).length < (c.entries.map (·.1)).length :=
    List.length_filter_lt_length_iff_exists.2 ⟨key, hkey, by simp⟩
  have hroom : (key :: (c.entries.map (·.1)).filter (· != key)).length ≤ c.capacity := by
    have hle := h.length_le
    rw [length] at hle
    rw [List.length_map] at hfewer
    rw [List.length_cons]
    omega
  rw [← take_cons_filter_take (nodup_recency _), ← h.keys, List.take_of_length_le hroom]

/-- **So does finding one.** -/
theorem hit (h : c.Follows log) {key : String} {value : α} (hv : c.peek? key = some value) :
    (c.get key).2.Follows (.hit key :: log) := by
  have hkey : key ∈ c.entries.map (·.1) := isSome_peek?_iff.1 (by rw [hv]; rfl)
  have hget : (c.get key).2 = { c with entries := (key, value) :: c.others key } := by
    rw [get, hv]
  rw [hget]
  refine ⟨?_, ?_, ?_⟩
  · rw [usedKeys_hit, recency, List.map_cons, keys_others]
    exact h.map_hit hkey
  · intro k v hm
    rw [lastStored_hit]
    rcases List.mem_cons.1 hm with he | hm
    · obtain ⟨rfl, rfl⟩ := Prod.mk.inj he
      exact h.values _ _ (mem_of_peek? hv)
    · exact h.values k v (mem_of_mem_others hm)
  · intro k hk
    rw [lastStored_hit]
    rcases List.mem_cons.1 hk with rfl | hk
    · rw [h.values _ _ (mem_of_peek? hv)]
      rfl
    · exact h.stored k hk

/-- **The answer of a cache from its log alone**: the value stored last, as long as few other keys
were used since. -/
theorem peek?_eq (h : c.Follows log) (key : String) :
    c.peek? key =
      if (usedAfter key log).dedup.length < c.capacity then lastStored key log else none := by
  have hfound : (c.peek? key).isSome = true ↔
      key ∈ usedKeys log ∧ (usedAfter key log).dedup.length < c.capacity := by
    rw [isSome_peek?_iff, h.keys, mem_take_iff, mem_recency, takeWhile_recency, length_recency]
    rfl
  cases hv : c.peek? key with
  | some value =>
      rw [hv] at hfound
      rw [if_pos (hfound.1 rfl).2, h.values key value (mem_of_peek? hv)]
  | none =>
      rw [hv] at hfound
      -- a value that is not found although few keys were used since has not been stored
      split
      · rename_i hfew
        cases hl : lastStored key log with
        | none => rfl
        | some value =>
            have hmem : key ∈ usedKeys log := mem_usedKeys_of_lastStored hl
            exact absurd (hfound.2 ⟨hmem, hfew⟩) (by simp)
      · rfl

end Follows

end Lru

/-! ### Caches of templates -/

namespace TemplateCache

theorem keepLoaded_eq {σ : Type} (c : TemplateCache) (name : String)
    (loaded : Except Failure (Option Template) × σ) :
    c.keepLoaded name loaded = (loaded.1, c.add name loaded.1.toOption.join, loaded.2) := by
  obtain ⟨answer, s⟩ := loaded
  cases answer with
  | error e => rfl
  | ok t => cases t <;> rfl

theorem capacity_add (c : TemplateCache) (name : String) (t : Option Template) :
    (c.add name t).entries.capacity = c.entries.capacity := by
  cases t <;> rfl

theorem capacity_getOrLoad {σ : Type} (c : TemplateCache) (name : String)
    (load : σ → Except Failure (Option Template) × σ) (s : σ) :
    (c.getOrLoad name load s).2.1.entries.capacity = c.entries.capacity := by
  cases ht : (c.get name).1 with
  | some t =>
      rw [getOrLoad_of_some ht]
      exact Lru.capacity_get _ _
  | none =>
      rw [getOrLoad_of_none ht, keepLoaded_eq]
      exact capacity_add _ _ _

/-- Loading that gives `answer` and counts how often it is done. -/
def counting (answer : Except Failure (Option Template)) (loads : Nat) :
    Except Failure (Option Template) × Nat :=
  (answer, loads + 1)

/-- A template is loaded, once, if and only if it is not found. -/
theorem loads_getOrLoad (c : TemplateCache) (name : String)
    (answer : Except Failure (Option Template)) :
    (c.getOrLoad name (counting answer) 0).2.2 = if (c.get name).1.isSome then 0 else 1 := by
  cases ht : (c.get name).1 with
  | some t =>
      rw [getOrLoad_of_some ht]
      rfl
  | none =>
      rw [getOrLoad_of_none ht, keepLoaded_eq]
      rfl

/-- What looking up or loading does to a key, as its outcome shows: a template that comes without
loading has been found, one that was loaded has been stored. -/
def loadEvent? (key : String) :
    Except Failure (Option Template) × TemplateCache × Nat → Option (Lru.Event Template)
  | (.ok (some _), _, 0) => some (.hit key)
  | (.ok (some t), _, _ + 1) => some (.stored key t)
  | (.ok none, _, _) => none
  | (.error _, _, _) => none

/-- **A use of a cache of templates.** -/
inductive Step where
  /-- A template, if there is one, is stored under a name. -/
  | add (name : String) (t : Option Template)
  /-- The template of a name is looked up. -/
  | get (name : String)
  /-- The template of a name is looked up or loaded; loading it would give `answer`. -/
  | getOrLoad (name : String) (answer : Except Failure (Option Template))
  /-- Every template is dropped. -/
  | purge

namespace Step

/-- The cache after a step. -/
def cache (c : TemplateCache) : Step → TemplateCache
  | add name t => c.add name t
  | get name => (c.get name).2
  | getOrLoad name answer => (c.getOrLoad name (counting answer) 0).2.1
  | purge => c.clear

/-- What a step does to the keys, as its answer shows. -/
def event? (c : TemplateCache) : Step → Option (Lru.Event Template)
  | add name t => t.map (.stored (catalogKey name))
  | get name => (c.get name).1.map fun _ => .hit (catalogKey name)
  | getOrLoad name answer => loadEvent? (catalogKey name) (c.getOrLoad name (counting answer) 0)
  | purge => some .cleared

end Step

/-- **A cache of templates in use**, with the log of what has happened to its keys. -/
structure Run where
  /-- The cache. -/
  cache : TemplateCache
  /-- What has happened to the keys, the latest first. -/
  log : List (Lru.Event Template) := []

namespace Run

/-- The run after one more step. -/
def perform (r : Run) (step : Step) : Run :=
  ⟨step.cache r.cache, (step.event? r.cache).toList ++ r.log⟩

/-- The run after several steps. -/
def performAll (r : Run) (steps : List Step) : Run :=
  steps.foldl perform r

theorem perform_get (r : Run) (name : String) :
    r.perform (.get name) =
      ⟨(r.cache.get name).2,
        ((r.cache.get name).1.map fun _ => .hit (catalogKey name)).toList ++ r.log⟩ := rfl

theorem perform_getOrLoad (r : Run) (name : String) (answer : Except Failure (Option Template)) :
    r.perform (.getOrLoad name answer) =
      let outcome := r.cache.getOrLoad name (counting answer) 0
      ⟨outcome.2.1, (loadEvent? (catalogKey name) outcome).toList ++ r.log⟩ := rfl

/-- The cache follows the log. -/
def Follows (r : Run) : Prop :=
  r.cache.entries.Follows r.log

namespace Follows

variable {r : Run}

theorem add (h : r.Follows) (name : String) (t : Option Template) :
    (r.perform (.add name t)).Follows := by
  cases t with
  | none => exact h
  | some t => exact Lru.Follows.insert h (catalogKey name) t

theorem get_some (h : r.Follows) {name : String} {t : Template}
    (ht : (r.cache.get name).1 = some t) :
    (r.cache.get name).2.entries.Follows (.hit (catalogKey name) :: r.log) :=
  Lru.Follows.hit h ((get_fst r.cache name).symm.trans ht)

theorem get (h : r.Follows) (name : String) : (r.perform (.get name)).Follows := by
  rw [perform_get]
  cases ht : (r.cache.get name).1 with
  | some t => exact h.get_some ht
  | none =>
      rw [get_of_none ht]
      exact h

theorem getOrLoad (h : r.Follows) (name : String) (answer : Except Failure (Option Template)) :
    (r.perform (.getOrLoad name answer)).Follows := by
  rw [perform_getOrLoad]
  cases ht : (r.cache.get name).1 with
  | some t =>
      rw [getOrLoad_of_some ht]
      exact h.get_some ht
  | none =>
      rw [getOrLoad_of_none ht]
      cases answer with
      | error e => exact h
      | ok t =>
          -- what was loaded is stored as if it had been added
          cases t with
          | none => exact h
          | some t => exact h.add name (some t)

/-- **Each step keeps the invariant.** -/
theorem perform (h : r.Follows) (step : Step) : (r.perform step).Follows := by
  cases step with
  | add name t => exact h.add name t
  | get name => exact h.get name
  | getOrLoad name answer => exact h.getOrLoad name answer
  | purge => exact Lru.Follows.clear r.log

theorem performAll (h : r.Follows) (steps : List Step) : (r.performAll steps).Follows := by
  induction steps generalizing r with
  | nil => exact h
  | cons step steps ih => exact ih (h.perform step)

/-- What a name is answered, from the log alone. -/
theorem get_fst_eq (h : r.Follows) (name : String) : (r.cache.get name).1 =
    if (Lru.usedAfter (catalogKey name) r.log).dedup.length < r.cache.entries.capacity then
      Lru.lastStored (catalogKey name) r.log else none :=
  (get_fst r.cache name).trans (Lru.Follows.peek?_eq h (catalogKey name))

theorem found_iff (h : r.Follows) (name : String) : (r.cache.get name).1.isSome = true ↔
    (∃ t, .stored (catalogKey name) t ∈ Lru.sinceCleared r.log) ∧
      (Lru.usedAfter (catalogKey name) r.log).dedup.length < r.cache.entries.capacity := by
  rw [h.get_fst_eq name, ← Lru.isSome_lastStored_iff]
  by_cases hfew : (Lru.usedAfter (catalogKey name) r.log).dedup.length < r.cache.entries.capacity
  · rw [if_pos hfew, and_iff_left hfew]
  · rw [if_neg hfew]
    exact ⟨fun hsome => absurd hsome (by simp), fun hboth => absurd hboth.2 hfew⟩

theorem found_eq (h : r.Follows) {name : String} {t : Template}
    (ht : (r.cache.get name).1 = some t) : Lru.lastStored (catalogKey name) r.log = some t := by
  rw [h.get_fst_eq name] at ht
  split at ht
  · exact ht
  · cases ht

end Follows

theorem capacity_perform (r : Run) (step : Step) :
    (r.perform step).cache.entries.capacity = r.cache.entries.capacity := by
  cases step with
  | add name t => exact capacity_add _ name t
  | get name => exact Lru.capacity_get _ _
  | getOrLoad name answer => exact capacity_getOrLoad _ name _ _
  | purge => rfl

theorem capacity_performAll (r : Run) (steps : List Step) :
    (r.performAll steps).cache.entries.capacity = r.cache.entries.capacity := by
  induction steps generalizing r with
  | nil => rfl
  | cons step steps ih => exact (ih _).trans (capacity_perform r step)

end Run

/-- **What a cache with room for `capacity` templates does after what its log lists.** -/
structure Answers (capacity : Nat) (log : List (Lru.Event Template)) (c : TemplateCache) :
    Prop where
  /-- There is never more than there is room for. -/
  length_le : c.length ≤ capacity
  /-- A name is found if and only if a template was stored under its key, and fewer than `capacity`
  other keys have been used since the key was used. -/
  found_iff : ∀ name, (c.get name).1.isSome = true ↔
    (∃ t, .stored (catalogKey name) t ∈ Lru.sinceCleared log) ∧
      (Lru.usedAfter (catalogKey name) log).dedup.length < capacity
  /-- What is found was stored last. -/
  found_eq : ∀ name t, (c.get name).1 = some t → Lru.lastStored (catalogKey name) log = some t
  /-- An absent template is not stored. -/
  add_absent : ∀ name, c.add name none = c
  /-- A template is loaded, once, if and only if it is not found. -/
  loads_eq : ∀ name answer,
    (c.getOrLoad name (counting answer) 0).2.2 = if (c.get name).1.isSome then 0 else 1
  /-- Otherwise what is found is answered, as by looking it up. -/
  getOrLoad_found : ∀ name t, (c.get name).1 = some t →
    ∀ {σ : Type} (load : σ → Except Failure (Option Template) × σ) (s : σ),
      c.getOrLoad name load s = (.ok (some t), (c.get name).2, s)
  /-- What is loaded is answered, and stored as by `add`: if loading fails or finds nothing, the
  cache stays as it is. -/
  getOrLoad_missing : ∀ name, (c.get name).1 = none →
    ∀ {σ : Type} (load : σ → Except Failure (Option Template) × σ) (s : σ),
      c.getOrLoad name load s =
        ((load s).1, c.add name (load s).1.toOption.join, (load s).2)

/-- **What a cache of templates answers after any run**, whatever its size. -/
theorem answers_of_run (size : Int) (steps : List Step) :
    let run := Run.performAll ⟨ofSize size, []⟩ steps
    Answers (if size ≤ 0 then 512 else size.toNat) run.log run.cache := by
  intro run
  have hstart : Run.Follows ⟨ofSize size, []⟩ := Lru.Follows.empty _
  have hrun : run.Follows := hstart.performAll steps
  have hcapacity : run.cache.entries.capacity = if size ≤ 0 then 512 else size.toNat :=
    Run.capacity_performAll _ steps
  rw [← hcapacity]
  refine ⟨Lru.Follows.length_le hrun, hrun.found_iff, fun name t ht => hrun.found_eq ht,
    fun name => rfl, loads_getOrLoad _, fun name t ht _ load s => getOrLoad_of_some ht s,
    fun name hnone _ load s => ?_⟩
  rw [getOrLoad_of_none hnone, keepLoaded_eq]

/-- With room for two templates, a third one drops the one that was not looked up again. -/
example :
    let t : Template := .empty "T" ""
    let steps : List Step := [.add "a" (some t), .add "b" (some t), .get " A ",
      .getOrLoad "c" (.ok (some t)), .getOrLoad "d" (.ok none)]
    let run := Run.performAll ⟨ofSize 2, []⟩ steps
    ["a", "b", "c", "d"].map (fun name => (run.cache.get name).1.isSome) =
      [true, false, true, false] := by
  decide +kernel

end TemplateCache

end EventRules
