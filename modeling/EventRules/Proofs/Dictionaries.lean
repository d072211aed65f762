/-
**Dictionaries in order.**

A dictionary that is built by insertions alone is in strictly ascending order of its keys.  Its
entries are then determined by its keys and their values: whatever order the entries come in, as
long as their keys are different, the dictionary is the same list.

Main definitions:

* `Dictionary.IsSorted` — dictionaries as they should be.

Main results:

* `Dictionary.IsSorted.insert` — insertions keep the order;
* `Dictionary.isSome_get?_iff` — the keys of a dictionary are those that have a value;
* `Dictionary.IsSorted.ext` — two dictionaries with the same answers are the same list;
* `Dictionary.ofList_of_perm` — the order of entries with different keys does not matter;
* `Dictionary.lookup_of_perm` — nor does that of entries for one key that all say the same;
* `Dictionary.get?_foldl_insert` — after a run of insertions the last entry for a key counts.
-/

import EventRules.Dictionary

set_option relaxedAutoImplicit false
set_option autoImplicit false

namespace EventRules

namespace Dictionary

variable {α : Type} {d : Dictionary α}

/-- The entries are in strictly ascending order of their keys. -/
def IsSorted (d : Dictionary α) : Prop :=
  d.Pairwise fun a b => a.1 < b.1

instance (d : Dictionary α) : Decidable d.IsSorted :=
  inferInstanceAs (Decidable (d.Pairwise fun a b => a.1 < b.1))

/-- The keys of a dictionary are those that have a value. -/
theorem isSome_get?_iff {key : String} : (d.get? key).isSome = true ↔ key ∈ d.keys := by
  rw [get?, keys]
  induction d with
  | nil => simp
  | cons e es ih =>
      rw [List.lookup_cons, List.map_cons, List.mem_cons]
      by_cases hk : key = e.1
      · simp [hk]
      · have hne : (key == e.1) = false := by simpa using hk
        rw [hne, ih, or_iff_right hk]

/-- What a lookup finds is an entry. -/
theorem mem_of_lookup {key : String} {value : α} (h : d.lookup key = some value) :
    (key, value) ∈ d := by
  obtain ⟨before, after, he, -⟩ := List.lookup_eq_some_iff.1 h
  rw [he]
  exact List.mem_append_right _ List.mem_cons_self

/-- If all entries for a key say the same, each of them is what a lookup finds. -/
theorem lookup_eq_some_iff_mem {key : String} {value : α}
    (h : ∀ e ∈ d, ∀ f ∈ d, e.1 = key → f.1 = key → e.2 = f.2) :
    d.lookup key = some value ↔ (key, value) ∈ d := by
  refine ⟨mem_of_lookup, fun hmem => ?_⟩
  have hkey : key ∈ d.keys := List.mem_map_of_mem hmem
  obtain ⟨found, hfound⟩ := Option.isSome_iff_exists.1 (isSome_get?_iff.2 hkey)
  have heq : found = value := h _ (mem_of_lookup hfound) _ hmem rfl rfl
  rw [← heq]
  exact hfound

/-- **The order of entries for one key that all say the same does not matter.** -/
theorem lookup_of_perm {d' : Dictionary α} (hp : d'.Perm d) {key : String}
    (h : ∀ e ∈ d, ∀ f ∈ d, e.1 = key → f.1 = key → e.2 = f.2) : d'.lookup key = d.lookup key := by
  refine Option.ext fun value => ?_
  rw [lookup_eq_some_iff_mem h, lookup_eq_some_iff_mem, hp.mem_iff]
  intro e he f hf
  exact h e (hp.mem_iff.1 he) f (hp.mem_iff.1 hf)

/-- **After a run of insertions the last entry for a key counts**, and what was there before only
if there is none. -/
theorem get?_foldl_insert (entries : List (String × α)) (d : Dictionary α) (key : String) :
    get? (entries.foldl (fun d e => insert e.1 e.2 d) d) key =
      (entries.reverse.lookup key).or (d.get? key) := by
  induction entries generalizing d with
  | nil => rfl
  | cons e entries ih =>
      rw [List.foldl_cons, ih, List.reverse_cons, List.lookup_append, Option.or_assoc]
      congr 1
      by_cases hkey : key = e.1
      · rw [hkey, get?_insert_self, List.lookup_cons_self, Option.some_or]
      · have hne : (key == e.1) = false := by simpa using hkey
        rw [get?_insert_of_ne d e.2 hkey, List.lookup_cons, hne, List.lookup_nil, Option.none_or]

theorem lt_of_not_lt {a b : String} (h : ¬ a < b) (hne : b ≠ a) : b < a := by
  by_cases hlt : b < a
  · exact hlt
  · exact absurd (String.le_antisymm (String.not_lt.1 h) (String.not_lt.1 hlt)) hne

/-- A new key is one entry more. -/
theorem perm_insert {key : String} (value : α) (h : key ∉ d.keys) :
    (insert key value d).Perm ((key, value) :: d) := by
  induction d with
  | nil => exact .refl _
  | cons e d ih =>
      obtain ⟨k, v⟩ := e
      obtain ⟨hk, hd⟩ := not_or.1 (mt List.mem_cons.2 h)
      rw [insert]
      split
      · exact .refl _
      · rw [if_neg fun he => hk he.symm]
        exact ((ih hd).cons (k, v)).trans (.swap _ _ _)

theorem mem_insert {key : String} {value : α} {e : String × α} (h : e ∈ insert key value d) :
    e = (key, value) ∨ e ∈ d := by
  induction d with
  | nil => exact .inl (List.mem_singleton.1 h)
  | cons f d ih =>
      obtain ⟨k, v⟩ := f
      rw [insert] at h
      split at h
      · exact List.mem_cons.1 h
      · split at h
        · exact (List.mem_cons.1 h).imp_right (List.mem_cons_of_mem _)
        · rcases List.mem_cons.1 h with rfl | h
          · exact .inr List.mem_cons_self
          · exact (ih h).imp_right (List.mem_cons_of_mem _)

theorem IsSorted.insert (h : d.IsSorted) (key : String) (value : α) :
    (Dictionary.insert key value d).IsSorted := by
  induction d with
  | nil => exact List.pairwise_singleton _ _
  | cons e d ih =>
      obtain ⟨k, v⟩ := e
      obtain ⟨hk, hd⟩ := List.pairwise_cons.1 h
      rw [Dictionary.insert]
      split
      · rename_i hlt
        refine List.pairwise_cons.2 ⟨fun e he => ?_, h⟩
        rcases List.mem_cons.1 he with rfl | he
        · exact hlt
        · exact String.lt_trans hlt (hk e he)
      · rename_i hlt
        split
        · rename_i heq
          subst heq
          exact List.pairwise_cons.2 ⟨hk, hd⟩
        · rename_i hne
          refine List.pairwise_cons.2 ⟨fun e he => ?_, ih hd⟩
          rcases mem_insert he with rfl | he
          · exact lt_of_not_lt hlt hne
          · exact hk e he

theorem isSorted_foldl (entries : List (String × α)) (h : d.IsSorted) :
    (entries.foldl (fun d e => Dictionary.insert e.1 e.2 d) d).IsSorted := by
  induction entries generalizing d with
  | nil => exact h
  | cons e entries ih => exact ih (h.insert e.1 e.2)

theorem perm_foldl {entries : List (String × α)} (h : (entries.map (·.1)).Nodup)
    (hd : ∀ e ∈ entries, e.1 ∉ d.keys) :
    (entries.foldl (fun d e => Dictionary.insert e.1 e.2 d) d).Perm (entries ++ d) := by
  induction entries generalizing d with
  | nil => exact .refl _
  | cons e entries ih =>
      obtain ⟨he, hn⟩ := List.nodup_cons.1 h
      have hperm := perm_insert e.2 (hd e List.mem_cons_self)
      refine (ih hn fun f hf => ?_).trans ?_
      · intro hm
        rcases List.mem_cons.1 ((hperm.map (·.1)).mem_iff.1 hm) with hfe | hm
        · exact he (hfe ▸ List.mem_map_of_mem hf)
        · exact hd f (List.mem_cons_of_mem _ hf) hm
      · exact (hperm.append_left entries).trans List.perm_middle

/-- The dictionary of entries with different keys has just these entries. -/
theorem perm_ofList {entries : List (String × α)} (h : (entries.map (·.1)).Nodup) :
    (ofList entries).Perm entries := by
  rw [ofList]
  simpa using perm_foldl (d := []) h fun _ _ => List.not_mem_nil

/-- Different entries have different keys. -/
theorem IsSorted.nodup_keys (h : d.IsSorted) : (d.map (·.1)).Nodup := by
  refine List.pairwise_map.2 (List.Pairwise.imp ?_ h)
  intro a b hlt heq
  rw [heq] at hlt
  exact String.lt_irrefl _ hlt

theorem IsSorted.nodup (h : d.IsSorted) : d.Nodup :=
  (List.pairwise_map.1 h.nodup_keys).imp fun hne heq => hne (congrArg Prod.fst heq)

/-- A key has one entry only. -/
theorem IsSorted.eq_of_key_eq (h : d.IsSorted) {e f : String × α} (he : e ∈ d) (hf : f ∈ d)
    (hkey : e.1 = f.1) : e = f := by
  induction d with
  | nil => cases he
  | cons g d ih =>
      obtain ⟨hg, hd⟩ := List.pairwise_cons.1 h
      rcases List.mem_cons.1 he with rfl | hed
      · rcases List.mem_cons.1 hf with rfl | hfd
        · rfl
        · exact absurd (hkey ▸ hg f hfd) (String.lt_irrefl _)
      · rcases List.mem_cons.1 hf with rfl | hfd
        · exact absurd (hkey ▸ hg e hed) (String.lt_irrefl _)
        · exact ih hd hed hfd

theorem IsSorted.lookup_eq_some_iff (h : d.IsSorted) {key : String} {value : α} :
    d.lookup key = some value ↔ (key, value) ∈ d := by
  refine lookup_eq_some_iff_mem fun e he f hf hekey hfkey => ?_
  rw [h.eq_of_key_eq he hf (hekey.trans hfkey.symm)]

/-- Entries have one order only. -/
theorem IsSorted.eq_of_perm {d' : Dictionary α} (h : d.IsSorted) (h' : d'.IsSorted)
    (hp : d.Perm d') : d = d' :=
  hp.eq_of_pairwise (fun _ _ _ _ hab hba => absurd hba (String.lt_asymm hab)) h h'

/-- **Two dictionaries with the same answers are the same list.** -/
theorem IsSorted.ext {d' : Dictionary α} (h : d.IsSorted) (h' : d'.IsSorted)
    (hget : ∀ key, d.get? key = d'.get? key) : d = d' := by
  have hmem (e : String × α) : e ∈ d ↔ e ∈ d' := by
    have he : d.lookup e.1 = d'.lookup e.1 := hget e.1
    rw [← h.lookup_eq_some_iff, he, h'.lookup_eq_some_iff]
  exact h.eq_of_perm h' ((List.perm_ext_iff_of_nodup h.nodup h'.nodup).2 fun e => hmem e)

/-- **The order of the entries does not matter.** -/
theorem ofList_of_perm {entries : List (String × α)} (hd : d.IsSorted) (h : entries.Perm d) :
    ofList entries = d := by
  have hperm := (perm_ofList ((h.map (·.1)).nodup_iff.2 hd.nodup_keys)).trans h
  exact IsSorted.eq_of_perm (isSorted_foldl entries List.Pairwise.nil) hd hperm

end Dictionary

end EventRules
