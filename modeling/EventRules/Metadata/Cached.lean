/-
**A source with caches in front of it.**

Each of the four questions has a cache of its own, by the key of the name asked for.  Failures are
not kept.  Titles are looked up item by item: only the items that are not cached are asked for, in
one question, and an item without a title is kept as one with an empty title.

Main definitions:

* `SourceCaches` — the four caches;
* `Source.cached` — the source behind the caches.
-/

import EventRules.CatalogKey
import EventRules.Lru
import EventRules.Metadata.Source

set_option relaxedAutoImplicit false
set_option autoImplicit false

namespace EventRules

/-- **The caches in front of a source.** -/
structure SourceCaches where
  /-- Templates, also absent ones. -/
  templates : Lru (Option Template)
  indexes : Lru (Option (List TableIndex))
  /-- Titles; an empty one stands for none. -/
  titles : Lru String
  functionObjects : Lru String

namespace SourceCaches

/-- The capacity of each cache for which no positive size is given. -/
def defaultSize : Nat := 4096

/-- Empty caches for `size` entries each. -/
def ofSize (size : Int) : SourceCaches :=
  let capacity := if size ≤ 0 then defaultSize else size.toNat
  ⟨⟨capacity, []⟩, ⟨capacity, []⟩, ⟨capacity, []⟩, ⟨capacity, []⟩⟩

def clear (c : SourceCaches) : SourceCaches :=
  ⟨c.templates.clear, c.indexes.clear, c.titles.clear, c.functionObjects.clear⟩

/-- Looks items up in the cache of titles: the items that are not there, the titles that are, and
the cache after it has been used. -/
def cachedTitles (cache : Lru String) :
    List String → List String × Dictionary String × Lru String
  | [] => ([], [], cache)
  | item :: rest =>
      let (found, cache') := cache.get (catalogKey item)
      let (missing, titles, cache'') := cachedTitles cache' rest
      match found with
      | none => (item :: missing, titles, cache'')
      | some "" => (missing, titles, cache'')
      | some title => (missing, titles.insert item title, cache'')

/-- Keeps the titles of the items that have been asked for, and adds them to the known titles. -/
def keepTitles (fetched : Dictionary String) :
    List String → Dictionary String × Lru String → Dictionary String × Lru String
  | [], kept => kept
  | item :: rest, (titles, cache) =>
      let title := (fetched.get? item).getD ""
      keepTitles fetched rest
        (if title = "" then titles else titles.insert item title,
          cache.insert (catalogKey item) title)

end SourceCaches

/-- An answer from a cache or, if there is none, from the source; a success is kept. -/
def Lru.answer {α σ : Type} (cache : Lru α) (name : String) (ask : σ → Except Failure α × σ)
    (s : σ) : Except Failure α × Lru α × σ :=
  match cache.get (catalogKey name) with
  | (some a, cache') => (.ok a, cache', s)
  | (none, cache') =>
      match ask s with
      | (.ok a, s') => (.ok a, cache'.insert (catalogKey name) a, s')
      | (.error e, s') => (.error e, cache', s')

/-- **The source behind the caches.** -/
def Source.cached {σ : Type} (source : Source σ) : Source (SourceCaches × σ) where
  template name s :=
    let (answer, cache, s') := s.1.templates.answer name (source.template name) s.2
    (answer, { s.1 with templates := cache }, s')
  indexes table s :=
    let (answer, cache, s') := s.1.indexes.answer table (source.indexes table) s.2
    (answer, { s.1 with indexes := cache }, s')
  titles items s :=
    let (missing, known, cache) := SourceCaches.cachedTitles s.1.titles items
    if missing.isEmpty then (.ok known, { s.1 with titles := cache }, s.2)
    else
      match source.titles missing s.2 with
      | (.error e, s') => (.error e, { s.1 with titles := cache }, s')
      | (.ok fetched, s') =>
          let (titles, cache') := SourceCaches.keepTitles fetched missing (known, cache)
          (.ok titles, { s.1 with titles := cache' }, s')
  functionObject name s :=
    let (answer, cache, s') := s.1.functionObjects.answer name (source.functionObject name) s.2
    (answer, { s.1 with functionObjects := cache }, s')

end EventRules
