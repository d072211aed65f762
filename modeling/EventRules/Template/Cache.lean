/-
**Caches of templates.**

A template cache keeps templates by the key of their name.  It outlives single passes over event
rules: a template that is needed again is not asked for again.  An absent template is never kept,
nor is a failure to load one.

Main definitions:

* `TemplateCache`, `TemplateCache.ofSize`;
* `TemplateCache.get`, `TemplateCache.add`, `TemplateCache.getOrLoad`.

Main results:

* `TemplateCache.getOrLoad_of_some`, `TemplateCache.getOrLoad_of_none` — a template is loaded if
  and only if it is missing.
-/

import EventRules.CatalogKey
import EventRules.Lru
import EventRules.Template.Basic

set_option relaxedAutoImplicit false
set_option autoImplicit false

namespace EventRules

/-- **A cache of templates**, by the keys of their names. -/
structure TemplateCache where
  entries : Lru Template

namespace TemplateCache

def defaultSize : Nat := 512

/-- An empty cache for `size` templates. -/
def ofSize (size : Int) : TemplateCache :=
  ⟨{ capacity := if size ≤ 0 then defaultSize else size.toNat }⟩

def default : TemplateCache :=
  ofSize defaultSize

/-- The template cached under a name, which becomes the most recently used one. -/
def get (c : TemplateCache) (name : String) : Option Template × TemplateCache :=
  let (found, entries) := c.entries.get (catalogKey name)
  (found, ⟨entries⟩)

/-- Keeps a template, if there is one, under a name. -/
def add (c : TemplateCache) (name : String) : Option Template → TemplateCache
  | none => c
  | some t => ⟨c.entries.insert (catalogKey name) t⟩

/-- Keeps what was loaded for a name.  If loading failed, the cache stays as it is. -/
def keepLoaded {σ : Type} (c : TemplateCache) (name : String) :
    Except Failure (Option Template) × σ → Except Failure (Option Template) × TemplateCache × σ
  | (.ok t, s) => (.ok t, c.add name t, s)
  | (.error e, s) => (.error e, c, s)

/-- **The template of a name**, from the cache or by loading it.  What was loaded is kept; loading
may fail or find nothing, and then the cache stays as it is.  A missing template is looked up once
more before it is loaded: another caller may have loaded it in the meantime. -/
def getOrLoad {σ : Type} (c : TemplateCache) (name : String)
    (load : σ → Except Failure (Option Template) × σ) (s : σ) :
    Except Failure (Option Template) × TemplateCache × σ :=
  match c.get name with
  | (some t, c') => (.ok (some t), c', s)
  | (none, c') =>
      match c'.get name with
      | (some t, c'') => (.ok (some t), c'', s)
      | (none, c'') => c''.keepLoaded name (load s)

def clear (c : TemplateCache) : TemplateCache :=
  ⟨c.entries.clear⟩

def length (c : TemplateCache) : Nat :=
  c.entries.length

@[simp] theorem add_none (c : TemplateCache) (name : String) : c.add name none = c := rfl

theorem get_fst (c : TemplateCache) (name : String) :
    (c.get name).1 = c.entries.peek? (catalogKey name) :=
  Lru.get_fst _ _

theorem get_of_none {c : TemplateCache} {name : String} (h : (c.get name).1 = none) :
    c.get name = (none, c) := by
  have hpeek : c.entries.peek? (catalogKey name) = none := (get_fst c name).symm.trans h
  have hget : c.entries.get (catalogKey name) = (none, c.entries) := by
    rw [Lru.get, hpeek]
  rw [get, hget]

variable {σ : Type} {load : σ → Except Failure (Option Template) × σ}

theorem getOrLoad_of_some {c : TemplateCache} {name : String} {t : Template}
    (h : (c.get name).1 = some t) (s : σ) :
    c.getOrLoad name load s = (.ok (some t), (c.get name).2, s) := by
  have hget : c.get name = (some t, (c.get name).2) := Prod.ext h rfl
  rw [getOrLoad, hget]

/-- A missing template is loaded, and the second look changes nothing. -/
theorem getOrLoad_of_none {c : TemplateCache} {name : String} (h : (c.get name).1 = none) (s : σ) :
    c.getOrLoad name load s = c.keepLoaded name (load s) := by
  have hget : c.get name = (none, c) := get_of_none h
  rw [getOrLoad, hget]
  dsimp only
  rw [hget]

end TemplateCache

end EventRules
