/-
**A template is an index of its document.**

A template is built by going through items one by one: an item whose id is taken is passed over,
any other goes into the map of the items under their ids, and its id to the end of the order.  The
two stay in agreement: the order lists each id of the map once, and each id leads to its own item.
So the items in document order, their number and the lookup of an id all speak of the same items.

What comes out has one item for each id, in the order in which the ids come first, and each item is
the first one with its id.  These two facts determine the list, so it makes no difference whether a
template is read from a document or put together from a list of items, and putting it together from
its own items changes neither the map nor the order.

The items of a document are described by the elements below the one that carries the template, at
any depth; elements without an id describe none.

Main definitions:

* `Template.Agrees` — **map and order agree**;
* `Template.Indexes` — **a list with the first item of each id**;
* `Template.Represents` — what a template answers where it represents items;
* `Template.described` — the items that the elements below a node describe.

Main results:

* `Template.Agrees.add` — an insertion keeps map and order in agreement;
* `Template.Represents.add`, `Template.Represents.foldl` — one item more, and all of them;
* `Template.Indexes.unique`, `Template.Agrees.ext` — items determine their index, and an index the
  map and the order;
* `Template.parse_indexes` — **a template is an index of its document**, or the document is
  malformed.
-/

import EventRules.Proofs.Dictionaries
import EventRules.Proofs.Recency
import EventRules.Proofs.Tree
import EventRules.Template.Basic

set_option relaxedAutoImplicit false
set_option autoImplicit false

namespace EventRules

/-! ### The different keys of a list -/

theorem Lru.recency_concat (ks : List String) (k : String) :
    recency (ks ++ [k]) = if k ∈ ks then recency ks else recency ks ++ [k] := by
  induction ks with
  | nil => rfl
  | cons a ks ih =>
      rw [List.cons_append, recency, ih, recency]
      by_cases hk : k = a
      · subst hk
        -- the last one is dropped again, be it new among the later ones or not
        split
        · simp
        · simp
      · simp only [List.mem_cons, hk, false_or]
        split
        · rfl
        · simp [hk]

theorem Lru.recency_of_nodup {ks : List String} (h : ks.Nodup) : recency ks = ks := by
  induction ks with
  | nil => rfl
  | cons k ks ih =>
      obtain ⟨hk, hks⟩ := List.nodup_cons.1 h
      rw [recency, ih hks, List.filter_eq_self.2]
      intro a ha
      have hne : a ≠ k := fun he => hk (he ▸ ha)
      simpa using hne

namespace Template

/-! ### Map and order -/

/-- **Map and order agree**: the order lists each id of the map once, and each id leads to its own
item. -/
structure Agrees (t : Template) : Prop where
  sorted : t.index.byId.IsSorted
  nodup : t.index.order.Nodup
  mem_order_iff : ∀ id, id ∈ t.index.order ↔ (t.get? id).isSome = true
  id_eq : ∀ {id i}, t.get? id = some i → i.id = id

/-- An insertion leaves the name and the description alone. -/
theorem header_add (t : Template) (i : TemplateItem) :
    (t.add i).name = t.name ∧ (t.add i).description = t.description := by
  unfold add
  split <;> exact ⟨rfl, rfl⟩

theorem agrees_empty (name description : String) : (empty name description).Agrees where
  sorted := List.Pairwise.nil
  nodup := List.nodup_nil
  mem_order_iff id := by simp [empty, get?]
  id_eq h := by simp [empty, get?] at h

namespace Agrees

variable {t t' : Template}

theorem exists_of_mem (h : t.Agrees) {id : String} (hid : id ∈ t.index.order) :
    ∃ i, t.get? id = some i ∧ i.id = id := by
  obtain ⟨i, hi⟩ := Option.isSome_iff_exists.1 ((h.mem_order_iff id).1 hid)
  exact ⟨i, hi, h.id_eq hi⟩

/-- An item whose id is taken is passed over. -/
theorem add_of_mem (h : t.Agrees) {i : TemplateItem} (hi : i.id ∈ t.index.order) : t.add i = t :=
  if_pos ((h.mem_order_iff i.id).1 hi)

/-- Any other item goes into the map, and its id to the end of the order. -/
theorem add_of_not_mem (h : t.Agrees) {i : TemplateItem} (hi : i.id ∉ t.index.order) :
    t.add i = { t with index := ⟨t.index.byId.insert i.id i, t.index.order ++ [i.id]⟩ } :=
  if_neg (mt (h.mem_order_iff i.id).2 hi)

/-- **An insertion keeps map and order in agreement.** -/
theorem add (h : t.Agrees) (i : TemplateItem) : (t.add i).Agrees := by
  by_cases hi : i.id ∈ t.index.order
  · rw [h.add_of_mem hi]
    exact h
  · rw [h.add_of_not_mem hi]
    refine ⟨h.sorted.insert i.id i, ?_, fun id => ?_, fun {id j} hj => ?_⟩
    · exact List.nodup_append.2 ⟨h.nodup, List.nodup_singleton _, by
        rintro id hid _ hm rfl
        exact hi (List.mem_singleton.1 hm ▸ hid)⟩
    · by_cases hid : id = i.id
      · simp [get?, hid]
      · simpa [get?, Dictionary.get?_insert_of_ne _ i hid, hid] using h.mem_order_iff id
    · by_cases hid : id = i.id
      · subst hid
        rw [get?, Dictionary.get?_insert_self] at hj
        exact congrArg TemplateItem.id (Option.some.inj hj).symm
      · rw [get?, Dictionary.get?_insert_of_ne _ i hid] at hj
        exact h.id_eq hj

/-- The ids of the items are the order. -/
theorem ids_eq_order (h : t.Agrees) : t.items.map (·.id) = t.index.order := by
  rw [items, List.map_map]
  refine (List.map_congr_left fun id hid => ?_).trans (List.map_id _)
  obtain ⟨i, hi, hsame⟩ := h.exists_of_mem hid
  simp [hi, hsame]

/-- The items of an insertion. -/
theorem items_add (h : t.Agrees) (i : TemplateItem) :
    (t.add i).items = if i.id ∈ t.index.order then t.items else t.items ++ [i] := by
  split
  · rename_i hi
    rw [h.add_of_mem hi]
  · rename_i hi
    rw [h.add_of_not_mem hi, items, List.map_append, List.map_singleton, items]
    refine congrArg₂ (· ++ ·) (List.map_congr_left fun id hid => ?_) (by simp [get?])
    have hne : id ≠ i.id := fun he => hi (he ▸ hid)
    rw [get?, Dictionary.get?_insert_of_ne _ i hne, get?]

/-- **A lookup finds the items of the order**, and nothing else. -/
theorem get?_eq_some_iff (h : t.Agrees) {id : String} {i : TemplateItem} :
    t.get? id = some i ↔ i ∈ t.items ∧ i.id = id := by
  constructor
  · intro hi
    have hid : id ∈ t.index.order := (h.mem_order_iff id).2 (by simp [hi])
    exact ⟨List.mem_map.2 ⟨id, hid, by simp [hi]⟩, h.id_eq hi⟩
  · rintro ⟨hi, rfl⟩
    obtain ⟨id, hid, hitem⟩ := List.mem_map.1 hi
    obtain ⟨j, hj, hsame⟩ := h.exists_of_mem hid
    -- the item at this place of the order is the one of its id
    obtain rfl : j = i := by simpa [hj] using hitem
    rw [hsame, hj]

/-- **The items determine the map and the order.** -/
theorem ext (h : t.Agrees) (h' : t'.Agrees) (hname : t.name = t'.name)
    (hdescription : t.description = t'.description) (hitems : t.items = t'.items) : t = t' := by
  have horder : t.index.order = t'.index.order := by
    rw [← h.ids_eq_order, ← h'.ids_eq_order, hitems]
  have hget (id : String) : t.get? id = t'.get? id :=
    Option.ext fun i => by rw [h.get?_eq_some_iff, h'.get?_eq_some_iff, hitems]
  have hmap : t.index.byId = t'.index.byId := h.sorted.ext h'.sorted hget
  obtain ⟨name, description, byId, order⟩ := t
  cases hname
  cases hdescription
  cases horder
  cases hmap
  rfl

end Agrees

/-! ### Lists with one item for each id -/

/-- **A list is an index of items**: it has one item for each id, in the order in which the ids come
first, and an id is found at its first item. -/
structure Indexes (kept items : List TemplateItem) : Prop where
  ids : kept.map (·.id) = Lru.recency (items.map (·.id))
  found : ∀ id, kept.find? (·.id == id) = items.find? (·.id == id)

namespace Indexes

variable {kept kept' items : List TemplateItem}

theorem nodup (h : Indexes kept items) : (kept.map (·.id)).Nodup := by
  rw [h.ids]
  exact Lru.nodup_recency _

theorem length_eq (h : Indexes kept items) :
    kept.length = (items.map (·.id)).dedup.length := by
  rw [← Lru.length_recency, ← h.ids, List.length_map]

/-- An id is in an index if it is among the ids of the items. -/
theorem mem_ids (h : Indexes kept items) {id : String} :
    id ∈ kept.map (·.id) ↔ id ∈ items.map (·.id) := by
  rw [h.ids, Lru.mem_recency]

/-- As every id has one item, an id is found at that item. -/
theorem find?_eq_some_iff (h : Indexes kept items) {id : String} {i : TemplateItem} :
    kept.find? (·.id == id) = some i ↔ i ∈ kept ∧ i.id = id := by
  constructor
  · intro hi
    have hid := List.find?_some hi
    exact ⟨List.mem_of_find?_eq_some hi, by simpa using hid⟩
  · rintro ⟨hi, rfl⟩
    obtain ⟨j, hj⟩ : ∃ j, kept.find? (·.id == i.id) = some j :=
      Option.isSome_iff_exists.1 (List.find?_isSome.2 ⟨i, hi, by simp⟩)
    have hid := List.find?_some hj
    have hsame : j = i :=
      List.inj_on_of_nodup_map h.nodup (List.mem_of_find?_eq_some hj) hi (by simpa using hid)
    rw [hj, hsame]

/-- **There is one index only.** -/
theorem unique (h : Indexes kept items) (h' : Indexes kept' items) : kept = kept' := by
  have hids : kept.map (·.id) = kept'.map (·.id) := h.ids.trans h'.ids.symm
  have hlength : kept.length = kept'.length := by simpa using congrArg List.length hids
  refine List.ext_getElem hlength fun n hn hn' => ?_
  -- the ids at one place are the same, and so is what is found at this id
  have hid : kept[n].id = kept'[n].id := by
    simpa [hn, hn'] using congrArg (·[n]?) hids
  have hfound := h.find?_eq_some_iff.2 ⟨List.getElem_mem hn, hid⟩
  have hfound' := h'.find?_eq_some_iff.2 ⟨List.getElem_mem hn', rfl⟩
  rw [h.found, ← h'.found, hfound'] at hfound
  exact (Option.some.inj hfound).symm

/-- A list with different ids is an index of itself. -/
theorem refl (h : (kept.map (·.id)).Nodup) : Indexes kept kept :=
  ⟨(Lru.recency_of_nodup h).symm, fun _ => rfl⟩

end Indexes

/-! ### Templates of items -/

/-- **A template represents items**: its map and its order agree, its items are an index of them, it
has as many items as there are ids, and looking an id up gives the first item of that id, which is
the one of its items that has the id, and nothing else. -/
structure Represents (t : Template) (items : List TemplateItem) : Prop where
  agrees : t.Agrees
  indexes : Indexes t.items items
  length_eq : t.length = (items.map (·.id)).dedup.length
  get?_eq_find? : ∀ id, t.get? id = items.find? (·.id == id)
  get?_eq_some_iff : ∀ id i, t.get? id = some i ↔ i ∈ t.items ∧ i.id = id

theorem Agrees.represents {t : Template} {items : List TemplateItem} (ha : t.Agrees)
    (h : Indexes t.items items) : Represents t items where
  agrees := ha
  indexes := h
  length_eq := by
    rw [← h.length_eq, Template.items, List.length_map]
    rfl
  get?_eq_find? id := by
    rw [← h.found]
    exact Option.ext fun i => ha.get?_eq_some_iff.trans h.find?_eq_some_iff.symm
  get?_eq_some_iff _ _ := ha.get?_eq_some_iff

namespace Represents

variable {t : Template} {items : List TemplateItem}

/-- The ids of the order are those of the items. -/
theorem mem_order_iff (h : Represents t items) {id : String} :
    id ∈ t.index.order ↔ id ∈ items.map (·.id) := by
  rw [← h.agrees.ids_eq_order, h.indexes.mem_ids]

/-- **One item more** is represented after its insertion. -/
theorem add (h : Represents t items) (i : TemplateItem) :
    Represents (t.add i) (items ++ [i]) := by
  refine (h.agrees.add i).represents ?_
  rw [h.agrees.items_add]
  by_cases hi : i.id ∈ items.map (·.id)
  · rw [if_pos (h.mem_order_iff.2 hi)]
    refine ⟨?_, fun id => ?_⟩
    · rw [List.map_append, List.map_singleton, Lru.recency_concat, if_pos hi, h.indexes.ids]
    · rw [h.indexes.found, List.find?_append]
      by_cases hid : i.id = id
      · -- an earlier item has the id, so the new one is not looked at
        obtain ⟨j, hj, hsame⟩ := List.mem_map.1 (hid ▸ hi)
        obtain ⟨k, hk⟩ : ∃ k, items.find? (·.id == id) = some k :=
          Option.isSome_iff_exists.1 (List.find?_isSome.2 ⟨j, hj, by simpa using hsame⟩)
        rw [hk, Option.some_or]
      · simp [hid]
  · rw [if_neg (mt h.mem_order_iff.1 hi)]
    refine ⟨?_, fun id => ?_⟩
    · rw [List.map_append, List.map_append, List.map_singleton, Lru.recency_concat, if_neg hi,
        h.indexes.ids]
    · rw [List.find?_append, List.find?_append, h.indexes.found]

/-- **All items one after the other.** -/
theorem foldl (h : Represents t items) (later : List TemplateItem) :
    Represents (later.foldl Template.add t) (items ++ later) := by
  induction later generalizing t items with
  | nil => simpa using h
  | cons i later ih => simpa using ih (h.add i)

end Represents

theorem represents_empty (name description : String) : Represents (empty name description) [] :=
  (agrees_empty name description).represents ⟨rfl, fun _ => rfl⟩

/-- **A template of items represents them.** -/
theorem represents_ofItems (name description : String) (items : List TemplateItem) :
    Represents (ofItems name description items) items :=
  (represents_empty name description).foldl items

theorem header_foldl_add (items : List TemplateItem) (t : Template) :
    (items.foldl add t).name = t.name ∧ (items.foldl add t).description = t.description := by
  induction items generalizing t with
  | nil => exact ⟨rfl, rfl⟩
  | cons i items ih =>
      obtain ⟨hname, hdescription⟩ := ih (t.add i)
      exact ⟨hname.trans (header_add t i).1, hdescription.trans (header_add t i).2⟩

theorem header_ofItems (name description : String) (items : List TemplateItem) :
    (ofItems name description items).name = name ∧
      (ofItems name description items).description = description :=
  header_foldl_add items _

/-- **A template is put together again from its own items.** -/
theorem Agrees.ofItems_items {t : Template} (h : t.Agrees) :
    ofItems t.name t.description t.items = t := by
  have hof := represents_ofItems t.name t.description t.items
  have hnodup : (t.items.map (·.id)).Nodup := h.ids_eq_order ▸ h.nodup
  obtain ⟨hname, hdescription⟩ := header_ofItems t.name t.description t.items
  exact hof.agrees.ext h hname hdescription (hof.indexes.unique (.refl hnodup))

/-! ### Documents -/

/-- **The items that the elements below a node describe**, in document order. -/
def described (top : Node) : List TemplateItem :=
  (top.descendants.map itemOfNode).filter (·.id != "")

/-- **The walk over a document inserts the items that it describes.** -/
theorem walkBelow_itemVisit (top : Node) (t : Template) :
    top.walkBelow itemVisit t = (described top).foldl add t := by
  have hvisit : itemVisit = fun t n =>
      (if (itemOfNode n).id != "" then t.add (itemOfNode n) else t, true) := by
    funext t n
    by_cases hid : (itemOfNode n).id = ""
    · simp [itemVisit, hid]
    · simp [itemVisit, hid]
  rw [hvisit, Node.walkBelow_eq_foldl, described, List.foldl_filter, List.foldl_map]

/-- **The template of an element**: it has the name and the description of the element, it
represents the items that the elements below it describe, and putting it together from a list of
these gives the same template. -/
structure IsOf (t : Template) (top : Node) : Prop where
  name_eq : t.name = top.attr ["szTmplName"]
  description_eq : t.description = top.attr ["szDesc"]
  represents : Represents t (described top)
  ofItems_described : ofItems t.name t.description (described top) = t
  ofItems_items : ofItems t.name t.description t.items = t

theorem isOf_ofItems (top : Node) :
    IsOf (ofItems (top.attr ["szTmplName"]) (top.attr ["szDesc"]) (described top)) top := by
  have hof := represents_ofItems (top.attr ["szTmplName"]) (top.attr ["szDesc"]) (described top)
  obtain ⟨hname, hdescription⟩ :=
    header_ofItems (top.attr ["szTmplName"]) (top.attr ["szDesc"]) (described top)
  exact ⟨hname, hdescription, hof, congrArg₂ (ofItems · · (described top)) hname hdescription,
    hof.agrees.ofItems_items⟩

/-- A root describes a template exactly if an element carries its name. -/
theorem ofNode_cases (label : String) (root : Node) :
    (∃ top t, top? root = some top ∧ top.attr ["szTmplName"] ≠ "" ∧ ofNode label root = .ok t ∧
        IsOf t top) ∨
      ∃ reason, ofNode label root = .error (malformed label reason) ∧
        ∀ top ∈ top? root, top.attr ["szTmplName"] = "" := by
  cases htop : top? root with
  | none => exact .inr ⟨"no template root element", by rw [ofNode, htop], nofun⟩
  | some top =>
      by_cases hname : top.attr ["szTmplName"] = ""
      · refine .inr ⟨"template root has no szTmplName", by simp [ofNode, htop, hname], ?_⟩
        rintro _ ⟨rfl⟩
        exact hname
      · refine .inl ⟨top, _, rfl, hname, ?_, isOf_ofItems top⟩
        rw [ofNode, htop]
        dsimp only
        rw [if_neg hname, walkBelow_itemVisit, ofItems]

/-- **A template is an index of its document.**  A document either has a root with an element that
carries a template's name; then the items are those described below this element, the first of each
id in document order, ids are found at their items and nowhere else, map and order agree, and the
template is put together again from its own items.  Or it is rejected, as a malformed document and
a malformed template.  Whatever items a template is put together from, it represents them in the
same way. -/
theorem parse_indexes (label : String) (doc : Bytes) :
    (match parse label doc with
      | .ok t =>
          ∃ root top, Document.parse doc = .ok root ∧ top? root = some top ∧
            top.attr ["szTmplName"] ≠ "" ∧ IsOf t top
      | .error e =>
          e.is .malformedTemplate = true ∧ e.is .malformedDocument = true ∧
            ∀ root, Document.parse doc = .ok root → ∀ top ∈ top? root,
              top.attr ["szTmplName"] = "") ∧
      ∀ name description items,
        (ofItems name description items).name = name ∧
          (ofItems name description items).description = description ∧
          Represents (ofItems name description items) items := by
  refine ⟨?_, fun name description items => ?_⟩
  case refine_2 =>
    obtain ⟨hname, hdescription⟩ := header_ofItems name description items
    exact ⟨hname, hdescription, represents_ofItems name description items⟩
  unfold parse
  cases hdoc : Document.parse doc with
  | error fault => exact ⟨rfl, rfl, nofun⟩
  | ok root =>
      rcases ofNode_cases label root with ⟨top, t, htop, hname, hok, hof⟩ | ⟨reason, herror, hnone⟩
      · dsimp only
        rw [hok]
        exact ⟨root, top, rfl, htop, hname, hof⟩
      · dsimp only
        rw [herror]
        refine ⟨rfl, rfl, ?_⟩
        rintro _ ⟨rfl⟩
        exact hnone

/-- Items inside items, under both spellings of the id, with an id that is taken and without one. -/
example :
    let doc : Bytes :=
      "<R><T szTmplName='D1'><I idItem='2' szDict='A'><J idItemID='1' ".toUTF8.toList ++
        "szName='n'/></I><I szDict='B'/><I idItem='1' szDict='C'/></T></R>".toUTF8.toList
    (parse "template" doc).toOption =
      some ⟨"D1", "", [("1", ⟨"1", "", "n", 0, ""⟩), ("2", ⟨"2", "A", "", 0, ""⟩)],
        ["2", "1"]⟩ := by
  decide +kernel

end Template

end EventRules
