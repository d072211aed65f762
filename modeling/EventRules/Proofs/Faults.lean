/-
**Which passes fail, and whom they blame.**

A pass fails for what its documents are, never for what happens while they are replayed.  The
template is at fault if it has content but describes no template; an event document is at fault if
it has content but cannot be read, or has no key.  The failure is that of the template if the
template is at fault, and otherwise that of the first event document at fault, which it names by
its place in the list.  The kinds that callers ask for tell the three cases apart.

Main definitions:

* `Node.Carries` — an element has an attribute that is not empty;
* `RootKey`, `RootTitle` — the key of an event and the name of a template, read off the root;
* `Offends`, `FirstOffence` — event documents at fault, and the first of a list;
* `EventFault` — the failure of an event document at fault;
* `TemplateRejected`, `Broken` — when the template, and when anything at all, is at fault;
* `EventsKey`, `TemplateTitle` — what a pass that succeeds returns;
* `Blames` — what a failure says of the documents.

Main results:

* `Decompiler.rootKey_of_readEvent`, `Decompiler.eventFault_of_readEvent` — what reading one
  document gives;
* `Decompiler.exists_firstOffence`, `Decompiler.eventsKey_of_readEvents` — the same for a list;
* `Template.rootTitle_of_parse` — the name of a template that is accepted;
* `decompile_fails_iff_broken` — **exactly the broken documents make a pass fail**.
-/

import EventRules.Proofs.Indexing
import EventRules.Proofs.Reading

set_option relaxedAutoImplicit false
set_option autoImplicit false

namespace EventRules

/-! ### Kinds in a chain -/

namespace Failure

@[simp] theorem is_sentinel (kind k : Sentinel) : (sentinel k).is kind = (k == kind) := by
  simp [is, chain, isDirectly]

@[simp] theorem is_markup (kind : Sentinel) (fault : Markup.Fault) :
    (markup fault).is kind = false := by
  simp [is, chain, isDirectly]

@[simp] theorem is_within (kind : Sentinel) (before after : String) (cause : Failure) :
    (within before cause after).is kind = cause.is kind := by
  simp [is, chain, isDirectly]

@[simp] theorem is_malformed (kind : Sentinel) (document reason : String) (cause : Failure) :
    (malformed document reason (some cause)).is kind =
      (kind == .malformedDocument || cause.is kind) := by
  simp [is, chain, isDirectly]

end Failure

/-! ### Attributes that are not empty -/

namespace Node

/-- **The element has the attribute**, and the value is not empty. -/
def Carries (n : Node) (name value : String) : Prop :=
  n.attrs.get? name = some value ∧ value ≠ ""

theorem carries_attr {n : Node} {name : String} (h : n.attr [name] ≠ "") :
    n.Carries name (n.attr [name]) := by
  revert h
  simp only [attr]
  split
  · intro h
    exact absurd rfl h
  · rename_i value hne hv
    intro h
    exact ⟨hv, h⟩
  · intro h
    exact absurd rfl h

theorem Carries.attr_eq {n : Node} {name value : String} (h : n.Carries name value) :
    n.attr [name] = value := by
  obtain ⟨hv, hne⟩ := h
  simp only [attr, hv]

theorem not_carries {n : Node} {name : String} (h : n.attr [name] = "") (value : String) :
    ¬ n.Carries name value := by
  intro hc
  exact hc.2 (hc.attr_eq ▸ h)

end Node

/-! ### The key of an event -/

/-- **The key of an event** with the given root: that of the root, or that of the first marker
below it if the root has none. -/
inductive RootKey (root : Node) : String → Prop
  | own {key : String} (h : root.Carries "szEventSpecKey" key) : RootKey root key
  | marker {m : Node} {key : String} (h : ∀ k, ¬ root.Carries "szEventSpecKey" k)
      (hm : root.children.find? (·.name == "GBREvent") = some m)
      (hk : m.Carries "szEventSpecKey" key) : RootKey root key

/-- **An event without a key**: neither the root nor the first marker below it has one. -/
def Keyless (root : Node) : Prop :=
  (∀ key, ¬ root.Carries "szEventSpecKey" key) ∧
    ∀ m, root.children.find? (·.name == "GBREvent") = some m →
      ∀ key, ¬ m.Carries "szEventSpecKey" key

theorem RootKey.not_keyless {root : Node} {key : String} (h : RootKey root key) :
    ¬ Keyless root := by
  rintro ⟨hroot, hmarker⟩
  cases h with
  | own h => exact hroot key h
  | marker _ hm hk => exact hmarker _ hm key hk

namespace Decompiler

theorem eventKey_eq (root : Node) :
    eventKey root =
      if root.attr [keyAttr] = "" then
        (root.children.find? (·.name == "GBREvent")).elim "" (·.attr [keyAttr])
      else root.attr [keyAttr] := by
  unfold eventKey
  split
  · rename_i h
    rw [if_pos h]
    rfl
  · rename_i h
    rw [if_neg h]

theorem rootKey_eventKey {root : Node} (h : eventKey root ≠ "") : RootKey root (eventKey root) := by
  rw [eventKey_eq] at h ⊢
  by_cases hroot : root.attr [keyAttr] = ""
  · rw [if_pos hroot] at h ⊢
    cases hm : root.children.find? (·.name == "GBREvent") with
    | none =>
        rw [hm] at h
        exact absurd rfl h
    | some m =>
        rw [hm] at h
        exact .marker (Node.not_carries hroot) hm (Node.carries_attr h)
  · rw [if_neg hroot]
    exact .own (Node.carries_attr hroot)

theorem keyless_of_eventKey {root : Node} (h : eventKey root = "") : Keyless root := by
  rw [eventKey_eq] at h
  by_cases hroot : root.attr [keyAttr] = ""
  · rw [if_pos hroot] at h
    refine ⟨Node.not_carries hroot, fun m hm => ?_⟩
    rw [hm] at h
    exact Node.not_carries h
  · rw [if_neg hroot] at h
    exact absurd h hroot

end Decompiler

/-! ### Event documents at fault -/

/-- The document has content and cannot be read. -/
def Unreadable (doc : Bytes) : Prop :=
  Document.isBlank doc = false ∧ ∃ fault, Document.parse doc = .error fault

/-- The document has content and can be read, but has no key. -/
def Unkeyed (doc : Bytes) : Prop :=
  Document.isBlank doc = false ∧ ∃ root, Document.parse doc = .ok root ∧ Keyless root

/-- **An event document at fault.** -/
def Offends (doc : Bytes) : Prop :=
  Unreadable doc ∨ Unkeyed doc

/-- **The failure of an event document at fault**, the `i`-th of its list. -/
inductive EventFault (i : Nat) (doc : Bytes) : Failure → Prop
  | unreadable {fault : Markup.Fault} (h : Document.parse doc = .error fault) :
      EventFault i doc (.malformed s!"event[{i}]" "event rule" (some (.markup fault)))
  | keyless {root : Node} (h : Document.parse doc = .ok root) (hk : Keyless root) :
      EventFault i doc (.malformed s!"event[{i}]" "no szEventSpecKey on root"
        (some (.sentinel .missingEventKey)))

/-- **The first event document at fault**, with its place in the list. -/
structure FirstOffence (events : List Bytes) (i : Nat) (doc : Bytes) : Prop where
  /-- The document stands at its place. -/
  at_place : events[i]? = some doc
  /-- It is at fault. -/
  offends : Offends doc
  /-- None before it is. -/
  first : ∀ j < i, ∀ doc', events[j]? = some doc' → ¬ Offends doc'

/-- **The key of event documents**: that of the first one with content, empty if there is none. -/
inductive EventsKey (events : List Bytes) : String → Prop
  | blank (h : ∀ doc ∈ events, Document.isBlank doc = true) : EventsKey events ""
  | first {doc : Bytes} {root : Node} {key : String}
      (h : events.find? (fun doc => !Document.isBlank doc) = some doc)
      (hp : Document.parse doc = .ok root) (hk : RootKey root key) : EventsKey events key

/-- A document at fault has content. -/
theorem Offends.isBlank_eq {doc : Bytes} (h : Offends doc) : Document.isBlank doc = false := by
  rcases h with hbroken | hbroken
  · exact hbroken.1
  · exact hbroken.1

theorem not_offends_of_blank {doc : Bytes} (h : Document.isBlank doc = true) : ¬ Offends doc := by
  intro hoff
  rw [hoff.isBlank_eq] at h
  cases h

theorem not_offends_of_rootKey {doc : Bytes} {root : Node} {key : String}
    (hp : Document.parse doc = .ok root) (hk : RootKey root key) : ¬ Offends doc := by
  rintro (⟨-, fault, hf⟩ | ⟨-, root', hr, hless⟩)
  · rw [hp] at hf
    cases hf
  · rw [hp] at hr
    cases hr
    exact hk.not_keyless hless

theorem EventFault.offends {i : Nat} {doc : Bytes} {e : Failure} (h : EventFault i doc e)
    (hb : Document.isBlank doc = false) : Offends doc := by
  cases h with
  | unreadable h => exact .inl ⟨hb, _, h⟩
  | keyless h hk => exact .inr ⟨hb, _, h, hk⟩

/-- The kinds in the chain of a failed event. -/
theorem EventFault.is_eq {i : Nat} {doc : Bytes} {e : Failure} (h : EventFault i doc e)
    (hb : Document.isBlank doc = false) :
    e.is .malformedDocument = true ∧ e.is .malformedTemplate = false ∧
      (e.is .missingEventKey = true ↔ Unkeyed doc) := by
  cases h with
  | unreadable h =>
      refine ⟨by simp, by simp, ?_⟩
      have hread : ¬ Unkeyed doc := by
        rintro ⟨-, root, hr, -⟩
        rw [h] at hr
        cases hr
      simp [hread]
  | keyless h hk =>
      refine ⟨by simp, by simp, ?_⟩
      have hless : Unkeyed doc := ⟨hb, _, h, hk⟩
      simp [hless]

namespace FirstOffence

/-- The first document at fault is only one. -/
theorem unique {events : List Bytes} {i i' : Nat} {doc doc' : Bytes}
    (h : FirstOffence events i doc) (h' : FirstOffence events i' doc') : i = i' ∧ doc = doc' := by
  have hi : i = i' := by
    rcases Nat.lt_trichotomy i i' with hlt | heq | hgt
    · exact absurd h.offends (h'.first i hlt doc h.at_place)
    · exact heq
    · exact absurd h'.offends (h.first i' hgt doc' h'.at_place)
  subst hi
  refine ⟨rfl, Option.some.inj ?_⟩
  rw [← h.at_place, ← h'.at_place]

theorem head {doc : Bytes} (docs : List Bytes) (h : Offends doc) :
    FirstOffence (doc :: docs) 0 doc where
  at_place := rfl
  offends := h
  first j hj := absurd hj (Nat.not_lt_zero j)

theorem cons {doc doc' : Bytes} {docs : List Bytes} {i : Nat} (h : FirstOffence docs i doc)
    (hd : ¬ Offends doc') : FirstOffence (doc' :: docs) (i + 1) doc where
  at_place := h.at_place
  offends := h.offends
  first j hj doc'' hdoc := by
    cases j with
    | zero =>
        cases hdoc
        exact hd
    | succ j => exact h.first j (by omega) doc'' hdoc

end FirstOffence

/-! ### Reading event documents -/

namespace Decompiler

/-- A document that is read has a key. -/
theorem rootKey_of_readEvent {i : Nat} {doc : Bytes} {root : Node} {key : String}
    (h : readEvent i doc = .ok (root, key)) : RootKey root key := by
  unfold readEvent at h
  rw [parse_of_readEvent h] at h
  simp only at h
  split at h
  · cases h
  · rename_i hne
    cases h
    exact rootKey_eventKey hne

/-- The failure to read a document is its fault. -/
theorem eventFault_of_readEvent {i : Nat} {doc : Bytes} {e : Failure}
    (h : readEvent i doc = .error e) : EventFault i doc e := by
  unfold readEvent at h
  split at h
  · rename_i fault hp
    cases h
    exact .unreadable hp
  · rename_i root hp
    split at h
    · rename_i hk
      cases h
      exact .keyless hp (keyless_of_eventKey hk)
    · cases h

/-- **A list that fails blames its first document at fault.** -/
theorem exists_firstOffence {i : Nat} {events : List Bytes} {e : Failure}
    (h : (readEvents i events).1 = .error e) :
    ∃ j doc, FirstOffence events j doc ∧ EventFault (i + j) doc e := by
  induction events generalizing i with
  | nil => cases h
  | cons doc docs ih =>
      -- blank or not, a document without fault counts as a place
      have later (hd : ¬ Offends doc) (hrest : (readEvents (i + 1) docs).1 = .error e) :
          ∃ j doc', FirstOffence (doc :: docs) j doc' ∧ EventFault (i + j) doc' e := by
        obtain ⟨j, doc', hfirst, hfault⟩ := ih hrest
        refine ⟨j + 1, doc', hfirst.cons hd, ?_⟩
        rwa [Nat.add_right_comm, Nat.add_assoc] at hfault
      cases hb : Document.isBlank doc with
      | true =>
          rw [readEvents_blank hb] at h
          exact later (not_offends_of_blank hb) h
      | false =>
          cases hr : readEvent i doc with
          | error e' =>
              rw [readEvents_error hb hr] at h
              cases h
              have hfault := eventFault_of_readEvent hr
              exact ⟨0, doc, .head docs (hfault.offends hb), hfault⟩
          | ok p =>
              obtain ⟨root, key⟩ := p
              rw [readEvents_ok hb hr] at h
              have hd := not_offends_of_rootKey (parse_of_readEvent hr) (rootKey_of_readEvent hr)
              cases hrest : (readEvents (i + 1) docs).1 with
              | error e' =>
                  rw [hrest] at h
                  cases h
                  exact later hd hrest
              | ok key' =>
                  rw [hrest] at h
                  cases h

/-- **A list that is read has no document at fault**, and its key is that of the first one. -/
theorem eventsKey_of_readEvents {i : Nat} {events : List Bytes} {key : String}
    (h : (readEvents i events).1 = .ok key) :
    EventsKey events key ∧ ∀ doc ∈ events, ¬ Offends doc := by
  induction events generalizing i key with
  | nil =>
      cases h
      exact ⟨.blank (List.forall_mem_nil _), List.forall_mem_nil _⟩
  | cons doc docs ih =>
      cases hb : Document.isBlank doc with
      | true =>
          rw [readEvents_blank hb] at h
          obtain ⟨hkey, hdocs⟩ := ih h
          refine ⟨?_, List.forall_mem_cons.2 ⟨not_offends_of_blank hb, hdocs⟩⟩
          cases hkey with
          | blank hblank => exact .blank (List.forall_mem_cons.2 ⟨hb, hblank⟩)
          | first hfind hp hk =>
              refine .first ?_ hp hk
              rw [List.find?_cons_of_neg (by simp [hb]), hfind]
      | false =>
          cases hr : readEvent i doc with
          | error e =>
              rw [readEvents_error hb hr] at h
              cases h
          | ok p =>
              obtain ⟨root, key'⟩ := p
              have hp := parse_of_readEvent hr
              have hk := rootKey_of_readEvent hr
              rw [readEvents_ok hb hr] at h
              cases hrest : (readEvents (i + 1) docs).1 with
              | error e =>
                  rw [hrest] at h
                  cases h
              | ok key'' =>
                  rw [hrest] at h
                  cases h
                  refine ⟨.first (List.find?_cons_of_pos (by simp [hb])) hp hk, ?_⟩
                  exact List.forall_mem_cons.2 ⟨not_offends_of_rootKey hp hk, (ih hrest).2⟩

end Decompiler

/-! ### The template -/

/-- **The name of a template** with the given root: that of the root, or that of its first child if
the root has no such attribute, be it empty. -/
inductive RootTitle (root : Node) : String → Prop
  | own {name : String} (h : root.Carries "szTmplName" name) : RootTitle root name
  | below {top : Node} {name : String} (h : root.attrs.get? "szTmplName" = none)
      (ht : root.children.head? = some top) (hn : top.Carries "szTmplName" name) :
      RootTitle root name

/-- **A template document at fault.** -/
def TemplateRejected (template : Bytes) : Prop :=
  Document.isBlank template = false ∧ ∃ e, Template.parse "template" template = .error e

/-- **The name that a template document gives**, empty if the document has no content. -/
inductive TemplateTitle (template : Bytes) : String → Prop
  | blank (h : Document.isBlank template = true) : TemplateTitle template ""
  | named {t : Template} {root : Node} (h : Document.isBlank template = false)
      (ht : Template.parse "template" template = .ok t)
      (hp : Document.parse template = .ok root) (hn : RootTitle root t.name) :
      TemplateTitle template t.name

namespace Template

/-- The kinds in the chain of a rejected template. -/
theorem is_of_ofNode {label : String} {root : Node} {e : Failure} (h : ofNode label root = .error e)
    (kind : Sentinel) :
    e.is kind = (kind == .malformedDocument || kind == .malformedTemplate) := by
  unfold ofNode at h
  split at h
  · cases h
    simp [malformed, Bool.beq_comm]
  · simp only at h
    split at h
    · cases h
      simp [malformed, Bool.beq_comm]
    · cases h

theorem is_of_parse {label : String} {doc : Bytes} {e : Failure} (h : parse label doc = .error e)
    (kind : Sentinel) :
    e.is kind = (kind == .malformedDocument || kind == .malformedTemplate) := by
  unfold parse at h
  split at h
  · cases h
    simp [Bool.beq_comm]
  · exact is_of_ofNode h kind

theorem rootTitle_of_ofNode {label : String} {root : Node} {t : Template}
    (h : ofNode label root = .ok t) : RootTitle root t.name := by
  rcases ofNode_cases label root with ⟨top, t', htop, hne, hok, hof⟩ | ⟨reason, herror, -⟩
  · obtain rfl : t' = t := Except.ok.inj (hok.symm.trans h)
    have hname : top.Carries "szTmplName" t'.name := hof.name_eq ▸ Node.carries_attr hne
    -- a root with an empty name is the top, and was refused above
    unfold top? at htop
    split at htop
    · cases htop
      exact .own hname
    · rename_i hnone
      exact .below (Option.not_isSome_iff_eq_none.1 hnone) htop hname
  · rw [herror] at h
    cases h

/-- **The name of an accepted template** is the one that its document carries. -/
theorem rootTitle_of_parse {label : String} {doc : Bytes} {t : Template}
    (h : parse label doc = .ok t) :
    ∃ root, Document.parse doc = .ok root ∧ RootTitle root t.name := by
  unfold parse at h
  split at h
  · cases h
  · rename_i root hp
    exact ⟨root, hp, rootTitle_of_ofNode h⟩

end Template

namespace Decompiler

theorem rejected_of_readTemplate {template : Bytes} {e : Failure}
    (h : readTemplate template = .error e) :
    TemplateRejected template ∧ Template.parse "template" template = .error e := by
  unfold readTemplate at h
  split at h
  · cases h
  · rename_i hb
    split at h
    · cases h
    · rename_i e' ht
      cases h
      exact ⟨⟨eq_false_of_ne_true hb, e, ht⟩, ht⟩

theorem title_of_readTemplate {template : Bytes} {primary : Option Template}
    (h : readTemplate template = .ok primary) :
    ¬ TemplateRejected template ∧ TemplateTitle template (primary.elim "" (·.name)) := by
  unfold readTemplate at h
  split at h
  · rename_i hb
    cases h
    refine ⟨?_, .blank hb⟩
    rintro ⟨hb', -⟩
    rw [hb] at hb'
    cases hb'
  · rename_i hb
    split at h
    · rename_i t ht
      cases h
      obtain ⟨root, hp, hn⟩ := Template.rootTitle_of_parse ht
      refine ⟨?_, .named (eq_false_of_ne_true hb) ht hp hn⟩
      rintro ⟨-, e, he⟩
      rw [ht] at he
      cases he
    · cases h

end Decompiler

/-! ### Passes -/

/-- **The documents of a pass are broken**: the template or some event document is at fault. -/
def Broken (events : List Bytes) (template : Bytes) : Prop :=
  TemplateRejected template ∨ ∃ doc ∈ events, Offends doc

/-- **What a failure says of the documents of a pass.** -/
structure Blames (events : List Bytes) (template : Bytes) (e : Failure) : Prop where
  /-- A template at fault is blamed before all events. -/
  by_template : TemplateRejected template → Template.parse "template" template = .error e
  /-- Otherwise the first event at fault is. -/
  by_event : ¬ TemplateRejected template →
    ∃ i doc, FirstOffence events i doc ∧ EventFault i doc e
  /-- Some document is malformed. -/
  malformedDocument : e.is .malformedDocument = true
  /-- The first event at fault may have no key. -/
  missingEventKey : e.is .missingEventKey = true ↔
    ¬ TemplateRejected template ∧ ∃ i doc, FirstOffence events i doc ∧ Unkeyed doc
  /-- The template may be at fault. -/
  malformedTemplate : e.is .malformedTemplate = true ↔ TemplateRejected template

theorem Blames.of_template {template : Bytes} {e : Failure} (events : List Bytes)
    (h : TemplateRejected template) (he : Template.parse "template" template = .error e) :
    Blames events template e where
  by_template _ := he
  by_event hn := absurd h hn
  malformedDocument := Template.is_of_parse he .malformedDocument
  missingEventKey := by
    rw [Template.is_of_parse he]
    exact ⟨fun hkind => absurd hkind (by decide), fun hn => absurd h hn.1⟩
  malformedTemplate := by
    rw [Template.is_of_parse he]
    exact ⟨fun _ => h, fun _ => rfl⟩

theorem Blames.of_event {events : List Bytes} {template doc : Bytes} {i : Nat} {e : Failure}
    (h : ¬ TemplateRejected template) (hfirst : FirstOffence events i doc)
    (he : EventFault i doc e) : Blames events template e := by
  obtain ⟨hmalformed, htemplate, hkey⟩ := he.is_eq hfirst.offends.isBlank_eq
  refine ⟨fun hr => absurd hr h, fun _ => ⟨i, doc, hfirst, he⟩, hmalformed, ?_, ?_⟩
  · rw [hkey]
    constructor
    · intro hless
      exact ⟨h, i, doc, hfirst, hless⟩
    · -- there is only one first document at fault, so the one without a key is the one blamed
      rintro ⟨-, i', doc', hfirst', hless⟩
      obtain ⟨-, rfl⟩ := hfirst.unique hfirst'
      exact hless
  · rw [htemplate]
    exact ⟨fun hf => absurd hf Bool.false_ne_true, fun hr => absurd hr h⟩

/-- **Exactly the broken documents make a pass fail.**  Whatever the source answers and whatever
the decompiler has cached, a pass over broken documents fails and blames the right one; any other
pass succeeds, with the key of the first event and the name of the template. -/
theorem decompile_fails_iff_broken {σ : Type} (source : Option (Source σ)) (events : List Bytes)
    (template : Bytes) (d : Decompiler) (s : σ) :
    ((∃ e, (Decompiler.decompile source events template d s).1 = .error e) ↔
        Broken events template) ∧
      (∀ e, (Decompiler.decompile source events template d s).1 = .error e →
        Blames events template e) ∧
      (¬ Broken events template →
        ∃ r, (Decompiler.decompile source events template d s).1 = .ok r ∧
          EventsKey events r.key ∧ TemplateTitle template r.templateName) := by
  cases ht : Decompiler.readTemplate template with
  | error e =>
      obtain ⟨hrejected, hparse⟩ := Decompiler.rejected_of_readTemplate ht
      have hbroken : Broken events template := .inl hrejected
      rw [Decompiler.decompile_eq_of_template_error ht]
      refine ⟨⟨fun _ => hbroken, fun _ => ⟨e, rfl⟩⟩, ?_, fun hn => absurd hbroken hn⟩
      intro e' he
      cases he
      exact .of_template events hrejected hparse
  | ok primary =>
      obtain ⟨hrejected, htitle⟩ := Decompiler.title_of_readTemplate ht
      rw [Decompiler.decompile_eq_of_template ht]
      -- the outcome is that of the reading; the replay has no say in it
      cases hk : (Decompiler.readEvents 0 events).1 with
      | error e =>
          obtain ⟨i, doc, hfirst, hfault⟩ := Decompiler.exists_firstOffence hk
          rw [Nat.zero_add] at hfault
          have hbroken : Broken events template :=
            .inr ⟨doc, List.mem_of_getElem? hfirst.at_place, hfirst.offends⟩
          refine ⟨⟨fun _ => hbroken, fun _ => ⟨e, rfl⟩⟩, ?_, fun hn => absurd hbroken hn⟩
          intro e' he
          cases he
          exact .of_event hrejected hfirst hfault
      | ok key =>
          obtain ⟨hkey, hsound⟩ := Decompiler.eventsKey_of_readEvents hk
          refine ⟨⟨?_, ?_⟩, ?_, fun _ => ⟨_, rfl, hkey, htitle⟩⟩
          · rintro ⟨e, he⟩
            cases he
          · rintro (hr | ⟨doc, hmem, hoff⟩)
            · exact absurd hr hrejected
            · exact absurd hoff (hsound doc hmem)
          · intro e he
            cases he

end EventRules
