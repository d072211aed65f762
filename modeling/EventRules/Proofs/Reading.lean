/-
**A pass reads, then replays.**

A pass goes through its documents one by one, and replays each before it reads the next.  What it
reads does not depend on what it has replayed, though: the documents alone decide which elements
are replayed and whether the pass fails.  This module separates the two.  `readEvents` goes through
the documents without replaying anything; a pass is a replay of the elements that it has read.

Main definitions:

* `Decompiler.readEvents` — the outcome of reading event documents, and the elements read;
* `topLevel` — the top-level elements of the documents that are not blank;
* `Node.standsAt`, `Node.depthAfter` — the depth of an element and the one after it.

Main results:

* `Decompiler.visit_lines`, `Decompiler.visit_depth`, `Decompiler.visit_scope` — what one element
  does;
* `Decompiler.replayEvents_eq` — **replaying documents is replaying the elements read**;
* `Decompiler.decompile_eq_of_template` — the same for a whole pass;
* `Decompiler.readEvents_elements` — documents without fault are read to the end.
-/

import EventRules.Rule.Decompiler

set_option relaxedAutoImplicit false
set_option autoImplicit false

namespace EventRules

theorem Except.eq_ok_of_toOption {ε α : Type} {x : Except ε α} {a : α}
    (h : x.toOption = some a) : x = .ok a := by
  cases x with
  | error e => cases h
  | ok b => exact congrArg Except.ok (Option.some.inj h)

/-- **The top-level elements of event documents**, blank documents left out. -/
def topLevel (events : List Bytes) : List Node :=
  events.flatMap fun doc =>
    if Document.isBlank doc then [] else (Document.parse doc).toOption.elim [] (·.children)

/-! ### Depth -/

namespace Node

/-- Does the element end a block before its own line? -/
def closes (n : Node) : Bool :=
  n.name == "GBREndIf" || n.name == "GBREndWhile" || n.name == "GBRElse"

/-- Does the element open a block after its own lines? -/
def opens (n : Node) : Bool :=
  n.name == "GBRCRIT" || n.name == "GBRElse"

theorem closesBlock_ofName (n : Node) : (ElementKind.ofName n.name).closesBlock = n.closes := by
  unfold ElementKind.ofName
  split <;> simp_all [ElementKind.closesBlock, closes]

theorem opensBlock_ofName (n : Node) : (ElementKind.ofName n.name).opensBlock = n.opens := by
  unfold ElementKind.ofName
  split <;> simp_all [ElementKind.opensBlock, opens]

/-- The depth at which the lines of an element stand that comes at depth `k`. -/
def standsAt (n : Node) (k : Int) : Int :=
  if n.closes then dedent k else k

/-- The depth after an element that comes at depth `k`. -/
def depthAfter (n : Node) (k : Int) : Int :=
  if n.opens then n.standsAt k + 1 else n.standsAt k

theorem standsAt_ofName (n : Node) (k : Int) :
    (ElementKind.ofName n.name).standsAt k = n.standsAt k := by
  rw [ElementKind.standsAt, closesBlock_ofName, standsAt]

theorem depthAfter_ofName (n : Node) (k : Int) :
    (ElementKind.ofName n.name).depthAfter k = n.depthAfter k := by
  rw [ElementKind.depthAfter, opensBlock_ofName, standsAt_ofName, depthAfter]

theorem standsAt_nonneg (n : Node) {k : Int} (hk : 0 ≤ k) : 0 ≤ n.standsAt k :=
  n.standsAt_ofName k ▸ ElementKind.standsAt_nonneg _ hk

theorem depthAfter_nonneg (n : Node) {k : Int} (hk : 0 ≤ k) : 0 ≤ n.depthAfter k :=
  n.depthAfter_ofName k ▸ ElementKind.depthAfter_nonneg _ hk

end Node

namespace Decompiler

/-! ### Documents without their replay -/

/-- **Reads event documents**, the first of which is the `i`-th of the pass: the key of the first
one that is not blank or the first fault, and the elements of the documents before the fault. -/
def readEvents : Nat → List Bytes → Except Failure String × List Node
  | _, [] => (.ok "", [])
  | i, doc :: docs =>
      if Document.isBlank doc then readEvents (i + 1) docs
      else
        match readEvent i doc with
        | .error e => (.error e, [])
        | .ok (root, key) =>
            ((readEvents (i + 1) docs).1.map fun _ => key,
              root.children ++ (readEvents (i + 1) docs).2)

theorem readEvents_blank {i : Nat} {doc : Bytes} {docs : List Bytes}
    (h : Document.isBlank doc = true) :
    readEvents i (doc :: docs) = readEvents (i + 1) docs := by
  rw [readEvents, if_pos h]

theorem readEvents_error {i : Nat} {doc : Bytes} {docs : List Bytes} {e : Failure}
    (h : Document.isBlank doc = false) (he : readEvent i doc = .error e) :
    readEvents i (doc :: docs) = (.error e, []) := by
  rw [readEvents, if_neg (by simp [h]), he]

theorem readEvents_ok {i : Nat} {doc : Bytes} {docs : List Bytes} {root : Node} {key : String}
    (h : Document.isBlank doc = false) (hr : readEvent i doc = .ok (root, key)) :
    readEvents i (doc :: docs) =
      ((readEvents (i + 1) docs).1.map fun _ => key,
        root.children ++ (readEvents (i + 1) docs).2) := by
  rw [readEvents, if_neg (by simp [h]), hr]

/-- The root that is read is the root of the document. -/
theorem parse_of_readEvent {i : Nat} {doc : Bytes} {root : Node} {key : String}
    (h : readEvent i doc = .ok (root, key)) : Document.parse doc = .ok root := by
  unfold readEvent at h
  split at h
  · cases h
  · rename_i root' hp
    split at h
    · cases h
    · cases h
      exact hp

/-- **Documents without fault are read to the end.** -/
theorem readEvents_elements {i : Nat} {events : List Bytes} {key : String}
    (h : (readEvents i events).1 = .ok key) : (readEvents i events).2 = topLevel events := by
  induction events generalizing i key with
  | nil => rfl
  | cons doc docs ih =>
      cases hb : Document.isBlank doc with
      | true =>
          rw [readEvents_blank hb] at h ⊢
          rw [ih h]
          simp [topLevel, hb]
      | false =>
          cases hr : readEvent i doc with
          | error e =>
              rw [readEvents_error hb hr] at h
              cases h
          | ok p =>
              obtain ⟨root, key'⟩ := p
              rw [readEvents_ok hb hr] at h ⊢
              cases hk : (readEvents (i + 1) docs).1 with
              | error e => simp [hk, Except.map] at h
              | ok key'' =>
                  have hp := parse_of_readEvent hr
                  simp [ih hk, topLevel, hb, hp, Except.toOption]

section

variable {σ : Type}

/-! ### What one element does -/

/-- The variables known after an element. -/
def varsAfter (n : Node) (vars : Variables) : Variables :=
  match ElementKind.ofName n.name, declaration? n with
  | .declaration, some v => vars.declare v
  | _, _ => vars

@[simp] theorem visit_lines (source : Option (Source σ)) (n : Node) (d : Decompiler) (s : σ) :
    (visit source n d s).1.lines =
      d.lines ++ (elementLines source d.scope n ⟨d.cache, s⟩).1.map fun l =>
        ⟨n.standsAt d.depth + l.depth, l.text⟩ := by
  rw [← Node.standsAt_ofName]
  rfl

@[simp] theorem visit_depth (source : Option (Source σ)) (n : Node) (d : Decompiler) (s : σ) :
    (visit source n d s).1.depth = n.depthAfter d.depth :=
  n.depthAfter_ofName d.depth

@[simp] theorem visit_scope (source : Option (Source σ)) (n : Node) (d : Decompiler) (s : σ) :
    (visit source n d s).1.scope = ⟨d.scope.primary, varsAfter n d.scope.vars⟩ := rfl

/-! ### Replaying what was read -/

theorem replay_append (source : Option (Source σ)) (before after : List Node) (d : Decompiler)
    (s : σ) :
    replay source (before ++ after) d s =
      replay source after (replay source before d s).1 (replay source before d s).2 := by
  induction before generalizing d s with
  | nil => rfl
  | cons n before ih => exact ih _ _

/-- **Replaying documents is replaying the elements read.** -/
theorem replayEvents_eq (source : Option (Source σ)) (i : Nat) (events : List Bytes)
    (d : Decompiler) (s : σ) :
    replayEvents source i events d s =
      ((readEvents i events).1, replay source (readEvents i events).2 d s) := by
  induction events generalizing i d s with
  | nil => rfl
  | cons doc docs ih =>
      rw [replayEvents]
      cases hb : Document.isBlank doc with
      | true => rw [if_pos rfl, readEvents_blank hb, ih]
      | false =>
          rw [if_neg Bool.false_ne_true]
          cases hr : readEvent i doc with
          | error e =>
              rw [readEvents_error hb hr]
              rfl
          | ok p =>
              obtain ⟨root, key⟩ := p
              rw [readEvents_ok hb hr, replay_append]
              simp only [ih]
              -- of the rest only a failure counts, never its key
              cases (readEvents (i + 1) docs).1 with
              | error e => rfl
              | ok key' => rfl

/-- The state in which the replay of a pass begins. -/
def start (d : Decompiler) (primary : Option Template) : Decompiler :=
  { d.reset with scope := { primary := primary } }

/-- **A pass with a readable template** is a replay of the elements read. -/
theorem decompile_eq_of_template {source : Option (Source σ)} {events : List Bytes}
    {template : Bytes} {primary : Option Template} (h : readTemplate template = .ok primary)
    (d : Decompiler) (s : σ) :
    decompile source events template d s =
      ((readEvents 0 events).1.map fun key =>
          ⟨key, primary.elim "" (·.name),
            (replay source (readEvents 0 events).2 (d.start primary) s).1.lines⟩,
        replay source (readEvents 0 events).2 (d.start primary) s) := by
  rw [decompile, h]
  simp only [replayEvents_eq, start]
  cases (readEvents 0 events).1 with
  | error e => rfl
  | ok key => rfl

/-- A pass whose template cannot be read replays nothing. -/
theorem decompile_eq_of_template_error {source : Option (Source σ)} {events : List Bytes}
    {template : Bytes} {e : Failure} (h : readTemplate template = .error e) (d : Decompiler)
    (s : σ) : decompile source events template d s = (.error e, d.reset, s) := by
  rw [decompile, h]

/-- A pass over documents without fault. -/
theorem decompile_of_readable {events : List Bytes} {template : Bytes} {primary : Option Template}
    {key : String} (ht : readTemplate template = .ok primary)
    (hk : (readEvents 0 events).1 = .ok key) (source : Option (Source σ)) (d : Decompiler) (s : σ) :
    (decompile source events template d s).1 =
      .ok ⟨key, primary.elim "" (·.name),
        (replay source (topLevel events) (d.start primary) s).1.lines⟩ := by
  rw [decompile_eq_of_template ht, hk, readEvents_elements hk]
  rfl

/-- What a successful pass has read, and what it returns. -/
theorem decompile_ok {source : Option (Source σ)} {events : List Bytes} {template : Bytes}
    {d : Decompiler} {s : σ} {r : Decompiled}
    (h : (decompile source events template d s).1 = .ok r) :
    ∃ primary key, readTemplate template = .ok primary ∧ (readEvents 0 events).1 = .ok key ∧
      r = ⟨key, primary.elim "" (·.name),
        (replay source (topLevel events) (d.start primary) s).1.lines⟩ ∧
      (decompile source events template d s).2 =
        replay source (topLevel events) (d.start primary) s := by
  cases ht : readTemplate template with
  | error e =>
      rw [decompile_eq_of_template_error ht] at h
      cases h
  | ok primary =>
      rw [decompile_eq_of_template ht] at h ⊢
      cases hk : (readEvents 0 events).1 with
      | error e => simp [hk, Except.map] at h
      | ok key =>
          have he := readEvents_elements hk
          rw [he] at h ⊢
          simp only [hk, Except.map, Except.ok.injEq] at h
          exact ⟨primary, key, rfl, rfl, h.symm, rfl⟩

end

end Decompiler

end EventRules
