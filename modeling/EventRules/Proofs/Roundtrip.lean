/-
**Reading inverts writing.**

A tree may be written in many ways: the attributes of an element in any order, each character of a
text as itself or as a reference, an element without content as one tag or as two.  Whichever way is
taken, reading gives the tree back, and elements that follow it on the top level change nothing.

The reader keeps a stack of open elements, so the statement about one element is made for any state
of the reader and anything that follows: after the text of the element, the element has been put in
its place, and reading goes on with what follows.  Each piece of markup uses up one unit of fuel and
at least one glyph, so there is always fuel enough for what follows.

Main definitions:

* `Node.IsPlain` — elements that can be written;
* `Markup.Writes`, `Markup.WritesAll` — **the ways to write a tree**, and several of them.

Main results:

* `Markup.scanAttributes_writes`, `Markup.readFrom_text` — attributes and text are read back;
* `Markup.readFrom_writes` — so is an element, in any state of the reader;
* `Markup.Element.writes_chars` — every element can be written;
* `parse_writes` — **reading a document gives the first tree that was written**.
-/

import EventRules.Proofs.Decoding
import EventRules.Proofs.Dictionaries
import EventRules.Proofs.Encodings
import EventRules.Proofs.Spelling
import EventRules.Proofs.Tree
import EventRules.Markup.Reader

set_option relaxedAutoImplicit false
set_option autoImplicit false

namespace EventRules

/-! ### Ways to write a tree -/

/-- **An element that can be written**: its names are simple, and its texts hold characters that may
occur in a document. -/
structure Node.IsPlain (n : Node) : Prop where
  /-- The name is simple. -/
  name : Markup.isSimpleName n.name = true
  /-- The attributes are in order, with different names. -/
  sorted : n.attrs.IsSorted
  /-- The names of the attributes are simple. -/
  attrNames : ∀ a ∈ n.attrs, Markup.isSimpleName a.1 = true
  /-- The values of the attributes hold legal characters. -/
  attrValues : ∀ a ∈ n.attrs, ∀ c ∈ a.2.toList, Markup.isLegal c = true
  /-- So does the text. -/
  text : ∀ c ∈ n.text.toList, Markup.isLegal c = true

instance (n : Node) : Decidable n.IsPlain :=
  decidable_of_iff
    (Markup.isSimpleName n.name = true ∧ n.attrs.IsSorted ∧
      (∀ a ∈ n.attrs, Markup.isSimpleName a.1 = true) ∧
      (∀ a ∈ n.attrs, a.2.toList.all Markup.isLegal = true) ∧
      n.text.toList.all Markup.isLegal = true)
    ⟨fun ⟨h₁, h₂, h₃, h₄, h₅⟩ =>
        ⟨h₁, h₂, h₃, fun a ha => List.all_eq_true.1 (h₄ a ha), List.all_eq_true.1 h₅⟩,
      fun ⟨h₁, h₂, h₃, h₄, h₅⟩ =>
        ⟨h₁, h₂, h₃, fun a ha => List.all_eq_true.2 (h₄ a ha), List.all_eq_true.2 h₅⟩⟩

namespace Markup

/-- The ways to write attributes in a given order, each with a blank before it. -/
inductive WritesAttributes : List (String × String) → List Char → Prop
  | nil : WritesAttributes [] []
  | cons {name value : String} {attributes : List (String × String)} {written rest : List Char}
      (hv : Spells value.toList written) (h : WritesAttributes attributes rest) :
      WritesAttributes ((name, value) :: attributes)
        (' ' :: name.toList ++ '=' :: '"' :: written ++ '"' :: rest)

mutual

/-- **The ways to write a tree.**  An element without content may be written as one tag. -/
inductive Writes : Node → List Char → Prop
  | single {name : String} {attrs : Attributes} {attributes : List (String × String)}
      {written : List Char} (ha : attributes.Perm attrs)
      (hw : WritesAttributes attributes written) :
      Writes ⟨name, attrs, [], ""⟩ ('<' :: name.toList ++ written ++ ['/', '>'])
  | double {name text : String} {attrs : Attributes} {children : List Node}
      {attributes : List (String × String)} {written textWritten childrenWritten : List Char}
      (ha : attributes.Perm attrs) (hw : WritesAttributes attributes written)
      (ht : Spells text.toList textWritten) (hc : WritesAll children childrenWritten) :
      Writes ⟨name, attrs, children, text⟩
        ('<' :: name.toList ++ written ++ '>' :: textWritten ++ childrenWritten ++
          '<' :: '/' :: name.toList ++ ['>'])

/-- The ways to write trees one after the other. -/
inductive WritesAll : List Node → List Char → Prop
  | nil : WritesAll [] []
  | cons {n : Node} {ns : List Node} {written rest : List Char} (h : Writes n written)
      (hs : WritesAll ns rest) : WritesAll (n :: ns) (written ++ rest)

end

/-! ### Attributes -/

/-- A name without a space. -/
def Name.plain (name : String) : Name := ⟨"", name⟩

theorem skipBlanks_of_not_blank {g : Glyph} (h : isBlankGlyph g = false) (s : List Glyph) :
    skipBlanks (g :: s) = g :: s := by
  simp [skipBlanks, h]

/-- **An attribute is read back.** -/
theorem scanAttribute_writes {name value : String} {written : List Char}
    (hn : isSimpleName name = true) (hv : Spells value.toList written)
    (hl : ∀ c ∈ value.toList, isLegal c = true) (rest : List Glyph) :
    scanAttribute (name.toList.map .char ++
        .char '=' :: .char '"' :: (written.map .char ++ .char '"' :: rest)) =
      .ok ((Name.plain name, value), rest) := by
  unfold scanAttribute
  rw [scanName_simple hn .attribute (by decide)]
  dsimp only
  rw [skipBlanks_of_not_blank (by decide)]
  dsimp only
  rw [if_pos (by decide), skipBlanks_of_not_blank (by decide)]
  unfold scanValue
  dsimp only
  rw [if_pos (by decide), hv.scanQuoted hl, String.ofList_toList]
  rfl

/-- How a start tag ends. -/
def tagEnd (closed : Bool) : List Char :=
  if closed then ['/', '>'] else ['>']

/-- **The inside of a start tag is read back.** -/
theorem scanAttributes_writes {attributes : List (String × String)} {written : List Char}
    (h : WritesAttributes attributes written)
    (hn : ∀ a ∈ attributes, isSimpleName a.1 = true)
    (hl : ∀ a ∈ attributes, ∀ c ∈ a.2.toList, isLegal c = true) {fuel : Nat}
    (hf : attributes.length < fuel) (closed : Bool) (rest : List Glyph) :
    scanAttributes fuel (written.map .char ++ ((tagEnd closed).map .char ++ rest)) =
      .ok ((attributes.map fun a => (Name.plain a.1, a.2), closed), rest) := by
  induction h generalizing fuel with
  | nil =>
      obtain ⟨fuel, rfl⟩ : ∃ f, fuel = f + 1 := ⟨fuel - 1, by omega⟩
      cases closed <;> rfl
  | @cons name value attributes written tail hv h ih =>
      obtain ⟨fuel, rfl⟩ : ∃ f, fuel = f + 1 := ⟨fuel - 1, by omega⟩
      have hname := hn _ List.mem_cons_self
      have hattribute := scanAttribute_writes hname hv (hl _ List.mem_cons_self)
        (tail.map .char ++ ((tagEnd closed).map .char ++ rest))
      have hrest := ih (fun a ha => hn a (List.mem_cons_of_mem _ ha))
        (fun a ha => hl a (List.mem_cons_of_mem _ ha)) (Nat.lt_of_succ_lt_succ hf)
      obtain ⟨c, cs, hc, hs⟩ := simpleName_of_isSimpleName hname
      obtain ⟨hblank, hclose, hslash, -⟩ := hs.first_not_mark
      have hglyphs : (' ' :: name.toList ++ '=' :: '"' :: written ++ '"' :: tail).map Glyph.char ++
          ((tagEnd closed).map .char ++ rest) =
          .char ' ' :: .char c :: (cs.map .char ++ .char '=' :: .char '"' ::
            (written.map .char ++ .char '"' :: (tail.map .char ++
              ((tagEnd closed).map .char ++ rest)))) := by
        simp [hc]
      rw [hc, List.map_cons, List.cons_append] at hattribute
      have hskip (s : List Glyph) : skipBlanks (.char ' ' :: .char c :: s) = .char c :: s := by
        simp [skipBlanks, hblank, show isBlankGlyph (.char ' ') = true by decide]
      rw [hglyphs, scanAttributes, hskip]
      dsimp only
      rw [if_neg (by simpa using hclose), if_neg (by simpa using hslash), hattribute]
      dsimp only
      rw [hrest, List.map_cons]

/-! ### Tags -/

/-- What follows the name in a start tag is no part of it. -/
theorem exists_head_of_writes {attributes : List (String × String)} {written : List Char}
    (h : WritesAttributes attributes written) (closed : Bool) (rest : List Glyph) :
    ∃ g s, written.map .char ++ ((tagEnd closed).map .char ++ rest) = g :: s ∧
      isNameGlyph g = false := by
  cases h with
  | nil => cases closed <;> exact ⟨_, _, rfl, by decide⟩
  | cons hv h => exact ⟨_, _, rfl, by decide⟩

/-- **A start tag is read back.** -/
theorem scanItem_opening {name : String} {attributes : List (String × String)}
    {written : List Char} (hname : isSimpleName name = true) (h : WritesAttributes attributes written)
    (hn : ∀ a ∈ attributes, isSimpleName a.1 = true)
    (hl : ∀ a ∈ attributes, ∀ c ∈ a.2.toList, isLegal c = true) {fuel : Nat}
    (hf : attributes.length < fuel) (closed : Bool) (rest : List Glyph) :
    scanItem fuel (name.toList.map .char ++
        (written.map .char ++ ((tagEnd closed).map .char ++ rest))) =
      .ok (.opening (Name.plain name) (attributes.map fun a => (Name.plain a.1, a.2)) closed,
        rest) := by
  have hattributes := scanAttributes_writes h hn hl hf closed rest
  obtain ⟨g, s, hgs, hg⟩ := exists_head_of_writes h closed rest
  have hscan := scanName_simple hname .element hg s
  rw [← hgs] at hscan
  obtain ⟨c, cs, hc, hs⟩ := simpleName_of_isSimpleName hname
  obtain ⟨-, -, hslash, hquestion, hbang⟩ := hs.first_not_mark
  have hopening : scanOpening fuel (name.toList.map .char ++
      (written.map .char ++ ((tagEnd closed).map .char ++ rest))) =
      .ok (.opening (Name.plain name) (attributes.map fun a => (Name.plain a.1, a.2)) closed,
        rest) := by
    unfold scanOpening
    rw [hscan]
    dsimp only
    rw [hattributes]
    rfl
  rw [hc, List.map_cons, List.cons_append] at hopening ⊢
  unfold scanItem
  dsimp only
  rw [if_neg (by simpa using hslash), if_neg (by simpa using hquestion),
    if_neg (by simpa using hbang), hopening]

/-- **An end tag is read back.** -/
theorem scanItem_closing {name : String} (hname : isSimpleName name = true) (fuel : Nat)
    (rest : List Glyph) :
    scanItem fuel (.char '/' :: (name.toList.map .char ++ .char '>' :: rest)) =
      .ok (.closing (Name.plain name), rest) := by
  unfold scanItem
  dsimp only
  rw [if_pos (by decide)]
  unfold scanClosing
  rw [scanName_simple hname .closing (by decide)]
  dsimp only
  rw [skipBlanks_of_not_blank (by decide)]
  dsimp only
  rw [if_pos (by decide)]
  rfl

/-! ### The state of the reader -/

namespace OpenElement

@[simp] theorem addText_empty (e : OpenElement) : e.addText "" = e := by
  simp [addText]

end OpenElement

namespace Progress

@[simp] theorem addText_empty (p : Progress) : p.addText "" = p := by
  obtain ⟨opened, root⟩ := p
  cases opened with
  | nil => rfl
  | cons e outer => simp [addText]

/-- Puts several complete elements in their places. -/
def placeAll (p : Progress) (ns : List Node) : Progress :=
  ns.foldl place p

/-- Inside an element they are its next children. -/
theorem placeAll_inside (e : OpenElement) (outer : List OpenElement) (root : Option Node)
    (ns : List Node) :
    placeAll ⟨e :: outer, root⟩ ns =
      ⟨{ e with children := ns.reverse ++ e.children } :: outer, root⟩ := by
  induction ns generalizing e with
  | nil => rfl
  | cons n ns ih =>
      have hplace : place ⟨e :: outer, root⟩ n = ⟨e.addChild n :: outer, root⟩ := rfl
      rw [placeAll, List.foldl_cons, hplace]
      refine (ih (e.addChild n)).trans ?_
      simp [OpenElement.addChild]

/-- On the top level the first one is the root. -/
theorem placeAll_top (ns : List Node) (n : Node) :
    placeAll ⟨[], some n⟩ ns = ⟨[], some n⟩ := by
  induction ns with
  | nil => rfl
  | cons m ns ih => exact ih

end Progress

/-- The end tag of the innermost element closes it. -/
theorem closeElement_self (name : String) (e : OpenElement) (outer : List OpenElement)
    (h : e.name = Name.plain name) :
    closeElement (Name.plain name) none (e :: outer) = .ok (e.close, outer) := by
  simp [closeElement, h]

/-! ### Reading -/

variable {index : CharsetIndex}

/-- **Text before a bracket** goes to the innermost element. -/
theorem readFrom_text {text written : List Char} (h : Spells text written)
    (hl : ∀ c ∈ text, isLegal c = true) (fuel : Nat) (p : Progress) (inside : List Glyph) :
    readFrom index (fuel + 1) p (written.map .char ++ .char '<' :: inside) =
      readFrom index (fuel + 1) (p.addText (String.ofList text)) (.char '<' :: inside) := by
  have hnone := Spells.nil.scanText (by simp) inside
  rw [List.map_nil, List.nil_append] at hnone
  rw [readFrom, readFrom, h.scanText hl, hnone]
  dsimp only
  rw [show String.ofList [] = "" from rfl, Progress.addText_empty]

/-- **One piece of markup.** -/
theorem readFrom_item {fuel : Nat} {p p' : Progress} {item : Item} {inside after rest : List Glyph}
    (hs : scanItem fuel inside = .ok (item, after))
    (hi : p.takeItem index item after = .ok (p', rest)) :
    readFrom index (fuel + 1) p (.char '<' :: inside) = readFrom index fuel p' rest := by
  have hnone := Spells.nil.scanText (by simp) inside
  rw [List.map_nil, List.nil_append] at hnone
  rw [readFrom, hnone]
  dsimp only
  rw [show String.ofList [] = "" from rfl, Progress.addText_empty, hs]
  dsimp only
  rw [hi]

theorem WritesAttributes.length_le {attributes : List (String × String)} {written : List Char}
    (h : WritesAttributes attributes written) : attributes.length ≤ written.length := by
  induction h with
  | nil => exact Nat.le_refl _
  | cons hv h ih =>
      simp only [List.length_cons, List.length_append]
      omega

/-- Trees start with a bracket, and so does what follows them. -/
theorem WritesAll.exists_inside {ns : List Node} {written : List Char} (h : WritesAll ns written)
    (rest : List Glyph) :
    ∃ inside, written.map .char ++ .char '<' :: rest = .char '<' :: inside := by
  cases h with
  | nil => exact ⟨rest, rfl⟩
  | cons h hs => cases h <;> exact ⟨_, rfl⟩

/-- The element that a start tag opens has the attributes of the tree. -/
theorem openElement_attrs (name : String) {attrs : Attributes} {attributes : List (String × String)}
    (hs : attrs.IsSorted) (ha : attributes.Perm attrs) :
    (openElement (Name.plain name) (attributes.map fun a => (Name.plain a.1, a.2))).attrs =
      attrs := by
  have hmap : (attributes.map fun a => (Name.plain a.1, a.2)).map (fun a => (a.1.localPart, a.2)) =
      attributes := by
    simp [Name.plain, Function.comp_def]
  unfold openElement
  rw [hmap]
  exact Dictionary.ofList_of_perm hs ha

/-- With text and children it is the tree. -/
theorem openElement_close (name : String) {attrs : Attributes}
    {attributes : List (String × String)} (hs : attrs.IsSorted) (ha : attributes.Perm attrs)
    (text : String) (children : List Node) :
    ({ openElement (Name.plain name) (attributes.map fun a => (Name.plain a.1, a.2)) with
        text := "" ++ text, children := children.reverse ++ [] } : OpenElement).close =
      ⟨name, attrs, children, text⟩ := by
  have hattrs := openElement_attrs name hs ha
  simp only [OpenElement.close, hattrs, List.append_nil, List.reverse_reverse, String.empty_append]
  rfl

/-- The attributes of a plain element, in any order. -/
theorem attributes_of_perm {n : Node} (hn : n.IsPlain) {attributes : List (String × String)}
    (ha : attributes.Perm n.attrs) :
    (∀ a ∈ attributes, isSimpleName a.1 = true) ∧
      ∀ a ∈ attributes, ∀ c ∈ a.2.toList, isLegal c = true :=
  ⟨fun a hm => hn.attrNames a (ha.mem_iff.1 hm), fun a hm => hn.attrValues a (ha.mem_iff.1 hm)⟩

mutual

/-- **An element is read back**, in any state of the reader and whatever follows. -/
theorem readFrom_writes {n : Node} {written : List Char} (h : Writes n written)
    (hn : ∀ m ∈ n.inOrder, m.IsPlain) (fuel : Nat) (p : Progress) (tail : List Glyph)
    (hf : written.length + tail.length < fuel) :
    ∃ left, tail.length < left ∧
      readFrom index fuel p (written.map .char ++ tail) = readFrom index left (p.place n) tail := by
  cases h with
  | @single name attrs attributes written ha hw =>
      have hplain := hn _ (Node.mem_inOrder_self _)
      obtain ⟨hnames, hvalues⟩ := attributes_of_perm hplain ha
      have hlength := hw.length_le
      simp only [List.length_cons, List.length_append] at hf
      obtain ⟨left, rfl⟩ : ∃ left, fuel = left + 1 := ⟨fuel - 1, by omega⟩
      refine ⟨left, by omega, ?_⟩
      have hglyphs : ('<' :: name.toList ++ written ++ ['/', '>']).map Glyph.char ++ tail =
          .char '<' :: (name.toList.map .char ++
            (written.map .char ++ ((tagEnd true).map .char ++ tail))) := by
        simp [tagEnd]
      rw [hglyphs]
      refine readFrom_item (scanItem_opening hplain.name hw hnames hvalues (by omega) true tail) ?_
      rw [Progress.takeItem, ← openElement_close name hplain.sorted ha "" []]
      rfl
  | @double name text attrs children attributes written textWritten childrenWritten ha hw ht hc =>
      have hplain := hn _ (Node.mem_inOrder_self _)
      have hchildren : ∀ m ∈ Node.inOrderAll children, m.IsPlain := by
        intro m hm
        refine hn m ?_
        rw [Node.inOrder_eq]
        exact List.mem_cons_of_mem _ hm
      obtain ⟨hnames, hvalues⟩ := attributes_of_perm hplain ha
      have hlength := hw.length_le
      simp only [List.length_cons, List.length_append] at hf
      obtain ⟨left, rfl⟩ : ∃ left, fuel = left + 1 + 1 := ⟨fuel - 2, by omega⟩
      -- the tags and the pieces between them
      have hglyphs : ('<' :: name.toList ++ written ++ '>' :: textWritten ++ childrenWritten ++
          '<' :: '/' :: name.toList ++ ['>']).map Glyph.char ++ tail =
          .char '<' :: (name.toList.map .char ++ (written.map .char ++ ((tagEnd false).map .char ++
            (textWritten.map .char ++ (childrenWritten.map .char ++
              .char '<' :: .char '/' :: (name.toList.map .char ++ .char '>' :: tail)))))) := by
        simp [tagEnd]
      obtain ⟨inside, hinside⟩ := hc.exists_inside
        (.char '/' :: (name.toList.map .char ++ .char '>' :: tail))
      obtain ⟨middle, hm, hrest⟩ := readFrom_writesAll hc hchildren (left + 1)
        ⟨(openElement (Name.plain name) (attributes.map fun a => (Name.plain a.1, a.2))).addText text
          :: p.opened, p.root⟩
        (.char '<' :: .char '/' :: (name.toList.map .char ++ .char '>' :: tail))
        (by simp only [List.length_cons, List.length_append, List.length_map]; omega)
      simp only [List.length_cons, List.length_append, List.length_map] at hm
      obtain ⟨last, rfl⟩ : ∃ last, middle = last + 1 := ⟨middle - 1, by omega⟩
      refine ⟨last, by omega, ?_⟩
      rw [hglyphs, readFrom_item
        (scanItem_opening hplain.name hw hnames hvalues (by omega) false _) rfl, hinside,
        readFrom_text ht hplain.text, String.ofList_toList, ← hinside]
      refine hrest.trans (readFrom_item (scanItem_closing hplain.name last tail) ?_)
      rw [Progress.placeAll_inside, Progress.takeItem, closeElement_self name _ _ rfl,
        ← openElement_close name hplain.sorted ha text children]
      rfl

/-- **So are elements one after the other.** -/
theorem readFrom_writesAll {ns : List Node} {written : List Char} (h : WritesAll ns written)
    (hn : ∀ m ∈ Node.inOrderAll ns, m.IsPlain) (fuel : Nat) (p : Progress) (tail : List Glyph)
    (hf : written.length + tail.length < fuel) :
    ∃ left, tail.length < left ∧
      readFrom index fuel p (written.map .char ++ tail) =
        readFrom index left (p.placeAll ns) tail := by
  cases h with
  | nil => exact ⟨fuel, by simpa using hf, rfl⟩
  | @cons n ns written rest h hs =>
      rw [Node.inOrderAll] at hn
      rw [List.length_append] at hf
      rw [List.map_append, List.append_assoc]
      obtain ⟨middle, hm, hfirst⟩ := readFrom_writes h
        (fun m hm => hn m (List.mem_append_left _ hm)) fuel p (rest.map .char ++ tail)
        (by simp only [List.length_append, List.length_map]; omega)
      obtain ⟨left, hl, hrest⟩ := readFrom_writesAll hs
        (fun m hm => hn m (List.mem_append_right _ hm)) middle (p.place n) tail (by simpa using hm)
      exact ⟨left, hl, hfirst.trans hrest⟩

end

/-! ### Every element can be written -/

/-- Digits of a number. -/
theorem digitValue_digitChar : ∀ v < 16, "0123456789abcdef".toList[v]? = some v.digitChar := by
  decide

theorem numeral_toDigits {base : Nat} (hb : 1 < base) (hb' : base ≤ 16) (n : Nat) :
    Numeral base (Nat.toDigits base n) n := by
  induction n using Nat.strongRecOn with
  | ind n ih =>
      have hdigit (v : Nat) (hv : v < base) : DigitValue base v.digitChar v :=
        ⟨hv, .inl (digitValue_digitChar v (by omega))⟩
      rw [Nat.toDigits_eq_if hb]
      split
      · rename_i hlt
        exact .single (hdigit n hlt)
      · rename_i hge
        have hmore := Numeral.more (ih (n / base) (Nat.div_lt_self (by omega) hb))
          (hdigit (n % base) (Nat.mod_lt n (by omega)))
        rwa [Nat.div_add_mod' n base] at hmore

/-- The references that the writer makes. -/
theorem refersTo_reference (spelling : Spelling) (c : Char) : RefersTo (reference spelling c) c := by
  unfold reference
  split
  · rename_i name c' hfind
    have hmem := List.mem_of_find?_eq_some hfind
    have hc : c' = c := by simpa using List.find?_some hfind
    exact .named (hc ▸ hmem)
  · exact .hexadecimal (numeral_toDigits (by decide) (by decide) _)
  · exact .decimal (numeral_toDigits (by decide) (by decide) _)

theorem spells_escape (spell : Char → Spelling) (cs : List Char) : Spells cs (escape spell cs) := by
  induction cs with
  | nil => exact .nil
  | cons c cs ih =>
      rw [escape, List.flatMap_cons]
      split
      · exact .reference (refersTo_reference _ c) ih
      · rename_i hc
        exact .plain (by simpa using hc) ih

theorem writesAttributes_flatMap (spell : Char → Spelling) (attributes : List (String × String)) :
    WritesAttributes attributes (attributes.flatMap (attributeChars spell)) := by
  induction attributes with
  | nil => exact .nil
  | cons a attributes ih =>
      have hcons : WritesAttributes ((a.1, a.2) :: attributes) _ :=
        .cons (spells_escape spell a.2.toList) ih
      simpa [attributeChars] using hcons

mutual

/-- Attributes of one element have different names, all through the tree. -/
def Element.Distinct : Element → Prop
  | ⟨_, attributes, _, children⟩ => (attributes.map (·.1)).Nodup ∧ Element.AllDistinct children

/-- The same for several trees. -/
def Element.AllDistinct : List Element → Prop
  | [] => True
  | e :: es => e.Distinct ∧ Element.AllDistinct es

end

mutual

/-- **The writer writes the tree.** -/
theorem Element.writes_chars (spell : Char → Spelling) :
    (e : Element) → e.Distinct → Writes e.node (e.chars spell)
  | ⟨name, attributes, text, children⟩, h => by
      rw [Element.Distinct] at h
      have hperm := (Dictionary.perm_ofList h.1).symm
      have hwritten := writesAttributes_flatMap spell attributes
      rw [Element.node, Element.chars]
      split
      · rename_i hempty
        obtain ⟨ht, hc⟩ := Bool.and_eq_true_iff.1 hempty
        obtain rfl := List.isEmpty_iff.1 hc
        obtain rfl : text = "" := by simpa using ht
        exact .single hperm hwritten
      · exact .double hperm hwritten (spells_escape spell _)
          (Element.writesAll_charsOfAll spell children h.2)

/-- So it does with several. -/
theorem Element.writesAll_charsOfAll (spell : Char → Spelling) :
    (es : List Element) → Element.AllDistinct es →
      WritesAll (Element.nodes es) (Element.charsOfAll spell es)
  | [], _ => .nil
  | e :: es, h => by
      rw [Element.AllDistinct] at h
      rw [Element.nodes, Element.charsOfAll]
      exact .cons (Element.writes_chars spell e h.1) (Element.writesAll_charsOfAll spell es h.2)

end

/-! ### Documents -/

/-- What is written starts with a bracket and the first letter of a name. -/
theorem WritesAll.exists_start {n : Node} {ns : List Node} {written : List Char}
    (h : WritesAll (n :: ns) written) (hn : isSimpleName n.name = true) :
    ∃ c cs, written = '<' :: c :: cs ∧ (c.isAlpha = true ∨ c = '_') := by
  cases h with
  | cons h hs =>
      obtain ⟨c, cs, hc, hname⟩ := simpleName_of_isSimpleName hn
      cases h with
      | single ha hw =>
          dsimp only at hc
          rw [hc]
          exact ⟨c, _, rfl, hname.first⟩
      | double ha hw ht hc' =>
          dsimp only at hc
          rw [hc]
          exact ⟨c, _, rfl, hname.first⟩

/-- A tree ends with a bracket. -/
theorem Writes.getLast? {n : Node} {written : List Char} (h : Writes n written) :
    written.getLast? = some '>' := by
  cases h with
  | single ha hw =>
      rw [List.getLast?_append]
      rfl
  | double ha hw ht hc =>
      rw [List.getLast?_append]
      rfl

/-- So do several. -/
theorem WritesAll.getLast? {n : Node} {ns : List Node} {written : List Char}
    (h : WritesAll (n :: ns) written) : written.getLast? = some '>' := by
  induction ns generalizing n written with
  | nil =>
      cases h with
      | cons h hs =>
          cases hs
          rw [List.append_nil]
          exact h.getLast?
  | cons m ns ih =>
      cases h with
      | cons h hs =>
          rw [List.getLast?_append, ih hs]
          rfl

end Markup

namespace Document

/-- A document that starts with a bracket and a letter is taken as UTF-8. -/
theorem decode_of_start {c : Char} (hc : c.isAlpha = true ∨ c = '_') (cs : List Char) :
    decode (Utf8.encodeChars ('<' :: c :: cs)) = ('<' :: c :: cs).map .char := by
  have hc' : c ≠ Char.ofNat 0 := by
    rintro rfl
    rcases hc with h | h
    · exact absurd h (by decide)
    · exact absurd h (by decide)
  exact decode_encodeChars hc' cs

/-- A document that ends with a bracket has no padding. -/
theorem trimPadding_of_getLast? {cs : List Char} (h : cs.getLast? = some '>') :
    trimPadding (cs.map .char) = cs.map .char := by
  rw [← List.head?_reverse] at h
  obtain ⟨tail, ht⟩ : ∃ tail, cs.reverse = '>' :: tail := by
    cases hr : cs.reverse with
    | nil => simp [hr] at h
    | cons d tail => exact ⟨tail, by simpa [hr] using h⟩
  have hdrop : (cs.reverse.map Glyph.char).dropWhile (Glyph.is (Char.ofNat 0)) =
      cs.reverse.map .char := by
    rw [ht]
    simp
  rw [trimPadding, ← List.map_reverse, hdrop, List.map_reverse, List.reverse_reverse]

end Document

/-- **Reading inverts writing.**  The document of trees, written in any way, is read as the first of
them, with any index of character sets. -/
theorem parse_writes (index : CharsetIndex) {n : Node} {ns : List Node} {written : List Char}
    (h : Markup.WritesAll (n :: ns) written) (hn : ∀ m ∈ Node.inOrderAll (n :: ns), m.IsPlain) :
    Document.parseWith index (Utf8.encodeChars written) = .ok n := by
  have hself : n.IsPlain := by
    refine hn n ?_
    rw [Node.inOrderAll]
    exact List.mem_append_left _ (Node.mem_inOrder_self n)
  obtain ⟨c, cs, rfl, hc⟩ := h.exists_start hself.name
  rw [Document.parseWith, Document.decode_of_start hc, Document.trimPadding_of_getLast? h.getLast?]
  obtain ⟨left, hleft, hread⟩ := Markup.readFrom_writesAll h hn
    ((('<' :: c :: cs).map Glyph.char).length + 1) {} [] (by simp)
  obtain ⟨last, rfl⟩ : ∃ last, left = last + 1 := ⟨left - 1, by simp at hleft; omega⟩
  have hplaced : Markup.Progress.placeAll {} (n :: ns) = ⟨[], some n⟩ :=
    Markup.Progress.placeAll_top ns n
  rw [List.append_nil, hplaced] at hread
  unfold Markup.read
  rw [hread]
  rfl

/-- Two elements on the top level; the first has attributes out of order and a text with all that
needs a reference, and is written with references of all three kinds. -/
theorem parse_writes_mixed :
    let spell : Char → Markup.Spelling := fun c =>
      if c = '<' then .name else if c = '\r' then .hexadecimal else .decimal
    let first : Markup.Element :=
      ⟨"E", [("szKey", "a\r\n<\"&\">"), ("_id1", "")], "x]]>\t&lt; 'é",
        [⟨"GBR_1", [("xmlns", "u")], "", []⟩, ⟨"b", [], " ", [⟨"c", [], "", []⟩]⟩]⟩
    let second : Markup.Element := ⟨"F", [], "y", []⟩
    Document.parse (Markup.document spell [first, second]) = .ok first.node := by
  intro spell first second
  have hdistinct : Markup.Element.AllDistinct [first, second] := by
    simp [Markup.Element.AllDistinct, Markup.Element.Distinct, first, second]
  exact parse_writes Charset.index
    (Markup.Element.writesAll_charsOfAll spell [first, second] hdistinct) (by decide)

end EventRules
