/-
**Which names mean the template of a rule.**

The template that comes with a rule answers for its own name up to letter case.  Everywhere else,
in caches and in catalogs, a name stands for its key: white space around it is cut off and the rest
is in upper case.  This module compares the two.

Letter case hardly matters: apart from nine letters, case folding and upper-case forms identify the
same texts.  White space does: the template answers for a name only if the name has the very white
space around it that its own name has.  So a rule whose template is `D1` looks for ` D1` in the
catalog, although the catalog takes both for one name.

For the names for which it does answer, the template is all that counts.  Caches and sources are not
consulted about them, so a pass whose members and calls give no other names shows the same whatever
copies of the template there are elsewhere.

Main definitions:

* `Text.margins` — the white space around a text;
* `Text.IsRegular` — a text without the letters for which the two ways differ;
* `Template.AnswersFor` — a template that is found by a name before anything else is asked.

Main results:

* `Text.KeepsSpace.map_eq_iff` — texts that are the same but for letter case have the same margins;
* `Template.answersFor_iff` — the names for which a template answers;
* `lines_independent_of_catalog` — no copy of the template shows;
* `own_template_iff_same_key` — **the own template answers for the regular names of its key that
  have its margins**.
-/

import EventRules.Proofs.Casing
import EventRules.Proofs.Primary

set_option relaxedAutoImplicit false
set_option autoImplicit false

namespace EventRules

namespace Text

/-! ### The white space around a text -/

/-- **The white space before and after** what trimming leaves of a text. -/
def margins (cs : List Char) : List Char × List Char :=
  (cs.takeWhile isSpace, (trimLeftChars cs).rtakeWhile isSpace)

theorem margins_append (cs : List Char) :
    (margins cs).1 ++ trimChars cs ++ (margins cs).2 = cs := by
  have hright : trimChars cs ++ (margins cs).2 = trimLeftChars cs :=
    List.rdropWhile_append_rtakeWhile
  rw [List.append_assoc, hright]
  exact List.takeWhile_append_dropWhile

/-- A change of letters that leaves white space as it is and makes no other. -/
structure KeepsSpace (f : Char → Char) : Prop where
  /-- White space stays white space, and nothing else becomes it. -/
  isSpace_eq : ∀ c, isSpace (f c) = isSpace c
  /-- White space is not changed. -/
  eq_self : ∀ c, isSpace c = true → f c = c

theorem keepsSpace_foldChar : KeepsSpace foldChar :=
  ⟨isSpace_foldChar, fun _ => foldChar_of_isSpace⟩

theorem keepsSpace_upperChar : KeepsSpace upperChar :=
  ⟨isSpace_upperChar, fun _ => upperChar_of_isSpace⟩

namespace KeepsSpace

variable {f : Char → Char}

theorem isSpace_comp (hf : KeepsSpace f) : isSpace ∘ f = isSpace :=
  funext hf.isSpace_eq

theorem map_eq_self (hf : KeepsSpace f) {cs : List Char} (h : ∀ c ∈ cs, isSpace c = true) :
    cs.map f = cs := by
  conv_rhs => rw [← List.map_id cs]
  exact List.map_congr_left fun c hc => hf.eq_self c (h c hc)

theorem trimLeftChars_map (hf : KeepsSpace f) (cs : List Char) :
    trimLeftChars (cs.map f) = (trimLeftChars cs).map f := by
  rw [trimLeftChars, List.dropWhile_map, hf.isSpace_comp, trimLeftChars]

theorem trimChars_map (hf : KeepsSpace f) (cs : List Char) :
    trimChars (cs.map f) = (trimChars cs).map f := by
  rw [trimChars, hf.trimLeftChars_map, trimRightChars, ← List.map_reverse, List.dropWhile_map,
    hf.isSpace_comp, ← List.map_reverse, trimChars, trimRightChars]

theorem margins_map (hf : KeepsSpace f) (cs : List Char) : margins (cs.map f) = margins cs := by
  have hleft : (cs.map f).takeWhile isSpace = cs.takeWhile isSpace := by
    rw [List.takeWhile_map, hf.isSpace_comp]
    exact hf.map_eq_self fun c hc => List.mem_takeWhile_imp hc
  have hright : (trimLeftChars (cs.map f)).rtakeWhile isSpace =
      (trimLeftChars cs).rtakeWhile isSpace := by
    rw [hf.trimLeftChars_map, List.rtakeWhile, ← List.map_reverse, List.takeWhile_map,
      hf.isSpace_comp, ← List.map_reverse, hf.map_eq_self]
    · rfl
    · intro c hc
      exact List.mem_takeWhile_imp (List.mem_reverse.1 hc)
  rw [margins, hleft, hright, margins]

/-- **Texts that are the same after a change of letters** have the same margins, and between them
they are the same after it. -/
theorem map_eq_iff (hf : KeepsSpace f) {cs ds : List Char} :
    cs.map f = ds.map f ↔
      margins cs = margins ds ∧ (trimChars cs).map f = (trimChars ds).map f := by
  constructor
  · intro h
    rw [← hf.margins_map cs, ← hf.margins_map ds, ← hf.trimChars_map, ← hf.trimChars_map, h]
    exact ⟨rfl, rfl⟩
  · rintro ⟨hmargins, htrim⟩
    rw [← margins_append (cs.map f), ← margins_append (ds.map f), hf.margins_map, hf.margins_map,
      hf.trimChars_map, hf.trimChars_map, hmargins, htrim]

end KeepsSpace

/-! ### Names up to letter case -/

/-- **A text without irregular letters.** -/
def IsRegular (s : String) : Prop :=
  ∀ c ∈ s.toList, c.toNat ∉ irregularLetters

instance (s : String) : Decidable (IsRegular s) :=
  List.decidableBAll (fun c : Char => c.toNat ∉ irregularLetters) s.toList

/-- Without irregular letters it does not matter in which way letter case is overlooked. -/
theorem map_foldChar_eq_iff {cs ds : List Char} (hc : ∀ c ∈ cs, c.toNat ∉ irregularLetters)
    (hd : ∀ d ∈ ds, d.toNat ∉ irregularLetters) :
    cs.map foldChar = ds.map foldChar ↔ cs.map upperChar = ds.map upperChar := by
  induction cs generalizing ds with
  | nil => simp
  | cons c cs ih =>
      cases ds with
      | nil => simp
      | cons d ds =>
          rw [List.forall_mem_cons] at hc hd
          simp only [List.map_cons, List.cons.injEq, foldChar_eq_iff hc.1 hd.1, ih hc.2 hd.2]

theorem sameFolded_iff {s t : String} :
    sameFolded s t = true ↔
      margins s.toList = margins t.toList ∧ sameFolded (trim s) (trim t) = true := by
  rw [sameFolded, beq_iff_eq, keepsSpace_foldChar.map_eq_iff, sameFolded, beq_iff_eq, toList_trim,
    toList_trim]

end Text

/-- Names with the same upper-case form are those of one key with the same margins. -/
theorem map_upperChar_eq_iff {s t : String} :
    s.toList.map Text.upperChar = t.toList.map Text.upperChar ↔
      Text.margins s.toList = Text.margins t.toList ∧ catalogKey s = catalogKey t := by
  rw [Text.keepsSpace_upperChar.map_eq_iff, ← String.toList_inj, catalogKey, catalogKey,
    Text.toList_upper, Text.toList_upper, Text.toList_trim, Text.toList_trim]

/-! ### The names of a template -/

/-- **A template answers for a name** if, as the template of a rule, it is found by the name
whatever is cached and whatever a source knows, and neither is used. -/
def Template.AnswersFor (t : Template) (name : String) : Prop :=
  ∀ (σ : Type) (source : Option (Source σ)) (vars : Variables) (shelf : Shelf σ),
    namedTemplate source ⟨some t, vars⟩ name shelf = (some t, shelf)

/-- Without a source and with nothing cached there are no other templates. -/
theorem namedTemplate_alone {scope : Scope} {name : String}
    (h : name = "" ∨ scope.owns name = false) (s : Unit) :
    (namedTemplate none scope name ⟨.default, s⟩).1 = none := by
  by_cases hn : name = ""
  · rw [hn, namedTemplate_empty]
    rfl
  · rw [namedTemplate_eq hn (h.resolve_left hn)]
    rfl

/-- **The names for which a template answers.** -/
theorem Template.answersFor_iff {t : Template} {name : String} :
    t.AnswersFor name ↔ name ≠ "" ∧ Text.sameFolded name t.name = true := by
  constructor
  · intro h
    have hfound := h Unit none [] ⟨TemplateCache.default, ()⟩
    by_contra hnot
    have halone : name = "" ∨ Scope.owns ⟨some t, []⟩ name = false := by
      rw [or_iff_not_imp_left]
      intro hn
      rw [← Bool.not_eq_true]
      exact fun ho => hnot ⟨hn, ho⟩
    have hnone := namedTemplate_alone halone ()
    rw [hfound] at hnone
    cases hnone
  · rintro ⟨hn, ho⟩ σ source vars shelf
    have howns : Scope.owns ⟨some t, vars⟩ name = true := ho
    rw [namedTemplate_of_owns source hn howns]
    rfl

section

variable {σ : Type} {t : Template}

theorem Template.AnswersFor.namedTemplate {name : String} (h : t.AnswersFor name)
    (source : Option (Source σ)) (vars : Variables) :
    namedTemplate source ⟨some t, vars⟩ name = pure (some t) :=
  funext fun shelf => h σ source vars shelf

/-- For all other names the own template might as well be missing. -/
theorem Template.namedTemplate_of_not_answersFor {name : String} (h : ¬ t.AnswersFor name)
    (source : Option (Source σ)) (vars : Variables) :
    namedTemplate source ⟨some t, vars⟩ name = namedTemplate source ⟨none, vars⟩ name := by
  rw [Template.answersFor_iff, not_and_or, not_not] at h
  exact namedTemplate_congr source (h.imp_right fun ho => ⟨by simpa [Scope.owns] using ho, rfl⟩)

/-- A member that gives such a name is the item of the template with its id, if there is one. -/
theorem Template.AnswersFor.member? {n : Node} (h : t.AnswersFor (n.attr ["szTmplName"]))
    (source : Option (Source σ)) (vars : Variables) :
    member? source ⟨some t, vars⟩ n = pure (t.get? (n.attr ["idItem"])) := by
  unfold EventRules.member?
  split
  · rfl
  · rw [h.namedTemplate source vars]
    rfl

/-- So is one that gives no name. -/
theorem member?_of_no_name {n : Node} (h : n.attr ["szTmplName"] = "")
    (source : Option (Source σ)) (vars : Variables) :
    member? source ⟨some t, vars⟩ n = pure (t.get? (n.attr ["idItem"])) := by
  unfold member?
  rw [h]
  rfl

/-! ### Copies in the catalog -/

/-- A source with other templates. -/
def Source.withTemplates (source : Source σ)
    (templates : String → σ → Except Failure (Option Template) × σ) : Source σ :=
  { source with template := templates }

/-- Two shelves with caches of their own and the same state of the source. -/
def SameSource (cache cache' : TemplateCache) (p q : Shelf σ) : Prop :=
  p.cache = cache ∧ q.cache = cache' ∧ p.source = q.source

theorem sourceTandem_withTemplates (source : Source σ)
    (templates : String → σ → Except Failure (Option Template) × σ) (cache cache' : TemplateCache) :
    SourceTandem (SameSource cache cache') source (source.withTemplates templates) where
  indexKeys table index := by
    rintro p q ⟨hp, hq, hs⟩
    cases hi : Numeral.strict? index with
    | none =>
        rw [indexKeys_of_none _ _ hi, indexKeys_of_none _ _ hi]
        exact ⟨rfl, hp, hq, hs⟩
    | some id =>
        rw [indexKeys_eq hi, indexKeys_eq hi, hs]
        exact ⟨rfl, hp, hq, rfl⟩
  itemTitles items := by
    rintro p q ⟨hp, hq, hs⟩
    cases hi : items.isEmpty with
    | true =>
        rw [itemTitles_of_isEmpty _ hi, itemTitles_of_isEmpty _ hi]
        exact ⟨fun _ _ => rfl, hp, hq, hs⟩
    | false =>
        rw [itemTitles_eq hi, itemTitles_eq hi, hs]
        exact ⟨fun _ _ => rfl, hp, hq, rfl⟩
  functionModule template := by
    rintro p q ⟨hp, hq, hs⟩
    rw [functionModule_eq, functionModule_eq, hs]
    exact ⟨rfl, hp, hq, rfl⟩

/-- The questions of an element whose members and call name the own template only. -/
theorem questionsTandem_withTemplates (source : Source σ)
    (templates : String → σ → Except Failure (Option Template) × σ) (cache cache' : TemplateCache)
    {events : List Bytes} (h : ∀ name ∈ templatesNamed events, t.AnswersFor name) {n : Node}
    (hn : n.inOrder ⊆ allElements events) :
    QuestionsTandem (SameSource cache cache') (some source) (some (source.withTemplates templates))
      (some t) (some t) n := fun vars =>
  { sources := .present (sourceTandem_withTemplates source templates cache cache')
    lookups := fun _ _ _ => rfl
    member := fun m hm hk => by
      have hmem : m ∈ allElements events := hn (n.inOrder_eq ▸ List.mem_cons_of_mem _ hm)
      by_cases hname : m.attr ["szTmplName"] = ""
      · rw [member?_of_no_name hname, member?_of_no_name hname]
        exact .pure rfl
      · have ht := h _ (mem_templatesNamed hmem (.inl (OperandKind.name_of_member hk)) hname)
        rw [ht.member?, ht.member?]
        exact .pure rfl
    callee := fun hk => by
      by_cases hname : n.attr ["szTmplName"] = ""
      · rw [hname, namedTemplate_empty, namedTemplate_empty]
        exact .pure rfl
      · have ht := h _ (mem_templatesNamed (hn n.mem_inOrder_self)
          (.inr (ElementKind.name_of_call hk)) hname)
        rw [ht.namedTemplate, ht.namedTemplate]
        exact .pure rfl }

/-- **No copy of the own template shows.**  If members and calls give no names but those for which
the own template answers, it makes no difference what is cached and which templates a source has;
the cache and the state of the source come out the same. -/
theorem lines_independent_of_catalog (source : Source σ)
    (templates : String → σ → Except Failure (Option Template) × σ) {events : List Bytes}
    {template : Bytes} (ht : Decompiler.readTemplate template = .ok (some t))
    (h : ∀ name ∈ templatesNamed events, t.AnswersFor name) (d d' : Decompiler) (s : σ) :
    let pass := Decompiler.decompile (some source) events template d s
    let pass' := Decompiler.decompile (some (source.withTemplates templates)) events template d' s
    pass.1.map (fun r => (r.key, r.lines)) = pass'.1.map (fun r => (r.key, r.lines)) ∧
      pass.2.1.cache = d.cache ∧ pass'.2.1.cache = d'.cache ∧ pass.2.2 = pass'.2.2 :=
  decompile_tandem_of_templates ht ht
    (fun _ hn => questionsTandem_withTemplates source templates d.cache d'.cache h
      (inOrder_subset_of_mem_readEvents hn))
    d d' ⟨rfl, rfl, rfl⟩

end

/-- **The own template and the keys of names.**  The template that comes with a rule answers for the
names that have the white space of its own name around them and, between, the same letters up to
case; for names without irregular letters these are the names of its key with the white space of its
own.  For other names of its key it is not asked.  Members and calls that give names for which it
answers, or none, are labelled from it, whatever copies of it are cached or known to the source. -/
theorem own_template_iff_same_key {template : Bytes} {t : Template}
    (ht : Decompiler.readTemplate template = .ok (some t)) :
    (∀ name : String, t.AnswersFor name ↔ name ≠ "" ∧
      Text.margins name.toList = Text.margins t.name.toList ∧
      Text.sameFolded (Text.trim name) (Text.trim t.name) = true) ∧
    (∀ name : String, Text.IsRegular name → Text.IsRegular t.name →
      (t.AnswersFor name ↔ name ≠ "" ∧
        Text.margins name.toList = Text.margins t.name.toList ∧
        catalogKey name = catalogKey t.name)) ∧
    (∀ name : String, ¬ t.AnswersFor name →
      ∀ {σ : Type} (source : Option (Source σ)) (vars : Variables),
        namedTemplate source ⟨some t, vars⟩ name = namedTemplate source ⟨none, vars⟩ name) ∧
    (∀ n : Node, t.AnswersFor (n.attr ["szTmplName"]) →
      ∀ {σ : Type} (source : Option (Source σ)) (vars : Variables),
        member? source ⟨some t, vars⟩ n = pure (t.get? (n.attr ["idItem"]))) ∧
    (∀ events : List Bytes, (∀ name ∈ templatesNamed events, t.AnswersFor name) →
      ∀ {σ : Type} (source : Source σ)
        (templates : String → σ → Except Failure (Option Template) × σ) (d d' : Decompiler) (s : σ),
        (Decompiler.decompile (some source) events template d s).1.map
            (fun r => (r.key, r.lines)) =
          (Decompiler.decompile (some (source.withTemplates templates)) events template d' s).1.map
            (fun r => (r.key, r.lines))) := by
  have hnames (name : String) : t.AnswersFor name ↔ name ≠ "" ∧
      Text.margins name.toList = Text.margins t.name.toList ∧
      Text.sameFolded (Text.trim name) (Text.trim t.name) = true := by
    rw [Template.answersFor_iff, Text.sameFolded_iff]
  refine ⟨hnames, fun name hname htname => ?_,
    fun name hname σ source vars => Template.namedTemplate_of_not_answersFor hname source vars,
    fun n hn σ source vars => hn.member? source vars,
    fun events hevents σ source templates d d' s => ?_⟩
  · rw [Template.answersFor_iff, Text.sameFolded, beq_iff_eq,
      Text.map_foldChar_eq_iff hname htname, map_upperChar_eq_iff]
  · exact (lines_independent_of_catalog source templates ht hevents d d' s).1

/-- A source with a template `D1`, under any name of its key, and nothing else. -/
def copySource : Source Unit where
  template name s :=
    (if catalogKey name = "D1" then
        .ok (some (.ofItems "D1" "" [⟨"1", "ALKY", "szAlternate", 0, ""⟩]))
      else .error (.sentinel .notFound), s)
  indexes _ s := (.error (.sentinel .notFound), s)
  titles _ s := (.ok [], s)
  functionObject _ s := (.error (.sentinel .notFound), s)

/-- A rule whose template is `D1ä`, with a call and a member that write `d1Ä`, and a source that has
a template for every name. -/
theorem own_template_iff_same_key_umlaut :
    let own : Bytes :=
      "<T szTmplName='D1ä'><I idItem='1' szDict='AN8' szItemName='mnAddress'/></T>".toUTF8.toList
    let event : Bytes :=
      "<E szEventSpecKey='K'><GBRBF szFuncName='F' szTmplName='d1Ä'><ERPARAM ".toUTF8.toList ++
        "idItem='1'><DSOBJMember idItem='1' szTmplName='d1Ä'/></ERPARAM></GBRBF></E>".toUTF8.toList
    let copies : String → Unit → Except Failure (Option Template) × Unit := fun _ s =>
      (.ok (some (.ofItems "D1ä" "" [⟨"1", "ALKY", "szAlternate", 0, ""⟩])), s)
    let pass (source : Source Unit) := (Decompiler.decompile (some source) [event] own {} ()).1
    (pass copySource).map (fun r => (r.key, r.lines)) =
        (pass (copySource.withTemplates copies)).map (fun r => (r.key, r.lines)) ∧
      (pass copySource).toOption.map (·.lines) =
        some [⟨0, "F(d1Ä.F)"⟩, ⟨1, "mnAddress [AN8] -> mnAddress [AN8]"⟩] := by
  intro own event copies pass
  have hown : Decompiler.readTemplate own =
      .ok (some (.ofItems "D1ä" "" [⟨"1", "AN8", "mnAddress", 0, ""⟩])) :=
    Except.eq_ok_of_toOption (by decide +kernel)
  obtain ⟨-, hkeys, -, -, hpass⟩ := own_template_iff_same_key hown
  have hanswers := (hkeys "d1Ä" (by decide +kernel) (by decide +kernel)).2
    ⟨by decide +kernel, by decide +kernel, by decide +kernel⟩
  have hnames : ∀ name ∈ templatesNamed [event], name = "d1Ä" := by decide +kernel
  refine ⟨hpass [event] (fun name hname => ?_) copySource copies {} {} (), by decide +kernel⟩
  rw [hnames name hname]
  exact hanswers

/-- White space makes the own template be missed under a name of its key: the item is that of a copy
in the catalog, or there is none.  And it is found under a name of another key, with the sign for
Kelvin in place of a letter. -/
theorem own_template_missed :
    let own : Bytes :=
      "<T szTmplName='D1'><I idItem='1' szDict='AN8' szItemName='mnAddress'/></T>".toUTF8.toList
    let event : Bytes :=
      "<E szEventSpecKey='K'><GBRASSIGN textString='a=b'><ObjTo><DSOBJMember ".toUTF8.toList ++
        "idItem='1' szTmplName=' D1'/></ObjTo><ObjFrom><DSOBJMember idItem='1' ".toUTF8.toList ++
        "szTmplName='D1'/></ObjFrom></GBRASSIGN></E>".toUTF8.toList
    let lines (source : Option (Source Unit)) :=
      (Decompiler.decompile source [event] own {} ()).1.toOption.map (·.lines)
    (catalogKey " D1" = catalogKey "D1" ∧ ¬ (Template.empty "D1" "").AnswersFor " D1") ∧
      (catalogKey "\u212a1" ≠ catalogKey "K1" ∧
        (Template.empty "K1" "").AnswersFor "\u212a1") ∧
      lines (some copySource) = some [⟨0, "a [ALKY] = b [AN8]"⟩] ∧
      lines none = some [⟨0, "a = b [AN8]"⟩] := by
  intro own event lines
  refine ⟨⟨by decide +kernel, ?_⟩, ⟨by decide +kernel, ?_⟩, by decide +kernel, by decide +kernel⟩
  · rw [Template.answersFor_iff]
    decide +kernel
  · rw [Template.answersFor_iff]
    decide +kernel

end EventRules
