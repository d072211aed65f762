/-
**The template of a rule answers for itself only.**

A rule comes with a template of its own.  Members that name no template are looked for there; a
member that names one is looked for in the template of that name and nowhere else, as the same id
means different items in different templates.  So if every member names a template, and none of
these names is that of the rule's own template, the own template is never asked, whatever becomes of
the named ones: they may be found, or be missing, or lack the item.

This is said with two passes.  They differ in the templates that come with the rule, and they show
the same; one of the two templates may be no template at all.

Main definitions:

* `allElements` — all the elements of event documents;
* `templatesNamed` — the names of templates that members and calls give;
* `Bystander` — an accepted template document that none of these names means.

Main results:

* `namedTemplate_congr` — a template that does not own a name does not answer for it;
* `lines_independent_of_bystander` — **templates that are not named do not show**.
-/

import EventRules.Proofs.Tandem

set_option relaxedAutoImplicit false
set_option autoImplicit false

namespace EventRules

/-! ### Elements and the names they give -/

/-- **All the elements of event documents**, blank documents left out. -/
def allElements (events : List Bytes) : List Node :=
  events.flatMap fun doc =>
    if Document.isBlank doc then [] else (Document.parse doc).toOption.elim [] (·.inOrder)

/-- **The names of templates that members and calls give.** -/
def templatesNamed (events : List Bytes) : List String :=
  ((allElements events).filter fun n => n.name == "DSOBJMember" || n.name == "GBRBF").filterMap
    fun n => if n.attr ["szTmplName"] = "" then none else some (n.attr ["szTmplName"])

theorem mem_templatesNamed {events : List Bytes} {n : Node} (hn : n ∈ allElements events)
    (hname : n.name = "DSOBJMember" ∨ n.name = "GBRBF") (hne : n.attr ["szTmplName"] ≠ "") :
    n.attr ["szTmplName"] ∈ templatesNamed events := by
  refine List.mem_filterMap.2 ⟨n, List.mem_filter.2 ⟨hn, ?_⟩, if_neg hne⟩
  simpa using hname

/-- **A template document that is accepted and that the events do not name**: its template, if there
is one, has none of the names that members and calls give, up to letter case. -/
structure Bystander (events : List Bytes) (template : Bytes) (primary : Option Template) :
    Prop where
  /-- The document is accepted, and its template is this one. -/
  accepted : Decompiler.readTemplate template = .ok primary
  /-- No member and no call means it. -/
  unnamed : ∀ t ∈ primary, ∀ name ∈ templatesNamed events, Text.sameFolded name t.name = false

theorem Bystander.owns {events : List Bytes} {template : Bytes} {primary : Option Template}
    (h : Bystander events template primary) {name : String} (hn : name ∈ templatesNamed events)
    (vars : Variables) : Scope.owns ⟨primary, vars⟩ name = false := by
  cases primary with
  | none => rfl
  | some t => exact h.unnamed t rfl name hn

/-- The elements that are replayed, with everything below them, are among all elements. -/
theorem inOrder_subset_of_mem_readEvents {i : Nat} {events : List Bytes} {n : Node}
    (h : n ∈ (Decompiler.readEvents i events).2) : n.inOrder ⊆ allElements events := by
  induction events generalizing i with
  | nil => cases h
  | cons doc docs ih =>
      have hlater (hm : n ∈ (Decompiler.readEvents (i + 1) docs).2) :
          n.inOrder ⊆ allElements (doc :: docs) := fun x hx => by
        rw [allElements, List.flatMap_cons]
        exact List.mem_append_right _ (ih hm hx)
      cases hb : Document.isBlank doc with
      | true =>
          rw [Decompiler.readEvents_blank hb] at h
          exact hlater h
      | false =>
          cases hr : Decompiler.readEvent i doc with
          | error e =>
              rw [Decompiler.readEvents_error hb hr] at h
              cases h
          | ok p =>
              obtain ⟨root, key⟩ := p
              rw [Decompiler.readEvents_ok hb hr] at h
              rcases List.mem_append.1 h with hm | hm
              · -- a child of the root is below the root
                intro x hx
                have hroot : x ∈ root.inOrder :=
                  Node.inOrder_subset root
                    (root.inOrder_eq ▸ List.mem_cons_of_mem _
                      (Node.mem_descendants_of_mem_children hm)) hx
                rw [allElements, List.flatMap_cons, hb, Decompiler.parse_of_readEvent hr]
                exact List.mem_append_left _ hroot
              · exact hlater hm

/-! ### Names that are not the rule's own -/

section

variable {σ : Type}

/-- **A template that does not own a name does not answer for it.** -/
theorem namedTemplate_congr (source : Option (Source σ)) {scope scope' : Scope} {name : String}
    (h : name = "" ∨ scope.owns name = false ∧ scope'.owns name = false) :
    namedTemplate source scope name = namedTemplate source scope' name := by
  funext shelf
  unfold namedTemplate
  rcases h with rfl | ⟨h, h'⟩
  · rfl
  · rw [h, h']
    rfl

/-- A member that names a template is looked for there only. -/
theorem member?_congr (source : Option (Source σ)) {scope scope' : Scope} {n : Node}
    (hne : n.attr ["szTmplName"] ≠ "") (h : scope.owns (n.attr ["szTmplName"]) = false)
    (h' : scope'.owns (n.attr ["szTmplName"]) = false) :
    member? source scope n = member? source scope' n := by
  unfold member?
  split
  · exact absurd ‹_› hne
  · rw [namedTemplate_congr source (.inr ⟨h, h'⟩)]

theorem OperandKind.name_of_member {name : String} (h : OperandKind.ofElement name = .member) :
    name = "DSOBJMember" := by
  unfold OperandKind.ofElement at h
  split at h
  all_goals first | rfl | cases h

theorem ElementKind.name_of_call {name : String} (h : ElementKind.ofName name = .call) :
    name = "GBRBF" := by
  unfold ElementKind.ofName at h
  split at h
  all_goals first | rfl | cases h

/-- All questions of an element are answered alike beside two templates that are not named. -/
theorem questionsTandem_of_bystanders (source : Option (Source σ)) {events : List Bytes}
    {template template' : Bytes} {primary primary' : Option Template}
    (h : Bystander events template primary) (h' : Bystander events template' primary')
    (hmembers : ∀ m ∈ allElements events, m.name = "DSOBJMember" → m.attr ["szTmplName"] ≠ "")
    {n : Node} (hn : n.inOrder ⊆ allElements events) :
    QuestionsTandem Eq source source primary primary' n := fun vars =>
  { sources := .refl source
    lookups := fun _ _ _ => rfl
    member := fun m hm hk => by
      have hmem : m ∈ allElements events := hn (n.inOrder_eq ▸ List.mem_cons_of_mem _ hm)
      have hname := OperandKind.name_of_member hk
      have hne := hmembers m hmem hname
      have hused := mem_templatesNamed hmem (.inl hname) hne
      rw [member?_congr source hne (h.owns hused vars) (h'.owns hused vars)]
      exact Tandem.refl (fun _ => rfl) _
    callee := fun hk => by
      have hmem : n ∈ allElements events := hn n.mem_inOrder_self
      have hnamed : n.attr ["szTmplName"] = "" ∨
          Scope.owns ⟨primary, vars⟩ (n.attr ["szTmplName"]) = false ∧
            Scope.owns ⟨primary', vars⟩ (n.attr ["szTmplName"]) = false := by
        by_cases he : n.attr ["szTmplName"] = ""
        · exact .inl he
        · have hused := mem_templatesNamed hmem (.inr (ElementKind.name_of_call hk)) he
          exact .inr ⟨h.owns hused vars, h'.owns hused vars⟩
      rw [namedTemplate_congr source hnamed]
      exact Tandem.refl (fun _ => rfl) _ }

/-- **Templates that are not named do not show.**  If every member of the events names a template,
then with any two accepted template documents whose templates are not named, be they blank or full
of items with the ids in question, a pass has the same key and the same lines or the same failure.
It also leaves the same cache behind, and has asked the same of the source. -/
theorem lines_independent_of_bystander (source : Option (Source σ)) {events : List Bytes}
    (hmembers : ∀ m ∈ allElements events, m.name = "DSOBJMember" → m.attr ["szTmplName"] ≠ "")
    {template template' : Bytes} {primary primary' : Option Template}
    (h : Bystander events template primary) (h' : Bystander events template' primary')
    (d : Decompiler) (s : σ) :
    (Decompiler.decompile source events template d s).1.map (fun r => (r.key, r.lines)) =
        (Decompiler.decompile source events template' d s).1.map (fun r => (r.key, r.lines)) ∧
      (Decompiler.decompile source events template d s).2.1.cache =
        (Decompiler.decompile source events template' d s).2.1.cache ∧
      (Decompiler.decompile source events template d s).2.2 =
        (Decompiler.decompile source events template' d s).2.2 := by
  have hquestions : ∀ n ∈ (Decompiler.readEvents 0 events).2,
      QuestionsTandem Eq source source primary primary' n := fun n hn =>
    questionsTandem_of_bystanders source h h' hmembers (inOrder_subset_of_mem_readEvents hn)
  obtain ⟨hresult, hshelf⟩ :=
    decompile_tandem_of_templates (R := Eq) h.accepted h'.accepted hquestions
      d d (s := s) rfl
  exact ⟨hresult, congrArg Shelf.cache hshelf, congrArg Shelf.source hshelf⟩

end

/-- A source that knows one template with one item, and nothing else. -/
def oneTemplateSource : Source Unit where
  template name s :=
    (if name = "D2" then .ok (some (.ofItems "D2" "" [⟨"2", "AN8", "mnAddress", 0, ""⟩]))
      else .error (.sentinel .notFound), s)
  indexes _ s := (.error (.sentinel .notFound), s)
  titles _ s := (.ok [], s)
  functionObject _ s := (.error (.sentinel .notFound), s)

/-- Members of a template that lacks the item, of one that has it, and of one that is not found, and
a call; the rule's own template has an item with each of the ids. -/
theorem lines_independent_of_bystander_same_ids :
    let event : Bytes :=
      "<E szEventSpecKey='K'><GBRASSIGN textString='a=b'><ObjTo><DSOBJMember ".toUTF8.toList ++
        "idItem='1' szTmplName='D2'/></ObjTo><ObjFrom><DSOBJMember idItem='2' ".toUTF8.toList ++
        "szTmplName='D2'/></ObjFrom></GBRASSIGN><GBRBF szFuncName='F' ".toUTF8.toList ++
        "szTmplName='D3'><ERPARAM idItem='1'><DSOBJMember idItem='2' szDict='Q' ".toUTF8.toList ++
        "szTmplName='D4'/></ERPARAM></GBRBF></E>".toUTF8.toList
    let own : Bytes :=
      "<T szTmplName='D1'><I idItem='1' szDict='X'/><I idItem='2' szDict='Y'/></T>".toUTF8.toList
    let pass (template : Bytes) :=
      (Decompiler.decompile (some oneTemplateSource) [event] template {} ()).1
    (pass own).map (fun r => (r.key, r.lines)) = (pass []).map (fun r => (r.key, r.lines)) ∧
      (pass []).toOption.map (·.lines) =
        some [⟨0, "a = b [AN8]"⟩, ⟨0, "F(D3.F)"⟩, ⟨1, "Q -> 1"⟩] := by
  intro event own pass
  have hmembers : ∀ m ∈ allElements [event], m.name = "DSOBJMember" →
      m.attr ["szTmplName"] ≠ "" := by
    decide +kernel
  have hown : Bystander [event] own
      (some (.ofItems "D1" "" [⟨"1", "X", "", 0, ""⟩, ⟨"2", "Y", "", 0, ""⟩])) := by
    refine ⟨Except.eq_ok_of_toOption (by decide +kernel), ?_⟩
    rintro t ⟨rfl⟩
    decide +kernel
  have hnone : Bystander [event] [] none := ⟨rfl, nofun⟩
  refine ⟨(lines_independent_of_bystander (some oneTemplateSource) hmembers hown hnone {} ()).1, ?_⟩
  decide +kernel

end EventRules
