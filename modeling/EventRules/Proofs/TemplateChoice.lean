/-
**A template by its name, or by its document.**

A request brings a template document along, or names a template of its environment's catalog; the
name is for requests without a document.  But there are two opinions on when there is none.  The
service asks whether the document is white space, as a text.  The decompiler asks whether it is
blank, which is a matter of bytes: white space beyond ASCII counts as content, while NUL and the
bytes of byte order marks do not.  Both call a document absent that has nothing but spaces, tabs,
line feeds and returns.  A document that only one of them calls absent loses a part of the request:
byte order marks are no template and still hide the name, and no-break spaces have content and still
make way for the name.

Main definitions:

* `Document.IsPlainBlank` — the blanks that both opinions know;
* `Service.Alike` — requests that are answered alike;
* `Service.Stocks` — a request that names a template of its environment;
* `Service.ChoosesTemplate` — **how a request comes by its template**.

Main results:

* `Document.blank_and_white_iff` — **where the two opinions meet**;
* `Service.Alike.decompile_eq` — a template only counts for what is read from it;
* `Service.Stocks.blank_iff`, `Service.Stocks.content_iff` — when a request is served as it asks to
  be;
* `template_name_used_iff` — both cases, and what happens otherwise;
* `template_name_lost` — a document that carries nothing and hides the name.
-/

import EventRules.Proofs.Blanks
import EventRules.Proofs.Statuses

set_option relaxedAutoImplicit false
set_option autoImplicit false

namespace EventRules

/-! ### Two notions of nothing -/

/-- A byte beyond ASCII that starts no sequence is a glyph of its own. -/
theorem Utf8.front?_of_lead?_none {b : UInt8} (hb : ¬ b < 0x80) (h : lead? b = none)
    (rest : Bytes) : front? b rest = none := by
  rw [front?.eq_def, if_neg hb, h]

namespace Document

open EventRules.Text (isSpace)

variable {doc : Bytes} {b : UInt8}

/-- **The blanks of ASCII that a document may have**: space, tab, line feed and return. -/
def IsPlainBlank (b : UInt8) : Prop :=
  b = 0x20 ∨ b = 0x09 ∨ b = 0x0A ∨ b = 0x0D

instance (b : UInt8) : Decidable (IsPlainBlank b) :=
  inferInstanceAs (Decidable (b = 0x20 ∨ b = 0x09 ∨ b = 0x0A ∨ b = 0x0D))

/-- A document is white space if all its glyphs are. -/
theorem isBlank_text_iff :
    Text.isBlank (Utf8.text doc) = true ↔ ∀ g ∈ Utf8.decode doc, isSpace g.shown = true := by
  simp [Text.isBlank, Utf8.text, Glyph.text]

theorem IsPlainBlank.isBlankByte (h : IsPlainBlank b) : isBlankByte b = true := by
  rcases h with rfl | rfl | rfl | rfl <;> decide

/-- Plain blanks are characters of their own. -/
theorem IsPlainBlank.front? (h : IsPlainBlank b) (rest : Bytes) :
    ∃ c, Utf8.front? b rest = some (c, 0) ∧ isSpace c = true := by
  rcases h with rfl | rfl | rfl | rfl
  · exact ⟨' ', rfl, by decide⟩
  · exact ⟨'\t', rfl, by decide⟩
  · exact ⟨'\n', rfl, by decide⟩
  · exact ⟨'\r', rfl, by decide⟩

/-- Numbers beyond the ideographic space belong to no white space. -/
theorem not_isSpace_ofNat {n : Nat} (h : 0x3000 < n) : isSpace (Char.ofNat n) = false := by
  have hn := toNat_ofNat_cases n
  simp only [isSpace]
  generalize (Char.ofNat n).toNat = m at hn
  simp
  omega

/-- **No other blank byte starts white space**: NUL is none, and neither is what the bytes of byte
order marks can form. -/
theorem plain_of_front? {rest : Bytes} {c : Char} {more : Nat} (hb : isBlankByte b = true)
    (hfront : Utf8.front? b rest = some (c, more)) (hc : isSpace c = true) : IsPlainBlank b := by
  simp only [isBlankByte, Bool.or_eq_true, beq_iff_eq] at hb
  by_cases hsmall : b < 0x80
  · obtain ⟨rfl, -⟩ := Utf8.char_of_front? hsmall hfront
    rcases hb with (((((((((rfl | rfl) | rfl) | rfl) | rfl) | rfl) | rfl) | rfl) | rfl) | rfl)
    all_goals revert hc hsmall; decide
  · obtain ⟨number, rfl, -, hmark⟩ := Utf8.number_of_front? hsmall hfront
    have hlead : Utf8.lead? b ≠ none := by
      intro hnone
      rw [Utf8.front?_of_lead?_none hsmall hnone] at hfront
      cases hfront
    have hb : b = 0xEF := by
      rcases hb with (((((((((rfl | rfl) | rfl) | rfl) | rfl) | rfl) | rfl) | rfl) | rfl) | rfl)
      all_goals revert hlead hsmall; decide
    rw [not_isSpace_ofNat (by have := hmark hb; omega)] at hc
    cases hc

/-- **A document is blank and white space at once** if it has plain blanks only. -/
theorem blank_and_white_iff :
    (isBlank doc = true ∧ Text.isBlank (Utf8.text doc) = true) ↔ ∀ b ∈ doc, IsPlainBlank b := by
  rw [isBlank_text_iff]
  unfold Utf8.decode
  constructor
  · rintro ⟨hblank, hwhite⟩
    induction doc with
    | nil => simp
    | cons b doc ih =>
        simp only [isBlank, List.all_cons, Bool.and_eq_true] at hblank
        rw [Utf8.decodeFrom] at hwhite
        cases hfront : Utf8.front? b doc with
        | none =>
            simp only [hfront, List.forall_mem_cons] at hwhite
            exact absurd hwhite.1 (show ¬ isSpace replacement = true by decide)
        | some found =>
            obtain ⟨c, more⟩ := found
            simp only [hfront, List.forall_mem_cons] at hwhite
            have hplain := plain_of_front? hblank.1 hfront hwhite.1
            -- a plain blank is one byte, so the rest is decoded from its start
            obtain ⟨c', hc', -⟩ := hplain.front? doc
            rw [hfront] at hc'
            cases hc'
            exact List.forall_mem_cons.2 ⟨hplain, ih hblank.2 hwhite.2⟩
  · intro hplain
    induction doc with
    | nil => simp [isBlank]
    | cons b doc ih =>
        obtain ⟨hb, hrest⟩ := List.forall_mem_cons.1 hplain
        obtain ⟨c, hfront, hc⟩ := hb.front? doc
        obtain ⟨hblank, hwhite⟩ := ih hrest
        rw [Utf8.decodeFrom, hfront]
        refine ⟨?_, List.forall_mem_cons.2 ⟨hc, hwhite⟩⟩
        simp only [isBlank, List.all_cons, hb.isBlankByte, Bool.true_and]
        exact hblank

/-- **White space has no bracket** either, and is always taken for UTF-8. -/
theorem no_bracket_of_white (h : Text.isBlank (Utf8.text doc) = true) : .char '<' ∉ decode doc := by
  rw [isBlank_text_iff] at h
  -- the first byte of any other encoding is a glyph of its own in UTF-8, and no white space
  have hstart {g : Glyph} {gs : List Glyph} (hg : Utf8.decode doc = g :: gs) :
      isSpace g.shown = true := by
    refine h g ?_
    rw [hg]
    exact List.mem_cons_self
  unfold decode
  split
  · exact absurd (hstart (g := .stray 0xFF) rfl) (by decide)
  · exact absurd (hstart (g := .stray 0xFE) rfl) (by decide)
  · exact absurd (hstart (g := .char '<') rfl) (by decide)
  · exact absurd (hstart (g := .char (Char.ofNat 0)) rfl) (by decide)
  · exact absurd (hstart (g := .char (Char.ofNat 0xFEFF)) rfl) (by decide)
  · intro hmem
    exact absurd (h _ hmem) (by decide)

end Document

/-! ### Templates as they are read -/

namespace Decompiler

variable {σ : Type} {events : List Bytes} {document template template' : Bytes} {t : Template}

/-- **A pass depends on its template document only through what is read from it.** -/
theorem decompile_congr_template (h : readTemplate template' = readTemplate template)
    (source : Option (Source σ)) (events : List Bytes) (d : Decompiler) (s : σ) :
    decompile source events template' d s = decompile source events template d s := by
  unfold decompile
  rw [h]

theorem readTemplate_of_isBlank (h : Document.isBlank template = true) :
    readTemplate template = .ok none := by
  rw [readTemplate, if_pos h]

/-- The document of a template is not blank, as it has an element. -/
theorem readTemplate_of_parse (h : Template.parse "template" document = .ok t) :
    readTemplate document = .ok (some t) := by
  have hblank : Document.isBlank document ≠ true := by
    intro hblank
    obtain ⟨root, hroot, -⟩ := Template.rootTitle_of_parse h
    obtain ⟨fault, hfault⟩ := Document.parse_error_of_isBlank hblank
    rw [hroot] at hfault
    cases hfault
  rw [readTemplate, if_neg hblank, h]

/-- White space with content is no template. -/
theorem readTemplate_of_white (hblank : Document.isBlank template = false)
    (hwhite : Text.isBlank (Utf8.text template) = true) :
    ∃ e, readTemplate template = .error e ∧ e.is .malformedTemplate = true := by
  obtain ⟨fault, hfault⟩ := Document.parse_error_of_no_bracket (Document.no_bracket_of_white hwhite)
  cases hparse : Template.parse "template" template with
  | ok t =>
      obtain ⟨root, hroot, -⟩ := Template.rootTitle_of_parse hparse
      rw [hroot] at hfault
      cases hfault
  | error e =>
      refine ⟨e, ?_, Template.is_of_parse hparse .malformedTemplate⟩
      rw [readTemplate, if_neg (by simp [hblank]), hparse]

/-- **A pass with a readable template** never calls a template malformed. -/
theorem not_malformedTemplate {primary : Option Template} (h : readTemplate template = .ok primary)
    {source : Option (Source σ)} {d : Decompiler} {s : σ} {e : Failure}
    (he : (decompile source events template d s).1 = .error e) :
    e.is .malformedTemplate = false := by
  rw [decompile_eq_of_template h] at he
  cases hk : (readEvents 0 events).1 with
  | ok key => simp [hk, Except.map] at he
  | error e' =>
      simp only [hk, Except.map, Except.error.injEq] at he
      obtain ⟨i, doc, hfirst, hfault⟩ := exists_firstOffence hk
      subst he
      exact (hfault.is_eq hfirst.offends.isBlank_eq).2.1

end Decompiler

theorem RootTitle.ne_empty {root : Node} {name : String} (h : RootTitle root name) : name ≠ "" := by
  cases h with
  | own h => exact h.2
  | below _ _ h => exact h.2

/-- **With and without a template** passes over the same events have the same outcome only if an
event is at fault. -/
theorem decompile_none_eq_some_iff {σ : Type} {events : List Bytes} {document template : Bytes}
    {t : Template} (hblank : Document.isBlank template = true)
    (ht : Template.parse "template" document = .ok t) (source : Option (Source σ)) (d : Decompiler)
    (s : σ) :
    (Decompiler.decompile source events template d s).1 =
        (Decompiler.decompile source events document d s).1 ↔ ∃ doc ∈ events, Offends doc := by
  rw [Decompiler.decompile_eq_of_template (Decompiler.readTemplate_of_isBlank hblank),
    Decompiler.decompile_eq_of_template (Decompiler.readTemplate_of_parse ht)]
  dsimp only
  cases hk : (Decompiler.readEvents 0 events).1 with
  | error e =>
      obtain ⟨i, doc, hfirst, -⟩ := Decompiler.exists_firstOffence hk
      exact ⟨fun _ => ⟨doc, List.mem_of_getElem? hfirst.at_place, hfirst.offends⟩, fun _ => rfl⟩
  | ok key =>
      obtain ⟨root, -, hroot⟩ := Template.rootTitle_of_parse ht
      constructor
      · intro heq
        have hname : "" = t.name := congrArg Decompiled.templateName (Except.ok.inj heq)
        exact absurd hname.symm hroot.ne_empty
      · rintro ⟨doc, hmem, hoff⟩
        exact absurd hoff ((Decompiler.eventsKey_of_readEvents hk).2 doc hmem)

/-! ### Requests and their templates -/

/-- A request that brings a stored document along.  The document may be white space itself, and is
then replaced by itself. -/
theorem DecompileRequest.templateDocument_brought {r : DecompileRequest} {store : Catalog.Store}
    {document : Bytes} (h : store.templateDocument r.templateName = .ok document) :
    ({ r with template := document } : DecompileRequest).templateDocument store = .ok document := by
  unfold templateDocument
  split
  · exact h
  · rfl

namespace Service

variable {s u : Service} {r r' : DecompileRequest} {catalog : OpenCatalog} {document : Bytes}

/-- A catalog that is opened. -/
theorem catalog_ok {environment : String} (h : s.catalog environment = (.ok catalog, u)) :
    environment ≠ "" ∧ ∃ registry site, s.registry = some registry ∧
      Site.openCatalog environment ⟨registry, s.files⟩ = (.ok catalog, site) := by
  unfold Service.catalog at h
  split at h
  · cases h
  · rename_i henv
    refine ⟨henv, ?_⟩
    unfold onSite at h
    split at h
    · cases h
    · rename_i registry hr
      rcases hopen : Site.openCatalog environment ⟨registry, s.files⟩ with ⟨result, site⟩
      rw [hopen] at h
      obtain ⟨rfl, -⟩ := Prod.mk.inj h
      exact ⟨registry, site, hr, hopen⟩

/-- **Requests are alike** if they ask for the same events in the same environment, and what is read
from their template documents is the same. -/
structure Alike (s : Service) (r r' : DecompileRequest) : Prop where
  /-- They have the same events. -/
  events : r'.events = r.events
  /-- They have the same environment. -/
  environment : r'.environment = r.environment
  /-- Without an environment they have the same template. -/
  alone : r.environment = "" → r'.usesCatalogTemplate = r.usesCatalogTemplate ∧
    Decompiler.readTemplate r'.template = Decompiler.readTemplate r.template
  /-- Otherwise the catalog supplies the same. -/
  document : ∀ catalog u, s.catalog r.environment = (.ok catalog, u) →
    (r'.templateDocument catalog.store).map Decompiler.readTemplate =
      (r.templateDocument catalog.store).map Decompiler.readTemplate

theorem decompileAlone_congr (hevents : r'.events = r.events)
    (huses : r'.usesCatalogTemplate = r.usesCatalogTemplate)
    (htemplate : Decompiler.readTemplate r'.template = Decompiler.readTemplate r.template)
    (cache : TemplateCache) : decompileAlone r' cache = decompileAlone r cache := by
  unfold decompileAlone
  rw [huses, hevents, Decompiler.decompile_congr_template htemplate]

theorem decompileIn_congr {site : Site} (hevents : r'.events = r.events)
    (henvironment : r'.environment = r.environment)
    (hdocument : ∀ catalog u, site.openCatalog r.environment = (.ok catalog, u) →
      (r'.templateDocument catalog.store).map Decompiler.readTemplate =
        (r.templateDocument catalog.store).map Decompiler.readTemplate)
    (withdrawn : Bool) (cache : TemplateCache) :
    decompileIn withdrawn r' cache site = decompileIn withdrawn r cache site := by
  unfold decompileIn
  rw [hevents, henvironment]
  rcases hopen : site.openCatalog r.environment with ⟨e | catalog, u⟩
  · rfl
  · have htemplate := hdocument catalog u hopen
    dsimp only
    cases hd : r.templateDocument catalog.store with
    | error e =>
        cases hd' : r'.templateDocument catalog.store with
        | error e' =>
            rw [hd, hd'] at htemplate
            cases htemplate
            rfl
        | ok document' =>
            rw [hd, hd'] at htemplate
            cases htemplate
    | ok document =>
        cases hd' : r'.templateDocument catalog.store with
        | error e' =>
            rw [hd, hd'] at htemplate
            cases htemplate
        | ok document' =>
            rw [hd, hd'] at htemplate
            dsimp only
            rw [Decompiler.decompile_congr_template (Except.ok.inj htemplate)]

/-- **Requests that are alike are answered alike**, and leave the same service behind. -/
theorem Alike.decompile_eq (h : s.Alike r r') (withdrawn : Bool) :
    s.decompile withdrawn r' = s.decompile withdrawn r := by
  unfold decompile decompileWith
  rw [h.events, h.environment]
  by_cases henv : r.environment = ""
  · obtain ⟨huses, htemplate⟩ := h.alone henv
    rw [if_pos henv, if_pos henv, decompileAlone_congr h.events huses htemplate]
  · have hwork : s.onSite r.environment (decompileIn withdrawn r' .default) =
        s.onSite r.environment (decompileIn withdrawn r .default) := by
      unfold onSite
      cases hr : s.registry with
      | none => rfl
      | some registry =>
          dsimp only
          rw [decompileIn_congr h.events h.environment fun catalog u hopen => ?_]
          refine h.document catalog (ofSite u) ?_
          rw [Service.catalog, if_neg henv, onSite, hr]
          dsimp only
          rw [hopen]
    rw [if_neg henv, if_neg henv, hwork]

/-- **The outcome of a request whose environment opens.** -/
theorem decompile_opened (hevents : r.events ≠ [])
    (hcatalog : s.catalog r.environment = (.ok catalog, u))
    (hdocument : r.templateDocument catalog.store = .ok document) (withdrawn : Bool) :
    (s.decompile withdrawn r).1 =
      (Decompiler.decompile (some (Catalog.Store.source withdrawn).cached) r.events document {}
        (catalog.caches, catalog.store)).1 := by
  obtain ⟨henv, registry, site, hr, hopen⟩ := catalog_ok hcatalog
  rw [decompile_inside hevents henv, onSite, hr]
  dsimp only
  rw [decompileIn, hopen]
  dsimp only
  rw [hdocument]
  rfl

/-- **The environment of a request opens**, and its catalog has a template under the name that the
request gives. -/
structure Stocks (s : Service) (r : DecompileRequest) (document : Bytes) (t : Template) : Prop where
  /-- The catalog opens and has the document. -/
  stored : ∃ catalog u, s.catalog r.environment = (.ok catalog, u) ∧
    catalog.store.templateDocument r.templateName = .ok document
  /-- The request gives a name. -/
  named : r.templateName ≠ ""
  /-- The document is one of a template. -/
  template : Template.parse "template" document = .ok t

variable {t : Template}

/-- A request that takes its template from the catalog is like one that brings it along. -/
theorem Stocks.alike (h : s.Stocks r document t)
    (hwhite : Text.isBlank (Utf8.text r.template) = true) :
    s.Alike { r with template := document } r := by
  obtain ⟨catalog, u, hcatalog, hstored⟩ := h.stored
  refine ⟨rfl, rfl, fun henv => absurd henv (catalog_ok hcatalog).1, ?_⟩
  intro catalog' u' hcatalog'
  obtain ⟨rfl, rfl⟩ : catalog = catalog' ∧ u = u' := by
    have heq : (Except.ok catalog, u) = (Except.ok catalog', u') := hcatalog.symm.trans hcatalog'
    cases heq
    exact ⟨rfl, rfl⟩
  have huses : r.usesCatalogTemplate = true := by
    simp [DecompileRequest.usesCatalogTemplate, hwhite, h.named]
  have hown : r.templateDocument catalog.store = .ok document := by
    rw [DecompileRequest.templateDocument, if_pos huses, hstored]
  rw [hown, DecompileRequest.templateDocument_brought hstored]

/-- A request that uses its own document does not depend on the name. -/
theorem alike_of_own (hown : r.usesCatalogTemplate = false)
    (hown' : r'.usesCatalogTemplate = false) (hevents : r'.events = r.events)
    (henvironment : r'.environment = r.environment)
    (htemplate : Decompiler.readTemplate r'.template = Decompiler.readTemplate r.template) :
    s.Alike r r' where
  events := hevents
  environment := henvironment
  alone _ := ⟨hown'.trans hown.symm, htemplate⟩
  document catalog u _ := by
    rw [DecompileRequest.templateDocument, DecompileRequest.templateDocument, hown, hown']
    exact congrArg Except.ok htemplate

/-- A request whose document is no white space uses it, whatever name it gives. -/
theorem alike_renamed (hwhite : Text.isBlank (Utf8.text r.template) = false) (name : String) :
    s.Alike r { r with templateName := name } := by
  refine alike_of_own ?_ ?_ rfl rfl rfl
  · simp [DecompileRequest.usesCatalogTemplate, hwhite]
  · simp [DecompileRequest.usesCatalogTemplate, hwhite]

/-- **The outcome with the stored template** is that of a pass with it. -/
theorem Stocks.outcome (h : s.Stocks r document t) (hevents : r.events ≠ []) (withdrawn : Bool) :
    ∃ catalog u, s.catalog r.environment = (.ok catalog, u) ∧
      (s.decompile withdrawn { r with template := document }).1 =
        (Decompiler.decompile (some (Catalog.Store.source withdrawn).cached) r.events document {}
          (catalog.caches, catalog.store)).1 := by
  obtain ⟨catalog, u, hcatalog, hstored⟩ := h.stored
  exact ⟨catalog, u, hcatalog, decompile_opened (r := { r with template := document }) hevents
    hcatalog (DecompileRequest.templateDocument_brought hstored) withdrawn⟩

/-- **How a request comes by its template**, if its environment has the template `document` under
the name that it gives. -/
structure ChoosesTemplate (s : Service) (r : DecompileRequest) (document : Bytes)
    (withdrawn : Bool) : Prop where
  /-- White space, blank or not, gives way to the stored template. -/
  stored : Text.isBlank (Utf8.text r.template) = true →
    s.decompile withdrawn r = s.decompile withdrawn { r with template := document }
  /-- A blank document that is no white space is no template, and hides the name as well. -/
  hidden : Document.isBlank r.template = true → Text.isBlank (Utf8.text r.template) = false →
    s.decompile withdrawn r = s.decompile withdrawn { r with template := [], templateName := "" }
  /-- So a blank document gives way exactly if it has plain blanks only.  The outcome does not show
  it if an event is at fault. -/
  blank_iff : Document.isBlank r.template = true →
    ((s.decompile withdrawn r).1 = (s.decompile withdrawn { r with template := document }).1 ↔
      (∀ b ∈ r.template, Document.IsPlainBlank b) ∨ ∃ doc ∈ r.events, Offends doc)
  /-- And a document with content is used under every name exactly if it is no white space. -/
  content_iff : Document.isBlank r.template = false →
    ((∀ name, (s.decompile withdrawn { r with templateName := name }).1 =
        (s.decompile withdrawn r).1) ↔ Text.isBlank (Utf8.text r.template) = false)

/-- A blank document that is no white space is no template, and hides the name as well. -/
theorem decompile_hidden (hblank : Document.isBlank r.template = true)
    (hwhite : Text.isBlank (Utf8.text r.template) = false) (withdrawn : Bool) :
    s.decompile withdrawn r =
      s.decompile withdrawn { r with template := [], templateName := "" } := by
  refine (Alike.decompile_eq ?_ withdrawn).symm
  refine alike_of_own ?_ ?_ rfl rfl ?_
  · simp [DecompileRequest.usesCatalogTemplate, hwhite]
  · simp [DecompileRequest.usesCatalogTemplate]
  · rw [Decompiler.readTemplate_of_isBlank hblank, Decompiler.readTemplate_of_isBlank rfl]

theorem Stocks.blank_iff (h : s.Stocks r document t) (hevents : r.events ≠ [])
    (hblank : Document.isBlank r.template = true) (withdrawn : Bool) :
    (s.decompile withdrawn r).1 = (s.decompile withdrawn { r with template := document }).1 ↔
      (∀ b ∈ r.template, Document.IsPlainBlank b) ∨ ∃ doc ∈ r.events, Offends doc := by
  by_cases hplain : ∀ b ∈ r.template, Document.IsPlainBlank b
  · obtain ⟨-, hwhite⟩ := Document.blank_and_white_iff.2 hplain
    rw [(h.alike hwhite).decompile_eq]
    exact ⟨fun _ => .inl hplain, fun _ => rfl⟩
  · have hwhite : Text.isBlank (Utf8.text r.template) = false := by
      rw [← Bool.not_eq_true]
      intro hwhite
      exact hplain (Document.blank_and_white_iff.1 ⟨hblank, hwhite⟩)
    obtain ⟨catalog, u, hcatalog, hstored⟩ := h.outcome hevents withdrawn
    have hown : r.templateDocument catalog.store = .ok r.template := by
      simp [DecompileRequest.templateDocument, DecompileRequest.usesCatalogTemplate, hwhite]
    rw [hstored, decompile_opened hevents hcatalog hown, or_iff_right hplain]
    exact decompile_none_eq_some_iff hblank h.template _ _ _

theorem Stocks.content_iff (h : s.Stocks r document t) (hevents : r.events ≠ [])
    (hblank : Document.isBlank r.template = false) (withdrawn : Bool) :
    (∀ name, (s.decompile withdrawn { r with templateName := name }).1 =
        (s.decompile withdrawn r).1) ↔ Text.isBlank (Utf8.text r.template) = false := by
  constructor
  · intro hsame
    rw [← Bool.not_eq_true]
    intro hwhite
    obtain ⟨catalog, u, hcatalog, hstored⟩ := h.outcome hevents withdrawn
    obtain ⟨e, he, hmalformed⟩ := Decompiler.readTemplate_of_white hblank hwhite
    -- without a name the white space is read as a template, and is none
    have hown : ({ r with templateName := "" } : DecompileRequest).templateDocument
        catalog.store = .ok r.template := by
      simp [DecompileRequest.templateDocument, DecompileRequest.usesCatalogTemplate]
    have hnameless : (s.decompile withdrawn { r with templateName := "" }).1 = .error e := by
      rw [decompile_opened (r := { r with templateName := "" }) hevents hcatalog hown,
        Decompiler.decompile_eq_of_template_error he]
    rw [hsame "", (h.alike hwhite).decompile_eq, hstored] at hnameless
    have hclean := Decompiler.not_malformedTemplate
      (Decompiler.readTemplate_of_parse h.template) hnameless
    rw [hmalformed] at hclean
    cases hclean
  · intro hwhite name
    rw [(alike_renamed hwhite name).decompile_eq]

end Service

/-- **Two notions of an absent template.**  A template document is absent for the service if it is
white space, and for the decompiler if it is blank.  Where both or neither hold of it, the name that
a request gives is used exactly if its document is blank; where only one does, the other part of the
request is lost.  Documents of plain blanks are the only ones of which both hold. -/
theorem template_name_used_iff (s : Service) (r : DecompileRequest) (withdrawn : Bool) :
    (Document.isBlank r.template = false → Text.isBlank (Utf8.text r.template) = false →
      ∀ name, s.decompile withdrawn { r with templateName := name } = s.decompile withdrawn r) ∧
    ∀ document t, s.Stocks r document t → r.events ≠ [] →
      s.ChoosesTemplate r document withdrawn := by
  refine ⟨fun _ hwhite name => (Service.alike_renamed hwhite name).decompile_eq withdrawn, ?_⟩
  intro document t h hevents
  exact ⟨fun hwhite => (h.alike hwhite).decompile_eq withdrawn,
    fun hblank hwhite => Service.decompile_hidden hblank hwhite withdrawn,
    fun hblank => h.blank_iff hevents hblank withdrawn,
    fun hblank => h.content_iff hevents hblank withdrawn⟩

/-- A document of plain blanks gives way to the template of the catalog. -/
theorem template_name_used_iff_plain :
    let stored : Bytes := "<T szTmplName='D1'><I idItem='1' szDict='AN8'/></T>".toUTF8.toList
    let event : Bytes := "<E szEventSpecKey='K'/>".toUTF8.toList
    let s : Service :=
      { files :=
          { entries :=
              [("/data", .directory), ("/data/dev", .directory),
                ("/data/dev/badger", .database ⟨[("tmpl/D1", .document stored)]⟩)] }
        registry := some { base := "/data" } }
    let r : DecompileRequest :=
      { environment := "dev", events := [event], template := [0x20, 0x0A], templateName := " d1" }
    let t : Template := .ofItems "D1" "" [⟨"1", "AN8", "", 0, ""⟩]
    (s.Stocks r stored t ∧ r.events ≠ [] ∧ ∀ b ∈ r.template, Document.IsPlainBlank b) ∧
      (s.decompile false r).1 = (s.decompile false { r with template := stored }).1 ∧
      (s.decompile false r).1.toOption.map (·.templateName) = some "D1" := by
  intro stored event s r t
  have hfound : (s.catalog "dev").1.toOption.bind
      (fun c => (c.store.templateDocument " d1").toOption) = some stored := by
    decide +kernel
  obtain ⟨catalog, hcatalog, hdocument⟩ := Option.bind_eq_some_iff.1 hfound
  have hstocks : s.Stocks r stored t :=
    ⟨⟨catalog, _, Prod.ext (Except.eq_ok_of_toOption hcatalog) rfl,
        Except.eq_ok_of_toOption hdocument⟩, by decide,
      Except.eq_ok_of_toOption (by decide +kernel)⟩
  have hevents : r.events ≠ [] := nofun
  have hplain : ∀ b ∈ r.template, Document.IsPlainBlank b := by decide +kernel
  have hchooses := (template_name_used_iff s r false).2 stored t hstocks hevents
  exact ⟨⟨hstocks, hevents, hplain⟩, (hchooses.blank_iff rfl).2 (.inl hplain), by decide +kernel⟩

/-- A byte order mark alone carries nothing, and still the template that is named is not used.  A
no-break space is content, and still it makes way for the template that is named. -/
theorem template_name_lost :
    let stored : Bytes := "<T szTmplName='D1'><I idItem='1' szDict='AN8'/></T>".toUTF8.toList
    let event : Bytes := "<E szEventSpecKey='K'/>".toUTF8.toList
    let s : Service :=
      { files :=
          { entries :=
              [("/data", .directory), ("/data/dev", .directory),
                ("/data/dev/badger", .database ⟨[("tmpl/D1", .document stored)]⟩)] }
        registry := some { base := "/data" } }
    let outcome (template : Bytes) (name : String) : Option String :=
      (s.decompile false
        { environment := "dev", events := [event], template := template,
          templateName := name }).1.toOption.map (·.templateName)
    let mark := Utf8.encode "\ufeff"
    let space := Utf8.encode "\u00a0"
    (Document.isBlank mark = true ∧ outcome mark "D1" = some "" ∧
        outcome stored "D1" = some "D1") ∧
      (Document.isBlank space = false ∧ outcome space "D1" = some "D1" ∧
        outcome space "" = none) := by
  decide +kernel

end EventRules
