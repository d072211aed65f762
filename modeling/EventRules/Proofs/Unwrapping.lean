/-
**The status of a failure does not depend on its wrapping.**

Failures are described in words of whoever passes them on, and what is passed on can be described
again.  The status looks behind all that.  Unwrapping a failure step by step meets every cause once,
and what is met decides: the first failure that has a status of its own, and otherwise the kinds.
A malformed document counts wherever it is met.  The other kinds have no cause, so that only the one
in which the failure ends can be met.

A failure that has only been put in words has no cause any more, and what was behind it is not seen.

Main definitions:

* `Failure.Reaches`, `Failure.EndsIn` — what is met while a failure is unwrapped, and what last;
* `Failure.Carries`, `Failure.Bare` — **the outermost status** in a failure, and failures without;
* `Failure.MeetsMalformed`, `Failure.ToldAs` — malformed documents, and the status by kind;
* `Failure.Mapped` — **the status that is told of a failure**;
* `Failure.wrapped` — a failure described any number of times.

Main results:

* `Failure.causeInduction` — induction from the causes of a failure to the failure;
* `Failure.mem_chain_iff`, `Failure.EndsIn.unique` — the chain is what is met, and has one end;
* `Failure.carriedStatus?_eq_some_iff`, `Failure.is_iff_endsIn` — what is looked for in the chain;
* `Failure.mapped_iff`, `Failure.Mapped.outermost` — the status is the one that is told, and no
  status is met before it;
* `Failure.status_unwraps` — **all this together**: describing a failure does not change it.
-/

import EventRules.Proofs.Statuses

set_option relaxedAutoImplicit false
set_option autoImplicit false

namespace EventRules.Failure

variable {f g g' : Failure} {s : StatusFailure} {kind : Sentinel}

/-! ### Causes -/

/-- **What is met while a failure is unwrapped**: the failure itself, its cause, and so on. -/
inductive Reaches : Failure → Failure → Prop
  | refl (f : Failure) : Reaches f f
  | cause {f g h : Failure} (hc : f.cause? = some g) (hr : Reaches g h) : Reaches f h

/-- **How a failure ends**: what is met last. -/
structure EndsIn (f g : Failure) : Prop where
  /-- It is met. -/
  reaches : f.Reaches g
  /-- There is nothing behind it. -/
  causeless : g.cause? = none

theorem chain_of_cause? (h : f.cause? = some g) : f.chain = f :: g.chain := by
  cases f with
  | within before cause after =>
      cases h
      rw [chain]
  | malformed document reason cause =>
      cases h
      rw [chain]
  | app code text cause =>
      cases h
      rw [chain]
  | _ => cases h

theorem chain_of_causeless (h : f.cause? = none) : f.chain = [f] := by
  cases f with
  | within before cause after => cases h
  | malformed document reason cause =>
      cases h
      rfl
  | app code text cause =>
      cases h
      rfl
  | _ => rfl

/-- **Induction from the cause of a failure to the failure.** -/
@[elab_as_elim]
theorem causeInduction {motive : Failure → Prop}
    (step : ∀ f, (∀ g, f.cause? = some g → motive g) → motive f) (f : Failure) : motive f :=
  step f fun g _ => causeInduction step g
termination_by f.chain.length
decreasing_by
  rename_i h
  simp [chain_of_cause? h]

/-- The chain of a failure is what is met. -/
theorem mem_chain_iff : g ∈ f.chain ↔ f.Reaches g := by
  induction f using causeInduction with
  | step f ih =>
      constructor
      · intro hg
        cases hc : f.cause? with
        | none =>
            rw [chain_of_causeless hc, List.mem_singleton] at hg
            exact hg ▸ .refl f
        | some c =>
            rw [chain_of_cause? hc, List.mem_cons] at hg
            rcases hg with rfl | hg
            · exact .refl g
            · exact .cause hc ((ih c hc).1 hg)
      · intro hr
        cases hr with
        | refl =>
            cases hc : g.cause? with
            | none => simp [chain_of_causeless hc]
            | some c => simp [chain_of_cause? hc]
        | cause hc hr =>
            rw [chain_of_cause? hc]
            exact List.mem_cons_of_mem _ ((ih _ hc).2 hr)

/-- **There is one end**, since a failure has one cause at most. -/
theorem EndsIn.unique (h : f.EndsIn g) (h' : f.EndsIn g') : g = g' := by
  obtain ⟨hr, hg⟩ := h
  obtain ⟨hr', hg'⟩ := h'
  induction hr with
  | refl f =>
      cases hr' with
      | refl => rfl
      | cause hc _ =>
          rw [hg] at hc
          cases hc
  | cause hc _ ih =>
      cases hr' with
      | refl =>
          rw [hg'] at hc
          cases hc
      | cause hc' hr' =>
          rw [hc] at hc'
          cases hc'
          exact ih hg hr'

/-! ### Statuses in a failure -/

/-- **The outermost status** in a failure: its own, or else that of its cause. -/
inductive Carries : Failure → StatusFailure → Prop
  | own (s : StatusFailure) : Carries s.toFailure s
  | within {f : Failure} {s : StatusFailure} (before after : String) (h : Carries f s) :
      Carries (.within before f after) s
  | malformed {f : Failure} {s : StatusFailure} (document reason : String) (h : Carries f s) :
      Carries (.malformed document reason (some f)) s

/-- It is met, and any other status that is met is met behind it. -/
theorem Carries.outermost (h : f.Carries s) :
    f.Reaches s.toFailure ∧
      ∀ s' : StatusFailure, f.Reaches s'.toFailure → s.toFailure.Reaches s'.toFailure := by
  induction h with
  | own s => exact ⟨.refl _, fun _ hr => hr⟩
  | within before after _ ih =>
      refine ⟨.cause rfl ih.1, fun s' hr => ?_⟩
      cases hr with
      | cause hc hr =>
          cases hc
          exact ih.2 s' hr
  | malformed document reason _ ih =>
      refine ⟨.cause rfl ih.1, fun s' hr => ?_⟩
      cases hr with
      | cause hc hr =>
          cases hc
          exact ih.2 s' hr

/-- **No status** is met while the failure is unwrapped. -/
def Bare (f : Failure) : Prop :=
  ∀ s : StatusFailure, ¬ f.Reaches s.toFailure

theorem carriedStatus?_toFailure (s : StatusFailure) : s.toFailure.carriedStatus? = some s := by
  obtain ⟨code, text, _ | cause⟩ := s
  · simp [StatusFailure.toFailure, carriedStatus?, chain]
  · simp [StatusFailure.toFailure, carriedStatus?, chain]

theorem carriedStatus?_eq_some_iff : f.carriedStatus? = some s ↔ f.Carries s := by
  constructor
  · intro h
    induction f using causeInduction with
    | step f ih =>
        cases f with
        | within before cause after =>
            rw [carriedStatus?_within] at h
            exact .within before after (ih cause rfl h)
        | malformed document reason cause =>
            cases cause with
            | none => simp [carriedStatus?, chain] at h
            | some cause =>
                rw [carriedStatus?_malformed] at h
                exact .malformed document reason (ih cause rfl h)
        | app code text cause =>
            have hown := carriedStatus?_toFailure ⟨code, text, cause⟩
            rw [StatusFailure.toFailure, h] at hown
            cases hown
            exact .own ⟨code, text, cause⟩
        | _ => simp [carriedStatus?, chain] at h
  · intro h
    induction h with
    | own s => exact carriedStatus?_toFailure s
    | within before after _ ih => rw [carriedStatus?_within, ih]
    | malformed document reason _ ih => rw [carriedStatus?_malformed, ih]

/-- A failure without a status in it carries none. -/
theorem carriedStatus?_eq_none_iff : f.carriedStatus? = none ↔ f.Bare := by
  have hnone : f.carriedStatus? = none ↔ ∀ s : StatusFailure, s.toFailure ∉ f.chain := by
    rw [carriedStatus?, List.findSome?_eq_none_iff]
    constructor
    · intro h s hs
      have hs := h _ hs
      cases hs
    · intro h g hg
      cases g with
      | app code text cause => exact absurd hg (h ⟨code, text, cause⟩)
      | _ => rfl
  simp only [hnone, mem_chain_iff, Bare]

/-! ### Kinds in a failure -/

/-- **A malformed document** is met, or the kind of failure that stands for one. -/
inductive MeetsMalformed (f : Failure) : Prop
  | document {document reason : String} {cause : Option Failure}
      (h : f.Reaches (.malformed document reason cause))
  | kind (h : f.Reaches (.sentinel .malformedDocument))

theorem is_iff : f.is kind = true ↔ ∃ g, f.Reaches g ∧ g.isDirectly kind = true := by
  simp only [is, List.any_eq_true, mem_chain_iff]

theorem is_malformedDocument_iff : f.is .malformedDocument = true ↔ f.MeetsMalformed := by
  rw [is_iff]
  constructor
  · rintro ⟨g, hr, hg⟩
    cases g with
    | sentinel k =>
        obtain rfl : k = .malformedDocument := by simpa [isDirectly] using hg
        exact .kind hr
    | malformed document reason cause => exact .document hr
    | _ => cases hg
  · intro h
    cases h with
    | document h => exact ⟨_, h, rfl⟩
    | kind h => exact ⟨_, h, rfl⟩

/-- **Any other kind** can only be what a failure ends in. -/
theorem is_iff_endsIn (hk : kind ≠ .malformedDocument) :
    f.is kind = true ↔ f.EndsIn (.sentinel kind) := by
  rw [is_iff]
  constructor
  · rintro ⟨g, hr, hg⟩
    cases g with
    | sentinel k =>
        obtain rfl : k = kind := by simpa [isDirectly] using hg
        exact ⟨hr, rfl⟩
    | malformed document reason cause => exact absurd (by simpa [isDirectly] using hg) hk
    | _ => cases hg
  · intro h
    exact ⟨_, h.reaches, by simp [isDirectly]⟩

/-- **The code and the headline by kind.**  A malformed document outweighs the other kinds. -/
inductive ToldAs (f : Failure) : Int × String → Prop
  | malformed (h : f.MeetsMalformed) : ToldAs f (422, "Malformed event rule document")
  | invalidInput (hm : ¬ f.MeetsMalformed) (h : f.EndsIn (.sentinel .invalidInput)) :
      ToldAs f (400, "Invalid request")
  | notFound (hm : ¬ f.MeetsMalformed) (h : f.EndsIn (.sentinel .notFound)) :
      ToldAs f (404, "Resource not found")
  | unauthorized (hm : ¬ f.MeetsMalformed) (h : f.EndsIn (.sentinel .unauthorized)) :
      ToldAs f (401, "Unauthorized")
  | other (hm : ¬ f.MeetsMalformed) (hi : ¬ f.EndsIn (.sentinel .invalidInput))
      (hn : ¬ f.EndsIn (.sentinel .notFound)) (hu : ¬ f.EndsIn (.sentinel .unauthorized)) :
      ToldAs f (500, "Internal server error")

/-- A failure that ends in a kind is of no other kind. -/
theorem is_of_endsIn {k : Sentinel} (h : f.EndsIn (.sentinel kind)) (hk : k ≠ .malformedDocument) :
    f.is k = true ↔ kind = k := by
  rw [is_iff_endsIn hk]
  constructor
  · intro h'
    cases h.unique h'
    rfl
  · rintro rfl
    exact h

/-- **What is told by kind.** -/
theorem toldAs_iff {told : Int × String} : f.ToldAs told ↔ f.statusByKind = told := by
  have hmalformed := is_malformedDocument_iff (f := f)
  have hinvalid : f.is .invalidInput = true ↔ _ := is_iff_endsIn nofun
  have hmissing : f.is .notFound = true ↔ _ := is_iff_endsIn nofun
  have hunauthorized : f.is .unauthorized = true ↔ _ := is_iff_endsIn nofun
  constructor
  · intro h
    cases h with
    | malformed h => simp [statusByKind, hmalformed, h]
    | invalidInput hm h => simp [statusByKind, hmalformed, hm, is_of_endsIn h]
    | notFound hm h => simp [statusByKind, hmalformed, hm, is_of_endsIn h]
    | unauthorized hm h => simp [statusByKind, hmalformed, hm, is_of_endsIn h]
    | other hm hi hn hu =>
        simp [statusByKind, hmalformed, hm, hinvalid, hi, hmissing, hn, hunauthorized, hu]
  · rintro rfl
    unfold statusByKind
    split_ifs with hm hi hn hu
    · exact .malformed (hmalformed.1 hm)
    · exact .invalidInput (mt hmalformed.2 hm) (hinvalid.1 hi)
    · exact .notFound (mt hmalformed.2 hm) (hmissing.1 hn)
    · exact .unauthorized (mt hmalformed.2 hm) (hunauthorized.1 hu)
    · exact .other (mt hmalformed.2 hm) (mt hinvalid.2 hi) (mt hmissing.2 hn)
        (mt hunauthorized.2 hu)

/-! ### What is told of a failure -/

/-- **The status that is told of a failure**: the outermost one in it, unchanged, and if there is
none, the one by kind with the failure itself behind it. -/
inductive Mapped (f : Failure) : StatusFailure → Prop
  | carried {s : StatusFailure} (h : f.Carries s) : Mapped f s
  | byKind {code : Int} {headline : String} (hb : f.Bare) (h : f.ToldAs (code, headline)) :
      Mapped f ⟨code, headline, some f⟩

/-- No status is met before the one that is told. -/
theorem Mapped.outermost {s' : StatusFailure} (h : f.Mapped s) (hr : f.Reaches s'.toFailure) :
    s.toFailure.Reaches s'.toFailure := by
  cases h with
  | carried h => exact h.outermost.2 s' hr
  | byKind hb _ => exact absurd hr (hb s')

theorem mapped_iff : f.Mapped s ↔ f.status = s := by
  unfold status
  constructor
  · intro h
    cases h with
    | carried h => rw [carriedStatus?_eq_some_iff.2 h]
    | byKind hb h => rw [carriedStatus?_eq_none_iff.2 hb, toldAs_iff.1 h]
  · rintro rfl
    cases hs : f.carriedStatus? with
    | some s => exact .carried (carriedStatus?_eq_some_iff.1 hs)
    | none => exact .byKind (carriedStatus?_eq_none_iff.1 hs) (toldAs_iff.2 rfl)

/-- A failure that has only been put in words is not known any more. -/
example (f : Failure) : f.forget.status.code = 500 := rfl

/-- A malformed document counts more than what it ends in. -/
example :
    (because "import" (.malformed "D1" "" (some (.sentinel .notFound)))).status.code = 422 := by
  decide +kernel

/-- A status is told of itself. -/
theorem status_toFailure (s : StatusFailure) : s.toFailure.status = s :=
  mapped_iff.1 (.carried (.own s))

/-! ### Descriptions -/

/-- **A failure described any number of times**, each time with a text before and a text after. -/
def wrapped (texts : List (String × String)) (f : Failure) : Failure :=
  texts.foldr (fun text cause => .within text.1 cause text.2) f

theorem carriedStatus?_wrapped (texts : List (String × String)) (f : Failure) :
    (f.wrapped texts).carriedStatus? = f.carriedStatus? := by
  induction texts with
  | nil => rfl
  | cons text texts ih =>
      rw [← ih]
      exact carriedStatus?_within text.1 text.2 (f.wrapped texts)

theorem is_wrapped (texts : List (String × String)) (f : Failure) (kind : Sentinel) :
    (f.wrapped texts).is kind = f.is kind := by
  induction texts with
  | nil => rfl
  | cons text texts ih =>
      rw [← ih]
      exact is_within kind text.1 text.2 (f.wrapped texts)

/-- **A description changes neither the code nor the headline.** -/
theorem status_wrapped (texts : List (String × String)) (f : Failure) :
    (f.wrapped texts).status.code = f.status.code ∧
      (f.wrapped texts).status.headline = f.status.headline := by
  have hkind : (f.wrapped texts).statusByKind = f.statusByKind := by
    simp only [statusByKind, is_wrapped]
  rw [status, status, carriedStatus?_wrapped, hkind]
  cases f.carriedStatus? with
  | some s => exact ⟨rfl, rfl⟩
  | none => exact ⟨rfl, rfl⟩

/-- **The status of a failure looks through its wrapping.**  It is the outermost status in the
failure, or else the one by kind, and no status is met before it.  However often the failure is
described, the code and the headline stay; and the status, taken as a failure, is told unchanged. -/
theorem status_unwraps (f : Failure) :
    (∀ s, f.Mapped s ↔ f.status = s) ∧
      (∀ s : StatusFailure, f.Reaches s.toFailure → f.status.toFailure.Reaches s.toFailure) ∧
      (∀ texts, (f.wrapped texts).status.code = f.status.code ∧
        (f.wrapped texts).status.headline = f.status.headline) ∧
      f.status.toFailure.status = f.status := by
  have htold : f.Mapped f.status := mapped_iff.2 rfl
  exact ⟨fun _ => mapped_iff, fun _ => htold.outermost, fun texts => status_wrapped texts f,
    status_toFailure f.status⟩

/-- A status behind another one: the outer one is told, and stays when it is described. -/
theorem status_unwraps_nested :
    let inner : StatusFailure := ⟨404, "Resource not found", some (.sentinel .notFound)⟩
    let outer : StatusFailure := ⟨409, "Conflict", some inner.toFailure⟩
    let f := because "import" outer.toFailure
    f.Reaches inner.toFailure ∧ f.status.toFailure.Reaches inner.toFailure ∧ f.status = outer ∧
      (f.wrapped [("batch: ", ""), ("", ": again")]).status.code = 409 := by
  intro inner outer f
  have hinner : f.Reaches inner.toFailure := .cause rfl (.cause rfl (.refl _))
  have hcarries : f.Mapped outer := .carried (.within _ _ (.own outer))
  obtain ⟨hmapped, houtermost, hwrapped, -⟩ := status_unwraps f
  have htold : f.status = outer := (hmapped outer).1 hcarries
  refine ⟨hinner, houtermost inner hinner, htold, ?_⟩
  rw [(hwrapped _).1, htold]

end EventRules.Failure
