/-
**What a console session remembers of loads.**

A load names an event document and maybe a template document.  It fails if it names none or too
many, if one of the documents cannot be read, or if they cannot be decompiled.  The event's path and
the result are remembered once a load has succeeded, the template's path already when both documents
have been read; a load without a template leaves the path that was remembered.

So the path of the event and the result always belong together: they are those of the last load that
succeeded.  The path of the template is that of the last load that named one and could be read, be
it an earlier one, or a later one that failed.  A session *describes* its last successful load
exactly if this happens to be the same path.

Main definitions:

* `Console.Load`, `Console.Ending` — what a load names, and how it ends;
* `Console.endings` — how the loads of a run end;
* `Console.Session.Describes` — **a session that describes a load**;
* `Console.KeepsLoads` — what a session has kept of the loads of a run.

Main results:

* `Console.load_session` — what a load changes;
* `Console.sameLoad_runLines` — so a run changes what its loads change;
* `Console.keepsLoads_of_run` — **after every run the session has kept the last successful load, but
  for the path of its template**;
* `Console.template_of_failed_load` — a load that fails but changes the session.
-/

import EventRules.Console

set_option relaxedAutoImplicit false
set_option autoImplicit false

namespace EventRules.Console

/-! ### Loads -/

/-- **What a load names.** -/
structure Load where
  /-- The path of the event document. -/
  path : String
  /-- The path of the template document, if it names one. -/
  template : Option String := none
  deriving DecidableEq, Repr

/-- The load that arguments ask for: they name one document or two. -/
def Load.ofArguments? (arguments : String) : Option Load :=
  match Text.fields arguments with
  | [path] => some ⟨path, none⟩
  | [path, template] => some ⟨path, some template⟩
  | _ => none

/-- The documents of a load, if all that it names can be read; without a template that document is
empty. -/
def Load.read? (l : Load) (files : FileTree) : Option (Bytes × Bytes) :=
  (files.read l.path).toOption.bind fun event =>
    match l.template with
    | none => some (event, [])
    | some path => (files.read path).toOption.map (event, ·)

/-- **How a load ends.** -/
inductive Ending where
  /-- The arguments ask for none. -/
  | misused
  /-- A document cannot be read. -/
  | unread (l : Load)
  /-- The documents cannot be decompiled. -/
  | refused (l : Load) (f : Failure)
  /-- It succeeds with this result. -/
  | loaded (l : Load) (r : Decompiled)

namespace Ending

/-- The load that has succeeded, with its result. -/
def loaded? : Ending → Option (Load × Decompiled)
  | .loaded l r => some (l, r)
  | _ => none

/-- The path of the template, if the load has named one and everything could be read. -/
def template? : Ending → Option String
  | .refused l _ => l.template
  | .loaded l _ => l.template
  | _ => none

/-- **A load that fails.** -/
def Failed (e : Ending) : Prop :=
  e.loaded? = none

instance : DecidablePred Failed :=
  fun e => inferInstanceAs (Decidable (e.loaded? = none))

end Ending

/-- How a load ends in a session with this environment. -/
def ending (arguments environment : String) (s : Service) : Ending :=
  match Load.ofArguments? arguments with
  | none => .misused
  | some l =>
      match l.read? s.files with
      | none => .unread l
      | some (event, template) =>
          match (s.decompile false (loadRequest environment event template)).1 with
          | .error f => .refused l f
          | .ok r => .loaded l r

/-! ### What a load changes -/

namespace Session

/-- The session after a load that ends like this. -/
def after (session : Session) (e : Ending) : Session where
  environment := session.environment
  eventPath := e.loaded?.elim session.eventPath (·.1.path)
  templatePath := e.template?.getD session.templatePath
  result := e.loaded?.elim session.result fun loaded => some loaded.2

/-- Two sessions that remember the same of loads; their environments may differ. -/
structure SameLoad (session other : Session) : Prop where
  /-- The path of the event. -/
  eventPath : session.eventPath = other.eventPath
  /-- The path of the template. -/
  templatePath : session.templatePath = other.templatePath
  /-- The result. -/
  result : session.result = other.result

theorem SameLoad.refl (session : Session) : session.SameLoad session := ⟨rfl, rfl, rfl⟩

theorem SameLoad.trans {session other third : Session} (h : session.SameLoad other)
    (h' : other.SameLoad third) : session.SameLoad third :=
  ⟨h.eventPath.trans h'.eventPath, h.templatePath.trans h'.templatePath, h.result.trans h'.result⟩

/-- Sessions that remember the same do so after the same loads. -/
theorem SameLoad.foldl_after {session other : Session} (h : session.SameLoad other)
    (es : List Ending) : (es.foldl after session).SameLoad (es.foldl after other) := by
  induction es generalizing session other with
  | nil => exact h
  | cons e es ih =>
      refine ih ⟨?_, ?_, ?_⟩
      · simp only [after, h.eventPath]
      · simp only [after, h.templatePath]
      · simp only [after, h.result]

end Session

/-- What decompiling changes in a session, given what has been read. -/
theorem decompileLoaded_session (session : Session) (path : String) (event template : Bytes)
    (s : Service) :
    (decompileLoaded session path event template s).2.1 =
      match (s.decompile false (loadRequest session.environment event template)).1 with
      | .error _ => session
      | .ok r => { session with eventPath := path, result := some r } := by
  unfold decompileLoaded
  rcases s.decompile false (loadRequest session.environment event template) with ⟨f | r, s'⟩ <;> rfl

/-- What decompiling changes is said by how it ends. -/
theorem after_decompiled (session : Session) (l : Load) (result : Except Failure Decompiled) :
    (match result with
      | .error _ => { session with templatePath := l.template.getD session.templatePath }
      | .ok r =>
          { session with
            templatePath := l.template.getD session.templatePath
            eventPath := l.path
            result := some r }) =
      session.after (match result with
        | .error f => .refused l f
        | .ok r => .loaded l r) := by
  cases result <;> rfl

/-- **What a load changes** is said by how it ends. -/
theorem load_session (arguments : String) (session : Session) (s : Service) :
    (load arguments session s).2.1 = session.after (ending arguments session.environment s) := by
  unfold load ending Load.ofArguments?
  rcases Text.fields arguments with _ | ⟨path, _ | ⟨templatePath, _ | ⟨third, rest⟩⟩⟩
  · rfl
  · cases hevent : s.files.read path with
    | error f =>
        simp only [Load.read?, hevent]
        rfl
    | ok event =>
        simp only [Load.read?, hevent, Except.toOption, Option.bind_some]
        rw [decompileLoaded_session]
        exact after_decompiled session ⟨path, none⟩ _
  · cases hevent : s.files.read path with
    | error f =>
        simp only [Load.read?, hevent]
        rfl
    | ok event =>
        cases htemplate : s.files.read templatePath with
        | error f =>
            simp only [Load.read?, hevent, htemplate, Except.toOption, Option.bind_some]
            rfl
        | ok template =>
            simp only [Load.read?, hevent, htemplate, Except.toOption, Option.bind_some,
              Option.map_some]
            rw [decompileLoaded_session]
            exact after_decompiled session ⟨path, some templatePath⟩ _
  · rfl

/-! ### Runs -/

/-- How a command ends that is a load. -/
def Command.ending? (c : Command) (session : Session) (s : Service) : Option Ending :=
  match c with
  | .load arguments => some (ending arguments session.environment s)
  | _ => none

/-- How the load that a line asks for ends, if it asks for one. -/
def lineEnding? (line : Bytes) (session : Session) (s : Service) : Option Ending :=
  (Command.parse (Text.trim (Utf8.text line))).ending? session s

/-- **How the loads of a run end**, in their order, up to a line that leaves. -/
def endings : List Bytes → Session → Service → List Ending
  | [], _, _ => []
  | line :: rest, session, s =>
      match step line session s with
      | none => []
      | some (_, session', s') => (lineEnding? line session s).toList ++ endings rest session' s'

theorem runLines_cons (line : Bytes) (rest : List Bytes) (session : Session) (s : Service) :
    (runLines (line :: rest) session s).2 =
      match step line session s with
      | none => (session, s)
      | some (_, session', s') => (runLines rest session' s').2 := by
  rw [runLines]
  rcases step line session s with _ | ⟨said, session', s'⟩ <;> rfl

/-- A command changes what it changes as a load, and else at most the environment. -/
theorem sameLoad_perform (c : Command) (session : Session) (s : Service) :
    (perform c session s).2.1.SameLoad
      ((c.ending? session s).toList.foldl Session.after session) := by
  cases c with
  | load arguments =>
      have hperform : perform (.load arguments) session s = load arguments session s := rfl
      rw [hperform, load_session]
      exact .refl _
  | environment name =>
      have hperform : (perform (.environment name) session s).2.1 =
          if name = "" then session else { session with environment := name } := rfl
      rw [hperform]
      split <;> exact ⟨rfl, rfl, rfl⟩
  | _ => exact .refl session

/-- So does a line that does not leave. -/
theorem sameLoad_step {line : Bytes} {session session' : Session} {s s' : Service} {said : String}
    (h : step line session s = some (said, session', s')) :
    session'.SameLoad ((lineEnding? line session s).toList.foldl Session.after session) := by
  unfold step at h
  dsimp only at h
  split at h
  · cases h
  · split at h
    · rename_i hblank
      obtain ⟨-, h⟩ := Prod.mk.inj (Option.some.inj h)
      obtain ⟨rfl, -⟩ := Prod.mk.inj h
      unfold lineEnding?
      rw [hblank]
      exact .refl session
    · obtain rfl : (perform (.parse (Text.trim (Utf8.text line))) session s).2.1 = session' := by
        rw [Option.some.inj h]
      exact sameLoad_perform _ session s

/-- **A run changes what its loads change**, one after the other. -/
theorem sameLoad_runLines (lines : List Bytes) (session : Session) (s : Service) :
    (runLines lines session s).2.1.SameLoad
      ((endings lines session s).foldl Session.after session) := by
  induction lines generalizing session s with
  | nil => exact .refl session
  | cons line rest ih =>
      rw [runLines_cons, endings]
      cases hstep : step line session s with
      | none => exact .refl session
      | some next =>
          obtain ⟨said, session', s'⟩ := next
          dsimp only
          rw [List.foldl_append]
          exact (ih session' s').trans ((sameLoad_step hstep).foldl_after _)

/-! ### What a session has kept -/

/-- The load of a run that succeeded last, with its result. -/
def lastLoaded (es : List Ending) : Option (Load × Decompiled) :=
  (es.filterMap Ending.loaded?).getLast?

/-- The template that was named last by a load of a run that could be read. -/
def lastTemplate (es : List Ending) : Option String :=
  (es.filterMap Ending.template?).getLast?

/-- **A session that describes a load** with its result, or that there has been none. -/
structure Session.Describes (session : Session) (last : Option (Load × Decompiled)) : Prop where
  /-- The event is where the load found it. -/
  eventPath : session.eventPath = last.elim "" (·.1.path)
  /-- So is the template; the path is empty if the load named none. -/
  templatePath : session.templatePath = (last.bind (·.1.template)).getD ""
  /-- The result is that of the load. -/
  result : session.result = last.map (·.2)

/-- What is written at some of the loads of a run is what was written last. -/
theorem foldl_after_eq {α β : Type} (field : Session → α) (written : Ending → Option β)
    (value : β → α)
    (h : ∀ session e, field (Session.after session e) = (written e).elim (field session) value)
    (es : List Ending) (session : Session) :
    field (es.foldl Session.after session) =
      (es.filterMap written).getLast?.elim (field session) value := by
  induction es generalizing session with
  | nil => rfl
  | cons e es ih =>
      rw [List.foldl_cons, ih, h]
      cases hw : written e with
      | none =>
          rw [List.filterMap_cons_none hw]
          rfl
      | some b =>
          rw [List.filterMap_cons_some hw, List.getLast?_cons]
          cases (es.filterMap written).getLast? <;> rfl

/-- **What a session has kept** of the loads of a run, and what it will keep of the next one. -/
structure KeepsLoads (session : Session) (s : Service) (es : List Ending) : Prop where
  /-- The event's path is that of the last load that succeeded. -/
  eventPath : session.eventPath = (lastLoaded es).elim "" (·.1.path)
  /-- The result is that of the same load. -/
  result : session.result = (lastLoaded es).map (·.2)
  /-- The template's path is that of the last load that named one and could be read. -/
  templatePath : session.templatePath = (lastTemplate es).getD ""
  /-- So the session describes its last successful load exactly if that is the same path. -/
  describes_iff : session.Describes (lastLoaded es) ↔
    (lastTemplate es).getD "" = ((lastLoaded es).bind (·.1.template)).getD ""
  /-- A load that fails next keeps everything but the template's path. -/
  failed : ∀ arguments, (ending arguments session.environment s).Failed →
    ∃ path, (load arguments session s).2.1 = { session with templatePath := path }
  /-- It keeps that as well exactly if it could not be read, or names no other template. -/
  failed_iff : ∀ arguments, (ending arguments session.environment s).Failed →
    ((load arguments session s).2.1 = session ↔
      ∀ path ∈ (ending arguments session.environment s).template?, path = session.templatePath)

/-- A load that fails changes at most the path of the template. -/
theorem load_of_failed {arguments : String} {session : Session} {s : Service}
    (h : (ending arguments session.environment s).Failed) :
    (load arguments session s).2.1 =
      { session with
        templatePath :=
          (ending arguments session.environment s).template?.getD session.templatePath } := by
  have hnone : (ending arguments session.environment s).loaded? = none := h
  rw [load_session, Session.after, hnone]
  rfl

/-- It changes nothing exactly if it names no other template, or cannot be read. -/
theorem load_of_failed_iff {arguments : String} {session : Session} {s : Service}
    (h : (ending arguments session.environment s).Failed) :
    (load arguments session s).2.1 = session ↔
      ∀ path ∈ (ending arguments session.environment s).template?,
        path = session.templatePath := by
  rw [load_of_failed h]
  cases (ending arguments session.environment s).template? with
  | none => simp
  | some path =>
      constructor
      · rintro he _ ⟨rfl⟩
        exact congrArg Session.templatePath he
      · intro he
        rw [he path rfl]
        rfl

/-- **After every run the session has kept the last successful load**, but for the path of its
template. -/
theorem keepsLoads_of_run (environment : String) (lines : List Bytes) (s : Service) :
    KeepsLoads (runLines lines { environment := environment } s).2.1
      (runLines lines { environment := environment } s).2.2
      (endings lines { environment := environment } s) := by
  have hsame := sameLoad_runLines lines { environment := environment } s
  generalize runLines lines { environment := environment } s = run at hsame
  generalize endings lines { environment := environment } s = es at hsame
  have heventPath := hsame.eventPath.trans
    (foldl_after_eq Session.eventPath Ending.loaded? (·.1.path) (fun _ _ => rfl) _ _)
  have hresult := hsame.result.trans
    (foldl_after_eq Session.result Ending.loaded? (some ·.2) (fun _ _ => rfl) _ _)
  have htemplatePath := hsame.templatePath.trans
    (foldl_after_eq Session.templatePath Ending.template? id
      (fun _ e => by rw [Session.after]; cases e.template? <;> rfl) _ _)
  have hlastTemplate : run.2.1.templatePath = (lastTemplate es).getD "" := by
    rw [htemplatePath, lastTemplate]
    cases (es.filterMap Ending.template?).getLast? <;> rfl
  have hlastResult : run.2.1.result = (lastLoaded es).map (·.2) := by
    rw [hresult, lastLoaded]
    cases (es.filterMap Ending.loaded?).getLast? <;> rfl
  exact {
    eventPath := heventPath
    result := hlastResult
    templatePath := hlastTemplate
    describes_iff :=
      ⟨fun h => hlastTemplate ▸ h.templatePath,
        fun h => ⟨heventPath, hlastTemplate.trans h, hlastResult⟩⟩
    failed := fun _ h => ⟨_, load_of_failed h⟩
    failed_iff := fun _ h => load_of_failed_iff h }

/-- Documents to load: the template without a name can be read, but not decompiled with. -/
def shelf : Service where
  files :=
    (((({} : FileTree).set
      ["event.xml"] (.file (Utf8.encode "<EVENT szEventSpecKey='K'/>"))).set
      ["named.xml"] (.file (Utf8.encode "<T szTmplName='D1'/>"))).set
      ["nameless.xml"] (.file (Utf8.encode "<T/>")))

/-- **A load that fails but changes the session**: its template stays, while the last load that
succeeded named none. -/
theorem template_of_failed_load :
    (ending "event.xml nameless.xml" ""
        (runLines [Utf8.encode "load event.xml"] {} shelf).2.2).Failed ∧
      (runLines [Utf8.encode "load event.xml"] {} shelf).2.1.templatePath = "" ∧
      (runLines [Utf8.encode "load event.xml", Utf8.encode "load event.xml nameless.xml"]
        {} shelf).2.1.templatePath = "nameless.xml" ∧
      ¬ (runLines [Utf8.encode "load event.xml", Utf8.encode "load event.xml nameless.xml"]
        {} shelf).2.1.Describes
          (lastLoaded (endings
            [Utf8.encode "load event.xml", Utf8.encode "load event.xml nameless.xml"]
            {} shelf)) := by
  refine ⟨by decide +kernel, by decide +kernel, by decide +kernel, fun h => ?_⟩
  exact absurd h.templatePath (by decide +kernel)

/-- The template of an earlier load stays as well when the next one succeeds without any. -/
example :
    (runLines [Utf8.encode "load event.xml named.xml", Utf8.encode "load event.xml"]
      {} shelf).2.1.templatePath = "named.xml" := by
  decide +kernel

end EventRules.Console
