/-
**Failures.**

A failure says what went wrong in a sentence of its own and may have a cause, which has a cause in
turn.  The *chain* of a failure is the failure with all its causes.  Callers do not look at the
wording: they ask whether a given kind of failure occurs in the chain, and the outside world is
told a status code that depends on nothing else.

A failure of kind `app` carries its status with it, and the outermost one in the chain decides.
Otherwise a malformed document outweighs the other kinds, wherever in the chain it stands.

Main definitions:

* `Sentinel`, `Failure` — the kinds of failures, and failures with their causes;
* `Failure.message` — the wording, causes included;
* `Failure.chain`, `Failure.is` — the causes, and whether a kind occurs among them;
* `StatusFailure`, `Failure.status` — what the outside world is told.
-/

import EventRules.Text.Quoted
import EventRules.Markup.Fault

set_option relaxedAutoImplicit false
set_option autoImplicit false

namespace EventRules

/-! ### Kinds -/

/-- **A kind of failure** that callers can ask for. -/
inductive Sentinel where
  | invalidInput
  | notFound
  | internal
  | unauthorized
  | malformedDocument
  | missingEventKey
  | malformedTemplate
  deriving DecidableEq, Repr

def Sentinel.message : Sentinel → String
  | .invalidInput => "invalid input"
  | .notFound => "not found"
  | .internal => "internal error"
  | .unauthorized => "unauthorized"
  | .malformedDocument => "malformed document"
  | .missingEventKey => "missing event spec key"
  | .malformedTemplate => "malformed data structure template"

def Sentinel.all : List Sentinel :=
  [.invalidInput, .notFound, .internal, .unauthorized, .malformedDocument, .missingEventKey,
    .malformedTemplate]

inductive FileFault where
  | missing
  | notDirectory
  | isDirectory
  /-- A name in the path, or the path as a whole, is too long. -/
  | tooLong
  | invalid
  deriving DecidableEq, Repr

def FileFault.message : FileFault → String
  | .missing => "no such file or directory"
  | .notDirectory => "not a directory"
  | .isDirectory => "is a directory"
  | .tooLong => "file name too long"
  | .invalid => "invalid argument"

/-! ### Failures -/

/-- **A failure with its causes.** -/
inductive Failure where
  | sentinel (kind : Sentinel)
  /-- A failure that is only described. -/
  | plain (text : String)
  /-- A failure described around the wording of its cause. -/
  | within (before : String) (cause : Failure) (after : String)
  /-- A document that cannot be decompiled; the name and the reason may be empty. -/
  | malformed (document reason : String) (cause : Option Failure)
  /-- A failure with the status that the outside world is told. -/
  | app (code : Int) (message : String) (cause : Option Failure)
  | markup (fault : Markup.Fault)
  | file (operation path : String) (fault : FileFault)
  | cancelled

namespace Failure

/-- **The wording of a failure**, with that of its causes. -/
def message : Failure → String
  | .sentinel kind => kind.message
  | .plain text => text
  | .within before cause after => before ++ cause.message ++ after
  | .malformed document reason none => malformedMessage document reason
  | .malformed document reason (some cause) =>
      malformedMessage document reason ++ ": " ++ cause.message
  | .app _ text none => text
  | .app _ text (some cause) => text ++ ": " ++ cause.message
  | .markup fault => fault.message
  | .file operation path fault => operation ++ " " ++ path ++ ": " ++ fault.message
  | .cancelled => "context canceled"
where
  /-- The document by its name, if it has one, and the reason, if there is one. -/
  malformedMessage (document reason : String) : String :=
    (if document = "" then "malformed document"
      else "malformed document " ++ Text.quote document) ++
    (if reason = "" then "" else ": " ++ reason)

def because (text : String) (cause : Failure) : Failure :=
  .within (text ++ ": ") cause ""

def explain (kind : Sentinel) (text : String) : Failure :=
  .within "" (.sentinel kind) (": " ++ text)

def forget (f : Failure) : Failure :=
  .plain f.message

def cause? : Failure → Option Failure
  | .within _ cause _ => some cause
  | .malformed _ _ cause => cause
  | .app _ _ cause => cause
  | _ => none

/-- **A failure with all its causes**, outermost first. -/
def chain : Failure → List Failure
  | .within before cause after => .within before cause after :: cause.chain
  | .malformed document reason (some cause) =>
      .malformed document reason (some cause) :: cause.chain
  | .app code text (some cause) => .app code text (some cause) :: cause.chain
  | f => [f]

/-- Is the failure by itself, without its causes, of this kind? -/
def isDirectly (kind : Sentinel) : Failure → Bool
  | .sentinel k => k == kind
  | .malformed _ _ _ => kind == .malformedDocument
  | _ => false

/-- **Does this kind occur in the chain of the failure?** -/
def is (kind : Sentinel) (f : Failure) : Bool :=
  f.chain.any (isDirectly kind)

/-- The outermost malformed document in the chain: its name and the reason. -/
def malformed? (f : Failure) : Option (String × String) :=
  f.chain.findSome? fun g =>
    match g with
    | .malformed document reason _ => some (document, reason)
    | _ => none

end Failure

/-! ### Status -/

/-- **What the outside world is told**: a status code, a headline and the failure behind it. -/
structure StatusFailure where
  code : Int
  headline : String
  cause : Option Failure

def StatusFailure.toFailure (s : StatusFailure) : Failure :=
  .app s.code s.headline s.cause

namespace Failure

def carriedStatus? (f : Failure) : Option StatusFailure :=
  f.chain.findSome? fun g =>
    match g with
    | .app code text cause => some ⟨code, text, cause⟩
    | _ => none

/-- The code and the headline for a failure that carries no status. -/
def statusByKind (f : Failure) : Int × String :=
  if f.is .malformedDocument then (422, "Malformed event rule document")
  else if f.is .invalidInput then (400, "Invalid request")
  else if f.is .notFound then (404, "Resource not found")
  else if f.is .unauthorized then (401, "Unauthorized")
  else (500, "Internal server error")

/-- **The status of a failure.** -/
def status (f : Failure) : StatusFailure :=
  match f.carriedStatus? with
  | some s => s
  | none => ⟨f.statusByKind.1, f.statusByKind.2, some f⟩

end Failure

end EventRules
