/-
**Event variables.**

An event rule declares its variables where they are first needed.  A declaration gives an id its
display name and a data item; a second declaration of the same id replaces the first.

Main definitions:

* `EventVariable`, `Variables`;
* `Variables.declare`, `Variables.resolve?`.
-/

import EventRules.Dictionary

set_option relaxedAutoImplicit false
set_option autoImplicit false

namespace EventRules

structure EventVariable where
  id : String
  /-- How it is shown. -/
  displayName : String
  /-- The data item behind it, if any. -/
  dataItem : String
  deriving DecidableEq, Repr, Inhabited

/-- **The variables declared so far**, by their ids. -/
abbrev Variables := Dictionary EventVariable

namespace Variables

def declare (vars : Variables) (v : EventVariable) : Variables :=
  vars.insert v.id v

def resolve? (vars : Variables) (id : String) : Option EventVariable :=
  vars.get? id

@[simp] theorem resolve?_declare_self (vars : Variables) (v : EventVariable) :
    (vars.declare v).resolve? v.id = some v := by
  simp [declare, resolve?]

theorem resolve?_declare_of_ne (vars : Variables) (v : EventVariable) {id : String}
    (h : id ≠ v.id) : (vars.declare v).resolve? id = vars.resolve? id :=
  Dictionary.get?_insert_of_ne vars v h

end Variables

end EventRules
