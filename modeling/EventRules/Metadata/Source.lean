/-
**Metadata about event rules.**

An event rule does not say everything about itself: the templates it refers to, the key columns of
tables, the titles of data items and the modules of business functions have to be looked up.  A
*source* answers these four questions.  Answering may change the state of the source, a cache for
instance, and every answer may fail.

Main definitions:

* `TableIndex` — an index of a table;
* `Source` — something that answers the four questions;
* `Question`, `Source.logged` — a source together with the questions it has been asked.
-/

import EventRules.Dictionary
import EventRules.Template.Basic

set_option relaxedAutoImplicit false
set_option autoImplicit false

namespace EventRules

structure TableIndex where
  id : Int
  /-- The columns of its key; they need not be known. -/
  keyColumns : Option (List String)
  deriving DecidableEq, Repr

/-- **A source of metadata** with a state `σ`. -/
structure Source (σ : Type) where
  /-- The template with the given name, which may be known to be absent. -/
  template : String → σ → Except Failure (Option Template) × σ
  /-- The indexes of a table; the list itself may be absent. -/
  indexes : String → σ → Except Failure (Option (List TableIndex)) × σ
  /-- The titles of those of the data items that have one. -/
  titles : List String → σ → Except Failure (Dictionary String) × σ
  /-- The module of the business function whose parameters have the given template. -/
  functionObject : String → σ → Except Failure String × σ

inductive Question where
  | template (name : String)
  | indexes (table : String)
  | titles (items : List String)
  | functionObject (template : String)
  deriving DecidableEq, Repr

/-- **A source that keeps a log** of the questions it is asked, in order. -/
def Source.logged {σ : Type} (source : Source σ) : Source (σ × List Question) where
  template name s :=
    let (answer, s') := source.template name s.1
    (answer, s', s.2 ++ [.template name])
  indexes table s :=
    let (answer, s') := source.indexes table s.1
    (answer, s', s.2 ++ [.indexes table])
  titles items s :=
    let (answer, s') := source.titles items s.1
    (answer, s', s.2 ++ [.titles items])
  functionObject name s :=
    let (answer, s') := source.functionObject name s.1
    (answer, s', s.2 ++ [.functionObject name])

end EventRules
