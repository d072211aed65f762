/-
**Names in a catalog.**

Templates, tables, data items and business functions are known by name.  Names that differ only in
letter case or in the white space around them are the same name: their *key* is the trimmed name
in upper case.

Main definitions:

* `catalogKey` — the key of a name.
-/

import EventRules.Text.Case
import EventRules.Text.Space

set_option relaxedAutoImplicit false
set_option autoImplicit false

namespace EventRules

/-- **The key of a name.** -/
def catalogKey (name : String) : String :=
  Text.upper (Text.trim name)

end EventRules
