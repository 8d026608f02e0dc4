import Courier.Text.Utf8

/-!
# Environment variables

Variables hold bytes; one whose bytes are not text counts as unset.
-/

namespace Courier

/-- The variables that are set. -/
abbrev Environment := List (String × List UInt8)

namespace Environment

/-- The text of a variable. -/
def text? (env : Environment) (name : String) : Option String :=
  (env.lookup name).bind Text.Utf8.string?

/-- The text of a variable that is set to something. -/
def filled? (env : Environment) (name : String) : Option String :=
  (env.text? name).filter fun s => !s.isEmpty

end Environment

end Courier
