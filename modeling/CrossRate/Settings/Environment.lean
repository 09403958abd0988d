import CrossRate.Text.Case
import CrossRate.Text.Counting

/-!
# The environment

Settings may be changed by variables of the environment, all of which have one marker at the
start of their names.
-/

namespace CrossRate

/-- The variables of the environment with their values. -/
structure Environment where
  bindings : List (String × String)

namespace Environment

/-- The value of a variable, given its name without the marker. -/
def get? (env : Environment) (name : String) : Option String :=
  env.bindings.lookup ("PIVOTFX_" ++ name)

/-- The number of a variable, unless it is none of 64 bits. -/
def natural? (env : Environment) (name : String) : Option Nat :=
  (env.get? name).bind (fun text => Text.natural? Text.bound64 text.toList)

end Environment

end CrossRate
