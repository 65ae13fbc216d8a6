/-
# Bindings

A process finds variables in its environment, each by its name.  Where the value of a
variable is no text, nothing is known of it but that it is there.
-/

namespace HeapFixtures

/-- The variables of a process with their values, as far as these are texts. -/
abbrev Bindings := List (String × Option String)

namespace Bindings

def text? (bindings : Bindings) (name : String) : Option String :=
  (bindings.lookup name).join

/-- Whether a variable holds anything but an empty text. -/
def holds (bindings : Bindings) (name : String) : Bool :=
  match bindings.lookup name with
  | some value => value ≠ some ""
  | none => false

end Bindings
end HeapFixtures
