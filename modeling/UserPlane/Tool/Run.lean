import UserPlane.Tool.Conversion
import UserPlane.Tool.Filter

/-! # A run of the tool

On the command line, a **filter** decides which records of the log are shown: the one that the
environment asks for, or else the one that the call does. If it cannot be read, the run breaks off.
The name of a threshold alone is such a filter (`shown?_name`). The conversion itself leaves this
choice open, so that nothing but the log depends on how filters are written. -/

namespace UserPlane.Tool

/-- The records that the filter in force shows, if it can be read. -/
def shown? : LogChoice := fun environment level =>
  match Filter.choose environment level with
  | .ok filter => some filter.admits
  | .error _ => none

/-- What a call of the tool leaves behind and shows, given what the environment says about logs. -/
def run (environment : Option String) (i : Invocation) (contents : Except String String) :
    Outcome :=
  runWith shown? environment i contents

/-- The tool's name and version. -/
def versionLine : String := "up4-translate 0.1.0\n"

/-- **The name of a threshold on the command line shows the records that the threshold admits**, if
the environment says nothing about logs. -/
theorem shown?_name (t : Threshold) : shown? none t.name = some fun r => t.admits r.level := by
  rw [shown?, Filter.choose_name]
  exact congrArg some (funext (Filter.admits_level t))

end UserPlane.Tool
