import AdjointSynthesis.Settings.Basic

/-!
# Readers of settings

Settings are given as fields by name, by variables of the environment, and by a file of assignments.
Which setting a name is meant for, and how a file is written, is the matter of another library.  A
reader stands for that library: it yields what each of the three gives for settings by their own
names.
-/

namespace AdjointSynthesis

/-- What the names of variables for settings begin with. -/
def variableStart : String := "INPLACE_ADJOINT_"

/-- The variable for a setting. -/
def Setting.variableName (setting : Setting) : String :=
  variableStart ++ Text.upperCase setting.name

namespace Settings

/-- How settings are read. -/
structure Reader where
  fields : List (String × Given) → Source
  environment : List (String × String) → Source
  /-- The values in a file may refer to variables. -/
  file : List (String × String) → List Char → Source

/-- The reader that goes by exact names.  It reads no files. -/
def Reader.exact : Reader where
  fields := id
  environment found := Setting.all.filterMap fun setting =>
    (found.lookup setting.variableName).map fun value => (setting.name, .text value)
  file _ _ := []

end Settings

end AdjointSynthesis
