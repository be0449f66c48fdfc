/-!
# The manual of the command

The texts that say how the command is used.
-/

namespace AdjointSynthesis.CommandLine

/-- The name of the command. -/
def commandName : String := "inplace-adjoint"

/-- The version of the command. -/
def versionText : String := commandName ++ " 0.1.0\n"

/-- Lines as a text. -/
def textOf (lines : List String) : String := String.join (lines.map (· ++ "\n"))

/-- The arguments in short. -/
def usageText : String := textOf [
  "usage: inplace-adjoint [-h] --vars VARS [--const CONST] [--name NAME]",
  "                       [--log-level LOG_LEVEL] [--version]",
  "                       block"]

/-- The arguments with what they mean. -/
def helpText : String := usageText ++ textOf [
  "",
  "Generate in-place, non-mutating and adjoint definitions for a mutating block.",
  "",
  "positional arguments:",
  "  block                 file holding the block, or - for stdin",
  "",
  "options:",
  "  -h, --help            show this help message and exit",
  "  --vars VARS           comma-separated variables visible where the block",
  "                        starts, in order",
  "  --const CONST         comma-separated constant variables",
  "  --name NAME           function name for bare statements",
  "  --log-level LOG_LEVEL",
  "                        override INPLACE_ADJOINT_LOG_LEVEL",
  "  --version             show program's version number and exit"]

end AdjointSynthesis.CommandLine
