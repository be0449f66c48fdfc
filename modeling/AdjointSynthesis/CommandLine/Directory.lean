import AdjointSynthesis.Text.Lines
import AdjointSynthesis.Text.Quoted

/-!
# Paths and directories

A path is cleaned before it is used: empty steps and steps that stay in place are left out, and
nothing at all means the directory itself.

A directory is known by the files in it, at any depth.  Following a path in it ends at a file, or
says why there is none.
-/

namespace AdjointSynthesis.CommandLine

/-! ## Paths -/

/-- A path as its steps, and the slashes it begins with. -/
structure Path where
  root : List Char
  steps : List (List Char)
deriving DecidableEq, Repr

namespace Path

/-- The slashes that a path begins with: two of them count as two, any other number as one. -/
def rootOf : List Char → List Char
  | '/' :: '/' :: '/' :: _ => ['/']
  | '/' :: '/' :: _ => ['/', '/']
  | '/' :: _ => ['/']
  | _ => []

/-- The path that a text writes. -/
def ofText (text : List Char) : Path :=
  ⟨rootOf text, (Text.splitOn '/' text).filter fun step => !step.isEmpty && step != ['.']⟩

/-- How a cleaned path is written. -/
def written (path : Path) : List Char :=
  if path.root.isEmpty && path.steps.isEmpty then ['.']
  else path.root ++ Text.joinWith ['/'] path.steps

end Path

/-! ## Directories -/

/-- Why no file can be read at a path. -/
inductive PathProblem where
  | noEntry | denied | noDirectory | isDirectory
deriving DecidableEq, Repr

/-- The wording of a problem with a path. -/
def PathProblem.message (problem : PathProblem) (path : Path) : String :=
  let cause :=
    match problem with
    | .noEntry => "[Errno 2] No such file or directory"
    | .denied => "[Errno 13] Permission denied"
    | .noDirectory => "[Errno 20] Not a directory"
    | .isDirectory => "[Errno 21] Is a directory"
  cause ++ ": " ++ Text.quote (String.ofList path.written)

/-- Files by the steps that lead to them. -/
abbrev Directory : Type := List (List (List Char) × List UInt8)

namespace Directory

/-- Whether some steps lead to a directory with files. -/
def hasInner (directory : Directory) (steps : List (List Char)) : Bool :=
  directory.any fun entry => steps.isPrefixOf entry.1 && entry.1 != steps

/-- Follows steps from an inner directory on. -/
def follow (directory : Directory) (here : List (List Char)) :
    List (List Char) → Except PathProblem (List UInt8)
  | [] => .error .isDirectory
  | step :: rest =>
    if step = ['.', '.'] then
      match here with
      | [] => .error (if rest.isEmpty then .isDirectory else .noEntry)
      | _ :: _ => follow directory here.dropLast rest
    else
      match directory.lookup (here ++ [step]) with
      | some content => if rest.isEmpty then .ok content else .error .noDirectory
      | none =>
        if directory.hasInner (here ++ [step]) then follow directory (here ++ [step]) rest
        else .error .noEntry

/-- The bytes of the file that a path leads to. -/
def read (directory : Directory) (path : Path) : Except PathProblem (List UInt8) :=
  if path.root.isEmpty then directory.follow [] path.steps
  else .error (if path.steps.isEmpty then .isDirectory else .noEntry)

end Directory

end AdjointSynthesis.CommandLine
