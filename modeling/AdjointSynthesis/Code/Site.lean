import AdjointSynthesis.Code.Read
import AdjointSynthesis.Code.Row
import AdjointSynthesis.Text.Blank

/-!
# Sites of functions

Where the text of a function stands that a module binds to a name.  The statements of the module are
followed in order, and the last binding of the name counts.  Decorators and the calls around a
function are taken to hand it on unchanged.

* `Site.excerpt` cuts the text of a function out of the lines of its module.
-/

namespace AdjointSynthesis.Code

/-- A function of a module: its own name and the line that it begins on. -/
structure Site where
  name : String
  line : Nat
deriving DecidableEq, Repr

/-- The functions that names stand for, latest binding first; some names stand for other things. -/
abbrev Sites : Type := List (String × Option Site)

/-- The function that a name stands for. -/
def Sites.find? (sites : Sites) (name : String) : Option Site := (sites.lookup name).join

/-! ## Values -/

/-- Whether an expression is a constant that counts as false. -/
def Expr.isFalse : Expr → Bool
  | .mk _ (.constant .absent) => true
  | .mk _ (.constant (.truth value)) => !value
  | .mk _ (.constant (.number written)) => written == "0"
  | .mk _ (.constant (.text units _)) => units.isEmpty
  | _ => false

/-- The function that an expression yields. -/
def Expr.site? (sites : Sites) : Expr → Option Site
  | .mk span (.lambda _ _) => some ⟨"<lambda>", span.start.line⟩
  | .mk _ (.name id) => sites.find? id
  | .mk _ (.call _ [argument] []) => argument.site? sites
  | .mk _ (.assignment _ value) => value.site? sites
  | .mk _ (.conditional condition yes no) =>
    if condition.isFalse then no.site? sites else yes.site? sites
  | _ => none

/-! ## Bindings -/

/-- The bindings that the parts of a target make with the parts of a value. -/
def bindParts (sites : Sites) : List Expr → List Expr → Sites
  | .mk _ (.name id) :: targets, value :: values =>
    (id, value.site? sites) :: bindParts sites targets values
  | _ :: targets, _ :: values => bindParts sites targets values
  | _, _ => []

/-- The bindings behind an assignment to a target. -/
def bindTarget (sites : Sites) (target value : Expr) : Sites :=
  match target, value with
  | .mk _ (.name id), _ => (id, value.site? sites) :: sites
  | .mk _ (.tuple targets), .mk _ (.tuple values) => bindParts sites targets values ++ sites
  | _, _ => sites

/-- The line that a function begins on: that of its first decorator, or its own. -/
def definitionLine (span : Span) (decorators : List Expr) : Nat :=
  match decorators with
  | [] => span.start.line
  | first :: _ => first.line

mutual

/-- The bindings behind a statement.  A branch is taken unless its condition is false, and a loop is
run once. -/
def Stmt.bind (sites : Sites) : Stmt → Sites
  | .mk span (.function _ name _ _ decorators _) =>
    (name, some ⟨name, definitionLine span decorators⟩) :: sites
  | .mk _ (.classDefinition name _ _ _ _) => (name, none) :: sites
  | .mk _ (.assign targets value) =>
    targets.foldl (fun sites target => bindTarget sites target value) sites
  | .mk _ (.annotate target _ (some value) _) => bindTarget sites target value
  | .mk _ (.expression (.mk _ (.assignment target value))) => bindTarget sites target value
  | .mk _ (.delete targets) =>
    targets.foldl (fun sites target =>
      match target.form with
      | .name id => (id, none) :: sites
      | _ => sites) sites
  | .mk _ (.branch condition body otherwise) =>
    if condition.isFalse then bindAll sites otherwise else bindAll sites body
  | .mk _ (.forLoop _ _ _ body otherwise) => bindAll (bindAll sites body) otherwise
  | .mk _ (.whileLoop condition body otherwise) =>
    if condition.isFalse then bindAll sites otherwise else bindAll sites body
  | .mk _ (.withBlock _ _ body) => bindAll sites body
  | .mk _ (.trying _ body _ otherwise finally_) =>
    bindAll (bindAll (bindAll sites body) otherwise) finally_
  | _ => sites

/-- The bindings behind some statements. -/
def bindAll (sites : Sites) : List Stmt → Sites
  | [] => sites
  | stmt :: rest => bindAll (stmt.bind sites) rest

end

/-! ## Texts -/

/-- Whether a line holds the word for an anonymous function, with white space or a colon behind it
and no part of a word before it. -/
def holdsLambda (inWord : Bool) : List Char → Bool
  | [] => false
  | c :: rest =>
    (!inWord && "lambda".toList.isPrefixOf (c :: rest) &&
        ((rest.drop 5).head?.map fun d => d == ':' || Text.isBlank d).getD true) ||
      holdsLambda (Text.isIdentifierPart c) rest

/-- Whether a text begins with a word that white space or the end of the line is behind. -/
def beginsWith (word : String) (text : List Char) : Bool :=
  word.toList.isPrefixOf text &&
    ((text.drop word.length).head?.map Text.isBlank).getD true

/-- Whether a function may begin on a line. -/
def mayBegin (line : List Char) : Bool :=
  let content := Text.stripLeft line
  beginsWith "def" content || content.head? == some '@' || holdsLambda false line ||
    (beginsWith "async" content && beginsWith "def" (Text.stripLeft (content.drop 5)))

/-- How many lines stand before the one that a function begins on, at or above some line. -/
def linesBefore (lines : List (List Char)) : Nat → Nat
  | 0 => 0
  | count + 1 =>
    if mayBegin (lines.getD (count + 1) []) then count + 1 else linesBefore lines count

/-- The text of a function among the lines of its module. -/
def Site.excerpt (site : Site) (lines : List (List Char)) : List Char :=
  let text := lines.drop (linesBefore lines (site.line - 1))
  Text.endLines (text.take (definitionEnd 1 (rows (Text.endLines text))))

/-- The lines of a module; a newline at its end makes no further line. -/
def moduleLines (module : List Char) : List (List Char) :=
  let lines := Text.splitOn '\n' (Text.unifyNewlines module)
  if lines.getLast? = some [] then lines.dropLast else lines

/-- The function that a module binds to a name, with its own name and its text. -/
def functionOf? (module : List Char) (name : String) : Option (String × List Char) :=
  match read module with
  | .error _ => none
  | .ok statements =>
    (Sites.find? (bindAll [] statements) name).map fun site =>
      (site.name, site.excerpt (moduleLines module))

end AdjointSynthesis.Code
