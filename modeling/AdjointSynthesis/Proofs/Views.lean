import AdjointSynthesis.Code.Occurrence
import Mathlib.Tactic.Common

/-!
# Views of trees

A view says how the places and the variables of a tree are seen.  Two trees that look alike through
some view are the same program up to what the view blurs.

* `View.bare` sees no places: statements that look alike through it are the same up to places.
* `View.through test` sees only the variables that pass a test: a tree that looks like itself
  through it has no other variables.
* `namesInBody_seen`: the occurrences in a view are those of the tree, seen one by one.
-/

namespace AdjointSynthesis.Code

/-- How the places and the variables of a tree are seen. -/
structure View where
  place : Place → Place
  name : String → String

namespace View

/-- Everything as it is. -/
def plain : View := ⟨id, id⟩

/-- No places. -/
def bare : View := ⟨fun _ => default, id⟩

/-- The variables that pass a test. -/
def through (test : String → Bool) : View := ⟨id, fun name => if test name then name else "_"⟩

/-- A span in a view. -/
def span (v : View) (s : Span) : Span := ⟨v.place s.start, v.place s.stop⟩

end View

/-! ## Trees in a view -/

mutual

/-- An expression in a view. -/
def Expr.seen (v : View) : Expr → Expr
  | .mk span form => .mk (v.span span) (form.seen v)

/-- A form in a view. -/
def Form.seen (v : View) : Form → Form
  | .name id => .name (v.name id)
  | .constant value => .constant value
  | .template parts => .template (seenIn v parts)
  | .field value conversion format => .field (value.seen v) conversion (seenInSome v format)
  | .tuple items => .tuple (seenIn v items)
  | .list items => .list (seenIn v items)
  | .set items => .set (seenIn v items)
  | .dict items => .dict (seenInItems v items)
  | .subscript value index => .subscript (value.seen v) (index.seen v)
  | .attribute value name => .attribute (value.seen v) name
  | .slice lower upper step =>
    .slice (seenInSome v lower) (seenInSome v upper) (seenInSome v step)
  | .starred value => .starred (value.seen v)
  | .call function positional keywords =>
    .call (function.seen v) (seenIn v positional) (seenInKeywords v keywords)
  | .unary operator operand => .unary operator (operand.seen v)
  | .binary operator left right => .binary operator (left.seen v) (right.seen v)
  | .junction kind operands => .junction kind (seenIn v operands)
  | .comparison first links => .comparison (first.seen v) (seenInLinks v links)
  | .conditional condition yes no =>
    .conditional (condition.seen v) (yes.seen v) (no.seen v)
  | .lambda parameters body => .lambda (parameters.seen v) (body.seen v)
  | .assignment target value => .assignment (target.seen v) (value.seen v)
  | .listComprehension item clauses => .listComprehension (item.seen v) (seenInClauses v clauses)
  | .setComprehension item clauses => .setComprehension (item.seen v) (seenInClauses v clauses)
  | .dictComprehension key value clauses =>
    .dictComprehension (key.seen v) (value.seen v) (seenInClauses v clauses)
  | .generator item clauses => .generator (item.seen v) (seenInClauses v clauses)
  | .await value => .await (value.seen v)
  | .yield value => .yield (seenInSome v value)
  | .yieldFrom value => .yieldFrom (value.seen v)

/-- Expressions in a view. -/
def seenIn (v : View) : List Expr → List Expr
  | [] => []
  | item :: rest => item.seen v :: seenIn v rest

/-- An expression that may be missing, in a view. -/
def seenInSome (v : View) : Option Expr → Option Expr
  | none => none
  | some value => some (value.seen v)

/-- Expressions of which any may be missing, in a view. -/
def seenInAny (v : View) : List (Option Expr) → List (Option Expr)
  | [] => []
  | value :: rest => seenInSome v value :: seenInAny v rest

/-- An entry of a dictionary in a view. -/
def DictItem.seen (v : View) : DictItem → DictItem
  | .pair key value => .pair (key.seen v) (value.seen v)
  | .spread value => .spread (value.seen v)

/-- Entries of a dictionary in a view. -/
def seenInItems (v : View) : List DictItem → List DictItem
  | [] => []
  | item :: rest => item.seen v :: seenInItems v rest

/-- An argument passed by keyword in a view. -/
def KeywordArgument.seen (v : View) : KeywordArgument → KeywordArgument
  | .mk span name value => .mk (v.span span) name (value.seen v)

/-- Arguments passed by keyword in a view. -/
def seenInKeywords (v : View) : List KeywordArgument → List KeywordArgument
  | [] => []
  | argument :: rest => argument.seen v :: seenInKeywords v rest

/-- A link of a comparison in a view. -/
def Link.seen (v : View) : Link → Link
  | .mk relation operand => .mk relation (operand.seen v)

/-- The links of a comparison in a view. -/
def seenInLinks (v : View) : List Link → List Link
  | [] => []
  | link :: rest => link.seen v :: seenInLinks v rest

/-- A clause of a comprehension in a view. -/
def Clause.seen (v : View) : Clause → Clause
  | .mk isAsync target source conditions =>
    .mk isAsync (target.seen v) (source.seen v) (seenIn v conditions)

/-- The clauses of a comprehension in a view. -/
def seenInClauses (v : View) : List Clause → List Clause
  | [] => []
  | clause :: rest => clause.seen v :: seenInClauses v rest

/-- A parameter in a view. -/
def Parameter.seen (v : View) : Parameter → Parameter
  | .mk span name hint => .mk (v.span span) name (seenInSome v hint)

/-- Parameters in a row in a view. -/
def seenInParameters (v : View) : List Parameter → List Parameter
  | [] => []
  | parameter :: rest => parameter.seen v :: seenInParameters v rest

/-- A parameter that may be missing, in a view. -/
def seenInParameter (v : View) : Option Parameter → Option Parameter
  | none => none
  | some parameter => some (parameter.seen v)

/-- The parameters of a function in a view. -/
def Parameters.seen (v : View) : Parameters → Parameters
  | .mk positionalOnly positional variadic keywordOnly keywordDefaults keywords defaults =>
    .mk (seenInParameters v positionalOnly) (seenInParameters v positional)
      (seenInParameter v variadic) (seenInParameters v keywordOnly)
      (seenInAny v keywordDefaults) (seenInParameter v keywords) (seenIn v defaults)

end

mutual

/-- A pattern in a view.  The names that a pattern binds are no variables of the tree. -/
def Pattern.seen (v : View) : Pattern → Pattern
  | .value span value => .value (v.span span) (value.seen v)
  | .singleton span value => .singleton (v.span span) value
  | .sequence span items => .sequence (v.span span) (seenInPatterns v items)
  | .mapping span keys items rest =>
    .mapping (v.span span) (seenIn v keys) (seenInPatterns v items) rest
  | .record span type positional names named =>
    .record (v.span span) (type.seen v) (seenInPatterns v positional) names
      (seenInPatterns v named)
  | .star span name => .star (v.span span) name
  | .capture span none name => .capture (v.span span) none name
  | .capture span (some inner) name => .capture (v.span span) (some (inner.seen v)) name
  | .choice span options => .choice (v.span span) (seenInPatterns v options)

/-- Patterns in a view. -/
def seenInPatterns (v : View) : List Pattern → List Pattern
  | [] => []
  | item :: rest => item.seen v :: seenInPatterns v rest

end

/-- A manager in a view. -/
def Manager.seen (v : View) (manager : Manager) : Manager :=
  ⟨manager.value.seen v, seenInSome v manager.target⟩

mutual

/-- A statement in a view. -/
def Stmt.seen (v : View) : Stmt → Stmt
  | .mk span form => .mk (v.span span) (form.seen v)

/-- The form of a statement in a view. -/
def StmtForm.seen (v : View) : StmtForm → StmtForm
  | .function isAsync name parameters body decorators returns =>
    .function isAsync name (parameters.seen v) (seenInBody v body) (seenIn v decorators)
      (seenInSome v returns)
  | .classDefinition name bases keywords body decorators =>
    .classDefinition name (seenIn v bases) (seenInKeywords v keywords) (seenInBody v body)
      (seenIn v decorators)
  | .returning value => .returning (seenInSome v value)
  | .delete targets => .delete (seenIn v targets)
  | .assign targets value => .assign (seenIn v targets) (value.seen v)
  | .augment target operator value => .augment (target.seen v) operator (value.seen v)
  | .annotate target hint value simple =>
    .annotate (target.seen v) (hint.seen v) (seenInSome v value) simple
  | .forLoop isAsync target source body otherwise =>
    .forLoop isAsync (target.seen v) (source.seen v) (seenInBody v body) (seenInBody v otherwise)
  | .whileLoop condition body otherwise =>
    .whileLoop (condition.seen v) (seenInBody v body) (seenInBody v otherwise)
  | .branch condition body otherwise =>
    .branch (condition.seen v) (seenInBody v body) (seenInBody v otherwise)
  | .withBlock isAsync managers body =>
    .withBlock isAsync (managers.map (Manager.seen v)) (seenInBody v body)
  | .matching subject cases => .matching (subject.seen v) (seenInCases v cases)
  | .raising exception cause => .raising (seenInSome v exception) (seenInSome v cause)
  | .trying isGroup body handlers otherwise finally_ =>
    .trying isGroup (seenInBody v body) (seenInHandlers v handlers) (seenInBody v otherwise)
      (seenInBody v finally_)
  | .assertion condition message => .assertion (condition.seen v) (seenInSome v message)
  | .importing names => .importing names
  | .importingFrom module names level => .importingFrom module names level
  | .declareGlobal names => .declareGlobal names
  | .declareNonlocal names => .declareNonlocal names
  | .expression value => .expression (value.seen v)
  | .pass => .pass
  | .breaking => .breaking
  | .continuing => .continuing

/-- Statements in a view. -/
def seenInBody (v : View) : List Stmt → List Stmt
  | [] => []
  | stmt :: rest => stmt.seen v :: seenInBody v rest

/-- A handler in a view. -/
def Handler.seen (v : View) : Handler → Handler
  | .mk span type name body => .mk (v.span span) (seenInSome v type) name (seenInBody v body)

/-- Handlers in a view. -/
def seenInHandlers (v : View) : List Handler → List Handler
  | [] => []
  | handler :: rest => handler.seen v :: seenInHandlers v rest

/-- A case of a match in a view. -/
def MatchCase.seen (v : View) : MatchCase → MatchCase
  | .mk pattern guard_ body => .mk (pattern.seen v) (seenInSome v guard_) (seenInBody v body)

/-- The cases of a match in a view. -/
def seenInCases (v : View) : List MatchCase → List MatchCase
  | [] => []
  | item :: rest => item.seen v :: seenInCases v rest

end

/-! ## The plain view -/

mutual

@[simp]
lemma Expr.seen_plain : (e : Expr) → e.seen .plain = e
  | .mk span form => by rw [Expr.seen, Form.seen_plain form]; rfl

lemma Form.seen_plain : (form : Form) → form.seen .plain = form
  | .name _ => rfl
  | .constant _ => rfl
  | .template parts => by rw [Form.seen, seenIn_plain parts]
  | .field value _ format => by rw [Form.seen, value.seen_plain, seenInSome_plain format]
  | .tuple items => by rw [Form.seen, seenIn_plain items]
  | .list items => by rw [Form.seen, seenIn_plain items]
  | .set items => by rw [Form.seen, seenIn_plain items]
  | .dict items => by rw [Form.seen, seenInItems_plain items]
  | .subscript value index => by rw [Form.seen, value.seen_plain, index.seen_plain]
  | .attribute value _ => by rw [Form.seen, value.seen_plain]
  | .slice lower upper step => by
    rw [Form.seen, seenInSome_plain lower, seenInSome_plain upper, seenInSome_plain step]
  | .starred value => by rw [Form.seen, value.seen_plain]
  | .call function positional keywords => by
    rw [Form.seen, function.seen_plain, seenIn_plain positional, seenInKeywords_plain keywords]
  | .unary _ operand => by rw [Form.seen, operand.seen_plain]
  | .binary _ left right => by rw [Form.seen, left.seen_plain, right.seen_plain]
  | .junction _ operands => by rw [Form.seen, seenIn_plain operands]
  | .comparison first links => by rw [Form.seen, first.seen_plain, seenInLinks_plain links]
  | .conditional condition yes no => by
    rw [Form.seen, condition.seen_plain, yes.seen_plain, no.seen_plain]
  | .lambda parameters body => by rw [Form.seen, parameters.seen_plain, body.seen_plain]
  | .assignment target value => by rw [Form.seen, target.seen_plain, value.seen_plain]
  | .listComprehension item clauses => by
    rw [Form.seen, item.seen_plain, seenInClauses_plain clauses]
  | .setComprehension item clauses => by
    rw [Form.seen, item.seen_plain, seenInClauses_plain clauses]
  | .dictComprehension key value clauses => by
    rw [Form.seen, key.seen_plain, value.seen_plain, seenInClauses_plain clauses]
  | .generator item clauses => by rw [Form.seen, item.seen_plain, seenInClauses_plain clauses]
  | .await value => by rw [Form.seen, value.seen_plain]
  | .yield value => by rw [Form.seen, seenInSome_plain value]
  | .yieldFrom value => by rw [Form.seen, value.seen_plain]

lemma seenIn_plain : (items : List Expr) → seenIn .plain items = items
  | [] => rfl
  | item :: rest => by rw [seenIn, item.seen_plain, seenIn_plain rest]

lemma seenInSome_plain : (value : Option Expr) → seenInSome .plain value = value
  | none => rfl
  | some value => by rw [seenInSome, value.seen_plain]

lemma seenInAny_plain : (values : List (Option Expr)) → seenInAny .plain values = values
  | [] => rfl
  | value :: rest => by rw [seenInAny, seenInSome_plain value, seenInAny_plain rest]

lemma DictItem.seen_plain : (item : DictItem) → item.seen .plain = item
  | .pair key value => by rw [DictItem.seen, key.seen_plain, value.seen_plain]
  | .spread value => by rw [DictItem.seen, value.seen_plain]

lemma seenInItems_plain : (items : List DictItem) → seenInItems .plain items = items
  | [] => rfl
  | item :: rest => by rw [seenInItems, item.seen_plain, seenInItems_plain rest]

lemma KeywordArgument.seen_plain : (argument : KeywordArgument) → argument.seen .plain = argument
  | .mk _ _ value => by rw [KeywordArgument.seen, value.seen_plain]; rfl

lemma seenInKeywords_plain : (arguments : List KeywordArgument) →
    seenInKeywords .plain arguments = arguments
  | [] => rfl
  | argument :: rest => by rw [seenInKeywords, argument.seen_plain, seenInKeywords_plain rest]

lemma Link.seen_plain : (link : Link) → link.seen .plain = link
  | .mk _ operand => by rw [Link.seen, operand.seen_plain]

lemma seenInLinks_plain : (links : List Link) → seenInLinks .plain links = links
  | [] => rfl
  | link :: rest => by rw [seenInLinks, link.seen_plain, seenInLinks_plain rest]

lemma Clause.seen_plain : (clause : Clause) → clause.seen .plain = clause
  | .mk _ target source conditions => by
    rw [Clause.seen, target.seen_plain, source.seen_plain, seenIn_plain conditions]

lemma seenInClauses_plain : (clauses : List Clause) → seenInClauses .plain clauses = clauses
  | [] => rfl
  | clause :: rest => by rw [seenInClauses, clause.seen_plain, seenInClauses_plain rest]

lemma Parameter.seen_plain : (parameter : Parameter) → parameter.seen .plain = parameter
  | .mk _ _ hint => by rw [Parameter.seen, seenInSome_plain hint]; rfl

lemma seenInParameters_plain : (parameters : List Parameter) →
    seenInParameters .plain parameters = parameters
  | [] => rfl
  | parameter :: rest => by
    rw [seenInParameters, parameter.seen_plain, seenInParameters_plain rest]

lemma seenInParameter_plain : (parameter : Option Parameter) →
    seenInParameter .plain parameter = parameter
  | none => rfl
  | some parameter => by rw [seenInParameter, parameter.seen_plain]

lemma Parameters.seen_plain : (parameters : Parameters) → parameters.seen .plain = parameters
  | .mk positionalOnly positional variadic keywordOnly keywordDefaults keywords defaults => by
    rw [Parameters.seen, seenInParameters_plain positionalOnly, seenInParameters_plain positional,
      seenInParameter_plain variadic, seenInParameters_plain keywordOnly,
      seenInAny_plain keywordDefaults, seenInParameter_plain keywords, seenIn_plain defaults]

end

mutual

@[simp]
lemma Pattern.seen_plain : (pattern : Pattern) → pattern.seen .plain = pattern
  | .value _ value => by rw [Pattern.seen, value.seen_plain]; rfl
  | .singleton _ _ => rfl
  | .sequence _ items => by rw [Pattern.seen, seenInPatterns_plain items]; rfl
  | .mapping _ keys items _ => by
    rw [Pattern.seen, seenIn_plain keys, seenInPatterns_plain items]; rfl
  | .record _ type positional _ named => by
    rw [Pattern.seen, type.seen_plain, seenInPatterns_plain positional,
      seenInPatterns_plain named]; rfl
  | .star _ _ => rfl
  | .capture _ none _ => rfl
  | .capture _ (some inner) _ => by rw [Pattern.seen, inner.seen_plain]; rfl
  | .choice _ options => by rw [Pattern.seen, seenInPatterns_plain options]; rfl

lemma seenInPatterns_plain : (items : List Pattern) → seenInPatterns .plain items = items
  | [] => rfl
  | item :: rest => by rw [seenInPatterns, item.seen_plain, seenInPatterns_plain rest]

end

lemma Manager.seen_plain (manager : Manager) : manager.seen .plain = manager := by
  rw [Manager.seen, manager.value.seen_plain, seenInSome_plain]

mutual

@[simp]
lemma Stmt.seen_plain : (stmt : Stmt) → stmt.seen .plain = stmt
  | .mk span form => by rw [Stmt.seen, StmtForm.seen_plain form]; rfl

lemma StmtForm.seen_plain : (form : StmtForm) → form.seen .plain = form
  | .function _ _ parameters body decorators returns => by
    rw [StmtForm.seen, parameters.seen_plain, seenInBody_plain body, seenIn_plain decorators,
      seenInSome_plain returns]
  | .classDefinition _ bases keywords body decorators => by
    rw [StmtForm.seen, seenIn_plain bases, seenInKeywords_plain keywords, seenInBody_plain body,
      seenIn_plain decorators]
  | .returning value => by rw [StmtForm.seen, seenInSome_plain value]
  | .delete targets => by rw [StmtForm.seen, seenIn_plain targets]
  | .assign targets value => by rw [StmtForm.seen, seenIn_plain targets, value.seen_plain]
  | .augment target _ value => by rw [StmtForm.seen, target.seen_plain, value.seen_plain]
  | .annotate target hint value _ => by
    rw [StmtForm.seen, target.seen_plain, hint.seen_plain, seenInSome_plain value]
  | .forLoop _ target source body otherwise => by
    rw [StmtForm.seen, target.seen_plain, source.seen_plain, seenInBody_plain body,
      seenInBody_plain otherwise]
  | .whileLoop condition body otherwise => by
    rw [StmtForm.seen, condition.seen_plain, seenInBody_plain body, seenInBody_plain otherwise]
  | .branch condition body otherwise => by
    rw [StmtForm.seen, condition.seen_plain, seenInBody_plain body, seenInBody_plain otherwise]
  | .withBlock _ managers body => by
    rw [StmtForm.seen, List.map_congr_left fun manager _ => manager.seen_plain, List.map_id',
      seenInBody_plain body]
  | .matching subject cases => by
    rw [StmtForm.seen, subject.seen_plain, seenInCases_plain cases]
  | .raising exception cause => by
    rw [StmtForm.seen, seenInSome_plain exception, seenInSome_plain cause]
  | .trying _ body handlers otherwise finally_ => by
    rw [StmtForm.seen, seenInBody_plain body, seenInHandlers_plain handlers,
      seenInBody_plain otherwise, seenInBody_plain finally_]
  | .assertion condition message => by
    rw [StmtForm.seen, condition.seen_plain, seenInSome_plain message]
  | .importing _ => rfl
  | .importingFrom _ _ _ => rfl
  | .declareGlobal _ => rfl
  | .declareNonlocal _ => rfl
  | .expression value => by rw [StmtForm.seen, value.seen_plain]
  | .pass => rfl
  | .breaking => rfl
  | .continuing => rfl

lemma seenInBody_plain : (body : List Stmt) → seenInBody .plain body = body
  | [] => rfl
  | stmt :: rest => by rw [seenInBody, stmt.seen_plain, seenInBody_plain rest]

lemma Handler.seen_plain : (handler : Handler) → handler.seen .plain = handler
  | .mk _ type _ body => by rw [Handler.seen, seenInSome_plain type, seenInBody_plain body]; rfl

lemma seenInHandlers_plain : (handlers : List Handler) → seenInHandlers .plain handlers = handlers
  | [] => rfl
  | handler :: rest => by rw [seenInHandlers, handler.seen_plain, seenInHandlers_plain rest]

lemma MatchCase.seen_plain : (item : MatchCase) → item.seen .plain = item
  | .mk pattern guard_ body => by
    rw [MatchCase.seen, pattern.seen_plain, seenInSome_plain guard_, seenInBody_plain body]

lemma seenInCases_plain : (cases : List MatchCase) → seenInCases .plain cases = cases
  | [] => rfl
  | item :: rest => by rw [seenInCases, item.seen_plain, seenInCases_plain rest]

end

/-! ## Lists in a view -/

section
variable (v : View)

@[simp]
lemma seenIn_eq_map (items : List Expr) : seenIn v items = items.map (Expr.seen v) := by
  induction items with
  | nil => rfl
  | cons item rest ih => rw [seenIn, ih, List.map_cons]

@[simp]
lemma seenInSome_eq_map (value : Option Expr) : seenInSome v value = value.map (Expr.seen v) := by
  cases value <;> rfl

@[simp]
lemma seenInAny_eq_map (values : List (Option Expr)) :
    seenInAny v values = values.map (Option.map (Expr.seen v)) := by
  induction values with
  | nil => rfl
  | cons value rest ih => rw [seenInAny, ih, List.map_cons, seenInSome_eq_map]

@[simp]
lemma seenInItems_eq_map (items : List DictItem) :
    seenInItems v items = items.map (DictItem.seen v) := by
  induction items with
  | nil => rfl
  | cons item rest ih => rw [seenInItems, ih, List.map_cons]

@[simp]
lemma seenInKeywords_eq_map (arguments : List KeywordArgument) :
    seenInKeywords v arguments = arguments.map (KeywordArgument.seen v) := by
  induction arguments with
  | nil => rfl
  | cons argument rest ih => rw [seenInKeywords, ih, List.map_cons]

@[simp]
lemma seenInLinks_eq_map (links : List Link) : seenInLinks v links = links.map (Link.seen v) := by
  induction links with
  | nil => rfl
  | cons link rest ih => rw [seenInLinks, ih, List.map_cons]

@[simp]
lemma seenInClauses_eq_map (clauses : List Clause) :
    seenInClauses v clauses = clauses.map (Clause.seen v) := by
  induction clauses with
  | nil => rfl
  | cons clause rest ih => rw [seenInClauses, ih, List.map_cons]

@[simp]
lemma seenInParameters_eq_map (parameters : List Parameter) :
    seenInParameters v parameters = parameters.map (Parameter.seen v) := by
  induction parameters with
  | nil => rfl
  | cons parameter rest ih => rw [seenInParameters, ih, List.map_cons]

@[simp]
lemma seenInParameter_eq_map (parameter : Option Parameter) :
    seenInParameter v parameter = parameter.map (Parameter.seen v) := by
  cases parameter <;> rfl

@[simp]
lemma seenInPatterns_eq_map (items : List Pattern) :
    seenInPatterns v items = items.map (Pattern.seen v) := by
  induction items with
  | nil => rfl
  | cons item rest ih => rw [seenInPatterns, ih, List.map_cons]

@[simp]
lemma seenInBody_eq_map (body : List Stmt) : seenInBody v body = body.map (Stmt.seen v) := by
  induction body with
  | nil => rfl
  | cons stmt rest ih => rw [seenInBody, ih, List.map_cons]

@[simp]
lemma seenInHandlers_eq_map (handlers : List Handler) :
    seenInHandlers v handlers = handlers.map (Handler.seen v) := by
  induction handlers with
  | nil => rfl
  | cons handler rest ih => rw [seenInHandlers, ih, List.map_cons]

@[simp]
lemma seenInCases_eq_map (cases : List MatchCase) :
    seenInCases v cases = cases.map (MatchCase.seen v) := by
  induction cases with
  | nil => rfl
  | cons item rest ih => rw [seenInCases, ih, List.map_cons]

end

/-! ## Occurrences in a view -/

/-- An occurrence in a view. -/
def Occurrence.seen (v : View) (occurrence : Occurrence) : Occurrence :=
  ⟨v.name occurrence.name, v.place occurrence.place, occurrence.depth⟩

section
variable (v : View)

mutual

lemma Expr.names_seen (depth : Nat) : (e : Expr) →
    (e.seen v).names depth = (e.names depth).map (Occurrence.seen v)
  | .mk span form => by
    cases form
    case name id => rfl
    all_goals
      simp only [Expr.seen, Form.seen, Expr.names, List.map_append, List.map_nil,
        Expr.names_seen (depth + 1), namesIn_seen (depth + 1), namesInSome_seen (depth + 1),
        namesInKeys_seen (depth + 1), namesInValues_seen (depth + 1),
        namesInKeywords_seen (depth + 2), namesInLinks_seen (depth + 1),
        namesInClauses_seen (depth + 2), Parameters.names_seen (depth + 2)]

lemma namesIn_seen (depth : Nat) : (items : List Expr) →
    namesIn depth (seenIn v items) = (namesIn depth items).map (Occurrence.seen v)
  | [] => rfl
  | item :: rest => by
    simp only [seenIn, namesIn, List.map_append, Expr.names_seen depth item, namesIn_seen depth rest]

lemma namesInSome_seen (depth : Nat) : (value : Option Expr) →
    namesInSome depth (seenInSome v value) = (namesInSome depth value).map (Occurrence.seen v)
  | none => rfl
  | some value => by simp only [seenInSome, namesInSome, Expr.names_seen depth value]

lemma namesInAny_seen (depth : Nat) : (values : List (Option Expr)) →
    namesInAny depth (seenInAny v values) = (namesInAny depth values).map (Occurrence.seen v)
  | [] => rfl
  | value :: rest => by
    simp only [seenInAny, namesInAny, List.map_append, namesInSome_seen depth value,
      namesInAny_seen depth rest]

lemma namesInKeys_seen (depth : Nat) : (items : List DictItem) →
    namesInKeys depth (seenInItems v items) = (namesInKeys depth items).map (Occurrence.seen v)
  | [] => rfl
  | .pair key value :: rest => by
    simp only [seenInItems, DictItem.seen, namesInKeys, List.map_append,
      Expr.names_seen depth key, namesInKeys_seen depth rest]
  | .spread value :: rest => by
    simp only [seenInItems, DictItem.seen, namesInKeys, namesInKeys_seen depth rest]

lemma namesInValues_seen (depth : Nat) : (items : List DictItem) →
    namesInValues depth (seenInItems v items) =
      (namesInValues depth items).map (Occurrence.seen v)
  | [] => rfl
  | .pair key value :: rest => by
    simp only [seenInItems, DictItem.seen, namesInValues, List.map_append,
      Expr.names_seen depth value, namesInValues_seen depth rest]
  | .spread value :: rest => by
    simp only [seenInItems, DictItem.seen, namesInValues, List.map_append,
      Expr.names_seen depth value, namesInValues_seen depth rest]

lemma namesInKeywords_seen (depth : Nat) : (arguments : List KeywordArgument) →
    namesInKeywords depth (seenInKeywords v arguments) =
      (namesInKeywords depth arguments).map (Occurrence.seen v)
  | [] => rfl
  | .mk span name value :: rest => by
    simp only [seenInKeywords, KeywordArgument.seen, namesInKeywords, List.map_append,
      Expr.names_seen depth value, namesInKeywords_seen depth rest]

lemma namesInLinks_seen (depth : Nat) : (links : List Link) →
    namesInLinks depth (seenInLinks v links) = (namesInLinks depth links).map (Occurrence.seen v)
  | [] => rfl
  | .mk relation operand :: rest => by
    simp only [seenInLinks, Link.seen, namesInLinks, List.map_append,
      Expr.names_seen depth operand, namesInLinks_seen depth rest]

lemma namesInClauses_seen (depth : Nat) : (clauses : List Clause) →
    namesInClauses depth (seenInClauses v clauses) =
      (namesInClauses depth clauses).map (Occurrence.seen v)
  | [] => rfl
  | .mk isAsync target source conditions :: rest => by
    simp only [seenInClauses, Clause.seen, namesInClauses, List.map_append,
      Expr.names_seen depth target, Expr.names_seen depth source, namesIn_seen depth conditions,
      namesInClauses_seen depth rest]

lemma namesInParameters_seen (depth : Nat) : (parameters : List Parameter) →
    namesInParameters depth (seenInParameters v parameters) =
      (namesInParameters depth parameters).map (Occurrence.seen v)
  | [] => rfl
  | .mk span name hint :: rest => by
    simp only [seenInParameters, Parameter.seen, namesInParameters, List.map_append,
      namesInSome_seen depth hint, namesInParameters_seen depth rest]

lemma namesInParameter_seen (depth : Nat) : (parameter : Option Parameter) →
    namesInParameter depth (seenInParameter v parameter) =
      (namesInParameter depth parameter).map (Occurrence.seen v)
  | none => rfl
  | some (.mk span name hint) => by
    simp only [seenInParameter, Parameter.seen, namesInParameter, namesInSome_seen depth hint]

lemma Parameters.names_seen (depth : Nat) : (parameters : Parameters) →
    (parameters.seen v).names depth = (parameters.names depth).map (Occurrence.seen v)
  | .mk positionalOnly positional variadic keywordOnly keywordDefaults keywords defaults => by
    simp only [Parameters.seen, Parameters.names, List.map_append,
      namesInParameters_seen (depth + 1), namesInParameter_seen (depth + 1),
      namesInAny_seen depth, namesIn_seen depth]

end

mutual

lemma Pattern.names_seen (depth : Nat) : (pattern : Pattern) →
    (pattern.seen v).names depth = (pattern.names depth).map (Occurrence.seen v)
  | .value _ value => by simp only [Pattern.seen, Pattern.names, Expr.names_seen]
  | .singleton _ _ => rfl
  | .sequence _ items => by
    simp only [Pattern.seen, Pattern.names, namesInPatterns_seen (depth + 1) items]
  | .mapping _ keys items _ => by
    simp only [Pattern.seen, Pattern.names, List.map_append, namesIn_seen,
      namesInPatterns_seen (depth + 1) items]
  | .record _ type positional _ named => by
    simp only [Pattern.seen, Pattern.names, List.map_append, Expr.names_seen,
      namesInPatterns_seen (depth + 1) positional, namesInPatterns_seen (depth + 1) named]
  | .star _ _ => rfl
  | .capture _ none _ => rfl
  | .capture _ (some inner) _ => by
    simp only [Pattern.seen, Pattern.names, Pattern.names_seen (depth + 1) inner]
  | .choice _ options => by
    simp only [Pattern.seen, Pattern.names, namesInPatterns_seen (depth + 1) options]

lemma namesInPatterns_seen (depth : Nat) : (items : List Pattern) →
    namesInPatterns depth (seenInPatterns v items) =
      (namesInPatterns depth items).map (Occurrence.seen v)
  | [] => rfl
  | item :: rest => by
    simp only [seenInPatterns, namesInPatterns, List.map_append, Pattern.names_seen depth item,
      namesInPatterns_seen depth rest]

end

lemma namesInManagers_seen (depth : Nat) (managers : List Manager) :
    namesInManagers depth (managers.map (Manager.seen v)) =
      (namesInManagers depth managers).map (Occurrence.seen v) := by
  induction managers with
  | nil => rfl
  | cons manager rest ih =>
    simp only [namesInManagers] at ih
    simp only [namesInManagers, List.map_cons, List.flatMap_cons, List.map_append, ih,
      Manager.seen, Expr.names_seen, namesInSome_seen]

mutual

lemma Stmt.names_seen (depth : Nat) : (stmt : Stmt) →
    (stmt.seen v).names depth = (stmt.names depth).map (Occurrence.seen v)
  | .mk span form => by
    cases form <;>
      simp only [Stmt.seen, StmtForm.seen, Stmt.names, List.map_append, List.map_nil,
        Expr.names_seen, namesIn_seen, namesInSome_seen, namesInKeywords_seen,
        Parameters.names_seen, namesInManagers_seen, namesInBody_seen (depth + 1),
        namesInHandlers_seen (depth + 2), namesInCases_seen (depth + 2)]

/-- The occurrences in a view are those of the statements, seen one by one. -/
lemma namesInBody_seen (depth : Nat) : (body : List Stmt) →
    namesInBody depth (seenInBody v body) = (namesInBody depth body).map (Occurrence.seen v)
  | [] => rfl
  | stmt :: rest => by
    simp only [seenInBody, namesInBody, List.map_append, Stmt.names_seen depth stmt,
      namesInBody_seen depth rest]

lemma namesInHandlers_seen (depth : Nat) : (handlers : List Handler) →
    namesInHandlers depth (seenInHandlers v handlers) =
      (namesInHandlers depth handlers).map (Occurrence.seen v)
  | [] => rfl
  | .mk span type name body :: rest => by
    simp only [seenInHandlers, Handler.seen, namesInHandlers, List.map_append, namesInSome_seen,
      namesInBody_seen depth body, namesInHandlers_seen depth rest]

lemma namesInCases_seen (depth : Nat) : (cases : List MatchCase) →
    namesInCases depth (seenInCases v cases) =
      (namesInCases depth cases).map (Occurrence.seen v)
  | [] => rfl
  | .mk pattern guard_ body :: rest => by
    simp only [seenInCases, MatchCase.seen, namesInCases, List.map_append, Pattern.names_seen,
      namesInSome_seen, namesInBody_seen depth body, namesInCases_seen depth rest]

end

end

end AdjointSynthesis.Code
