import AdjointSynthesis.Code.Tree

/-!
# Occurrences of names

Every place where a program mentions a variable.  An occurrence remembers its name, its place and
how deep in the tree it stands; two occurrences can share a place, and then the one that is less
deep comes first.

* `Stmt.names` lists the occurrences of a statement in the order of its tree.
* `inOrder` sorts occurrences by place.
-/

namespace AdjointSynthesis.Code

/-- A variable mentioned at a place. -/
structure Occurrence where
  name : String
  place : Place
  depth : Nat
deriving DecidableEq, Repr

/-! ## Occurrences in expressions -/

mutual

/-- The occurrences in an expression. -/
def Expr.names (depth : Nat) : Expr → List Occurrence
  | .mk span (.name id) => [⟨id, span.start, depth⟩]
  | .mk _ (.constant _) => []
  | .mk _ (.template parts) => namesIn (depth + 1) parts
  | .mk _ (.field value _ format) => value.names (depth + 1) ++ namesInSome (depth + 1) format
  | .mk _ (.tuple items) => namesIn (depth + 1) items
  | .mk _ (.list items) => namesIn (depth + 1) items
  | .mk _ (.set items) => namesIn (depth + 1) items
  | .mk _ (.dict items) => namesInKeys (depth + 1) items ++ namesInValues (depth + 1) items
  | .mk _ (.subscript value index) => value.names (depth + 1) ++ index.names (depth + 1)
  | .mk _ (.attribute value _) => value.names (depth + 1)
  | .mk _ (.slice lower upper step) =>
    namesInSome (depth + 1) lower ++ namesInSome (depth + 1) upper ++ namesInSome (depth + 1) step
  | .mk _ (.starred value) => value.names (depth + 1)
  | .mk _ (.call function positional keywords) =>
    function.names (depth + 1) ++ namesIn (depth + 1) positional ++
      namesInKeywords (depth + 2) keywords
  | .mk _ (.unary _ operand) => operand.names (depth + 1)
  | .mk _ (.binary _ left right) => left.names (depth + 1) ++ right.names (depth + 1)
  | .mk _ (.junction _ operands) => namesIn (depth + 1) operands
  | .mk _ (.comparison first links) => first.names (depth + 1) ++ namesInLinks (depth + 1) links
  | .mk _ (.conditional condition yes no) =>
    condition.names (depth + 1) ++ yes.names (depth + 1) ++ no.names (depth + 1)
  | .mk _ (.lambda parameters body) => parameters.names (depth + 2) ++ body.names (depth + 1)
  | .mk _ (.assignment target value) => target.names (depth + 1) ++ value.names (depth + 1)
  | .mk _ (.listComprehension item clauses) =>
    item.names (depth + 1) ++ namesInClauses (depth + 2) clauses
  | .mk _ (.setComprehension item clauses) =>
    item.names (depth + 1) ++ namesInClauses (depth + 2) clauses
  | .mk _ (.dictComprehension key value clauses) =>
    key.names (depth + 1) ++ value.names (depth + 1) ++ namesInClauses (depth + 2) clauses
  | .mk _ (.generator item clauses) =>
    item.names (depth + 1) ++ namesInClauses (depth + 2) clauses
  | .mk _ (.await value) => value.names (depth + 1)
  | .mk _ (.yield value) => namesInSome (depth + 1) value
  | .mk _ (.yieldFrom value) => value.names (depth + 1)

/-- The occurrences in some expressions. -/
def namesIn (depth : Nat) : List Expr → List Occurrence
  | [] => []
  | item :: rest => item.names depth ++ namesIn depth rest

/-- The occurrences in an expression that may be missing. -/
def namesInSome (depth : Nat) : Option Expr → List Occurrence
  | none => []
  | some value => value.names depth

/-- The occurrences in expressions of which any may be missing. -/
def namesInAny (depth : Nat) : List (Option Expr) → List Occurrence
  | [] => []
  | value :: rest => namesInSome depth value ++ namesInAny depth rest

/-- The occurrences in the keys of a dictionary. -/
def namesInKeys (depth : Nat) : List DictItem → List Occurrence
  | [] => []
  | .pair key _ :: rest => key.names depth ++ namesInKeys depth rest
  | .spread _ :: rest => namesInKeys depth rest

/-- The occurrences in the values of a dictionary. -/
def namesInValues (depth : Nat) : List DictItem → List Occurrence
  | [] => []
  | .pair _ value :: rest => value.names depth ++ namesInValues depth rest
  | .spread value :: rest => value.names depth ++ namesInValues depth rest

/-- The occurrences in arguments passed by keyword. -/
def namesInKeywords (depth : Nat) : List KeywordArgument → List Occurrence
  | [] => []
  | .mk _ _ value :: rest => value.names depth ++ namesInKeywords depth rest

/-- The occurrences in the links of a comparison. -/
def namesInLinks (depth : Nat) : List Link → List Occurrence
  | [] => []
  | .mk _ operand :: rest => operand.names depth ++ namesInLinks depth rest

/-- The occurrences in the clauses of a comprehension. -/
def namesInClauses (depth : Nat) : List Clause → List Occurrence
  | [] => []
  | .mk _ target source conditions :: rest =>
    target.names depth ++ source.names depth ++ namesIn depth conditions ++
      namesInClauses depth rest

/-- The occurrences in the annotations of some parameters. -/
def namesInParameters (depth : Nat) : List Parameter → List Occurrence
  | [] => []
  | .mk _ _ hint :: rest => namesInSome depth hint ++ namesInParameters depth rest

/-- The occurrences in the annotation of a parameter that may be missing. -/
def namesInParameter (depth : Nat) : Option Parameter → List Occurrence
  | none => []
  | some (.mk _ _ hint) => namesInSome depth hint

/-- The occurrences in the annotations and defaults of parameters. -/
def Parameters.names (depth : Nat) : Parameters → List Occurrence
  | .mk positionalOnly positional variadic keywordOnly keywordDefaults keywords defaults =>
    namesInParameters (depth + 1) positionalOnly ++ namesInParameters (depth + 1) positional ++
      namesInParameter (depth + 1) variadic ++ namesInParameters (depth + 1) keywordOnly ++
      namesInAny depth keywordDefaults ++ namesInParameter (depth + 1) keywords ++
      namesIn depth defaults

end

/-! ## Occurrences in patterns -/

mutual

/-- The occurrences in a pattern; the names that it binds do not count. -/
def Pattern.names (depth : Nat) : Pattern → List Occurrence
  | .value _ value => value.names (depth + 1)
  | .singleton _ _ => []
  | .sequence _ items => namesInPatterns (depth + 1) items
  | .mapping _ keys items _ => namesIn (depth + 1) keys ++ namesInPatterns (depth + 1) items
  | .record _ type positional _ named =>
    type.names (depth + 1) ++ namesInPatterns (depth + 1) positional ++
      namesInPatterns (depth + 1) named
  | .star _ _ => []
  | .capture _ none _ => []
  | .capture _ (some inner) _ => inner.names (depth + 1)
  | .choice _ options => namesInPatterns (depth + 1) options

/-- The occurrences in some patterns. -/
def namesInPatterns (depth : Nat) : List Pattern → List Occurrence
  | [] => []
  | item :: rest => item.names depth ++ namesInPatterns depth rest

end

/-! ## Occurrences in statements -/

/-- The occurrences in the managers of a with statement. -/
def namesInManagers (depth : Nat) (managers : List Manager) : List Occurrence :=
  managers.flatMap fun manager =>
    manager.value.names depth ++ namesInSome depth manager.target

mutual

/-- The occurrences in a statement. -/
def Stmt.names (depth : Nat) : Stmt → List Occurrence
  | .mk _ (.function _ _ parameters body decorators returns) =>
    parameters.names (depth + 2) ++ namesInBody (depth + 1) body ++
      namesIn (depth + 1) decorators ++ namesInSome (depth + 1) returns
  | .mk _ (.classDefinition _ bases keywords body decorators) =>
    namesIn (depth + 1) bases ++ namesInKeywords (depth + 2) keywords ++
      namesInBody (depth + 1) body ++ namesIn (depth + 1) decorators
  | .mk _ (.returning value) => namesInSome (depth + 1) value
  | .mk _ (.delete targets) => namesIn (depth + 1) targets
  | .mk _ (.assign targets value) => namesIn (depth + 1) targets ++ value.names (depth + 1)
  | .mk _ (.augment target _ value) => target.names (depth + 1) ++ value.names (depth + 1)
  | .mk _ (.annotate target hint value _) =>
    target.names (depth + 1) ++ hint.names (depth + 1) ++ namesInSome (depth + 1) value
  | .mk _ (.forLoop _ target source body otherwise) =>
    target.names (depth + 1) ++ source.names (depth + 1) ++ namesInBody (depth + 1) body ++
      namesInBody (depth + 1) otherwise
  | .mk _ (.whileLoop condition body otherwise) =>
    condition.names (depth + 1) ++ namesInBody (depth + 1) body ++
      namesInBody (depth + 1) otherwise
  | .mk _ (.branch condition body otherwise) =>
    condition.names (depth + 1) ++ namesInBody (depth + 1) body ++
      namesInBody (depth + 1) otherwise
  | .mk _ (.withBlock _ managers body) =>
    namesInManagers (depth + 2) managers ++ namesInBody (depth + 1) body
  | .mk _ (.matching subject cases) =>
    subject.names (depth + 1) ++ namesInCases (depth + 2) cases
  | .mk _ (.raising exception cause) =>
    namesInSome (depth + 1) exception ++ namesInSome (depth + 1) cause
  | .mk _ (.trying _ body handlers otherwise finally_) =>
    namesInBody (depth + 1) body ++ namesInHandlers (depth + 2) handlers ++
      namesInBody (depth + 1) otherwise ++ namesInBody (depth + 1) finally_
  | .mk _ (.assertion condition message) =>
    condition.names (depth + 1) ++ namesInSome (depth + 1) message
  | .mk _ (.importing _) => []
  | .mk _ (.importingFrom _ _ _) => []
  | .mk _ (.declareGlobal _) => []
  | .mk _ (.declareNonlocal _) => []
  | .mk _ (.expression value) => value.names (depth + 1)
  | .mk _ .pass => []
  | .mk _ .breaking => []
  | .mk _ .continuing => []

/-- The occurrences in some statements. -/
def namesInBody (depth : Nat) : List Stmt → List Occurrence
  | [] => []
  | stmt :: rest => stmt.names depth ++ namesInBody depth rest

/-- The occurrences in the handlers of a try statement. -/
def namesInHandlers (depth : Nat) : List Handler → List Occurrence
  | [] => []
  | .mk _ type _ body :: rest =>
    namesInSome depth type ++ namesInBody depth body ++ namesInHandlers depth rest

/-- The occurrences in the cases of a match. -/
def namesInCases (depth : Nat) : List MatchCase → List Occurrence
  | [] => []
  | .mk pattern guard_ body :: rest =>
    pattern.names depth ++ namesInSome depth guard_ ++ namesInBody depth body ++
      namesInCases depth rest

end

/-! ## The order of occurrences -/

/-- Whether an occurrence comes strictly before another: by place, then by depth. -/
def Occurrence.before (a b : Occurrence) : Bool :=
  a.place.before b.place || (!b.place.before a.place && Nat.blt a.depth b.depth)

/-- Puts an item before the first one that it comes before. -/
def insertBefore {α : Type} (before : α → α → Bool) (item : α) : List α → List α
  | [] => [item]
  | first :: rest =>
    if before item first then item :: first :: rest
    else first :: insertBefore before item rest

/-- The items in order.  Items of which neither comes before the other stay as they are. -/
def sorted {α : Type} (before : α → α → Bool) (items : List α) : List α :=
  items.foldl (fun found item => insertBefore before item found) []

/-- The occurrences sorted by place. -/
def inOrder (occurrences : List Occurrence) : List Occurrence :=
  sorted Occurrence.before occurrences

theorem mem_insertBefore {α : Type} (before : α → α → Bool) (item other : α) (items : List α) :
    other ∈ insertBefore before item items ↔ other = item ∨ other ∈ items := by
  induction items with
  | nil => simp [insertBefore]
  | cons first rest ih =>
    rw [insertBefore]
    split
    · simp
    · simp only [List.mem_cons, ih]
      exact ⟨fun h => by rcases h with h | h | h <;> simp [h],
        fun h => by rcases h with h | h | h <;> simp [h]⟩

theorem mem_sorted {α : Type} (before : α → α → Bool) (item : α) (items : List α) :
    item ∈ sorted before items ↔ item ∈ items := by
  have step (items found : List α) :
      item ∈ items.foldl (fun found item => insertBefore before item found) found ↔
        item ∈ found ∨ item ∈ items := by
    induction items generalizing found with
    | nil => simp
    | cons first rest ih =>
      simp only [List.foldl_cons, ih, mem_insertBefore, List.mem_cons]
      exact ⟨fun h => by rcases h with (h | h) | h <;> simp [h],
        fun h => by rcases h with h | h | h <;> simp [h]⟩
  simpa [sorted] using step items []

end AdjointSynthesis.Code
