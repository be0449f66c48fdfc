import AdjointSynthesis.Code.Reader
import AdjointSynthesis.Proofs.Views
import AdjointSynthesis.Text.NormalForm

/-!
# Two readers side by side

A pairing sets two token sequences beside each other: from some position on the tokens of the one
are those of the other, up to a stop, where both may go on in different ways.  Two readers agree
when they find alike values over tokens that stand beside each other, find nothing together and
refuse together.

* `Pairing` and `Pairing.Fair`: what stands beside what, and what makes it a fair comparison.
* `Compared`: when two values are alike.  Trees are alike when they look the same in the views of
  the pairing, other values part by part.
* `Agrees` and `Agree`: the relation between readers.  As a class it is derived for a reader from
  the readers it is put together from.

Readers are compared in the plain mood only.
-/

namespace AdjointSynthesis.Code

/-! ## Pairings -/

/-- Two contexts side by side. -/
structure Pairing where
  left : Context
  right : Context
  leftView : View
  rightView : View
  /-- How many tokens more stand on the right before tokens that stand beside each other. -/
  shift : Nat
  /-- The position on the left from which on nothing is known of the tokens. -/
  stop : Nat
  /-- Readers are compared from here on, or from the position before. -/
  origin : Nat
  /-- What is known of the findings on the left. -/
  keeps : Array (List Finding) → Prop

/-- How far the lines are indented at a position. -/
def levelAt (tokens : Array Token) : Nat → Int
  | 0 => 0
  | position + 1 =>
    match tokens[position]?.map Token.kind with
    | some .indent => levelAt tokens position + 1
    | some .dedent => levelAt tokens position - 1
    | _ => levelAt tokens position

/-- Whether the kind of a token is seen by readers that do not look at the layout of blocks. -/
@[reducible]
def Token.Kind.isOrdinary : Token.Kind → Bool
  | .indent | .dedent | .finish | .keyword .return_ => false
  | _ => true

/-- The kinds of tokens that may stand at the stop of a pairing. -/
def Token.Kind.isClosing : Token.Kind → Bool
  | .dedent | .finish | .keyword .return_ => true
  | _ => false

/-- Whether tokens of a kind may stand before the beginning of a line. -/
def Token.Kind.endsLine : Token.Kind → Bool
  | .newline | .dedent => true
  | _ => false

namespace Pairing

section

variable (p : Pairing)

/-- The level of a position on the left. -/
def level (i : Nat) : Int := levelAt p.left.source.tokens i

/-- The positions at which readers are compared: from the origin on, or also just before it. -/
def starts (later : Bool) (i : Nat) : Prop := if later then p.origin ≤ i else p.origin ≤ i + 1

/-- Two tokens that stand beside each other. -/
structure Beside (token other : Token) : Prop where
  kind : token.kind = other.kind
  written : token.written = other.written
  span : p.leftView.span token.span = p.rightView.span other.span

/-- Two tokens beside each other, at a position where readers are compared. -/
structure Matched (token other : Token) : Prop extends p.Beside token other where
  position : ∃ i < p.stop, p.starts false i ∧ p.left.source.tokens[i]? = some token ∧
    p.right.source.tokens[i + p.shift]? = some other

/-- Two tokens of which each may stand at the stop. -/
structure Parting (token other : Token) : Prop where
  left : token.kind.isClosing
  right : other.kind.isClosing
  span : p.leftView.span token.span = p.rightView.span other.span
  /-- No line before the stop is indented less. -/
  level : ∀ i ≤ p.stop, p.level p.stop ≤ p.level i
  /-- The stop is the beginning of a line. -/
  line : ∀ i token, i + 1 = p.stop → p.left.source.tokens[i]? = some token → token.kind.endsLine

/-- What makes a comparison fair. -/
class Fair : Prop where
  leftPlain : p.left.searching = false
  rightPlain : p.right.searching = false
  /-- Up to the stop tokens stand beside each other. -/
  beside : ∀ i < p.stop, ∃ token other, p.left.source.tokens[i]? = some token ∧
    p.right.source.tokens[i + p.shift]? = some other ∧ p.Beside token other
  /-- At the stop there are either two tokens or none. -/
  parting :
    (∃ token other, p.left.source.tokens[p.stop]? = some token ∧
      p.right.source.tokens[p.stop + p.shift]? = some other ∧ p.Parting token other) ∨
    (p.left.source.tokens[p.stop]? = none ∧ p.right.source.tokens[p.stop + p.shift]? = none ∧
      (p.left.source.ending = .finished ↔ p.right.source.ending = .finished))
  /-- Names are seen alike. -/
  names : ∀ i token, i < p.stop → p.left.source.tokens[i]? = some token → token.kind = .name →
    p.leftView.name (String.ofList (Text.normalForm token.written)) =
      p.rightView.name (String.ofList (Text.normalForm token.written))
  /-- The ends of words are seen alike. -/
  ends : ∀ i ≤ p.stop, p.leftView.place (Reader.wordEnd p.left.source.tokens i) =
    p.rightView.place (Reader.wordEnd p.right.source.tokens (i + p.shift))

end

/-! ### Positions, levels and kinds -/

variable {p : Pairing} {later : Bool}

lemma starts_of_le {i j : Nat} (h : p.starts later i) (hij : i ≤ j) : p.starts later j := by
  cases later <;> simp only [Pairing.starts, if_true, Bool.false_eq_true, if_false] at h ⊢ <;> omega

lemma starts_true_of_lt {i j : Nat} (h : p.starts later i) (hij : i < j) : p.starts true j := by
  cases later <;> simp only [Pairing.starts, if_true, Bool.false_eq_true, if_false] at h ⊢ <;> omega

lemma starts_false {i : Nat} (h : p.starts later i) : p.starts false i := by
  cases later <;> simp only [Pairing.starts, if_true, Bool.false_eq_true, if_false] at h ⊢ <;> omega

lemma Fair.stop_le_left [hp : p.Fair] : p.stop ≤ p.left.source.tokens.size := by
  by_contra h
  obtain ⟨token, -, htoken, -⟩ := hp.beside (p.stop - 1) (by omega)
  have := (Array.getElem?_eq_some_iff.mp htoken).1
  omega

lemma Fair.stop_le_right [hp : p.Fair] : p.stop ≤ p.right.source.tokens.size := by
  by_contra h
  obtain ⟨-, other, -, hother, -⟩ := hp.beside (p.stop - 1) (by omega)
  have := (Array.getElem?_eq_some_iff.mp hother).1
  omega

/-- The level changes at the tokens of layout only. -/
lemma level_succ {i : Nat} {token : Token} (h : p.left.source.tokens[i]? = some token) :
    p.level (i + 1) = match token.kind with
      | .indent => p.level i + 1
      | .dedent => p.level i - 1
      | _ => p.level i := by
  rw [level, levelAt, h, Option.map_some]
  cases token.kind <;> rfl

lemma level_succ_of_isOrdinary {i : Nat} {token : Token}
    (h : p.left.source.tokens[i]? = some token) (hk : token.kind.isOrdinary = true) :
    p.level (i + 1) = p.level i := by
  rw [level_succ h]
  revert hk
  cases token.kind <;> simp [Token.Kind.isOrdinary]

lemma isOrdinary_eq_false {kind : Token.Kind} (h : kind.isClosing = true) :
    kind.isOrdinary = false := by
  unfold Token.Kind.isClosing at h
  split at h <;> simp_all [Token.Kind.isOrdinary]

/-- A token at the stop is not ordinary. -/
lemma Parting.left_ne {token other : Token} {kind : Token.Kind}
    (h : p.Parting token other) (hk : kind.isOrdinary = true) : token.kind ≠ kind := by
  rintro rfl
  simp [isOrdinary_eq_false h.left] at hk

lemma Parting.right_ne {token other : Token} {kind : Token.Kind}
    (h : p.Parting token other) (hk : kind.isOrdinary = true) : other.kind ≠ kind := by
  rintro rfl
  simp [isOrdinary_eq_false h.right] at hk

end Pairing

/-! ## Values that are alike -/

/-- Values that can be compared in a pairing. -/
class Compared (α : Type) where
  alike : Pairing → α → α → Prop

/-- Two values are alike. -/
class Similar (p : Pairing) {α : Type} [Compared α] (a b : α) : Prop where
  alike : Compared.alike p a b

/-- Two values that are alike. -/
structure Twin (p : Pairing) (α : Type) [Compared α] where
  left : α
  right : α
  alike : Compared.alike p left right

instance similar_twin {p : Pairing} {α : Type} [Compared α] (twin : Twin p α) :
    Similar p twin.left twin.right := ⟨twin.alike⟩

section

variable {α β : Type} [Compared α] [Compared β]

instance comparedUnit : Compared Unit := ⟨fun _ a b => a = b⟩
instance comparedBool : Compared Bool := ⟨fun _ a b => a = b⟩
instance comparedNat : Compared Nat := ⟨fun _ a b => a = b⟩
instance comparedChar : Compared Char := ⟨fun _ a b => a = b⟩
instance comparedString : Compared String := ⟨fun _ a b => a = b⟩
instance comparedConstant : Compared Constant := ⟨fun _ a b => a = b⟩
instance comparedTextUnit : Compared TextUnit := ⟨fun _ a b => a = b⟩
instance comparedOperator : Compared BinaryOperator := ⟨fun _ a b => a = b⟩
instance comparedImportedName : Compared ImportedName := ⟨fun _ a b => a = b⟩
instance comparedPlace : Compared Place := ⟨fun p a b => p.leftView.place a = p.rightView.place b⟩
instance comparedSpan : Compared Span := ⟨fun p a b => p.leftView.span a = p.rightView.span b⟩
instance comparedToken : Compared Token := ⟨Pairing.Matched⟩
instance comparedExpr : Compared Expr := ⟨fun p a b => a.seen p.leftView = b.seen p.rightView⟩
instance comparedForm : Compared Form := ⟨fun p a b => a.seen p.leftView = b.seen p.rightView⟩
instance comparedDictItem : Compared DictItem :=
  ⟨fun p a b => a.seen p.leftView = b.seen p.rightView⟩
instance comparedKeyword : Compared KeywordArgument :=
  ⟨fun p a b => a.seen p.leftView = b.seen p.rightView⟩
instance comparedLink : Compared Link := ⟨fun p a b => a.seen p.leftView = b.seen p.rightView⟩
instance comparedClause : Compared Clause := ⟨fun p a b => a.seen p.leftView = b.seen p.rightView⟩
instance comparedParameter : Compared Parameter :=
  ⟨fun p a b => a.seen p.leftView = b.seen p.rightView⟩
instance comparedParameters : Compared Parameters :=
  ⟨fun p a b => a.seen p.leftView = b.seen p.rightView⟩
instance comparedPattern : Compared Pattern :=
  ⟨fun p a b => a.seen p.leftView = b.seen p.rightView⟩
instance comparedManager : Compared Manager :=
  ⟨fun p a b => a.seen p.leftView = b.seen p.rightView⟩
instance comparedStmt : Compared Stmt := ⟨fun p a b => a.seen p.leftView = b.seen p.rightView⟩
instance comparedStmtForm : Compared StmtForm :=
  ⟨fun p a b => a.seen p.leftView = b.seen p.rightView⟩
instance comparedHandler : Compared Handler :=
  ⟨fun p a b => a.seen p.leftView = b.seen p.rightView⟩
instance comparedCase : Compared MatchCase :=
  ⟨fun p a b => a.seen p.leftView = b.seen p.rightView⟩
instance comparedList : Compared (List α) := ⟨fun p => List.Forall₂ (Compared.alike p)⟩
instance comparedOption : Compared (Option α) := ⟨fun p => Option.Rel (Compared.alike p)⟩
instance comparedProd : Compared (α × β) :=
  ⟨fun p a b => Compared.alike p a.1 b.1 ∧ Compared.alike p a.2 b.2⟩

end

/-! ## Outcomes and readers that agree -/

namespace Reader

variable {α β : Type} [Compared α] [Compared β] {p : Pairing}

/-- Two outcomes that agree, of readers at a position.  A strict reader takes a token whenever it
finds something. -/
def OutcomesAgree (p : Pairing) (strict : Bool) (i : Nat) : Outcome α → Outcome α → Prop
  | .found a j, .found b k =>
    Compared.alike p a b ∧ k = j + p.shift ∧ i ≤ j ∧ (strict = true → i < j) ∧ j ≤ p.stop ∧
      p.level j = p.level i
  | .nothing, .nothing => True
  | .refused _ _, .refused _ _ => True
  | _, _ => False

/-- Two readers agree at some positions. -/
def Agrees (p : Pairing) (at_ : Nat → Prop) (strict : Bool) (reader other : Reader α) : Prop :=
  ∀ i progress progress', at_ i → i ≤ p.stop → p.keeps progress.findings →
    p.keeps (reader p.left i progress).2.findings ∧
      OutcomesAgree p strict i (reader p.left i progress).1
        (other p.right (i + p.shift) progress').1

/-- Two readers agree where readers are compared. -/
class Agree (p : Pairing) (later : Bool) (strict : outParam Bool) (reader other : Reader α) :
    Prop where
  agrees : Agrees p (p.starts later) strict reader other

end Reader

end AdjointSynthesis.Code
