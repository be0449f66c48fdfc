import AdjointSynthesis.Code.Grammar.Texts
import AdjointSynthesis.Proofs.Agreement.Terminals

/-!
# Agreement of the rules below

A rule of the grammar goes through other rules.  `Ready` says that these agree behind the origin of
a pairing; a rule that another one begins with is asked for where it is needed.

Two rules are asked for less.  A block agrees only where a statement may begin on both sides, and a
text needs the expressions of its fields to be read alike, which have tokens of their own.
-/

namespace AdjointSynthesis.Code

open Reader

/-! ## Where statements may begin -/

namespace Pairing

/-- Whether a return at the stop is one on both sides. -/
def Silent (p : Pairing) : Prop :=
  (∀ token, p.left.source.tokens[p.stop]? = some token → token.kind ≠ .keyword .return_) ∧
    ∀ token, p.right.source.tokens[p.stop + p.shift]? = some token →
      token.kind ≠ .keyword .return_

/-- Whether no side has a return at a position that the other does not have. -/
def Quiet (p : Pairing) (i : Nat) : Prop := i < p.stop ∨ p.Silent

/-- Whether all positions from one on, at the same level, are quiet. -/
def Calm (p : Pairing) (i : Nat) : Prop := p.level p.stop < p.level i ∨ p.Silent

variable {p : Pairing} {i j : Nat}

lemma Calm.quiet (h : p.Calm i) (hi : i ≤ p.stop) : p.Quiet i := by
  rcases h with h | h
  · refine .inl (Nat.lt_of_le_of_ne hi ?_)
    rintro rfl
    exact absurd h (Int.lt_irrefl _)
  · exact .inr h

lemma Calm.of_level_eq (h : p.Calm i) (hl : p.level j = p.level i) : p.Calm j :=
  h.imp (fun h => hl ▸ h) id

/-- Whether the tokens that stand beside each other are all that there are. -/
structure IsWhole (p : Pairing) : Prop where
  left : p.left.source.tokens[p.stop]? = none
  right : p.right.source.tokens[p.stop + p.shift]? = none

lemma IsWhole.silent (h : p.IsWhole) : p.Silent :=
  ⟨fun _ htoken => by simp [h.left] at htoken, fun _ htoken => by simp [h.right] at htoken⟩

/-- Behind a token that does not end a line the position is quiet. -/
lemma quiet_succ [hp : p.Fair] {token : Token} (hi : i < p.stop)
    (htoken : p.left.source.tokens[i]? = some token) (hk : token.kind.endsLine = false) :
    p.Quiet (i + 1) := by
  by_cases hstop : i + 1 = p.stop
  · rcases hp.parting with ⟨_, _, _, _, h⟩ | ⟨hleft, hright, -⟩
    · have := h.line i token hstop htoken
      simp [hk] at this
    · exact .inr (IsWhole.mk hleft hright).silent
  · exact .inl (by omega)

/-- Behind an indentation all is calm: the stop is not indented more than any line before it. -/
lemma calm_succ [hp : p.Fair] {token : Token} (hi : i ≤ p.stop)
    (htoken : p.left.source.tokens[i]? = some token) (hk : token.kind = .indent) :
    p.Calm (i + 1) := by
  rcases hp.parting with ⟨_, _, _, _, h⟩ | ⟨hleft, hright, -⟩
  · refine .inl ?_
    have hlevel := h.level i hi
    have hsucc := level_succ htoken
    rw [hk] at hsucc
    simp only at hsucc
    omega
  · exact .inr (IsWhole.mk hleft hright).silent

end Pairing

/-! ## Results and rules -/

/-- Two results that agree. -/
def ResultsAgree (p : Pairing) {α ε : Type} [Compared α] : Except ε α → Except ε α → Prop
  | .ok a, .ok b => Compared.alike p a b
  | .error _, .error _ => True
  | _, _ => False

instance comparedArguments : Compared Arguments :=
  ⟨fun p a b => Compared.alike p a.positional b.positional ∧ Compared.alike p a.keywords b.keywords⟩

section

variable {p : Pairing} {a a' : Arguments} {l l' : List Expr} {k k' : List KeywordArgument}
  {line line' : Nat}

instance similar_positional [h : Similar p a a'] : Similar p a.positional a'.positional :=
  ⟨h.alike.1⟩

instance similar_keywordArguments [h : Similar p a a'] : Similar p a.keywords a'.keywords :=
  ⟨h.alike.2⟩

instance similar_arguments [hl : Similar p l l'] [hk : Similar p k k'] :
    Similar p (⟨line, l, k⟩ : Arguments) ⟨line', l', k'⟩ := ⟨hl.alike, hk.alike⟩

end

/-- The rules agree behind the origin. -/
class Ready (p : Pairing) (sub sub' : Grammar) : Prop where
  expression : Agree p true true (sub .expression) (sub' .expression)
  starExpression : Agree p true true (sub .starExpression) (sub' .starExpression)
  disjunction : Agree p true true (sub .disjunction) (sub' .disjunction)
  inversion : Agree p true true (sub .inversion) (sub' .inversion)
  bitwiseOr : Agree p true true (sub .bitwiseOr) (sub' .bitwiseOr)
  factor : Agree p true true (sub .factor) (sub' .factor)
  primary : Agree p true true (sub .primary) (sub' .primary)
  text : Agree p true true (sub .text) (sub' .text)
  arguments : Agree p true true (sub .arguments) (sub' .arguments)
  starTarget : Agree p true true (sub .starTarget) (sub' .starTarget)
  targetAtom : Agree p true true (sub .targetAtom) (sub' .targetAtom)
  targetPrimary : Agree p true true (sub .targetPrimary) (sub' .targetPrimary)
  singleTarget : Agree p true true (sub .singleTarget) (sub' .singleTarget)
  deleteTarget : Agree p true true (sub .deleteTarget) (sub' .deleteTarget)
  pattern : Agree p true true (sub .pattern) (sub' .pattern)
  elifBranch : Agree p true true (sub .elifBranch) (sub' .elifBranch)
  block : Agrees p (fun i => p.starts true i ∧ p.Quiet i) true (sub .block) (sub' .block)
  /-- A field is shorter than its token by a letter, two quotes and two braces at least. -/
  field : ∀ (token other : Token) (before behindBrace expression : List Char),
    p.Matched token other → expression.length + 5 ≤ token.written.length →
      ResultsAgree p
        (readAll (Grammar.starExpressions sub)
          (fieldTokens (fieldPlace token before behindBrace) expression) true)
        (readAll (Grammar.starExpressions sub')
          (fieldTokens (fieldPlace other before behindBrace) expression) true)

attribute [instance] Ready.expression Ready.starExpression Ready.disjunction Ready.inversion
  Ready.bitwiseOr Ready.factor Ready.primary Ready.text Ready.arguments Ready.starTarget
  Ready.targetAtom Ready.targetPrimary Ready.singleTarget Ready.deleteTarget Ready.pattern
  Ready.elifBranch

end AdjointSynthesis.Code
