import AdjointSynthesis.Code.Fault
import AdjointSynthesis.Code.Tree

/-!
# Tokens

The words that a program is made of.  A token has a kind, the characters it is written with, its
span, and the number of brackets that stand open behind it.  Line ends and changes of indentation
are tokens as well; comments and blank lines are not.
-/

namespace AdjointSynthesis.Code

/-- The reserved words. -/
inductive Keyword where
  | and_ | as_ | assert_ | async_ | await_ | break_ | class_ | continue_ | def_ | del_ | elif_
  | else_ | except_ | false_ | finally_ | for_ | from_ | global_ | if_ | import_ | in_ | is_
  | lambda_ | none_ | nonlocal_ | not_ | or_ | pass_ | raise_ | return_ | true_ | try_ | while_
  | with_ | yield_
deriving DecidableEq, Repr

/-- The reserved words with their spelling. -/
def Keyword.spellings : List (List Char × Keyword) := [
  ("and".toList, .and_), ("as".toList, .as_), ("assert".toList, .assert_),
  ("async".toList, .async_), ("await".toList, .await_), ("break".toList, .break_),
  ("class".toList, .class_), ("continue".toList, .continue_), ("def".toList, .def_),
  ("del".toList, .del_), ("elif".toList, .elif_), ("else".toList, .else_),
  ("except".toList, .except_), ("False".toList, .false_), ("finally".toList, .finally_),
  ("for".toList, .for_), ("from".toList, .from_), ("global".toList, .global_),
  ("if".toList, .if_), ("import".toList, .import_), ("in".toList, .in_), ("is".toList, .is_),
  ("lambda".toList, .lambda_), ("None".toList, .none_), ("nonlocal".toList, .nonlocal_),
  ("not".toList, .not_), ("or".toList, .or_), ("pass".toList, .pass_), ("raise".toList, .raise_),
  ("return".toList, .return_), ("True".toList, .true_), ("try".toList, .try_),
  ("while".toList, .while_), ("with".toList, .with_), ("yield".toList, .yield_)]

/-- The reserved word with a spelling. -/
def Keyword.ofSpelling? (word : List Char) : Option Keyword :=
  (Keyword.spellings.find? fun entry => entry.1 == word).map Prod.snd

/-- Operators and punctuation. -/
inductive Mark where
  | openParen | closeParen | openBracket | closeBracket | openBrace | closeBrace
  | colon | comma | semicolon | dot | ellipsis | arrow | at_ | assign | walrus
  | plus | minus | star | slash | doubleSlash | percent | doubleStar
  | ampersand | bar | caret | tilde | shiftLeft | shiftRight
  | less | greater | lessEqual | greaterEqual | equal | notEqual | lessGreater
  | augmented (operator : BinaryOperator)
deriving DecidableEq, Repr

/-- The kinds of tokens. -/
inductive Token.Kind where
  | name
  | number
  | text
  | keyword (word : Keyword)
  | mark (mark : Mark)
  | newline
  | indent
  | dedent
  | finish
  /-- A printable character that no program uses outside texts and comments. -/
  | stray
deriving DecidableEq, Repr

/-- A token. -/
structure Token where
  kind : Token.Kind
  written : List Char
  span : Span
  /-- How many brackets stand open behind the token. -/
  depth : Nat
deriving Repr

/-- Whether a token stands for layout and not for a word of the text. -/
def Token.isLayout (token : Token) : Bool :=
  match token.kind with
  | .newline | .indent | .dedent | .finish => true
  | _ => false

/-- An opening bracket and the line it stands on. -/
structure Bracket where
  opening : Char
  line : Nat
deriving DecidableEq, Repr

/-- How a text ends as a sequence of tokens. -/
inductive Ending where
  /-- All of the text was cut into tokens. -/
  | finished
  /-- The text breaks off.  A sharp fault lies in the characters themselves and also counts when
  the grammar gives up before it; others count only for a reader that gets there.  The bracket is
  the innermost one open at that place. -/
  | broken (fault : Fault) (sharp : Bool) (bracket : Option Bracket)
deriving DecidableEq, Repr

/-- The tokens of a text and how it ends. -/
structure TokenSequence where
  tokens : Array Token
  ending : Ending

end AdjointSynthesis.Code
