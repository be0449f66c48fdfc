import AdjointSynthesis.Code.Literal
import Mathlib.Tactic.Common

/-!
# What a token sequence holds

* Each token takes at least one character of the text, so the tokens weigh no more than the text
  is long (`weigh_ofLines`).
* A token that is a name is written as one (`isName_of_mem_ofLines`).
-/

namespace AdjointSynthesis.Code

/-! ## How far a token reaches -/

lemma eq_ok_of_bind {α β ε : Type} {result : Except ε α} {f : α → Except ε β} {b : β}
    (h : result.bind f = .ok b) : ∃ a, result = .ok a ∧ f a = .ok b := by
  cases result with
  | error e => cases h
  | ok a => exact ⟨a, rfl, h⟩

lemma length_lineTextEnd {quote : Char} {text behind : List Char}
    (h : lineTextEnd quote text = .ok behind) : behind.length ≤ text.length := by
  fun_induction lineTextEnd quote text <;> grind

lemma length_blockTextEnd {quote : Char} {text behind : List Char}
    (h : blockTextEnd quote text = .ok behind) : behind.length ≤ text.length := by
  fun_induction blockTextEnd quote text <;> grind

lemma length_textEnd {line : Nat} {text behind : List Char}
    (h : textEnd line text = .ok behind) : behind.length < text.length := by
  unfold textEnd at h
  split at h
  · next a b c rest =>
    simp only [List.length_cons]
    split at h
    · split at h
      · next heq => have := length_blockTextEnd heq; grind
      · cases h
    · split at h
      · grind
      · split at h
        · next heq => have := length_lineTextEnd heq; grind
        · cases h
  · grind
  · cases h

lemma length_endNumber {kind : NumberKind} {text behind : List Char}
    (h : endNumber kind text = .ok behind) : behind.length ≤ text.length := by
  unfold endNumber at h
  grind

lemma length_decimalTail {text behind : List Char} (h : decimalTail text = .ok behind) :
    behind.length ≤ text.length := by
  fun_induction decimalTail text <;> grind

lemma length_radixTail {isDigit : Char → Bool} {bad : Char → Cause} {text behind : List Char}
    (h : radixTail isDigit bad text = .ok behind) : behind.length ≤ text.length := by
  fun_induction radixTail isDigit bad text <;> grind

lemma length_radixDigits {isDigit : Char → Bool} {bad : Char → Cause} {text behind : List Char}
    (h : radixDigits isDigit bad text = .ok behind) : behind.length ≤ text.length := by
  unfold radixDigits at h
  grind [→ length_radixTail]

lemma length_endRadix {kind : NumberKind} {text behind : List Char}
    (h : endRadix kind text = .ok behind) : behind.length ≤ text.length := by
  unfold endRadix at h
  grind [→ length_endNumber]

lemma length_endDecimal {text behind : List Char} (h : endDecimal text = .ok behind) :
    behind.length ≤ text.length := by
  unfold endDecimal at h
  grind [→ length_endNumber]

lemma length_exponentTail {text behind : List Char} (h : exponentTail text = .ok behind) :
    behind.length ≤ text.length := by
  unfold exponentTail at h
  grind [→ length_endNumber, → eq_ok_of_bind, → length_decimalTail, → length_endDecimal]

lemma length_fractionTail {text behind : List Char} (h : fractionTail text = .ok behind) :
    behind.length ≤ text.length := by
  unfold fractionTail at h
  grind [→ eq_ok_of_bind, → length_decimalTail, → length_exponentTail]

lemma length_zerosTail {text behind : List Char} (h : zerosTail text = .ok behind) :
    behind.length ≤ text.length := by
  fun_induction zerosTail text <;> grind

lemma length_wholeTail {text behind : List Char} (h : wholeTail text = .ok behind) :
    behind.length ≤ text.length := by
  unfold wholeTail at h
  grind [→ length_fractionTail, → length_exponentTail]

lemma length_zeroTail {text behind : List Char} (h : zeroTail text = .ok behind) :
    behind.length ≤ text.length := by
  unfold zeroTail at h
  obtain ⟨zeros, hzeros, h⟩ := eq_ok_of_bind h
  have := length_zerosTail hzeros
  split at h
  · grind
  · next c more =>
    split at h
    · obtain ⟨digits, hdigits, h⟩ := eq_ok_of_bind h
      have := length_decimalTail hdigits
      grind [→ length_wholeTail]
    · grind [→ length_wholeTail, → length_endNumber]

lemma length_numberTail {c : Char} {text behind : List Char}
    (h : numberTail (c :: text) = .ok behind) : behind.length ≤ text.length := by
  unfold numberTail at h
  grind [→ eq_ok_of_bind, → length_radixDigits, → length_endRadix, → length_endNumber,
    → length_zeroTail, → length_fractionTail, → length_decimalTail, → length_wholeTail]

lemma length_markAt? {text behind : List Char} {kind : Token.Kind}
    (h : markAt? text = some (kind, behind)) : behind.length < text.length := by
  unfold markAt? at h
  grind [augmentedMark]

lemma length_dropWhile_lt {test : Char → Bool} {c : Char} {text : List Char} (h : test c = true) :
    ((c :: text).dropWhile test).length ≤ text.length := by
  rw [List.dropWhile_cons_of_pos h]
  exact (List.dropWhile_suffix test).length_le

lemma isWordPart_of_isWordStart {c : Char} (h : isWordStart c = true) : isWordPart c = true := by
  unfold isWordStart at h
  unfold isWordPart Char.isAlphanum
  simp only [Bool.or_eq_true] at h ⊢
  tauto

/-- A token takes at least one character. -/
lemma length_lexeme {line : Nat} {c : Char} {text behind : List Char} {kind : Token.Kind}
    (h : lexeme line (c :: text) = .ok (kind, behind)) : behind.length ≤ text.length := by
  unfold lexeme at h
  split at h
  · obtain ⟨found, hfound, heq⟩ := eq_ok_of_bind h
    cases heq
    have := length_textEnd hfound
    rw [List.length_drop, List.length_cons] at this
    omega
  · dsimp only at h
    split at h
    · next hstart =>
      split at h
      · cases h
      · cases h
        exact length_dropWhile_lt (isWordPart_of_isWordStart hstart)
    · split at h
      · obtain ⟨found, hfound, heq⟩ := eq_ok_of_bind h
        cases heq
        exact length_numberTail hfound
      · split at h
        · next found hfound =>
          cases h
          have := length_markAt? hfound
          rw [List.length_cons] at this
          omega
        · split at h
          · cases h
            exact Nat.le_refl _
          · cases h

/-! ## Cursors -/

namespace Cursor

lemma rest_skip (count : Nat) (cursor : Cursor) :
    (cursor.skip count).rest = cursor.rest.drop count := by
  induction count generalizing cursor with
  | zero => rfl
  | succ count ih =>
    rw [skip, ih]
    rcases cursor with ⟨_ | ⟨c, rest⟩, line, column⟩
    · simp [next]
    · by_cases h : c = '\n' <;> simp [next, h]

lemma rest_next {cursor : Cursor} {c : Char} {rest : List Char} (h : cursor.rest = c :: rest) :
    cursor.next.rest = rest := by
  rcases cursor with ⟨_, line, column⟩
  subst h
  by_cases h : c = '\n' <;> simp [next, h]

end Cursor

/-! ## The weight of tokens -/

/-- The weight of a token: two for each of its characters, but at least one. -/
def Token.weight (token : Token) : Nat := max 1 (2 * token.written.length)

/-- The weight of some tokens. -/
def weigh : List Token → Nat
  | [] => 0
  | token :: rest => token.weight + weigh rest

lemma weigh_cons (token : Token) (tokens : List Token) :
    weigh (token :: tokens) = token.weight + weigh tokens := rfl

lemma weigh_append (tokens more : List Token) :
    weigh (tokens ++ more) = weigh tokens + weigh more := by
  induction tokens with
  | nil => exact (Nat.zero_add _).symm
  | cons token rest ih => rw [List.cons_append, weigh_cons, weigh_cons, ih, Nat.add_assoc]

lemma Token.one_le_weight (token : Token) : 1 ≤ token.weight := Nat.le_max_left _ _

lemma weigh_layout (kinds : List Token.Kind) (place : Place) :
    weigh (kinds.map fun kind => (⟨kind, [], ⟨place, place⟩, 0⟩ : Token)) = kinds.length := by
  induction kinds with
  | nil => rfl
  | cons kind rest ih =>
    rw [List.map_cons, weigh_cons, ih, List.length_cons, Nat.add_comm]
    rfl

/-- The indentation takes a character when it is not empty. -/
lemma length_indentation {line column wide narrow fixed : Nat} {text : List Char}
    {own : Indentation} {cursor : Cursor}
    (h : indentation line column wide narrow fixed text = .ok (own, cursor)) :
    cursor.rest.length ≤ text.length ∧
      (0 < own.wide → 0 < wide ∨ 0 < fixed ∨ cursor.rest.length < text.length) := by
  fun_induction indentation line column wide narrow fixed text <;> grind

lemma length_closeIndents (wide : Nat) (open_ : List Indentation) :
    (closeIndents wide open_).1 + (closeIndents wide open_).2.length = open_.length := by
  fun_induction closeIndents wide open_ <;> grind

/-- The tokens of layout are paid for by the indentation and by the indentations open before. -/
lemma length_indentTokens {open_ left : List Indentation} {own : Indentation}
    {kinds : List Token.Kind} (h : indentTokens open_ own = .ok (kinds, left)) :
    kinds.length + left.length ≤ open_.length + if 0 < own.wide then 2 else 0 := by
  have hclose := length_closeIndents own.wide open_
  unfold indentTokens at h
  grind

/-- Scanning adds no more than two for each character, one for each open indentation and one for
the end. -/
lemma weigh_scan (fuel : Nat) (stand : Stand) (indents : List Indentation)
    (brackets : List Bracket) (cursor : Cursor) (tokens : List Token) :
    weigh (scan fuel stand indents brackets cursor tokens).1 ≤
      weigh tokens + 2 * cursor.rest.length + indents.length + 1 := by
  fun_induction scan fuel stand indents brackets cursor tokens
  case case3 hindent _ _ ih =>
    have := (length_indentation hindent).1
    omega
  case case5 fuel indents brackets cursor tokens own behind hindent _ _ kinds left hkinds _ _ ih =>
    have ⟨hle, hlt⟩ := length_indentation hindent
    have hlayout := length_indentTokens hkinds
    rw [weigh_append, weigh_layout] at ih
    split at hlayout <;> omega
  case case6 =>
    rw [weigh_cons]
    simp only [Token.weight, List.length_nil]
    omega
  case case8 hrest _ ih =>
    rw [Cursor.rest_next hrest] at ih
    rw [hrest, List.length_cons]
    omega
  case case9 ih =>
    rw [Cursor.rest_skip, List.length_drop] at ih
    omega
  case case10 fuel blank indents brackets cursor tokens rest token hrest _ _ ih =>
    have hone : weigh (if (blank || !brackets.isEmpty) = true then tokens else token :: tokens) ≤
        weigh tokens + 1 := by
      split
      · exact Nat.le_succ _
      · exact Nat.le_of_eq (Nat.add_comm _ _)
    rw [Cursor.rest_next hrest] at ih
    rw [hrest, List.length_cons]
    omega
  case case12 hrest ih =>
    rw [Cursor.rest_next (Cursor.rest_next hrest)] at ih
    rw [hrest, List.length_cons, List.length_cons]
    omega
  case case16 fuel blank indents brackets cursor tokens c rest hrest _ _ _ _ kind behind hlexeme _ _
      count next token ih =>
    have hcount : count = cursor.rest.length - behind.length := rfl
    have htoken : token.weight = max 1 (2 * (cursor.rest.take count).length) := rfl
    rw [hrest] at hlexeme
    have hlen := length_lexeme hlexeme
    rw [List.length_take] at htoken
    rw [Cursor.rest_skip, List.length_drop, weigh_cons] at ih
    rw [hrest, List.length_cons] at htoken hcount ih ⊢
    omega
  all_goals
    dsimp only
    omega

/-! ## The tokens of whole texts -/

lemma length_unifyNewlines (text : List Char) : (Text.unifyNewlines text).length ≤ text.length := by
  fun_induction Text.unifyNewlines text <;> grind

lemma length_uniformLines (text : List Char) : (uniformLines text).length ≤ text.length + 1 := by
  have := length_unifyNewlines text
  unfold uniformLines
  grind

lemma tokens_ofLines (line : Nat) (text : List Char) :
    (TokenSequence.ofLines line text).tokens.toList =
      (scan (2 * (uniformLines text).length + 4) .lineStart [] [] ⟨uniformLines text, line, 0⟩
        []).1.reverse := rfl

/-- The tokens of a text weigh no more than twice as much as it is long, but for its end. -/
theorem weigh_ofLines (line : Nat) (text : List Char) :
    weigh (TokenSequence.ofLines line text).tokens.toList ≤ 2 * text.length + 3 := by
  have hlen := length_uniformLines text
  have hscan := weigh_scan (2 * (uniformLines text).length + 4) .lineStart [] []
    ⟨uniformLines text, line, 0⟩ []
  have hreverse (tokens : List Token) : weigh tokens.reverse = weigh tokens := by
    induction tokens with
    | nil => rfl
    | cons token rest ih =>
      rw [List.reverse_cons, weigh_append, weigh_cons, weigh_cons, ih]
      exact Nat.add_comm _ _
  rw [tokens_ofLines, hreverse]
  simp only [weigh, List.length_nil] at hscan ⊢
  omega

/-! ## Names -/

/-- Whether a word is a name. -/
def IsName (word : List Char) : Prop :=
  word ≠ [] ∧ word.all isWordPart = true ∧ badCharacter? word = none ∧ wordKind word = .name

lemma take_takeWhile (test : Char → Bool) (text : List Char) :
    text.take (text.length - (text.dropWhile test).length) = text.takeWhile test := by
  have hlen := congrArg List.length (List.takeWhile_append_dropWhile (p := test) (l := text))
  rw [List.length_append] at hlen
  have hcount : text.length - (text.dropWhile test).length = (text.takeWhile test).length := by omega
  rw [hcount]
  exact (List.prefix_iff_eq_take.mp (List.takeWhile_prefix test)).symm

lemma exists_mark_of_markAt? {text behind : List Char} {kind : Token.Kind}
    (h : markAt? text = some (kind, behind)) : ∃ sign, kind = .mark sign := by
  unfold markAt? at h
  grind [augmentedMark]

/-- The kinds of tokens that stand for layout. -/
def Token.Kind.layout : List Token.Kind := [.newline, .indent, .dedent, .finish]

/-- A token that is read from the text is no layout. -/
lemma notMem_layout_of_lexeme {line : Nat} {c : Char} {text behind : List Char} {kind : Token.Kind}
    (h : lexeme line (c :: text) = .ok (kind, behind)) : kind ∉ Token.Kind.layout := by
  intro hlayout
  unfold lexeme at h
  split at h
  · obtain ⟨found, hfound, heq⟩ := eq_ok_of_bind h
    cases heq
    exact absurd hlayout (by decide)
  · dsimp only at h
    split at h
    · split at h
      · cases h
      · simp only [Except.ok.injEq, Prod.mk.injEq, wordKind] at h
        obtain ⟨rfl, -⟩ := h
        split at hlayout <;> simp [Token.Kind.layout] at hlayout
    · split at h
      · obtain ⟨found, hfound, heq⟩ := eq_ok_of_bind h
        cases heq
        exact absurd hlayout (by decide)
      · split at h
        · next found hfound =>
          cases h
          obtain ⟨_, rfl⟩ := exists_mark_of_markAt? hfound
          simp [Token.Kind.layout] at hlayout
        · split at h
          · cases h
            exact absurd hlayout (by decide)
          · cases h

lemma isName_of_lexeme {line : Nat} {c : Char} {text behind : List Char}
    (h : lexeme line (c :: text) = .ok (.name, behind)) :
    IsName ((c :: text).take ((c :: text).length - behind.length)) := by
  unfold lexeme at h
  split at h
  · obtain ⟨found, hfound, heq⟩ := eq_ok_of_bind h
    cases heq
  · dsimp only at h
    split at h
    · next hstart =>
      split at h
      · cases h
      · next hbad =>
        simp only [Except.ok.injEq, Prod.mk.injEq] at h
        obtain ⟨hkind, rfl⟩ := h
        rw [take_takeWhile]
        refine ⟨?_, List.all_takeWhile, hbad, hkind⟩
        rw [List.takeWhile_cons_of_pos (isWordPart_of_isWordStart hstart)]
        exact List.cons_ne_nil _ _
    · split at h
      · obtain ⟨found, hfound, heq⟩ := eq_ok_of_bind h
        cases heq
      · split at h
        · next found hfound =>
          cases h
          obtain ⟨_, hkind⟩ := exists_mark_of_markAt? hfound
          cases hkind
        · split at h <;> cases h

lemma eq_of_mem_indentTokens {open_ left : List Indentation} {own : Indentation}
    {kinds : List Token.Kind} (h : indentTokens open_ own = .ok (kinds, left)) :
    ∀ kind ∈ kinds, kind = .indent ∨ kind = .dedent := by
  intro kind hkind
  unfold indentTokens at h
  dsimp only at h
  split_ifs at h <;> cases h
  · cases hkind
  · exact .inl (List.mem_singleton.mp hkind)
  · exact .inr (List.eq_of_mem_replicate hkind)

/-- The names among the tokens of a scan are written as names. -/
lemma isName_of_mem_scan (fuel : Nat) (stand : Stand) (indents : List Indentation)
    (brackets : List Bracket) (cursor : Cursor) (tokens : List Token)
    (htokens : ∀ token ∈ tokens, token.kind = .name → IsName token.written) :
    ∀ token ∈ (scan fuel stand indents brackets cursor tokens).1,
      token.kind = .name → IsName token.written := by
  fun_induction scan fuel stand indents brackets cursor tokens
  case case3 ih => exact ih htokens
  case case5 hkinds _ layout ih =>
    refine ih fun token hmem hname => ?_
    rcases List.mem_append.mp hmem with hmem | hmem
    · obtain ⟨kind, hkind, rfl⟩ := List.mem_map.mp hmem
      rcases eq_of_mem_indentTokens hkinds kind hkind with rfl | rfl <;> cases hname
    · exact htokens token hmem hname
  case case6 =>
    intro token hmem hname
    rcases List.mem_cons.mp hmem with rfl | hmem
    · cases hname
    · exact htokens token hmem hname
  case case8 ih => exact ih htokens
  case case9 ih => exact ih htokens
  case case10 ih =>
    refine ih fun token hmem hname => ?_
    split at hmem
    · exact htokens token hmem hname
    · rcases List.mem_cons.mp hmem with rfl | hmem
      · cases hname
      · exact htokens token hmem hname
  case case12 ih => exact ih htokens
  case case16 hrest _ _ _ _ kind behind hlexeme _ _ _ _ _ ih =>
    refine ih fun token hmem hname => ?_
    rcases List.mem_cons.mp hmem with rfl | hmem
    · obtain rfl : kind = .name := hname
      rw [hrest] at hlexeme
      have := isName_of_lexeme hlexeme
      rwa [← hrest] at this
    · exact htokens token hmem hname
  all_goals exact htokens

theorem isName_of_mem_ofLines {line : Nat} {text : List Char} {token : Token}
    (hmem : token ∈ (TokenSequence.ofLines line text).tokens.toList) (hname : token.kind = .name) :
    IsName token.written := by
  rw [tokens_ofLines, List.mem_reverse] at hmem
  exact isName_of_mem_scan _ _ _ _ _ _ (fun _ h => by cases h) token hmem hname

end AdjointSynthesis.Code
