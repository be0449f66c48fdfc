import AdjointSynthesis.Proofs.Names
import AdjointSynthesis.Proofs.Reading.Basic
import AdjointSynthesis.Proofs.Scanning.Places

/-!
# The words of a line

Where a text is put together from known words, scanning finds these words and no others.

* `Spot`: what matters of a state of the scan: the indentations, the open brackets and what is left
  of the text, but no line and no column.
* `Leads`: from every state at a spot scanning finds some words and comes to another spot.
* `lexeme_identifier`, `lexeme_sign`: what stands first in a text where it is known how it goes on.
-/

namespace AdjointSynthesis.Code

/-! ## Spots -/

/-- What matters of a state of the scan. -/
structure Spot where
  stand : Stand
  indents : List Indentation
  /-- The count of round brackets that are open. -/
  depth : Nat
  rest : List Char

namespace Scanner

/-- A state is at a spot. -/
structure At (scanner : Scanner) (spot : Spot) : Prop where
  stand : scanner.stand = spot.stand
  indents : scanner.indents = spot.indents
  depth : scanner.brackets.length = spot.depth
  round : ∀ bracket ∈ scanner.brackets, bracket.opening = '('
  rest : scanner.cursor.rest = spot.rest

/-- From one state some words are found on the way to another, which stands in the same text. -/
def Finds (scanner : Scanner) (words : List Word) (next : Scanner) : Prop :=
  ∃ tokens, scanner.run = (next.run.1 ++ tokens, next.run.2) ∧
    tokens.reverse.map Token.word = words ∧ ∀ text, scanner.StandsIn text → next.StandsIn text

lemma Finds.trans {first second third : Scanner} {words more : List Word}
    (h : first.Finds words second) (h' : second.Finds more third) :
    first.Finds (words ++ more) third := by
  obtain ⟨tokens, hrun, rfl, hstands⟩ := h
  obtain ⟨others, hrun', rfl, hstands'⟩ := h'
  refine ⟨others ++ tokens, ?_, ?_, fun text hfirst => hstands' text (hstands text hfirst)⟩
  · rw [hrun, hrun', List.append_assoc]
  · rw [List.reverse_append, List.map_append]

lemma finds_of_goes {scanner next : Scanner} {tokens : List Token} (h : Goes scanner tokens next) :
    scanner.Finds (tokens.reverse.map Token.word) next :=
  ⟨tokens, run_of_goes (step_eq_goes_iff.mpr h), rfl, fun _ hstands => hstands.goes h⟩

end Scanner

open Scanner

/-- From every state at a spot scanning finds some words and comes to another spot. -/
def Leads (spot : Spot) (words : List Word) (next : Spot) : Prop :=
  ∀ scanner : Scanner, scanner.At spot →
    ∃ behind : Scanner, behind.At next ∧ scanner.Finds words behind

/-- The states at a spot differ in their cursors and in the lines of the open brackets. -/
lemma leads_of_forall {stand : Stand} {indents : List Indentation} {depth : Nat} {rest : List Char}
    {words : List Word} {next : Spot}
    (h : ∀ brackets : List Bracket, ∀ cursor : Cursor, brackets.length = depth →
      (∀ bracket ∈ brackets, bracket.opening = '(') → cursor.rest = rest →
      ∃ behind : Scanner, behind.At next ∧
        Scanner.Finds ⟨stand, indents, brackets, cursor⟩ words behind) :
    Leads ⟨stand, indents, depth, rest⟩ words next := by
  rintro ⟨_, _, brackets, cursor⟩ ⟨hstand, hindents, hdepth, hround, hrest⟩
  dsimp only at hstand hindents
  subst hstand hindents
  exact h brackets cursor hdepth hround hrest

lemma Leads.refl (spot : Spot) : Leads spot [] spot :=
  fun scanner hat => ⟨scanner, hat, [], by rw [List.append_nil], rfl, fun _ h => h⟩

lemma Leads.trans {first second third : Spot} {words more : List Word}
    (h : Leads first words second) (h' : Leads second more third) :
    Leads first (words ++ more) third := by
  intro scanner hat
  obtain ⟨behind, hbehind, hfinds⟩ := h scanner hat
  obtain ⟨last, hlast, hfinds'⟩ := h' behind hbehind
  exact ⟨last, hlast, hfinds.trans hfinds'⟩

section
variable {indents : List Indentation} {depth : Nat} {rest : List Char} {stand : Stand}

/-! ## Steps inside a line -/

lemma leads_blank {blank : Bool} : Leads ⟨.inLine blank, indents, depth, ' ' :: rest⟩ []
    ⟨.inLine blank, indents, depth, rest⟩ := by
  refine leads_of_forall fun brackets cursor hdepth hround hrest => ?_
  exact ⟨_, ⟨rfl, rfl, hdepth, hround, Cursor.rest_next hrest⟩,
    finds_of_goes (.space hrest (.inl rfl))⟩

/-- The line end of a statement. -/
lemma leads_lineEnd : Leads ⟨.inLine false, indents, 0, '\n' :: rest⟩ [Token.Kind.newline.word]
    ⟨.lineStart, indents, 0, rest⟩ := by
  refine leads_of_forall fun brackets cursor hdepth hround hrest => ?_
  obtain rfl : brackets = [] := List.length_eq_zero_iff.mp hdepth
  exact ⟨_, ⟨rfl, rfl, rfl, hround, Cursor.rest_next hrest⟩, finds_of_goes (.newline hrest)⟩

/-- A line end inside brackets. -/
lemma leads_lineBreak {blank : Bool} (hopen : depth ≠ 0) :
    Leads ⟨.inLine blank, indents, depth, '\n' :: rest⟩ [] ⟨.lineStart, indents, depth, rest⟩ := by
  refine leads_of_forall fun brackets cursor hdepth hround hrest => ?_
  refine ⟨⟨.lineStart, indents, brackets, cursor.next⟩,
    ⟨rfl, rfl, hdepth, hround, Cursor.rest_next hrest⟩, ?_⟩
  have hgoes : Goes ⟨.inLine blank, indents, brackets, cursor⟩ _ _ := .newline hrest
  have hfinds := finds_of_goes hgoes
  cases brackets with
  | nil => exact absurd hdepth.symm hopen
  | cons => simpa using hfinds

/-- What a word does to the count of open brackets. -/
def depthBehind (depth : Nat) : Token.Kind → Option Nat
  | .mark .openParen => if depth < maxBrackets then some (depth + 1) else none
  | .mark .closeParen => if depth = 0 then none else some (depth - 1)
  | .mark .openBracket | .mark .closeBracket | .mark .openBrace | .mark .closeBrace => none
  | _ => some depth

lemma exists_bracketsAfter {brackets : List Bracket} {kind : Token.Kind} {behind : Nat}
    (hround : ∀ bracket ∈ brackets, bracket.opening = '(')
    (hdepth : depthBehind brackets.length kind = some behind) (line : Nat) :
    ∃ left, bracketsAfter brackets line kind = .ok left ∧ left.length = behind ∧
      ∀ bracket ∈ left, bracket.opening = '(' := by
  unfold depthBehind at hdepth
  split at hdepth
  · split_ifs at hdepth with hlt
    obtain rfl := Option.some.inj hdepth
    refine ⟨⟨'(', line⟩ :: brackets, ?_, rfl, ?_⟩
    · rw [bracketsAfter, bracketsAfter.opened, if_neg (Nat.not_le_of_lt hlt)]
    · rintro bracket (_ | ⟨_, hmem⟩)
      · rfl
      · exact hround bracket hmem
  · split_ifs at hdepth with hzero
    obtain rfl := Option.some.inj hdepth
    cases brackets with
    | nil => exact absurd rfl hzero
    | cons innermost outer =>
      refine ⟨outer, ?_, rfl, fun bracket hmem => hround bracket (List.mem_cons_of_mem _ hmem)⟩
      rw [bracketsAfter, bracketsAfter.closed, hround innermost List.mem_cons_self]
      rfl
  · cases hdepth
  · cases hdepth
  · cases hdepth
  · cases hdepth
  · obtain rfl := Option.some.inj hdepth
    refine ⟨brackets, ?_, rfl, hround⟩
    unfold bracketsAfter
    split <;> first | rfl | (exfalso; simp_all)

/-- A word of any kind that does not break off. -/
lemma leads_word {kind : Token.Kind} {c : Char} {piece : List Char} {behind : Nat}
    (hc : ¬ (c = ' ' ∨ c = '\t' ∨ c = '\x0c') ∧ c ≠ '#' ∧ c ≠ '\n' ∧ c ≠ '\\')
    (hlexeme : ∀ line, lexeme line (c :: (piece ++ rest)) = .ok (kind, rest))
    (hdepth : depthBehind depth kind = some behind) :
    Leads ⟨.inLine false, indents, depth, c :: (piece ++ rest)⟩
      [⟨kind, if kind = .name ∨ kind = .number then c :: piece else []⟩]
      ⟨.inLine false, indents, behind, rest⟩ := by
  refine leads_of_forall fun brackets cursor hlength hround hrest => ?_
  subst hlength
  obtain ⟨left, hbrackets, hleft, hround'⟩ := exists_bracketsAfter hround hdepth cursor.line
  have hgoes : Goes ⟨.inLine false, indents, brackets, cursor⟩ _ _ :=
    .word hrest hc (hlexeme cursor.line) hbrackets
  have hcount : (c :: (piece ++ rest)).length - rest.length = (c :: piece).length := by
    simp only [List.length_cons, List.length_append]
    omega
  rw [hcount] at hgoes
  have hbehind : (cursor.skip (c :: piece).length).rest = rest := by
    rw [Cursor.rest_skip, hrest]
    exact List.drop_left
  have htaken : (c :: (piece ++ rest)).take (c :: piece).length = c :: piece := List.take_left
  rw [htaken] at hgoes
  exact ⟨_, ⟨rfl, rfl, hleft, hround', hbehind⟩, finds_of_goes hgoes⟩

/-! ## Words, numbers and signs -/

/-- A text goes on with a character that ends a word. -/
def EndsWord (rest : List Char) : Prop :=
  ∃ c more, rest = c :: more ∧ c ∈ [' ', ',', '(', ')', '.', ':', '=', '\n']

/-- A text that begins with a word and goes on with a character that ends it is no quoted one. -/
lemma textStart?_append {word : List Char} (hne : word ≠ [])
    (hword : ∀ c ∈ word, isWordPart c = true) (h : EndsWord rest) :
    textStart? (word ++ rest) = none := by
  obtain ⟨d, more, rfl, hd⟩ := h
  have hend : isQuote d = false ∧ d.toLower ≠ 'b' ∧ d.toLower ≠ 'f' ∧ d.toLower ≠ 'r' := by
    simp only [List.mem_cons, List.not_mem_nil, or_false] at hd
    rcases hd with rfl | rfl | rfl | rfl | rfl | rfl | rfl | rfl <;> decide
  have hquote {c : Char} (hc : isWordPart c = true) : isQuote c = false := by
    by_contra h
    simp only [isQuote, Bool.not_eq_false, Bool.or_eq_true, beq_iff_eq] at h
    rcases h with rfl | rfl <;> cases hc
  rcases word with _ | ⟨a, _ | ⟨b, _ | ⟨c, others⟩⟩⟩
  · exact absurd rfl hne
  · have ha := hquote (hword a List.mem_cons_self)
    cases more <;> simp [textStart?, ha, hend]
  · have ha := hquote (hword a List.mem_cons_self)
    have hb := hquote (hword b (List.mem_cons_of_mem _ List.mem_cons_self))
    simp [textStart?, ha, hb, hend]
  · have ha := hquote (hword a List.mem_cons_self)
    have hb := hquote (hword b (List.mem_cons_of_mem _ List.mem_cons_self))
    have hc := hquote (hword c (List.mem_cons_of_mem _ (List.mem_cons_of_mem _ List.mem_cons_self)))
    simp [textStart?, ha, hb, hc]

lemma isWordStart_of_isIdentifierStart {c : Char} (h : Text.isIdentifierStart c = true) :
    isWordStart c = true := by
  unfold Text.isIdentifierStart at h
  unfold isWordStart
  split at h
  · rw [h, Bool.true_or]
  · next hlarge => simp only [Nat.ble_eq_true_of_le (Nat.le_of_not_lt hlarge), Bool.or_true]

lemma badCharacter?_of_isIdentifier {word : List Char} (h : Text.isIdentifier word = true) :
    badCharacter? word = none := by
  cases word with
  | nil => rfl
  | cons c rest =>
    rw [Text.isIdentifier, Bool.and_eq_true, List.all_eq_true] at h
    rw [badCharacter?, if_pos h.1, List.find?_eq_none]
    intro d hd
    simp [h.2 d hd]

/-- An identifier is read up to the character that ends it. -/
lemma lexeme_identifier {word : List Char} (hword : Text.isIdentifier word = true)
    (h : EndsWord rest) (line : Nat) : lexeme line (word ++ rest) = .ok (wordKind word, rest) := by
  obtain ⟨hne, hall⟩ := isWord_iff.mp (isWord_of_isIdentifier hword)
  have hstart := textStart?_append hne hall h
  obtain ⟨d, more, rfl, hd⟩ := h
  have hstop : ¬isWordPart d = true := by
    simp only [List.mem_cons, List.not_mem_nil, or_false] at hd
    rcases hd with rfl | rfl | rfl | rfl | rfl | rfl | rfl | rfl <;> decide
  have htake : (word ++ d :: more).takeWhile isWordPart = word := by
    rw [List.takeWhile_append_of_pos hall, List.takeWhile_cons_of_neg hstop, List.append_nil]
  have hdrop : (word ++ d :: more).dropWhile isWordPart = d :: more := by
    rw [List.dropWhile_append_of_pos hall, List.dropWhile_cons_of_neg hstop]
  have hbad := badCharacter?_of_isIdentifier hword
  obtain ⟨c, tail, rfl⟩ := List.exists_cons_of_ne_nil hne
  rw [Text.isIdentifier, Bool.and_eq_true] at hword
  rw [List.cons_append] at hstart htake hdrop ⊢
  simp only [lexeme, hstart, isWordStart_of_isIdentifierStart hword.1, if_true, htake, hdrop, hbad]

/-- What is no character of a word and opens no text is a sign. -/
lemma lexeme_sign {c : Char} {kind : Token.Kind} (hc : c ∈ ['(', ')', ',', ':', '.', '=', '@'])
    (hdigit : c = '.' → (rest.head?.map Char.isDigit).getD false = false)
    (hmark : markAt? (c :: rest) = some (kind, rest)) (line : Nat) :
    lexeme line (c :: rest) = .ok (kind, rest) := by
  have hstart : textStart? (c :: rest) = none := by
    simp only [List.mem_cons, List.not_mem_nil, or_false] at hc
    rcases rest with _ | ⟨b, _ | ⟨q, more⟩⟩ <;>
      rcases hc with rfl | rfl | rfl | rfl | rfl | rfl | rfl <;> simp [textStart?, isQuote]
  have hword : isWordStart c = false ∧ c.isDigit = false := by
    simp only [List.mem_cons, List.not_mem_nil, or_false] at hc
    rcases hc with rfl | rfl | rfl | rfl | rfl | rfl | rfl <;> decide
  have hnumber : (c.isDigit || (c == '.' && (rest.head?.map Char.isDigit).getD false)) = false := by
    rw [hword.2, Bool.false_or, Bool.and_eq_false_iff]
    by_cases hdot : c = '.'
    · exact .inr (hdigit hdot)
    · exact .inl (by simpa using hdot)
  simp only [lexeme, hstart, hword.1, Bool.false_eq_true, if_false, hnumber, hmark]

lemma ne_of_isWordPart {c : Char} (h : isWordPart c = true) :
    ¬ (c = ' ' ∨ c = '\t' ∨ c = '\x0c') ∧ c ≠ '#' ∧ c ≠ '\n' ∧ c ≠ '\\' := by
  refine ⟨?_, ?_, ?_, ?_⟩
  · rintro (rfl | rfl | rfl) <;> cases h
  all_goals rintro rfl; cases h

lemma leads_identifier {word : List Char} (hword : Text.isIdentifier word = true)
    (h : EndsWord rest) : Leads ⟨.inLine false, indents, depth, word ++ rest⟩
      [⟨wordKind word, if wordKind word = .name then word else []⟩]
      ⟨.inLine false, indents, depth, rest⟩ := by
  have hlexeme := lexeme_identifier hword h
  obtain ⟨hne, hall⟩ := isWord_iff.mp (isWord_of_isIdentifier hword)
  obtain ⟨c, tail, rfl⟩ := List.exists_cons_of_ne_nil hne
  have hkind :
      wordKind (c :: tail) = .name ∨ ∃ keyword, wordKind (c :: tail) = .keyword keyword := by
    unfold wordKind
    cases Keyword.ofSpelling? (c :: tail) with
    | none => exact .inl rfl
    | some keyword => exact .inr ⟨keyword, rfl⟩
  have hdepth : depthBehind depth (wordKind (c :: tail)) = some depth := by
    rcases hkind with h | ⟨keyword, h⟩ <;> rw [h] <;> rfl
  have leads : Leads ⟨.inLine false, indents, depth, c :: (tail ++ rest)⟩ _ _ :=
    leads_word (ne_of_isWordPart (hall c List.mem_cons_self)) hlexeme hdepth
  have hnumber : wordKind (c :: tail) ≠ .number := by
    rcases hkind with h | ⟨keyword, h⟩ <;> rw [h] <;> nofun
  rw [List.cons_append]
  simpa only [hnumber, or_false] using leads

lemma endsWord_cons {c : Char} (hc : c ∈ [' ', ',', '(', ')', '.', ':', '=', '\n']) :
    EndsWord (c :: rest) :=
  ⟨c, rest, rfl, hc⟩

lemma leads_sign {c : Char} {kind : Token.Kind} {behind : Nat}
    (hc : c ∈ ['(', ')', ',', ':', '.', '=', '@'])
    (hdigit : c = '.' → (rest.head?.map Char.isDigit).getD false = false)
    (hmark : markAt? (c :: rest) = some (kind, rest)) (hkind : kind ≠ .name ∧ kind ≠ .number)
    (hdepth : depthBehind depth kind = some behind) :
    Leads ⟨.inLine false, indents, depth, c :: rest⟩ [kind.word]
      ⟨.inLine false, indents, behind, rest⟩ := by
  have hblank : ¬ (c = ' ' ∨ c = '\t' ∨ c = '\x0c') ∧ c ≠ '#' ∧ c ≠ '\n' ∧ c ≠ '\\' := by
    simp only [List.mem_cons, List.not_mem_nil, or_false] at hc
    rcases hc with rfl | rfl | rfl | rfl | rfl | rfl | rfl <;> decide
  have leads : Leads ⟨.inLine false, indents, depth, c :: ([] ++ rest)⟩ _ _ :=
    leads_word hblank (lexeme_sign hc hdigit hmark) hdepth
  rwa [if_neg (not_or.mpr hkind)] at leads

lemma leads_comma : Leads ⟨.inLine false, indents, depth, ',' :: rest⟩
    [(Token.Kind.mark .comma).word] ⟨.inLine false, indents, depth, rest⟩ :=
  leads_sign (by decide) nofun rfl ⟨nofun, nofun⟩ rfl

lemma leads_openParen (hdepth : depth < maxBrackets) :
    Leads ⟨.inLine false, indents, depth, '(' :: rest⟩ [(Token.Kind.mark .openParen).word]
      ⟨.inLine false, indents, depth + 1, rest⟩ :=
  leads_sign (by decide) nofun rfl ⟨nofun, nofun⟩ (if_pos hdepth)

lemma leads_closeParen : Leads ⟨.inLine false, indents, depth + 1, ')' :: rest⟩
    [(Token.Kind.mark .closeParen).word] ⟨.inLine false, indents, depth, rest⟩ :=
  leads_sign (by decide) nofun rfl ⟨nofun, nofun⟩ rfl

lemma leads_colon {c : Char} (hc : c ≠ '=') :
    Leads ⟨.inLine false, indents, depth, ':' :: c :: rest⟩
      [(Token.Kind.mark .colon).word] ⟨.inLine false, indents, depth, c :: rest⟩ := by
  refine leads_sign (by decide) nofun ?_ ⟨nofun, nofun⟩ rfl
  rw [markAt?.eq_def]
  simp [hc]

lemma leads_assign : Leads ⟨.inLine false, indents, depth, '=' :: ' ' :: rest⟩
    [(Token.Kind.mark .assign).word] ⟨.inLine false, indents, depth, ' ' :: rest⟩ :=
  leads_sign (by decide) nofun rfl ⟨nofun, nofun⟩ rfl

lemma leads_dot {c : Char} (hc : c ≠ '.') (hdigit : c.isDigit = false) :
    Leads ⟨.inLine false, indents, depth, '.' :: c :: rest⟩
      [(Token.Kind.mark .dot).word] ⟨.inLine false, indents, depth, c :: rest⟩ := by
  refine leads_sign (by decide) (fun _ => hdigit) ?_ ⟨nofun, nofun⟩ rfl
  rw [markAt?.eq_def]
  simp [hc]

lemma leads_at {c : Char} (hc : c ≠ '=') :
    Leads ⟨.inLine false, indents, depth, '@' :: c :: rest⟩
      [(Token.Kind.mark .at_).word] ⟨.inLine false, indents, depth, c :: rest⟩ := by
  refine leads_sign (by decide) nofun ?_ ⟨nofun, nofun⟩ rfl
  rw [markAt?.eq_def]
  simp [hc]

end

end AdjointSynthesis.Code
