import AdjointSynthesis.Proofs.Scanning.Ends

/-!
# How far a token looks ahead

A token is found by looking at the characters behind it as well, but never at a newline that the
text has more: with one more newline at the end of the text the same tokens are found, and the
newline is left behind them.

* `LeavesNewline`: what reads characters leaves a newline at the end of the text behind.
* `numberTail_append`, `textEnd_append`, `markAt?_append`: numbers, texts and marks.
* `lexeme_append`: a lexeme is the same with a newline more.
-/

namespace AdjointSynthesis.Code

/-! ## What is left behind -/

/-- A newline at the end of the text is left behind, and nothing else changes for it. -/
def LeavesNewline {ε : Type} (f : List Char → Except ε (List Char)) : Prop :=
  ∀ text, (f (text ++ ['\n'])).toOption = (f text).toOption.map (· ++ ['\n'])

lemma LeavesNewline.bind {ε : Type} {f g : List Char → Except ε (List Char)} (hf : LeavesNewline f)
    (hg : LeavesNewline g) (text : List Char) :
    ((f (text ++ ['\n'])).bind g).toOption = ((f text).bind g).toOption.map (· ++ ['\n']) := by
  have h := hf text
  cases hmore : f (text ++ ['\n']) with
  | error e =>
    rw [hmore] at h
    cases hbehind : f text with
    | error e' => rfl
    | ok behind =>
      rw [hbehind] at h
      cases h
  | ok more =>
    rw [hmore] at h
    cases hbehind : f text with
    | error e' =>
      rw [hbehind] at h
      cases h
    | ok behind =>
      rw [hbehind] at h
      rw [Option.some.inj h]
      exact hg behind

/-! ## Numbers -/

lemma leavesNewline_decimalTail : LeavesNewline decimalTail := by
  intro text
  fun_induction decimalTail text with
  | case1 => rfl
  | case2 d rest hd ih => simpa [decimalTail, hd] using ih
  | case3 d rest hd => simp [decimalTail, hd, Except.toOption]
  | case4 c rest hrest hc ih =>
    have hne : c ≠ '_' := by
      rintro rfl
      cases hc
    simpa [decimalTail, hne, hc] using ih
  | case5 rest hrest hc =>
    cases rest with
    | nil => rfl
    | cons d more => exact (hrest d more rfl rfl).elim
  | case6 c rest hrest hc hne => simp [decimalTail, hne, hc, Except.toOption]

lemma leavesNewline_radixTail {isDigit : Char → Bool} {bad : Char → Cause} (h : isDigit '_' = false)
    (hnewline : isDigit '\n' = false) : LeavesNewline (radixTail isDigit bad) := by
  intro text
  fun_induction radixTail isDigit bad text with
  | case1 => simp [radixTail, hnewline, Except.toOption]
  | case2 d rest hd ih => simpa [radixTail, hd] using ih
  | case3 d rest hd => simp [radixTail, hd, Except.toOption]
  | case4 c rest hrest hc ih =>
    have hne : c ≠ '_' := by
      rintro rfl
      rw [h] at hc
      cases hc
    simpa [radixTail, hne, hc] using ih
  | case5 rest hrest hc =>
    cases rest with
    | nil => simp [radixTail, hnewline, Except.toOption]
    | cons d more => exact (hrest d more rfl rfl).elim
  | case6 c rest hrest hc hne => simp [radixTail, hne, hc, Except.toOption]

lemma leavesNewline_zerosTail : LeavesNewline zerosTail := by
  intro text
  fun_induction zerosTail text with
  | case1 => rfl
  | case2 rest ih => simpa [zerosTail] using ih
  | case3 d rest hd hdigit => simp [zerosTail, hd, hdigit, Except.toOption]
  | case4 d rest hd hdigit => simp [zerosTail, hd, hdigit, Except.toOption]
  | case5 rest _ ih => simpa [zerosTail] using ih
  | case6 rest hrest _ =>
    cases rest with
    | nil => rfl
    | cons d more => exact (hrest d more rfl rfl).elim
  | case7 c rest hrest hc hne => simp [zerosTail, hne, hc, Except.toOption]

lemma beginsWithWord_append {word : List Char} (h : '\n' ∉ word) (text : List Char) :
    beginsWithWord word (text ++ ['\n']) = beginsWithWord word text := by
  fun_induction beginsWithWord word text with
  | case1 => rfl
  | case2 c rest => rfl
  | case3 w word =>
    have hw : w ≠ '\n' := fun heq => h (heq ▸ List.mem_cons_self)
    simp [beginsWithWord, hw]
  | case4 w word c rest ih =>
    rw [List.cons_append, beginsWithWord, ih fun hmem => h (List.mem_cons_of_mem _ hmem)]

lemma continuesAfterNumber_append (text : List Char) :
    continuesAfterNumber (text ++ ['\n']) = continuesAfterNumber text := by
  unfold continuesAfterNumber
  rw [beginsWithWord_append (by decide), beginsWithWord_append (by decide),
    beginsWithWord_append (by decide), beginsWithWord_append (by decide),
    beginsWithWord_append (by decide)]
  congr 1
  rcases text with _ | ⟨c, _ | ⟨d, rest⟩⟩
  · rfl
  · by_cases hc : c = 'i'
    · subst hc
      rfl
    · simp [hc]
  · by_cases hc : c = 'i'
    · subst hc
      rfl
    · simp [hc]

lemma leavesNewline_endNumber (kind : NumberKind) : LeavesNewline (endNumber kind) := by
  intro text
  cases text with
  | nil => rfl
  | cons c rest =>
    have hcontinues := continuesAfterNumber_append (c :: rest)
    rw [List.cons_append] at hcontinues ⊢
    rw [endNumber, endNumber, hcontinues]
    split <;> rfl

lemma leavesNewline_endRadix (kind : NumberKind) : LeavesNewline (endRadix kind) := by
  intro text
  cases text with
  | nil => rfl
  | cons c rest =>
    rw [List.cons_append, endRadix, endRadix]
    split
    · rfl
    · exact leavesNewline_endNumber kind (c :: rest)

lemma leavesNewline_endDecimal : LeavesNewline endDecimal := by
  intro text
  cases text with
  | nil => rfl
  | cons c rest =>
    rw [List.cons_append, endDecimal, endDecimal]
    split
    · exact leavesNewline_endNumber .imaginary rest
    · exact leavesNewline_endNumber .decimal (c :: rest)

lemma leavesNewline_radixDigits {isDigit : Char → Bool} {bad : Char → Cause}
    (h : isDigit '_' = false) (hnewline : isDigit '\n' = false) :
    LeavesNewline (radixDigits isDigit bad) := by
  have hdigit (d : Char) (more : List Char) :
      (if isDigit d then radixTail isDigit bad (more ++ ['\n']) else .error (bad d)).toOption =
        (if isDigit d then radixTail isDigit bad more else .error (bad d)).toOption.map
          (· ++ ['\n']) := by
    split
    · exact leavesNewline_radixTail h hnewline more
    · rfl
  intro text
  rcases text with _ | ⟨c, _ | ⟨d, more⟩⟩
  · simp [radixDigits, hnewline, Except.toOption]
  · by_cases hc : c = '_'
    · simp [radixDigits, hc, hnewline, Except.toOption]
    · simpa [radixDigits, hc] using hdigit c []
  · by_cases hc : c = '_'
    · simpa [radixDigits, hc] using hdigit d more
    · simpa [radixDigits, hc] using hdigit c (d :: more)

lemma leavesNewline_exponentTail : LeavesNewline exponentTail := by
  intro text
  rcases text with _ | ⟨e, _ | ⟨s, _ | ⟨d, digits⟩⟩⟩
  · rfl
  · have hend := leavesNewline_endNumber .decimal [e]
    rw [List.singleton_append] at hend ⊢
    rw [exponentTail, exponentTail]
    split
    · exact hend
    · exact leavesNewline_endDecimal [e]
  · rw [List.cons_append, List.singleton_append, exponentTail, exponentTail]
    split
    · split
      · rfl
      · split
        · exact leavesNewline_decimalTail.bind leavesNewline_endDecimal []
        · exact leavesNewline_endNumber .decimal [e, s]
    · exact leavesNewline_endDecimal [e, s]
  · rw [List.cons_append, List.cons_append, List.cons_append, exponentTail, exponentTail]
    split
    · split
      · split
        · exact leavesNewline_decimalTail.bind leavesNewline_endDecimal digits
        · rfl
      · split
        · exact leavesNewline_decimalTail.bind leavesNewline_endDecimal (d :: digits)
        · exact leavesNewline_endNumber .decimal (e :: s :: d :: digits)
    · exact leavesNewline_endDecimal (e :: s :: d :: digits)

lemma leavesNewline_fractionTail : LeavesNewline fractionTail := by
  intro text
  cases text with
  | nil => rfl
  | cons d more =>
    rw [List.cons_append, fractionTail, fractionTail]
    split
    · exact leavesNewline_decimalTail.bind leavesNewline_exponentTail more
    · exact leavesNewline_exponentTail (d :: more)

lemma isDecimalSign_append (text : List Char) :
    isDecimalSign (text ++ ['\n']) = isDecimalSign text := by
  cases text <;> rfl

lemma leavesNewline_wholeTail : LeavesNewline wholeTail := by
  intro text
  rcases text with _ | ⟨c, more⟩
  · rfl
  · by_cases hc : c = '.'
    · subst hc
      exact leavesNewline_fractionTail more
    · simpa [wholeTail, hc] using leavesNewline_exponentTail (c :: more)

lemma leavesNewline_zeroTail : LeavesNewline zeroTail := by
  refine leavesNewline_zerosTail.bind fun behind => ?_
  cases behind with
  | nil => rfl
  | cons c more =>
    rw [List.cons_append]
    dsimp only
    split
    · refine leavesNewline_decimalTail.bind (fun behind => ?_) more
      rw [isDecimalSign_append]
      split
      · exact leavesNewline_wholeTail behind
      · rfl
    · rw [← List.cons_append, isDecimalSign_append]
      split
      · exact leavesNewline_wholeTail (c :: more)
      · exact leavesNewline_endNumber .decimal (c :: more)

lemma numberTail_append (c : Char) (rest : List Char) :
    (numberTail (c :: rest ++ ['\n'])).toOption =
      (numberTail (c :: rest)).toOption.map (· ++ ['\n']) := by
  have hhex : LeavesNewline fun text => (radixDigits isHexDigit
      (fun _ => .number .hexadecimal) text).bind (endNumber .hexadecimal) :=
    (leavesNewline_radixDigits (by decide) (by decide)).bind (leavesNewline_endNumber _)
  have hoctal : LeavesNewline fun text => (radixDigits isOctalDigit (badDigit .octal) text).bind
      (endRadix .octal) :=
    (leavesNewline_radixDigits (by decide) (by decide)).bind (leavesNewline_endRadix _)
  have hbinary : LeavesNewline fun text => (radixDigits isBinaryDigit (badDigit .binary) text).bind
      (endRadix .binary) :=
    (leavesNewline_radixDigits (by decide) (by decide)).bind (leavesNewline_endRadix _)
  have hdecimal : LeavesNewline fun text => (decimalTail text).bind wholeTail :=
    leavesNewline_decimalTail.bind leavesNewline_wholeTail
  by_cases hzero : c = '0'
  · subst hzero
    cases rest with
    | nil => rfl
    | cons d rest =>
      rw [List.cons_append, List.cons_append, numberTail, numberTail]
      split
      · exact hhex rest
      · split
        · exact hoctal rest
        · split
          · exact hbinary rest
          · exact leavesNewline_zeroTail (d :: rest)
  · by_cases hpoint : c = '.'
    · subst hpoint
      exact leavesNewline_fractionTail rest
    · simpa [numberTail, hzero, hpoint] using hdecimal rest

/-! ## Texts -/

section
variable {quote : Char} (hnewline : quote ≠ '\n') (hslash : quote ≠ '\\')
include hnewline hslash

lemma leavesNewline_lineTextEnd : LeavesNewline (lineTextEnd quote) := by
  intro text
  -- a text that is not closed is refused at its newline as it is at the end
  fun_induction lineTextEnd quote text with
  | case1 => simp [lineTextEnd, hnewline.symm, Except.toOption]
  | case2 c rest ih => simpa [lineTextEnd] using ih
  | case3 rest hrest => simp [lineTextEnd, hslash, Except.toOption]
  | case4 rest h hne => simp [lineTextEnd, Except.toOption, hne]
  | case5 c rest hrest hne hend ih =>
    by_cases hc : c = '\\'
    · cases rest with
      | nil => simp [lineTextEnd, hc, Except.toOption]
      | cons d more => exact (hrest d more hc rfl).elim
    · simpa [lineTextEnd, hc, hne, hend] using ih

lemma leavesNewline_blockTextEnd : LeavesNewline (blockTextEnd quote) := by
  intro text
  fun_induction blockTextEnd quote text with
  | case1 => simp [blockTextEnd, Except.toOption]
  | case2 c rest ih => simpa [blockTextEnd] using ih
  | case3 a b c more hquotes hrest =>
    obtain ⟨rfl, rfl, rfl⟩ := hquotes
    simp [blockTextEnd, hslash, Except.toOption]
  | case4 a b c more hquotes hrest ih =>
    have ha : a ≠ '\\' := fun h => hrest b (c :: more) h rfl
    simpa [blockTextEnd, ha, hquotes] using ih
  | case5 a rest hrest hshort ih =>
    rcases rest with _ | ⟨b, _ | ⟨c, more⟩⟩
    · by_cases ha : a = '\\' <;> simp [blockTextEnd, ha, Except.toOption]
    · have ha : a ≠ '\\' := fun h => hrest b [] h rfl
      simpa [blockTextEnd, ha, hnewline.symm] using ih
    · exact (hshort b c more rfl).elim

lemma textEnd_append (line : Nat) (rest : List Char) :
    (textEnd line (quote :: rest ++ ['\n'])).toOption =
      (textEnd line (quote :: rest)).toOption.map (· ++ ['\n']) := by
  rcases rest with _ | ⟨b, _ | ⟨c, rest⟩⟩
  · simp [textEnd, Except.toOption, hnewline.symm]
  · by_cases hb : b = quote
    · simp [textEnd, Except.toOption, hb, hnewline.symm]
    · have hline : (lineTextEnd quote [b, '\n']).toOption = none := by
        have hone : (lineTextEnd quote [b]).toOption = none := by
          by_cases hend : b = '\n' <;> simp [lineTextEnd, hb, hend, hnewline.symm, Except.toOption]
        exact (leavesNewline_lineTextEnd hnewline hslash [b]).trans (by rw [hone]; rfl)
      cases hmore : lineTextEnd quote [b, '\n'] <;> simp_all [textEnd, Except.toOption]
  · simp only [List.cons_append]
    rw [textEnd, textEnd]
    split
    · have hblock := leavesNewline_blockTextEnd hnewline hslash rest
      cases hmore : blockTextEnd quote (rest ++ ['\n']) <;>
        cases hbehind : blockTextEnd quote rest <;> simp_all [Except.toOption]
    · split
      · rfl
      · have hline := leavesNewline_lineTextEnd hnewline hslash (b :: c :: rest)
        simp only [List.cons_append] at hline
        cases hmore : lineTextEnd quote (b :: c :: (rest ++ ['\n'])) <;>
          cases hbehind : lineTextEnd quote (b :: c :: rest) <;> simp_all [Except.toOption]

end

lemma textStart?_append_newline (text : List Char) :
    textStart? (text ++ ['\n']) = textStart? text := by
  rcases text with _ | ⟨a, _ | ⟨b, _ | ⟨c, rest⟩⟩⟩
  · rfl
  · simp [textStart?, isQuote]
  · simp [textStart?, isQuote]
  · simp [textStart?, isQuote]

/-! ## Marks and words -/

/-- A text that does not begin like this does not with a newline more. -/
lemma append_newline_ne {text : List Char} (start : List Char) (hstart : '\n' ∉ start)
    (h : ∀ more, text = start ++ more → False) (more : List Char) :
    text ++ ['\n'] = start ++ more → False := by
  intro heq
  rcases List.append_eq_append_iff.mp heq with ⟨own, rfl, hmore⟩ | ⟨own, htext, -⟩
  · cases own with
    | nil => exact h [] (by simp)
    | cons c own =>
      obtain rfl : '\n' = c := (List.cons_eq_cons.mp hmore).1
      exact hstart (by simp)
  · exact h own htext

lemma markAt?_append (text : List Char) :
    markAt? (text ++ ['\n']) = (markAt? text).map fun found => (found.1, found.2 ++ ['\n']) := by
  have hone {c : Char} {rest : List Char} (hc : c ≠ '\n') (h : ∀ more, rest = c :: more → False) :
      ∀ more, rest ++ ['\n'] = c :: more → False := append_newline_ne [c] (by simpa using hc.symm) h
  have htwo {c d : Char} {rest : List Char} (hc : c ≠ '\n') (hd : d ≠ '\n')
      (h : ∀ more, rest = c :: d :: more → False) :
      ∀ more, rest ++ ['\n'] = c :: d :: more → False :=
    append_newline_ne [c, d] (by simp [hc.symm, hd.symm]) h
  fun_cases markAt? text
  case case23 more h | case27 more h | case41 more h | case46 more h =>
    rw [List.cons_append, List.cons_append, markAt?]
    · rfl
    · exact hone (by decide) h
  case case49 =>
    rw [markAt?]
    · rfl
    all_goals first
      | exact hone (by decide) (by assumption)
      | exact htwo (by decide) (by decide) (by assumption)
  -- a mark that is the beginning of no longer one stays so
  all_goals first
    | rfl
    | rw [List.cons_append, markAt?]
  all_goals first
    | rfl
    | exact hone (by decide) (by assumption)
    | exact htwo (by decide) (by decide) (by assumption)

lemma takeWhile_concat {test : Char → Bool} {c : Char} (h : test c = false) (text : List Char) :
    (text ++ [c]).takeWhile test = text.takeWhile test := by
  induction text with
  | nil => simp [h]
  | cons d rest ih =>
    rw [List.cons_append, List.takeWhile_cons, List.takeWhile_cons, ih]

lemma dropWhile_concat {test : Char → Bool} {c : Char} (h : test c = false) (text : List Char) :
    (text ++ [c]).dropWhile test = text.dropWhile test ++ [c] := by
  induction text with
  | nil => simp [h]
  | cons d rest ih =>
    rw [List.cons_append, List.dropWhile_cons, List.dropWhile_cons, ih]
    split <;> rfl

/-! ## Lexemes -/

/-- **A lexeme is the same with a newline more behind it.** -/
theorem lexeme_append (line : Nat) (c : Char) (rest : List Char) :
    (lexeme line (c :: rest ++ ['\n'])).toOption =
      (lexeme line (c :: rest)).toOption.map fun found => (found.1, found.2 ++ ['\n']) := by
  have hpair (kind : Token.Kind) (result : Except Cause (List Char)) :
      (do return (kind, ← result) : Except Cause (Token.Kind × List Char)).toOption =
        result.toOption.map (kind, ·) := by
    cases result <;> rfl
  unfold lexeme
  rw [textStart?_append_newline]
  cases hletters : textStart? (c :: rest) with
  | some letters =>
    obtain ⟨quote, tail, hdrop, hquote⟩ := exists_quote_of_textStart? hletters
    have hlength : letters ≤ (c :: rest).length := by
      by_contra hlt
      rw [List.drop_eq_nil_of_le (by omega)] at hdrop
      cases hdrop
    have hne : quote ≠ '\n' ∧ quote ≠ '\\' := by
      constructor <;> rintro rfl <;> cases hquote
    dsimp only
    rw [hpair, hpair, List.drop_append_of_le_length hlength, hdrop,
      textEnd_append hne.1 hne.2, Option.map_map, Option.map_map]
    rfl
  | none =>
    dsimp only [List.cons_append]
    -- a newline belongs to no word, no number and no mark
    by_cases hstart : isWordStart c
    · rw [if_pos hstart, if_pos hstart, ← List.cons_append, takeWhile_concat (by decide),
        dropWhile_concat (by decide)]
      cases badCharacter? ((c :: rest).takeWhile isWordPart) <;> rfl
    · rw [if_neg hstart, if_neg hstart]
      have hhead : ((rest ++ ['\n']).head?.map Char.isDigit).getD false =
          (rest.head?.map Char.isDigit).getD false := by
        cases rest <;> rfl
      rw [hhead]
      split
      · rw [hpair, hpair, ← List.cons_append, numberTail_append, Option.map_map, Option.map_map]
        rfl
      · rw [← List.cons_append, markAt?_append]
        cases markAt? (c :: rest) with
        | some found => rfl
        | none =>
          dsimp only [Option.map_none]
          split <;> rfl

end AdjointSynthesis.Code
