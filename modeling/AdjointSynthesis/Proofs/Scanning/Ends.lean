import AdjointSynthesis.Proofs.Tokens
import AdjointSynthesis.Text.Blank

/-!
# Where tokens end

A token ends with a character that is no blank.  Words, numbers and marks hold no blanks at all, and
a text ends with its quote, whatever stands inside.

* `Closes`: what stands behind a piece of a text that ends so.
* `closes_lexeme`: every token is such a piece.
-/

namespace AdjointSynthesis.Code

/-! ## Pieces that end with no blank -/

/-- What stands behind a piece of a text whose last character is no blank. -/
inductive Closes : List Char → List Char → Prop
  | last {c : Char} {behind : List Char} (hc : Text.isBlank c = false) : Closes (c :: behind) behind
  | cons {c : Char} {rest behind : List Char} (h : Closes rest behind) : Closes (c :: rest) behind

/-- What stands behind such a piece or no piece at all. -/
def ClosesOrStays (text behind : List Char) : Prop := text = behind ∨ Closes text behind

namespace Closes

lemma trans {text middle behind : List Char} (h : Closes text middle)
    (hmiddle : Closes middle behind) : Closes text behind := by
  induction h with
  | last _ => exact .cons hmiddle
  | cons _ ih => exact .cons (ih hmiddle)

lemma of_stays {c : Char} {text behind : List Char} (hc : Text.isBlank c = false)
    (h : ClosesOrStays text behind) : Closes (c :: text) behind := by
  rcases h with rfl | h
  · exact .last hc
  · exact .cons h

lemma exists_eq {text behind : List Char} (h : Closes text behind) :
    ∃ taken last, text = taken ++ last :: behind ∧ Text.isBlank last = false := by
  induction h with
  | @last c _ hc => exact ⟨[], c, rfl, hc⟩
  | @cons c _ _ _ ih =>
    obtain ⟨taken, last, rfl, hlast⟩ := ih
    exact ⟨c :: taken, last, rfl, hlast⟩

end Closes

lemma Closes.of_drop {count : Nat} {text behind : List Char} (h : Closes (text.drop count) behind) :
    Closes text behind := by
  induction count generalizing text with
  | zero => exact h
  | succ count ih =>
    cases text with
    | nil => exact h
    | cons c rest => exact .cons (ih h)

lemma closesOrStays_append {taken : List Char} (h : ∀ c ∈ taken, Text.isBlank c = false)
    (behind : List Char) : ClosesOrStays (taken ++ behind) behind := by
  induction taken with
  | nil => exact .inl rfl
  | cons c rest ih =>
    exact .inr (.of_stays (h c List.mem_cons_self) (ih fun d hd => h d (List.mem_cons_of_mem _ hd)))

lemma ClosesOrStays.trans {text middle behind : List Char} (h : ClosesOrStays text middle)
    (hmiddle : ClosesOrStays middle behind) : ClosesOrStays text behind := by
  rcases h with rfl | h
  · exact hmiddle
  rcases hmiddle with rfl | hmiddle
  · exact .inr h
  · exact .inr (h.trans hmiddle)

/-! ## Characters that are no blanks -/

/-- Visible characters of one byte are no blanks. -/
lemma isBlank_of_visible {c : Char} (h : 0x20 < c.toNat) (h' : c.toNat < 0x7f) :
    Text.isBlank c = false := by
  rw [← Bool.not_eq_true, Text.isBlank, Text.inRanges_eq_true_iff]
  simp only [Text.blankRanges, List.mem_cons, List.not_mem_nil, or_false]
  grind

lemma isBlank_of_isDigit {c : Char} (h : c.isDigit = true) : Text.isBlank c = false := by
  unfold Char.isDigit at h
  simp only [Bool.and_eq_true, decide_eq_true_eq, ge_iff_le, UInt32.le_iff_toNat_le] at h
  exact isBlank_of_visible (Nat.lt_of_lt_of_le (by decide) h.1) (Nat.lt_of_le_of_lt h.2 (by decide))

lemma isBlank_of_between {c first last : Char} (h : first ≤ c ∧ c ≤ last)
    (hfirst : 0x20 < first.toNat) (hlast : last.toNat < 0x7f) : Text.isBlank c = false :=
  isBlank_of_visible (Nat.lt_of_lt_of_le hfirst h.1) (Nat.lt_of_le_of_lt h.2 hlast)

lemma isBlank_of_isHexDigit {c : Char} (h : isHexDigit c = true) : Text.isBlank c = false := by
  simp only [isHexDigit, Bool.or_eq_true, decide_eq_true_eq] at h
  rcases h with (h | h) | h
  · exact isBlank_of_isDigit h
  · exact isBlank_of_between h (by decide) (by decide)
  · exact isBlank_of_between h (by decide) (by decide)

lemma isBlank_of_isOctalDigit {c : Char} (h : isOctalDigit c = true) : Text.isBlank c = false := by
  rw [isOctalDigit, decide_eq_true_eq] at h
  exact isBlank_of_between h (by decide) (by decide)

lemma isBlank_of_isBinaryDigit {c : Char} (h : isBinaryDigit c = true) :
    Text.isBlank c = false := by
  simp only [isBinaryDigit, Bool.or_eq_true, beq_iff_eq] at h
  rcases h with rfl | rfl <;> decide

/-- Whether no character of some ranges lies in some others. -/
def areApart (ranges others : List (Nat × Nat)) : Bool :=
  ranges.all fun range => others.all fun other =>
    Nat.blt range.2 other.1 || Nat.blt other.2 range.1

/-- Characters of identifiers are no blanks, beyond one byte too. -/
lemma startRanges_apart :
    areApart (Text.startRanges ++ Text.continueRanges) Text.blankRanges = true := by
  decide +kernel

lemma isBlank_of_inRanges {c : Char}
    (h : Text.inRanges (Text.startRanges ++ Text.continueRanges) c.toNat = true) :
    Text.isBlank c = false := by
  rw [← Bool.not_eq_true, Text.isBlank, Text.inRanges_eq_true_iff]
  rintro ⟨blank, hblank, hlow, hhigh⟩
  obtain ⟨range, hrange, hfirst, hlast⟩ := Text.inRanges_eq_true_iff.mp h
  have happart :=
    List.all_eq_true.mp (List.all_eq_true.mp startRanges_apart range hrange) blank hblank
  simp only [Bool.or_eq_true, Nat.blt_eq] at happart
  omega

lemma isBlank_of_isAlpha {c : Char} (h : c.isAlpha = true) : Text.isBlank c = false := by
  unfold Char.isAlpha Char.isUpper Char.isLower at h
  simp only [Bool.or_eq_true, Bool.and_eq_true, decide_eq_true_eq, ge_iff_le,
    UInt32.le_iff_toNat_le] at h
  rcases h with ⟨hlow, hhigh⟩ | ⟨hlow, hhigh⟩ <;>
    exact isBlank_of_visible (Nat.lt_of_lt_of_le (by decide) hlow)
      (Nat.lt_of_le_of_lt hhigh (by decide))

/-- Characters of identifiers are no blanks. -/
lemma isBlank_of_isIdentifierPart {c : Char} (h : Text.isIdentifierPart c = true) :
    Text.isBlank c = false := by
  have hranges (h : Text.inRanges Text.startRanges c.toNat = true ∨
      Text.inRanges Text.continueRanges c.toNat = true) : Text.isBlank c = false := by
    refine isBlank_of_inRanges ?_
    rw [Text.inRanges, List.any_append, Bool.or_eq_true]
    exact h
  rw [Text.isIdentifierPart, Text.isIdentifierStart, Bool.or_eq_true] at h
  split at h
  · rw [Bool.or_eq_true, beq_iff_eq] at h
    rcases h with (h | rfl) | h
    · exact isBlank_of_isAlpha h
    · decide
    · exact isBlank_of_isDigit h
  · exact hranges h

/-! ## Numbers -/

lemma closes_decimalTail {text behind : List Char} (h : decimalTail text = .ok behind) :
    ClosesOrStays text behind := by
  fun_induction decimalTail text with
  | case1 => exact .inl (Except.ok.inj h)
  | case2 d rest hd ih =>
    exact .inr (.cons (.of_stays (isBlank_of_isDigit hd) (ih h)))
  | case3 => cases h
  | case4 c rest _ hc ih => exact .inr (.of_stays (isBlank_of_isDigit hc) (ih h))
  | case5 => cases h
  | case6 => exact .inl (Except.ok.inj h)

lemma closes_radixTail {isDigit : Char → Bool} {bad : Char → Cause} {text behind : List Char}
    (hdigit : ∀ c, isDigit c = true → Text.isBlank c = false)
    (h : radixTail isDigit bad text = .ok behind) : ClosesOrStays text behind := by
  fun_induction radixTail isDigit bad text with
  | case1 => exact .inl (Except.ok.inj h)
  | case2 d rest hd ih => exact .inr (.cons (.of_stays (hdigit d hd) (ih h)))
  | case3 => cases h
  | case4 c rest _ hc ih => exact .inr (.of_stays (hdigit c hc) (ih h))
  | case5 => cases h
  | case6 => exact .inl (Except.ok.inj h)

lemma closes_radixDigits {isDigit : Char → Bool} {bad : Char → Cause} {text behind : List Char}
    (hdigit : ∀ c, isDigit c = true → Text.isBlank c = false)
    (h : radixDigits isDigit bad text = .ok behind) : Closes text behind := by
  unfold radixDigits at h
  dsimp only at h
  split at h
  · cases h
  next d more hdigits =>
  split at h
  · next hd =>
    have hclose : Closes (d :: more) behind := .of_stays (hdigit d hd) (closes_radixTail hdigit h)
    split at hdigits
    · rw [hdigits]
      exact .cons hclose
    · rw [hdigits]
      exact hclose
  · cases h

lemma stays_endNumber {kind : NumberKind} {text behind : List Char}
    (h : endNumber kind text = .ok behind) : text = behind := by
  unfold endNumber at h
  grind

lemma stays_endRadix {kind : NumberKind} {text behind : List Char}
    (h : endRadix kind text = .ok behind) : text = behind := by
  unfold endRadix at h
  grind [→ stays_endNumber]

lemma closes_endDecimal {text behind : List Char} (h : endDecimal text = .ok behind) :
    ClosesOrStays text behind := by
  unfold endDecimal at h
  split at h
  · split at h
    · next hc =>
      obtain rfl := stays_endNumber h
      exact .inr (.last (by rcases hc with rfl | rfl <;> decide))
    · exact .inl (stays_endNumber h)
  · exact .inl (Except.ok.inj h)

lemma closes_digits {text behind : List Char}
    (h : (decimalTail text).bind endDecimal = .ok behind) : ClosesOrStays text behind := by
  obtain ⟨digits, hdigits, h⟩ := eq_ok_of_bind h
  exact (closes_decimalTail hdigits).trans (closes_endDecimal h)

lemma closes_exponentTail {text behind : List Char} (h : exponentTail text = .ok behind) :
    ClosesOrStays text behind := by
  unfold exponentTail at h
  split at h
  swap
  · exact .inl (Except.ok.inj h)
  split at h
  swap
  · exact closes_endDecimal h
  split at h
  · exact .inl (stays_endNumber h)
  split at h
  · split at h
    · split at h
      · next hd => exact .inr (.cons (.cons (.of_stays (isBlank_of_isDigit hd) (closes_digits h))))
      · cases h
    · cases h
  · split at h
    · next hs => exact .inr (.cons (.of_stays (isBlank_of_isDigit hs) (closes_digits h)))
    · exact .inl (stays_endNumber h)

lemma closes_fractionTail {text behind : List Char} (h : fractionTail text = .ok behind) :
    ClosesOrStays text behind := by
  unfold fractionTail at h
  split at h
  · split at h
    · next hd =>
      obtain ⟨digits, hdigits, h⟩ := eq_ok_of_bind h
      exact .inr (.of_stays (isBlank_of_isDigit hd)
        ((closes_decimalTail hdigits).trans (closes_exponentTail h)))
    · exact closes_exponentTail h
  · exact .inl (Except.ok.inj h)

lemma closes_zerosTail {text behind : List Char} (h : zerosTail text = .ok behind) :
    ClosesOrStays text behind := by
  fun_induction zerosTail text with
  | case1 => exact .inl (Except.ok.inj h)
  | case2 rest ih => exact .inr (.cons (.of_stays (by decide) (ih h)))
  | case3 =>
    cases h
    exact .inr (.last (by decide))
  | case4 => cases h
  | case5 rest _ ih => exact .inr (.of_stays (by decide) (ih h))
  | case6 => cases h
  | case7 => exact .inl (Except.ok.inj h)

lemma closes_wholeTail {text behind : List Char} (h : wholeTail text = .ok behind) :
    ClosesOrStays text behind := by
  unfold wholeTail at h
  split at h
  · exact .inr (.of_stays (by decide) (closes_fractionTail h))
  · exact closes_exponentTail h

lemma closes_zeroTail {text behind : List Char} (h : zeroTail text = .ok behind) :
    ClosesOrStays text behind := by
  unfold zeroTail at h
  obtain ⟨zeros, hzeros, h⟩ := eq_ok_of_bind h
  refine (closes_zerosTail hzeros).trans ?_
  split at h
  · exact .inl (Except.ok.inj h)
  · split at h
    · next hc =>
      obtain ⟨digits, hdigits, h⟩ := eq_ok_of_bind h
      split at h
      · exact .inr (.of_stays (isBlank_of_isDigit hc)
          ((closes_decimalTail hdigits).trans (closes_wholeTail h)))
      · cases h
    · split at h
      · exact closes_wholeTail h
      · exact .inl (stays_endNumber h)

lemma closes_numberTail {c : Char} {text behind : List Char} (hc : Text.isBlank c = false)
    (h : numberTail (c :: text) = .ok behind) : Closes (c :: text) behind := by
  unfold numberTail at h
  split at h
  · -- a zero may begin a number of another radix
    next d rest heq =>
    obtain ⟨rfl, rfl⟩ := List.cons.inj heq
    split at h
    · obtain ⟨digits, hdigits, h⟩ := eq_ok_of_bind h
      obtain rfl := stays_endNumber h
      exact .cons (.cons (closes_radixDigits (fun _ => isBlank_of_isHexDigit) hdigits))
    split at h
    · obtain ⟨digits, hdigits, h⟩ := eq_ok_of_bind h
      obtain rfl := stays_endRadix h
      exact .cons (.cons (closes_radixDigits (fun _ => isBlank_of_isOctalDigit) hdigits))
    split at h
    · obtain ⟨digits, hdigits, h⟩ := eq_ok_of_bind h
      obtain rfl := stays_endRadix h
      exact .cons (.cons (closes_radixDigits (fun _ => isBlank_of_isBinaryDigit) hdigits))
    · exact .of_stays hc (closes_zeroTail h)
  · next rest heq =>
    obtain ⟨rfl, rfl⟩ := List.cons.inj heq
    exact .of_stays hc (closes_fractionTail h)
  · next first rest _ _ heq =>
    obtain ⟨rfl, rfl⟩ := List.cons.inj heq
    obtain ⟨digits, hdigits, h⟩ := eq_ok_of_bind h
    exact .of_stays hc ((closes_decimalTail hdigits).trans (closes_wholeTail h))
  · next heq => cases heq

/-! ## Texts -/

lemma closes_lineTextEnd {quote : Char} (hquote : Text.isBlank quote = false)
    {text behind : List Char} (h : lineTextEnd quote text = .ok behind) : Closes text behind := by
  fun_induction lineTextEnd quote text with
  | case1 => cases h
  | case2 c rest ih => exact .cons (.cons (ih h))
  | case3 rest =>
    cases h
    exact .last hquote
  | case4 => cases h
  | case5 c rest _ _ _ ih => exact .cons (ih h)

lemma closes_blockTextEnd {quote : Char} (hquote : Text.isBlank quote = false)
    {text behind : List Char} (h : blockTextEnd quote text = .ok behind) : Closes text behind := by
  fun_induction blockTextEnd quote text with
  | case1 => cases h
  | case2 c rest ih => exact .cons (.cons (ih h))
  | case3 a b c more hall =>
    cases h
    obtain ⟨rfl, rfl, rfl⟩ := hall
    exact .cons (.cons (.last hquote))
  | case4 a b c more _ _ ih => exact .cons (ih h)
  | case5 a rest _ _ ih => exact .cons (ih h)

lemma closes_textEnd {line : Nat} {quote : Char} (hquote : Text.isBlank quote = false)
    {text behind : List Char} (h : textEnd line (quote :: text) = .ok behind) :
    Closes (quote :: text) behind := by
  unfold textEnd at h
  split at h
  · next a b c rest heq =>
    obtain ⟨rfl, rfl⟩ := List.cons.inj heq
    split at h
    · split at h
      · next hend =>
        cases h
        exact .cons (.cons (.cons (closes_blockTextEnd hquote hend)))
      · cases h
    split at h
    · next hb =>
      cases h
      exact .cons (hb ▸ .last hquote)
    · split at h
      · next hend =>
        cases h
        exact .cons (closes_lineTextEnd hquote hend)
      · cases h
  · next a b heq =>
    obtain ⟨rfl, rfl⟩ := List.cons.inj heq
    split at h
    · next hb =>
      cases h
      exact .cons (hb ▸ .last hquote)
    · cases h
  · cases h

lemma exists_quote_of_textStart? {text : List Char} {letters : Nat}
    (h : textStart? text = some letters) :
    ∃ quote rest, text.drop letters = quote :: rest ∧ isQuote quote = true := by
  unfold textStart? at h
  split at h
  · cases h
  split at h
  · next hquote =>
    cases h
    exact ⟨_, _, rfl, hquote⟩
  split at h
  · cases h
  dsimp only at h
  split at h
  · next hquote =>
    split at h
    · cases h
      exact ⟨_, _, rfl, hquote⟩
    · cases h
  split at h
  · cases h
  split at h
  · next hquote =>
    cases h
    exact ⟨_, _, rfl, hquote.1⟩
  · cases h

/-! ## Tokens -/

lemma closes_markAt? {text behind : List Char} {kind : Token.Kind}
    (h : markAt? text = some (kind, behind)) : Closes text behind := by
  unfold markAt? at h
  split at h
  all_goals try split at h
  -- every mark is one to three visible characters
  all_goals
    cases h
    repeat first
      | exact .last (by decide)
      | refine .cons ?_

lemma isIdentifierPart_of_badCharacter? {word : List Char} (h : badCharacter? word = none) :
    ∀ c ∈ word, Text.isIdentifierPart c = true := by
  cases word with
  | nil => exact fun _ hc => by cases hc
  | cons first rest =>
    rw [badCharacter?] at h
    split at h
    · next hfirst =>
      intro c hc
      rcases List.mem_cons.mp hc with rfl | hc
      · exact Text.isIdentifierPart_of_start hfirst
      · simpa using List.find?_eq_none.mp h c hc
    · cases h

/-- **A token ends with a character that is no blank.** -/
theorem closes_lexeme {line : Nat} {c : Char} {rest behind : List Char} {kind : Token.Kind}
    (hc : ¬ (c = ' ' ∨ c = '\t' ∨ c = '\x0c'))
    (h : lexeme line (c :: rest) = .ok (kind, behind)) : Closes (c :: rest) behind := by
  unfold lexeme at h
  split at h
  · -- a text: what its letters are does not matter, as its quote closes it
    next letters hletters =>
    obtain ⟨quote, more, hdrop, hquote⟩ := exists_quote_of_textStart? hletters
    obtain ⟨found, hfound, heq⟩ := eq_ok_of_bind h
    cases heq
    rw [hdrop] at hfound
    have hblank : Text.isBlank quote = false := by
      simp only [isQuote, Bool.or_eq_true, beq_iff_eq] at hquote
      rcases hquote with rfl | rfl <;> decide
    exact .of_drop (hdrop ▸ closes_textEnd hblank hfound)
  dsimp only at h
  split at h
  · -- a word, which is as long as the run of its characters
    next hstart =>
    split at h
    · cases h
    · next hbad =>
      cases h
      have hparts := isIdentifierPart_of_badCharacter? hbad
      have hpart := isWordPart_of_isWordStart hstart
      rw [List.takeWhile_cons_of_pos hpart] at hparts
      rw [List.dropWhile_cons_of_pos hpart]
      refine .of_stays (isBlank_of_isIdentifierPart (hparts c List.mem_cons_self)) ?_
      have hrest := closesOrStays_append (fun d hd =>
        isBlank_of_isIdentifierPart (hparts d (List.mem_cons_of_mem _ hd)))
        (rest.dropWhile isWordPart)
      rwa [List.takeWhile_append_dropWhile] at hrest
  split at h
  · -- a number
    next hnumber =>
    obtain ⟨found, hfound, heq⟩ := eq_ok_of_bind h
    cases heq
    refine closes_numberTail ?_ hfound
    rw [Bool.or_eq_true, Bool.and_eq_true, beq_iff_eq] at hnumber
    rcases hnumber with hdigit | ⟨rfl, -⟩
    · exact isBlank_of_isDigit hdigit
    · decide
  split at h
  · next found hfound =>
    cases h
    exact closes_markAt? hfound
  split at h
  · -- any other visible character is a token of its own
    next hword _ _ _ hprintable =>
    cases h
    have hsmall : c.toNat < 128 := by
      simp only [isWordStart, Bool.or_eq_true, Nat.ble_eq, not_or] at hword
      omega
    have hspace : c.toNat ≠ 0x20 := fun heq => hc (.inl (Char.toNat_inj.mp heq))
    rw [Text.isPrintable, if_pos hsmall, decide_eq_true_eq] at hprintable
    exact .last (isBlank_of_visible (by omega) hprintable.2)
  · cases h

end AdjointSynthesis.Code
