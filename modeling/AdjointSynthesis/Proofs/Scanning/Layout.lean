import AdjointSynthesis.Proofs.Scanning.Words
import AdjointSynthesis.Text.Margin

/-!
# The layout of lines

Lines that are further in by multiples of one indent.

* `measure`: the width of the beginning of a line.
* `leads_lineStart`: what the beginning of a line adds to its words.
* `shows_of_leads`: a text that scanning comes to the end of shows its words.
-/

namespace AdjointSynthesis.Code

open Scanner

/-! ## Widths -/

/-- The width with one more blank or tab. -/
def Indentation.widen (own : Indentation) (c : Char) : Indentation :=
  if c = '\t' then ⟨(own.wide / 8 + 1) * 8, own.narrow + 1⟩ else ⟨own.wide + 1, own.narrow + 1⟩

/-- The width of blanks and tabs. -/
def measure (margin : List Char) : Indentation := margin.foldl Indentation.widen ⟨0, 0⟩

/-- The beginning of a line at a depth. -/
def marginAt (indent : List Char) (depth : Nat) : List Char := (List.replicate depth indent).flatten

/-- The indentations that are open at a depth, innermost first. -/
def openIndents (indent : List Char) : Nat → List Indentation
  | 0 => []
  | depth + 1 => measure (marginAt indent (depth + 1)) :: openIndents indent depth

/-- Whether one width is less than another with tabs of either width. -/
def Indentation.Less (own other : Indentation) : Prop :=
  own.wide < other.wide ∧ own.narrow < other.narrow

lemma Indentation.less_widen (own : Indentation) (c : Char) : own.Less (own.widen c) := by
  unfold Indentation.Less widen
  split <;> dsimp only <;> omega

lemma Indentation.Less.trans {a b c : Indentation} (h : a.Less b) (h' : b.Less c) : a.Less c :=
  ⟨Nat.lt_trans h.1 h'.1, Nat.lt_trans h.2 h'.2⟩

lemma less_foldl_widen (own : Indentation) {margin : List Char} (h : margin ≠ []) :
    own.Less (margin.foldl Indentation.widen own) := by
  induction margin generalizing own with
  | nil => exact absurd rfl h
  | cons c rest ih =>
    rw [List.foldl_cons]
    cases rest with
    | nil => exact own.less_widen c
    | cons d rest => exact (own.less_widen c).trans (ih _ (List.cons_ne_nil _ _))

section
variable {indent : List Char} (hindent : indent ≠ [])
include hindent

lemma measure_less_succ (depth : Nat) :
    (measure (marginAt indent depth)).Less (measure (marginAt indent (depth + 1))) := by
  have hmargin : marginAt indent (depth + 1) = marginAt indent depth ++ indent := by
    rw [marginAt, List.replicate_succ', List.flatten_append, List.flatten_singleton, marginAt]
  rw [hmargin, measure, measure, List.foldl_append]
  exact less_foldl_widen _ hindent

lemma measure_less {depth other : Nat} (h : depth < other) :
    (measure (marginAt indent depth)).Less (measure (marginAt indent other)) := by
  induction h with
  | refl => exact measure_less_succ hindent depth
  | step _ ih => exact ih.trans (measure_less_succ hindent _)

omit hindent in
lemma head_openIndents (depth : Nat) :
    (openIndents indent depth).head?.getD ⟨0, 0⟩ = measure (marginAt indent depth) := by
  cases depth <;> rfl

omit hindent in
lemma length_openIndents (depth : Nat) : (openIndents indent depth).length = depth := by
  induction depth with
  | zero => rfl
  | succ depth ih => rw [openIndents, List.length_cons, ih]

lemma closeIndents_openIndents {depth current : Nat} (h : depth ≤ current) :
    closeIndents (measure (marginAt indent depth)).wide (openIndents indent current) =
      (current - depth, openIndents indent depth) := by
  induction current with
  | zero =>
    obtain rfl : depth = 0 := Nat.le_zero.mp h
    rfl
  | succ current ih =>
    rcases Nat.lt_or_eq_of_le h with hlt | rfl
    · rw [openIndents, closeIndents, if_pos (measure_less hindent hlt).1,
        ih (Nat.le_of_lt_succ hlt)]
      dsimp only
      rw [Nat.sub_add_comm (Nat.le_of_lt_succ hlt)]
    · rw [openIndents, closeIndents, if_neg (Nat.lt_irrefl _), Nat.sub_self]

/-- The kinds of layout at the beginning of a line. -/
def layoutKinds (current depth : Nat) : List Token.Kind :=
  if current < depth then [.indent] else List.replicate (current - depth) .dedent

lemma indentTokens_openIndents {current depth : Nat} (h : depth ≤ current + 1)
    (hmax : current + 1 < maxIndents) :
    indentTokens (openIndents indent current) (measure (marginAt indent depth)) =
      .ok (layoutKinds current depth, openIndents indent depth) := by
  unfold indentTokens
  dsimp only
  rw [head_openIndents]
  rcases Nat.lt_trichotomy depth current with hlt | rfl | hgt
  · have hless := measure_less hindent hlt
    rw [if_neg (Nat.ne_of_lt hless.1), if_neg (Nat.lt_asymm hless.1),
      closeIndents_openIndents hindent (Nat.le_of_lt hlt)]
    dsimp only
    rw [head_openIndents, if_neg (not_not_intro rfl), if_neg (not_not_intro rfl), layoutKinds,
      if_neg (Nat.lt_asymm hlt)]
  · rw [if_pos rfl, if_pos rfl, layoutKinds, if_neg (Nat.lt_irrefl _), Nat.sub_self]
    rfl
  · obtain rfl : depth = current + 1 := by omega
    have hless := measure_less hindent hgt
    rw [if_neg (Nat.ne_of_gt hless.1), if_pos hless.1, length_openIndents, if_neg (by omega),
      if_neg (Nat.not_le_of_lt hless.2), layoutKinds, if_pos hgt]
    rfl

end

/-! ## Beginnings of lines -/

/-- A text goes on with no blank, no comment and no line end. -/
def IsPlainStart (text : List Char) : Prop :=
  ∀ c ∈ text.head?, c ∉ [' ', '\t', '\x0c', '\\', '#', '\n']

lemma exists_indentation {margin text : List Char}
    (hmargin : ∀ c ∈ margin, Text.isMarginal c = true)
    (htext : ∀ c ∈ text.head?, c ∉ [' ', '\t', '\x0c', '\\']) (line column : Nat)
    (own : Indentation) : ∃ behind : Cursor, behind.rest = text ∧
      indentation line column own.wide own.narrow 0 (margin ++ text) =
        .ok (margin.foldl Indentation.widen own, behind) := by
  induction margin generalizing column own with
  | nil =>
    refine ⟨⟨text, line, column⟩, rfl, ?_⟩
    have hne (c : Char) (hc : c ∈ [' ', '\t', '\x0c', '\\']) (rest : List Char) :
        text ≠ c :: rest := by
      rintro rfl
      exact htext c rfl hc
    rw [List.nil_append, indentation.eq_def]
    split
    · exact absurd rfl (hne ' ' (by decide) _)
    · exact absurd rfl (hne '\t' (by decide) _)
    · exact absurd rfl (hne '\x0c' (by decide) _)
    · exact absurd rfl (hne '\\' (by decide) _)
    · rfl
  | cons c rest ih =>
    obtain ⟨behind, hbehind, hih⟩ := ih (fun d hd => hmargin d (List.mem_cons_of_mem _ hd))
      (column + 1) (own.widen c)
    refine ⟨behind, hbehind, ?_⟩
    have hc := hmargin c List.mem_cons_self
    simp only [Text.isMarginal, Bool.or_eq_true, beq_iff_eq] at hc
    rcases hc with rfl | rfl
    · exact hih
    · exact hih

section
variable {indent rest text : List Char} {indents : List Indentation} {current depth : Nat}

lemma word_layoutToken (cursor : Cursor) (kind : Token.Kind) :
    (Token.word ∘ layoutToken cursor) kind = kind.word := by
  rw [Function.comp_apply, Token.word, layoutToken, ite_self, Token.Kind.word]

/-- The words of layout at the beginning of a line. -/
def layoutWords (current depth : Nat) : List Word := (layoutKinds current depth).map Token.Kind.word

lemma isPlainStart_notMem (htext : IsPlainStart text) :
    (∀ c ∈ text.head?, c ∉ [' ', '\t', '\x0c', '\\']) ∧ ¬isBlankLine text := by
  constructor
  · intro c hc hmem
    exact htext c hc (by simp only [List.mem_cons, List.not_mem_nil, or_false] at hmem ⊢; tauto)
  · rintro (h | h)
    · exact htext '#' h (by decide)
    · exact htext '\n' h (by decide)

lemma reverse_layoutKinds (current depth : Nat) :
    (layoutKinds current depth).reverse = layoutKinds current depth := by
  unfold layoutKinds
  split
  · rfl
  · exact List.reverse_replicate ..

/-- **The beginning of a line** that stands at a depth, at most one further in than before. -/
theorem leads_lineStart (hindent : indent ≠ []) (hmargin : ∀ c ∈ indent, Text.isMarginal c = true)
    (hdepth : depth ≤ current + 1) (hmax : current + 1 < maxIndents) (htext : IsPlainStart text) :
    Leads ⟨.lineStart, openIndents indent current, 0, marginAt indent depth ++ text⟩
      (layoutWords current depth) ⟨.inLine false, openIndents indent depth, 0, text⟩ := by
  refine leads_of_forall fun brackets cursor hlength hround hrest => ?_
  obtain rfl : brackets = [] := List.length_eq_zero_iff.mp hlength
  obtain ⟨hhead, hblank⟩ := isPlainStart_notMem htext
  have hall : ∀ c ∈ marginAt indent depth, Text.isMarginal c = true := by
    intro c hc
    obtain ⟨part, hpart, hc⟩ := List.mem_flatten.mp hc
    rw [List.eq_of_mem_replicate hpart] at hc
    exact hmargin c hc
  obtain ⟨behind, hbehind, hown⟩ := exists_indentation hall hhead cursor.line 0 ⟨0, 0⟩
  rw [← hrest] at hown
  have hgoes := Goes.line hown (by rwa [hbehind]) (indentTokens_openIndents hindent hdepth hmax)
  have hfinds := finds_of_goes hgoes
  rw [← List.map_reverse, List.map_map, reverse_layoutKinds,
    List.map_congr_left fun kind _ => word_layoutToken behind kind] at hfinds
  exact ⟨⟨.inLine false, openIndents indent depth, [], behind⟩,
    ⟨rfl, rfl, rfl, hround, hbehind⟩, hfinds⟩

/-- The beginning of a line inside brackets. -/
lemma leads_lineInside {margin : List Char} (hmargin : ∀ c ∈ margin, Text.isMarginal c = true)
    (hopen : depth ≠ 0) (htext : IsPlainStart text) :
    Leads ⟨.lineStart, indents, depth, margin ++ text⟩ []
      ⟨.inLine false, indents, depth, text⟩ := by
  refine leads_of_forall fun brackets cursor hlength hround hrest => ?_
  obtain ⟨hhead, hblank⟩ := isPlainStart_notMem htext
  obtain ⟨behind, rfl, hown⟩ := exists_indentation hmargin hhead cursor.line 0 ⟨0, 0⟩
  rw [← hrest] at hown
  have hbrackets : brackets ≠ [] := by
    rintro rfl
    exact hopen hlength.symm
  have hgoes : Goes ⟨.lineStart, indents, brackets, cursor⟩ _ _ :=
    .blankLine hown (.inr hbrackets)
  rw [decide_eq_false hblank] at hgoes
  exact ⟨_, ⟨rfl, rfl, hlength, hround, rfl⟩, finds_of_goes hgoes⟩

/-- An empty line. -/
lemma leads_emptyLine : Leads ⟨.lineStart, indents, 0, '\n' :: rest⟩ []
    ⟨.lineStart, indents, 0, rest⟩ := by
  refine leads_of_forall fun brackets cursor hlength hround hrest => ?_
  obtain rfl : brackets = [] := List.length_eq_zero_iff.mp hlength
  have hhead : ∀ c ∈ ('\n' :: rest).head?, c ∉ [' ', '\t', '\x0c', '\\'] := by
    rintro c ⟨⟩
    decide
  obtain ⟨behind, hbehind, hown⟩ := @exists_indentation [] _ nofun hhead cursor.line 0 ⟨0, 0⟩
  rw [List.nil_append, ← hrest] at hown
  have hblank : isBlankLine behind.rest := .inr (by rw [hbehind]; rfl)
  have hgoes : Goes ⟨.lineStart, indents, [], cursor⟩ _ _ := .blankLine hown (.inl hblank)
  rw [decide_eq_true hblank] at hgoes
  refine ⟨⟨.lineStart, indents, [], behind.next⟩,
    ⟨rfl, rfl, rfl, hround, Cursor.rest_next hbehind⟩, ?_⟩
  exact (finds_of_goes hgoes).trans (finds_of_goes (.newline hbehind))

/-- The end of a text closes all indentations. -/
lemma words_of_end (hindent : indent ≠ []) (hmargin : ∀ c ∈ indent, Text.isMarginal c = true)
    (hmax : current + 1 < maxIndents) {scanner : Scanner}
    (hat : scanner.At ⟨.lineStart, openIndents indent current, 0, []⟩) :
    scanner.run.1.reverse.map Token.word =
      layoutWords current 0 ++ [Token.Kind.finish.word] := by
  have hplain : IsPlainStart [] := nofun
  have leads := leads_lineStart hindent hmargin (Nat.zero_le (current + 1)) hmax hplain
  obtain ⟨⟨_, _, brackets, cursor⟩, ⟨rfl, rfl, hlength, -, hrest⟩, tokens, hrun, hwords, -⟩ :=
    leads scanner hat
  obtain rfl : brackets = [] := List.length_eq_zero_iff.mp hlength
  have hstops : (Scanner.mk (.inLine false) (openIndents indent 0) [] cursor).step =
      .stops [layoutToken cursor .finish] .finished := by
    unfold step stepIn
    dsimp only
    rw [show cursor.rest = [] from hrest]
    rfl
  have hfinish := word_layoutToken cursor .finish
  rw [hrun, run_of_stops hstops, List.reverse_append, List.map_append, hwords]
  exact congrArg (fun word => layoutWords current 0 ++ [word]) hfinish

lemma unifyNewlines_eq {text : List Char} (h : '\r' ∉ text) : Text.unifyNewlines text = text := by
  fun_induction Text.unifyNewlines text with
  | case1 => rfl
  | case2 => exact absurd List.mem_cons_self h
  | case3 rest c _ ih =>
    rw [List.mem_cons, not_or] at h
    rw [if_neg (Ne.symm h.1), ih h.2]

lemma uniformLines_eq {text : List Char} (h : '\r' ∉ text) (hend : text.getLast? = some '\n') :
    uniformLines text = text := by
  have htake : text.reverse.take 2 ≠ ['\n', '\r'] := by
    intro htake
    have hmem : '\r' ∈ text.reverse.take 2 := by simp [htake]
    exact h (List.mem_reverse.mp (List.mem_of_mem_take hmem))
  rw [uniformLines, unifyNewlines_eq h]
  exact if_pos ⟨hend, htake⟩

/-- **A text shows the words** that scanning finds on the way to its end. -/
theorem shows_of_leads {text : List Char} {words : List Word} (hindent : indent ≠ [])
    (hmargin : ∀ c ∈ indent, Text.isMarginal c = true) (hmax : current + 1 < maxIndents)
    (htext : '\r' ∉ text) (hend : text.getLast? = some '\n')
    (h : Leads ⟨.lineStart, [], 0, text⟩ words ⟨.lineStart, openIndents indent current, 0, []⟩) :
    Context.Shows ⟨.ofText text, false, false⟩ 0
      (words ++ (layoutWords current 0 ++ [Token.Kind.finish.word])) := by
  have huniform := uniformLines_eq htext hend
  have htokens := (ofLines_eq 1 text).1
  rw [huniform] at htokens
  obtain ⟨next, hnext, tokens, hrun, rfl, -⟩ := h (start 1 text) ⟨rfl, rfl, rfl, nofun, rfl⟩
  have hall : (TokenSequence.ofText text).tokens.toList.map Token.word =
      tokens.reverse.map Token.word ++ (layoutWords current 0 ++ [Token.Kind.finish.word]) := by
    rw [TokenSequence.ofText, htokens, hrun, List.reverse_append, List.map_append,
      words_of_end hindent hmargin hmax hnext]
  rw [Context.Shows, List.drop_zero]
  exact ⟨[], by rw [List.append_nil, hall]⟩

end

end AdjointSynthesis.Code
