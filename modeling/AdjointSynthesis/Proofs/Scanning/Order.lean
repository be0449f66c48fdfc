import AdjointSynthesis.Code.Reader
import AdjointSynthesis.Proofs.Scanning.Places
import Mathlib.Data.List.Basic

/-!
# The order of tokens

Scanning goes down the lines of a text and never back.  So the words of a text stand in the order of
their lines, and each of them on a line that the text has.

* `isIn_of_mem_ofText`: where a token starts there is a character of the text.
* `line_le_count`, `line_le_length_splitLines`: the lines that tokens start on, by two notions of
  what a line is.
* `line_le_of_le`, `line_lt_of_newline`: a later word ends on no earlier line, and behind the end of a
  line it starts on a later one.
* `line_le_wordEnd`: nor does whatever ends with a later word.
-/

namespace AdjointSynthesis.Code

open Scanner

/-! ## Kinds of layout -/

lemma isLayout_of_mem_indentTokens {indents left : List Indentation} {own : Indentation}
    {kinds : List Token.Kind} (h : indentTokens indents own = .ok (kinds, left)) (cursor : Cursor) :
    ∀ token ∈ kinds.map (layoutToken cursor), token.isLayout = true := by
  simp only [List.mem_map]
  rintro _ ⟨kind, hkind, rfl⟩
  rcases eq_of_mem_indentTokens h kind hkind with rfl | rfl <;> rfl

/-! ## Tokens in a text -/

/-- A token starts on the line of a character of a text, and a word at one that is no newline. -/
def Token.IsIn (token : Token) (text : List Char) : Prop :=
  ∃ read c rest, text = read ++ c :: rest ∧ token.span.start.line = (placeAfter read).line ∧
    (c = '\n' → token.isLayout = true)

section
variable {cursor : Cursor} {scanner next : Scanner} {tokens : List Token} {token : Token}
  {text : List Char}

/-- Layout at the end of a text counts to the line that the last newline ends. -/
lemma isIn_layoutToken (h : cursor.StandsIn text) (hend : text.getLast? = some '\n')
    {kind : Token.Kind} (hkind : (layoutToken cursor kind).isLayout = true) :
    (layoutToken cursor kind).IsIn text := by
  obtain ⟨read, ⟨htext, hplace⟩, -⟩ := h
  have hline : cursor.line = (placeAfter read).line := congrArg Place.line hplace
  cases hrest : cursor.rest with
  | cons c rest =>
    refine ⟨read, c, rest, by rw [htext, hrest], ?_, fun _ => hkind⟩
    simp [layoutToken, Cursor.readLine, hrest, hline]
  | nil =>
    obtain ⟨lines, rfl⟩ := List.getLast?_eq_some_iff.mp hend
    rw [hrest, List.append_nil] at htext
    refine ⟨lines, '\n', [], rfl, ?_, fun _ => hkind⟩
    simp [layoutToken, Cursor.readLine, hrest, hline, ← htext, placeAfter_newline]

lemma Scanner.StandsIn.isIn_of_goes (h : scanner.StandsIn text) (hgoes : Goes scanner tokens next)
    (hend : text.getLast? = some '\n') : ∀ token ∈ tokens, token.IsIn text := by
  intro token hmem
  cases hgoes with
  | line hown _ hkinds =>
    have hlayout := isLayout_of_mem_indentTokens hkinds _ token hmem
    obtain ⟨kind, -, rfl⟩ := List.mem_map.mp hmem
    exact isIn_layoutToken (h.behind hown) hend hlayout
  | newline hrest =>
    split at hmem
    · cases hmem
    · rw [List.mem_singleton.mp hmem]
      obtain ⟨read, ⟨htext, hplace⟩, -⟩ := h.cursor
      exact ⟨read, '\n', _, by rw [htext, hrest], congrArg Place.line hplace, fun _ => rfl⟩
  | word hrest hc _ _ =>
    rw [List.mem_singleton.mp hmem]
    obtain ⟨read, ⟨htext, hplace⟩, -⟩ := h.cursor
    exact ⟨read, _, _, by rw [htext, hrest], congrArg Place.line hplace,
      fun hnewline => absurd hnewline hc.2.2.1⟩
  | _ => cases hmem

/-- **Every token starts at a character of its text.** -/
theorem isIn_of_mem_ofText (h : token ∈ (TokenSequence.ofText text).tokens) :
    token.IsIn (uniformLines text) := by
  have hend := getLast?_uniformLines text
  have hmem : token ∈ (TokenSequence.ofText text).tokens.toList := Array.mem_toList_iff.mpr h
  rw [TokenSequence.ofText, (Scanner.ofLines_eq 1 text).1, List.mem_reverse] at hmem
  refine Scanner.forall_mem_run (I := fun scanner => scanner.StandsIn (uniformLines text))
    (fun hstands hgoes => ⟨hstands.goes hgoes, hstands.isIn_of_goes hgoes hend⟩) ?_
    (standsIn_start text) token hmem
  intro scanner tokens ending hstands hstops token hmem
  rw [mem_of_stops hstops token hmem]
  exact isIn_layoutToken hstands.cursor hend rfl

/-- Lines are counted from one. -/
lemma one_le_line (h : token ∈ (TokenSequence.ofText text).tokens) : 1 ≤ token.span.start.line := by
  obtain ⟨read, c, rest, -, hline, -⟩ := isIn_of_mem_ofText h
  rw [hline, placeAfter]
  exact Nat.succ_le_succ (Nat.zero_le _)

end

/-! ## Lines that a text has -/

section
variable {text read rest : List Char} {token : Token} {c : Char}

/-- No token starts on a line that the text does not end. -/
lemma line_le_count (h : token ∈ (TokenSequence.ofText text).tokens) :
    token.span.start.line ≤ (uniformLines text).count '\n' := by
  obtain ⟨read, c, rest, heq, hline, -⟩ := isIn_of_mem_ofText h
  have hend := getLast?_uniformLines text
  -- the last newline of the text stands behind what was read
  have hlast : '\n' ∈ c :: rest := by
    rw [heq, List.getLast?_append_of_ne_nil _ (List.cons_ne_nil c rest)] at hend
    exact List.mem_of_getLast? hend
  have hpos := List.count_pos_iff.mpr hlast
  rw [hline, heq, List.count_append, placeAfter]
  dsimp only
  omega

lemma count_cons_le (d : Char) (read : List Char) :
    (d :: read).count '\n' ≤ read.count '\n' + 1 := by
  rw [List.count_cons]
  split <;> omega

lemma unifyNewlines_cons (h : ∀ more, c = '\r' → rest = '\n' :: more → False) :
    Text.unifyNewlines (c :: rest) = (if c = '\r' then '\n' else c) :: Text.unifyNewlines rest := by
  rw [Text.unifyNewlines]
  exact h

/-- Before a character that is no newline there are fewer newlines than lines. -/
lemma count_lt_length_splitLines (h : Text.unifyNewlines text = read ++ c :: rest) (hc : c ≠ '\n') :
    read.count '\n' < (Text.splitLines text).length := by
  unfold Text.splitLines
  rw [List.length_map]
  fun_induction Text.cutLines text generalizing read with
  | case1 => cases read <;> cases h
  | case2 more ih =>
    rw [Text.unifyNewlines] at h
    cases read with
    | nil => exact absurd (List.cons.inj h).1.symm hc
    | cons d read =>
      have := ih (List.cons.inj h).2
      exact Nat.lt_of_le_of_lt (count_cons_le d read) (Nat.succ_lt_succ this)
  | case3 d more hreturn _ ih =>
    rw [unifyNewlines_cons hreturn] at h
    cases read with
    | nil => exact Nat.succ_pos _
    | cons e read =>
      have := ih (List.cons.inj h).2
      exact Nat.lt_of_le_of_lt (count_cons_le e read) (Nat.succ_lt_succ this)
  | case4 d more hreturn _ hcut ih =>
    rw [unifyNewlines_cons hreturn] at h
    cases read with
    | nil => exact Nat.succ_pos _
    | cons e read =>
      have := ih (List.cons.inj h).2
      rw [hcut] at this
      cases this
  | case5 d more hreturn hboundary body ending lines hcut ih =>
    rw [unifyNewlines_cons hreturn] at h
    cases read with
    | nil => exact Nat.succ_pos _
    | cons e read =>
      -- a character inside a line is no newline, and stays what it is
      obtain ⟨hd, hreturn⟩ : d ≠ '\n' ∧ d ≠ '\r' := by
        constructor <;> rintro rfl <;> exact hboundary rfl
      rw [if_neg hreturn] at h
      obtain ⟨rfl, hmore⟩ := List.cons.inj h
      have := ih hmore
      rw [hcut] at this
      rwa [List.count_cons_of_ne hd]

/-- **Every word stands on a line of its text**, by the wider notion of a line. -/
theorem line_le_length_splitLines (h : token ∈ (TokenSequence.ofText text).tokens)
    (hword : token.isLayout = false) : token.span.start.line ≤ (Text.splitLines text).length := by
  obtain ⟨read, c, rest, heq, hline, hlayout⟩ := isIn_of_mem_ofText h
  have hc : c ≠ '\n' := fun hnewline => by rw [hlayout hnewline] at hword; cases hword
  rw [hline]
  -- a newline that is added at the end of the text stands behind the word
  unfold uniformLines at heq
  dsimp only at heq
  split at heq
  · exact count_lt_length_splitLines heq hc
  · rcases List.eq_nil_or_concat' rest with rfl | ⟨rest, d, rfl⟩
    · exact absurd (List.append_inj' heq rfl).2 (by simpa using hc.symm)
    · rw [← List.cons_append, ← List.append_assoc] at heq
      exact count_lt_length_splitLines (List.append_inj' heq rfl).1 hc

end

/-! ## Words in order -/

namespace Cursor

variable {cursor : Cursor}

lemma line_le_next (cursor : Cursor) : cursor.line ≤ cursor.next.line := by
  unfold next
  split
  · exact Nat.le_refl _
  · split
    · exact Nat.le_succ _
    · exact Nat.le_refl _

lemma line_le_skip (count : Nat) (cursor : Cursor) : cursor.line ≤ (cursor.skip count).line := by
  induction count generalizing cursor with
  | zero => exact Nat.le_refl _
  | succ count ih => exact Nat.le_trans cursor.line_le_next (ih cursor.next)

lemma line_le_of_indentation {line column wide narrow fixed : Nat} {rest : List Char}
    {own : Indentation} {behind : Cursor}
    (hown : indentation line column wide narrow fixed rest = .ok (own, behind)) :
    line ≤ behind.line := by
  fun_induction indentation line column wide narrow fixed rest with
  | case1 _ _ _ _ _ _ ih | case2 _ _ _ _ _ _ ih | case3 _ _ _ _ _ _ ih => exact ih hown
  | case4 | case6 => cases hown
  | case5 _ _ _ _ _ _ _ ih => exact Nat.le_of_succ_le (ih hown)
  | case7 =>
    cases hown
    exact Nat.le_refl _

end Cursor

/-- Of two words, the one ends on no later line than the other starts on.  The end of a line stands on
an earlier one. -/
def Token.Precedes (token other : Token) : Prop :=
  other.isLayout = false →
    (token.isLayout = false → token.span.stop.line ≤ other.span.start.line) ∧
      (token.kind = .newline → token.span.start.line < other.span.start.line)

namespace Scanner

variable {scanner next : Scanner} {tokens : List Token} {token : Token}

/-- No step goes up, and a word stands on the lines that its step goes over. -/
lemma line_le_of_goes (h : Goes scanner tokens next) : scanner.cursor.line ≤ next.cursor.line ∧
    ∀ token ∈ tokens, token.isLayout = false → scanner.cursor.line ≤ token.span.start.line ∧
      token.span.start.line ≤ token.span.stop.line ∧ token.span.stop.line ≤ next.cursor.line := by
  cases h with
  | blankLine hown _ => exact ⟨Cursor.line_le_of_indentation hown, by simp⟩
  | line hown _ hkinds =>
    refine ⟨Cursor.line_le_of_indentation hown, fun token hmem hword => ?_⟩
    rw [isLayout_of_mem_indentTokens hkinds _ token hmem] at hword
    cases hword
  | space => exact ⟨Cursor.line_le_next _, by simp⟩
  | comment => exact ⟨Cursor.line_le_skip _ _, by simp⟩
  | newline =>
    refine ⟨Cursor.line_le_next _, fun token hmem hword => ?_⟩
    split at hmem
    · cases hmem
    · rw [List.mem_singleton.mp hmem] at hword
      cases hword
  | continuation =>
    exact ⟨Nat.le_trans (Cursor.line_le_next _) (Cursor.line_le_next _), by simp⟩
  | word =>
    refine ⟨Cursor.line_le_skip _ _, fun token hmem _ => ?_⟩
    rw [List.mem_singleton.mp hmem]
    exact ⟨Nat.le_refl _, Cursor.line_le_skip _ _, Nat.le_refl _⟩

/-- A step over the end of a line goes down. -/
lemma line_lt_of_newline_mem (h : Goes scanner tokens next) (hmem : token ∈ tokens)
    (hkind : token.kind = .newline) : token.span.start.line < next.cursor.line := by
  cases h with
  | line _ _ hkinds =>
    obtain ⟨kind, hin, rfl⟩ := List.mem_map.mp hmem
    rcases eq_of_mem_indentTokens hkinds kind hin with rfl | rfl <;> cases hkind
  | newline hrest =>
    split at hmem
    · cases hmem
    · rw [List.mem_singleton.mp hmem]
      dsimp only
      rw [Cursor.next, hrest]
      exact Nat.lt_succ_self _
  | word _ _ hlexeme =>
    rw [List.mem_singleton.mp hmem] at hkind
    cases hkind
    exact absurd (by decide) (notMem_layout_of_lexeme hlexeme)
  | _ => cases hmem

/-- A step adds one word at most. -/
lemma pairwise_of_goes (h : Goes scanner tokens next) :
    tokens.Pairwise fun token other => other.Precedes token := by
  cases h with
  | line _ _ hkinds =>
    refine List.pairwise_of_forall_mem_list fun token hmem other _ hword => ?_
    rw [isLayout_of_mem_indentTokens hkinds _ token hmem] at hword
    cases hword
  | newline =>
    split
    · exact .nil
    · exact List.pairwise_singleton _ _
  | word => exact List.pairwise_singleton _ _
  | _ => exact .nil

/-- A run stays behind the line that it starts on. -/
lemma line_le_of_mem_run (scanner : Scanner) : ∀ token ∈ scanner.run.1, token.isLayout = false →
    scanner.cursor.line ≤ token.span.start.line ∧
      token.span.start.line ≤ token.span.stop.line := by
  -- no state of the run is above the line that it starts on
  refine forall_mem_run (I := fun later => scanner.cursor.line ≤ later.cursor.line) ?_ ?_
    (Nat.le_refl _)
  · intro later next tokens hle hgoes
    obtain ⟨hnext, htokens⟩ := line_le_of_goes hgoes
    refine ⟨Nat.le_trans hle hnext, fun token hmem hword => ?_⟩
    obtain ⟨hstart, hstop, -⟩ := htokens token hmem hword
    exact ⟨Nat.le_trans hle hstart, hstop⟩
  · intro later tokens ending _ hstops token hmem hword
    rw [mem_of_stops hstops token hmem] at hword
    cases hword

/-- **The words of a run stand in order**, the newest first. -/
theorem pairwise_run (scanner : Scanner) :
    scanner.run.1.Pairwise fun token other => other.Precedes token := by
  induction hbound : scanner.bound using Nat.strongRecOn generalizing scanner with
  | ind bound ih =>
    subst hbound
    cases hstep : scanner.step with
    | stops tokens ending =>
      rw [run_of_stops hstep]
      refine List.pairwise_of_forall_mem_list fun token hmem other _ hword => ?_
      rw [mem_of_stops hstep token hmem] at hword
      cases hword
    | goes tokens next =>
      have hgoes := step_eq_goes_iff.mp hstep
      rw [run_of_goes hstep]
      refine List.pairwise_append.mpr
        ⟨ih _ (bound_of_step hstep) next rfl, pairwise_of_goes hgoes, ?_⟩
      -- what is still to come stands behind what this step goes over
      intro token hmem other hother hlater
      have hstart := (line_le_of_mem_run next token hmem hlater).1
      constructor
      · intro hword
        exact Nat.le_trans ((line_le_of_goes hgoes).2 other hother hword).2.2 hstart
      · intro hnewline
        exact Nat.lt_of_lt_of_le (line_lt_of_newline_mem hgoes hother hnewline) hstart

end Scanner

section
variable {text : List Char} {token other : Token} {i j : Nat}

lemma start_le_stop (h : token ∈ (TokenSequence.ofText text).tokens)
    (hword : token.isLayout = false) : token.span.start.line ≤ token.span.stop.line := by
  have hmem : token ∈ (TokenSequence.ofText text).tokens.toList := Array.mem_toList_iff.mpr h
  rw [TokenSequence.ofText, (ofLines_eq 1 text).1, List.mem_reverse] at hmem
  exact (line_le_of_mem_run _ token hmem hword).2

lemma precedes_of_lt (hij : i < j) (hi : (TokenSequence.ofText text).tokens[i]? = some token)
    (hj : (TokenSequence.ofText text).tokens[j]? = some other) : token.Precedes other := by
  have hpairwise : (TokenSequence.ofText text).tokens.toList.Pairwise Token.Precedes := by
    rw [TokenSequence.ofText, (ofLines_eq 1 text).1]
    exact List.pairwise_reverse.mpr (pairwise_run _)
  rw [← Array.getElem?_toList] at hi hj
  obtain ⟨_, rfl⟩ := List.getElem?_eq_some_iff.mp hi
  obtain ⟨_, rfl⟩ := List.getElem?_eq_some_iff.mp hj
  exact List.pairwise_iff_getElem.mp hpairwise i j _ _ hij

/-- **Behind the end of a line a word starts on a later one.** -/
theorem line_lt_of_newline (hij : i < j) (hi : (TokenSequence.ofText text).tokens[i]? = some token)
    (hj : (TokenSequence.ofText text).tokens[j]? = some other) (hnewline : token.kind = .newline)
    (hother : other.isLayout = false) : token.span.start.line < other.span.start.line :=
  (precedes_of_lt hij hi hj hother).2 hnewline

/-- **A later word ends on no earlier line.** -/
theorem line_le_of_le (hij : i ≤ j) (hi : (TokenSequence.ofText text).tokens[i]? = some token)
    (hj : (TokenSequence.ofText text).tokens[j]? = some other) (hword : token.isLayout = false)
    (hother : other.isLayout = false) : token.span.start.line ≤ other.span.stop.line := by
  have hstart := start_le_stop (Array.mem_of_getElem? hi) hword
  have hstop := start_le_stop (Array.mem_of_getElem? hj) hother
  rcases Nat.lt_or_eq_of_le hij with hlt | rfl
  · have hbefore := (precedes_of_lt hlt hi hj hother).1 hword
    omega
  · rw [hi] at hj
    exact Option.some.inj hj ▸ hstart

/-- Whatever ends with a word behind some word ends on no earlier line. -/
lemma line_le_wordEnd (hij : i < j) (hi : (TokenSequence.ofText text).tokens[i]? = some token)
    (hword : token.isLayout = false) : token.span.start.line ≤
      (Reader.wordEnd (TokenSequence.ofText text).tokens j).line := by
  -- going back from there, one comes to the word at the latest
  induction hij with
  | refl =>
    rw [Reader.wordEnd, hi]
    dsimp only
    rw [if_neg (by rw [hword]; exact Bool.false_ne_true)]
    exact start_le_stop (Array.mem_of_getElem? hi) hword
  | @step j hij ih =>
    rw [Reader.wordEnd]
    split
    · next other hj =>
      split
      · exact ih
      · next hother =>
        exact line_le_of_le (Nat.le_of_succ_le hij) hi hj hword (Bool.eq_false_iff.mpr hother)
    · exact ih

end

end AdjointSynthesis.Code
