import AdjointSynthesis.Proofs.LineEnds
import AdjointSynthesis.Proofs.Reading.Lines
import AdjointSynthesis.Proofs.Reading.OneLine

/-!
# Definitions on one line

The body of a definition that stands on one line is cut off at the column of its first statement.  A
column counts bytes and the line is cut by characters, so the body loses its first characters when
the name is wider in bytes than in characters.

* `onOneLine`: a function without parameters on one line.
* `Code.holdsFunction_onOneLine`: what such a text is read as, if it is a program.
* `Definition.ofText_onOneLine`: how many characters its body loses.
* `Definition.ofText_onOneLine_of_narrow`: none if the name is written in characters of one byte.
* `Definition.onOneLine_wide`: this is asked for a reason.
-/

namespace AdjointSynthesis

open Text

/-- The head of a function without parameters, up to its first statement on the same line. -/
def headOnLine (name : List Char) : List Char :=
  "def".toList ++ ' ' :: (name ++ ['(', ')', ':', ' '])

/-- A function without parameters on one line. -/
def onOneLine (name line : List Char) : List Char := headOnLine name ++ (line ++ ['\n'])

/-! ## The text -/

lemma length_headOnLine (name : List Char) : (headOnLine name).length = name.length + 8 := by
  simp [headOnLine]

lemma bytesOf_headOnLine (name : List Char) :
    Code.bytesOf (headOnLine name) = Code.bytesOf name + 8 := by
  have hbefore : Code.bytesOf ("def".toList ++ [' ']) = 4 := by decide
  have hbehind : Code.bytesOf ['(', ')', ':', ' '] = 4 := by decide
  rw [headOnLine, List.append_cons, ← List.append_assoc, Code.bytesOf_append, Code.bytesOf_append,
    hbefore, hbehind]
  omega

namespace Text

variable {name line : List Char}

/-- A line that starts with no blank has no margin. -/
lemma dedent_of_isPlainStart {line : List Char} (hnewline : '\n' ∉ line)
    (hplain : Code.IsPlainStart line) : dedent line = line := by
  have hempty : ∀ other ∈ [line], other.all isMarginal → other = [] := by
    intro other hmem hall
    rw [List.mem_singleton.mp hmem] at hall ⊢
    cases line with
    | nil => rfl
    | cons c rest =>
      have hc := hplain c rfl
      simp_all [isMarginal]
  have hmargin : (margin? [line]).getD [] = [] := by
    rw [margin?]
    split
    · rfl
    · cases line with
      | nil => rfl
      | cons c rest =>
        have hc := hplain c rfl
        simp_all [isMarginal, margin?]
  rw [dedent, splitOn_of_not_mem hnewline, dedentLines_eq_self hmargin hempty, joinWith]

/-- The head of a function is on one line. -/
lemma isBoundary_of_mem_headOnLine (hname : isIdentifier name = true) :
    ∀ c ∈ headOnLine name, isBoundary c = false := by
  have hword : ∀ c ∈ "def".toList, isBoundary c = false := by simp [isBoundary]
  have hsigns : ∀ c ∈ ['(', ')', ':', ' '], isBoundary c = false := by simp [isBoundary]
  have hall := List.all_eq_true.mp (all_part_of_isIdentifier hname)
  rw [headOnLine, List.forall_mem_append, List.forall_mem_cons, List.forall_mem_append]
  exact ⟨hword, rfl, fun c hc => isBoundary_eq_false_of_isIdentifierPart (hall c hc), hsigns⟩

section
variable (hname : isIdentifier name = true) (hline : ∀ c ∈ line, isBoundary c = false)
include hname hline

lemma isBoundary_of_mem_append : ∀ c ∈ headOnLine name ++ line, isBoundary c = false :=
  fun c hc => (List.mem_append.mp hc).elim (isBoundary_of_mem_headOnLine hname c) (hline c)

lemma splitLines_onOneLine : splitLines (onOneLine name line) = [headOnLine name ++ line] := by
  have hlines := splitLines_endLines
    (List.forall_mem_singleton.mpr (isBoundary_of_mem_append hname hline))
  simpa [endLines, onOneLine] using hlines

lemma newline_notMem : '\n' ∉ headOnLine name ++ line := by
  intro hmem
  cases isBoundary_of_mem_append hname hline _ hmem

lemma dedent_onOneLine : dedent (onOneLine name line) = onOneLine name line := by
  have hplain : Code.IsPlainStart (headOnLine name ++ line) := Code.isPlainStart_cons (by decide)
  rw [onOneLine, ← List.append_assoc, dedent_append_newline,
    dedent_of_isPlainStart (newline_notMem hname hline) hplain]

lemma uniformLines_onOneLine : Code.uniformLines (onOneLine name line) = onOneLine name line := by
  refine Code.uniformLines_eq (fun hmem => ?_) ?_
  · rw [onOneLine, ← List.append_assoc] at hmem
    rcases List.mem_append.mp hmem with hmem | hmem
    · cases isBoundary_of_mem_append hname hline _ hmem
    · cases List.mem_singleton.mp hmem
  · rw [onOneLine, ← List.append_assoc, List.getLast?_concat]

end

end Text

namespace Code

open Scanner Grammar

/-! ## Scanning up to a place -/

section
variable {before behind : List Char} {words : List Word} {indents : List Indentation} {depth : Nat}

/-- The first word behind some place starts there, if no blank does. -/
lemma Scanner.start_of_getLast?_run {scanner : Scanner} {blank : Bool}
    (hstand : scanner.stand = .inLine blank) (hplain : IsPlainStart scanner.cursor.rest)
    {token : Token} (htoken : scanner.run.1.getLast? = some token) (hword : token.isLayout = false) :
    token.span.start = scanner.cursor.place := by
  cases hstep : scanner.step with
  | stops tokens ending =>
    rw [run_of_stops hstep] at htoken
    rw [mem_of_stops hstep token (List.mem_of_getLast? htoken)] at hword
    cases hword
  | goes tokens next =>
    rw [run_of_goes hstep] at htoken
    have hnot {c : Char} {rest : List Char} (hrest : scanner.cursor.rest = c :: rest) :
        c ∉ [' ', '\t', '\x0c', '\\', '#', '\n'] := hplain c (by rw [hrest]; rfl)
    cases step_eq_goes_iff.mp hstep with
    | blankLine | line => cases hstand
    | space hrest hc => simp_all
    | comment hrest => simp_all
    | newline hrest => simp_all
    | continuation hrest => simp_all
    | word =>
      rw [List.getLast?_concat] at htoken
      cases htoken
      rfl

/-- Words that scanning finds up to some place of a text stand at its beginning. -/
lemma exists_scanner_of_leads (huniform : uniformLines (before ++ behind) = before ++ behind)
    (hleads : Leads ⟨.lineStart, [], 0, before ++ behind⟩ words
      ⟨.inLine false, indents, depth, behind⟩) :
    ∃ (scanner : Scanner) (tokens : List Token), scanner.At ⟨.inLine false, indents, depth, behind⟩ ∧
      scanner.cursor.place = placeAfter before ∧ tokens.map Token.word = words ∧
      (TokenSequence.ofText (before ++ behind)).tokens.toList = tokens ++ scanner.run.1.reverse := by
  obtain ⟨scanner, hat, tokens, hrun, hwords, hstands⟩ :=
    hleads (start 1 (before ++ behind)) ⟨rfl, rfl, rfl, nofun, rfl⟩
  obtain ⟨read, ⟨htext, hplace⟩, -⟩ := (hstands _ (huniform ▸ standsIn_start _)).cursor
  rw [show scanner.cursor.rest = behind from hat.rest] at htext
  obtain rfl := List.append_cancel_right htext
  refine ⟨scanner, tokens.reverse, hat, hplace, hwords, ?_⟩
  rw [TokenSequence.ofText, (ofLines_eq 1 _).1, huniform, hrun, List.reverse_append]

end

section
variable {text name line : List Char}

/-- All words stand on the only line of a text. -/
lemma line_eq_one (h : (splitLines text).length = 1) {token : Token}
    (hmem : token ∈ (TokenSequence.ofText text).tokens) (hword : token.isLayout = false) :
    token.span.start.line = 1 := by
  have hfirst := one_le_line hmem
  have hlast := line_le_length_splitLines hmem hword
  omega

/-- No word stands behind the only line of a text. -/
lemma isOneLine_of_length (h : (splitLines text).length = 1) :
    Context.IsOneLine ⟨.ofText text, false, false⟩ := by
  intro i token htoken hnewline
  refine ⟨(Array.getElem?_eq_some_iff.mp htoken).1, fun j other hj hother => ?_⟩
  by_contra hlayout
  have hword : other.isLayout = false := by simpa using hlayout
  have hbefore := line_lt_of_newline hj htoken hother hnewline hword
  have hfirst := one_le_line (Array.mem_of_getElem? htoken)
  have hlast := line_eq_one h (Array.mem_of_getElem? hother) hword
  omega

/-- The words of the head of a function. -/
lemma leads_headOnLine (hname : IsUnreserved name) (line : List Char) :
    Leads ⟨.lineStart, [], 0, headOnLine name ++ line⟩ (emptyHead name)
      ⟨.inLine false, [], 0, line⟩ := by
  have hdef : Writes 0 "def".toList [(Token.Kind.keyword .def_).word] :=
    writes_keyword (by decide) 0
  have head := hdef.spaced (writes_name hname.isIdentifier hname.wordKind_eq)
  have hplain : IsPlainStart (headOnLine name ++ line) := isPlainStart_cons (by decide)
  have start : Leads ⟨.lineStart, openIndents [' '] 0, 0, marginAt [' '] 0 ++ _⟩ _ _ :=
    leads_lineStart (List.cons_ne_nil _ _) (List.all_eq_true.mp rfl) (Nat.zero_le _) (by decide)
      hplain
  have words := (head [] 0 ('(' :: ')' :: ':' :: ' ' :: line) (endsWord_cons (by decide))
    (by decide)).trans <| (leads_openParen (by decide)).trans <| leads_closeParen.trans <|
      (leads_colon (by decide)).trans leads_blank
  have leads : Leads ⟨.inLine false, [], 0, headOnLine name ++ line⟩ (emptyHead name)
      ⟨.inLine false, [], 0, line⟩ := by
    simpa [headOnLine, emptyHead] using words
  exact start.trans leads

/-- The place behind a text of one line. -/
lemma placeAfter_of_notMem {text : List Char} (h : '\n' ∉ text) :
    placeAfter text = ⟨1, bytesOf text⟩ := by
  have hopen : openLine text = text := by simpa [openLine] using openLine_append h []
  rw [placeAfter, hopen, List.count_eq_zero.mpr h]

/-! ## Reading -/

/-- **A program on one line is a function**, and its block starts behind the head. -/
theorem holdsFunction_onOneLine (hname : IsUnreserved name)
    (hline : ∀ c ∈ line, isBoundary c = false) (hplain : IsPlainStart line) (hne : line ≠ [])
    {statements : List Stmt} (hread : read (onOneLine name line) = .ok statements) :
    ∃ span first rest, statements = [.mk span (.function false (identifierOf name) .none
      (first :: rest) [] none)] ∧ span.start.line = 1 ∧ first.span.start = ⟨1, bytesOf name + 8⟩ := by
  have huniform := uniformLines_onOneLine hname.isIdentifier hline
  obtain ⟨scanner, tokens, hat, hplace, hwords, htokens⟩ :=
    exists_scanner_of_leads huniform (leads_headOnLine hname (line ++ ['\n']))
  have hcount : tokens.length = 5 := by
    rw [← List.length_map, hwords]
    rfl
  have hshows : Context.Shows ⟨.ofText (onOneLine name line), false, false⟩ 0 (emptyHead name) := by
    rw [Context.Shows, List.drop_zero, onOneLine, htokens, List.map_append, hwords]
    exact List.prefix_append _ _
  have hone : (splitLines (onOneLine name line)).length = 1 := by
    rw [splitLines_onOneLine hname.isIdentifier hline, List.length_singleton]
  obtain ⟨span, body, head, rfl, hhead, hspan, first, rest, rfl, token, htoken, hword, hstart⟩ :=
    holdsFunction_of_read hshows (isOneLine_of_length hone) hread
  refine ⟨span, first, rest, rfl, ?_, ?_⟩
  · have hdef : head.kind = .keyword .def_ := by
      have hfirst := hshows.wordAt
      rw [Context.wordAt, hhead, Option.map_some] at hfirst
      exact congrArg Word.kind (Option.some.inj hfirst)
    rw [hspan]
    exact line_eq_one hone (Array.mem_of_getElem? hhead) (by rw [Token.isLayout, hdef])
  · have hrest : IsPlainStart scanner.cursor.rest := by
      obtain ⟨c, more, rfl⟩ := List.exists_cons_of_ne_nil hne
      rw [hat.rest]
      exact hplain
    have hfirst : scanner.run.1.getLast? = some token := by
      have hindex : (tokens ++ scanner.run.1.reverse)[5]? = some token := by
        rw [← htokens]
        exact Array.getElem?_toList.trans htoken
      rw [List.getElem?_append_right (by omega), hcount] at hindex
      rwa [← List.head?_reverse, List.head?_eq_getElem?]
    have hhere := start_of_getLast?_run hat.stand hrest hfirst hword
    have hnewline : '\n' ∉ headOnLine name := by
      intro hmem
      cases isBoundary_of_mem_headOnLine hname.isIdentifier _ hmem
    rw [hstart, hhere, hplace, placeAfter_of_notMem hnewline, bytesOf_headOnLine]

end

end Code

/-! ## Cutting open -/

namespace Definition

variable {name line : List Char}

/-- The body of a definition on a single line is the end of this line. -/
lemma bodyLines_singleton {whole : List Char} {body : List (List Char)}
    {definition first last : Code.Span} (hline : first.start.line = definition.start.line)
    (hfirst : first.start.line = 1) (h : bodyLines [whole] definition first last = .ok body) :
    body = [whole.drop first.start.column] := by
  rw [bodyLines, if_pos hline, hfirst] at h
  cases hlast : last.stop.line with
  | zero =>
    rw [hlast] at h
    cases h
  | succ count =>
    rw [hlast] at h
    cases h
    rw [List.take_nil]

/-- **The body of a definition on one line loses as many characters as its name has bytes more than
characters.** -/
theorem ofText_onOneLine (hname : Code.IsUnreserved name)
    (hline : ∀ c ∈ line, isBoundary c = false) (hplain : Code.IsPlainStart line) (hne : line ≠ [])
    {definition : Definition} (h : ofText (onOneLine name line) = .ok definition) :
    definition = ⟨some (Code.Grammar.identifierOf name),
      dedent (line.drop (Code.bytesOf name - name.length) ++ ['\n'])⟩ := by
  rw [ofText_eq, dedent_onOneLine hname.isIdentifier hline] at h
  obtain ⟨statements, hprogram, hcut⟩ := bind_eq_ok_iff.mp h
  obtain ⟨-, hread⟩ := readProgram_eq_ok_iff.mp hprogram
  obtain ⟨span, first, rest, rfl, hspan, hfirst⟩ :=
    Code.holdsFunction_onOneLine hname hline hplain hne hread
  rw [splitLines_onOneLine hname.isIdentifier hline, cut] at hcut
  obtain ⟨body, hbody, hcut⟩ := bind_eq_ok_iff.mp hcut
  have hcolumn : (headOnLine name ++ line).drop (Code.bytesOf name + 8) =
      line.drop (Code.bytesOf name - name.length) := by
    have hlength := length_headOnLine name
    have hbytes := Code.length_le_bytesOf name
    rw [List.drop_append, List.drop_eq_nil_of_le (by omega), List.nil_append, hlength,
      Nat.add_sub_add_right]
  obtain rfl := bodyLines_singleton (by rw [hfirst, hspan]) (by rw [hfirst]) hbody
  rw [hfirst, hcolumn, endLines, List.flatMap_singleton] at hcut
  exact (Except.ok.inj hcut).symm

/-- The body of a definition on one line is the rest of the line, if the name is written in characters
of one byte. -/
theorem ofText_onOneLine_of_narrow (hname : Code.IsUnreserved name)
    (hnarrow : Code.bytesOf name = name.length)
    (hline : ∀ c ∈ line, isBoundary c = false) (hplain : Code.IsPlainStart line) (hne : line ≠ [])
    {definition : Definition} (h : ofText (onOneLine name line) = .ok definition) :
    definition = ⟨some (Code.Grammar.identifierOf name), line ++ ['\n']⟩ := by
  have hnewline : '\n' ∉ line := by
    intro hmem
    cases hline _ hmem
  rw [ofText_onOneLine hname hline hplain hne h, hnarrow, Nat.sub_self, List.drop_zero,
    dedent_append_newline, dedent_of_isPlainStart hnewline hplain]

/-- A name of two bytes, and what the definition is on two lines. -/
theorem onOneLine_wide :
    ofText (onOneLine ['é'] "a[0] = 1".toList) = .ok ⟨some "é", "[0] = 1\n".toList⟩ ∧
      ofText "def é():\n    a[0] = 1\n".toList = .ok ⟨some "é", "a[0] = 1\n".toList⟩ := by
  decide +kernel

end Definition

end AdjointSynthesis
