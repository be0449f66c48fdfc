import AdjointSynthesis.Block
import AdjointSynthesis.Proofs.Reading.Spans
import AdjointSynthesis.Proofs.Writes

/-!
# Lines that are looked up

A definition is cut open along the lines that its statements stand on, and writes are searched for on
the lines of their targets.  The grammar counts lines by one notion of what ends a line, and they are
looked up by two others.  All the same none is looked up in vain: a text fails only where it is no
program.

* `Definition.ofText_eq_error_iff`: every program is cut open.
* `Text.PairsReturns`: carriage returns stand before newlines only.
* `Usage.ofText_eq_error_iff`: every program with such carriage returns only has a usage.
* `Block.usage_eq_error_iff`: so has every block of a text, whatever ends the lines of the text.
-/

namespace AdjointSynthesis

open Code

/-! ## Cutting a definition open -/

/-- A body is cut out of lines among which its definition starts. -/
lemma exists_bodyLines {lines : List (List Char)} {definition first last : Span}
    (hpos : 0 < definition.start.line) (hlines : definition.start.line ≤ lines.length)
    (hlast : definition.start.line ≤ last.stop.line) :
    ∃ body, bodyLines lines definition first last = .ok body := by
  unfold bodyLines
  dsimp only
  split
  · next hfirst =>
    -- the first line of the body is that of the definition, which is there
    have hne : (lines.take last.stop.line).drop (first.start.line - 1) ≠ [] := by
      rw [Ne, List.drop_eq_nil_iff, List.length_take]
      omega
    split
    · next hnil => exact absurd hnil hne
    · exact ⟨_, rfl⟩
  · exact ⟨_, rfl⟩

/-- What is cut out of some lines holds their characters. -/
lemma mem_of_mem_bodyLines {lines body : List (List Char)} {definition first last : Span}
    (h : bodyLines lines definition first last = .ok body) {line : List Char} (hline : line ∈ body)
    {c : Char} (hc : c ∈ line) : ∃ whole ∈ lines, c ∈ whole := by
  have hcut {whole : List Char}
      (hwhole : whole ∈ (lines.take last.stop.line).drop (first.start.line - 1)) : whole ∈ lines :=
    List.mem_of_mem_take (List.mem_of_mem_drop hwhole)
  unfold bodyLines at h
  dsimp only at h
  split at h
  · split at h
    · cases h
    · next whole rest hbody =>
      rw [hbody] at hcut
      cases h
      rcases List.mem_cons.mp hline with rfl | hline
      · exact ⟨whole, hcut List.mem_cons_self, List.mem_of_mem_drop hc⟩
      · exact ⟨line, hcut (List.mem_cons_of_mem _ hline), hc⟩
  · cases h
    exact ⟨line, hcut hline, hc⟩

section
variable {source : List Char} {failure : Failure}

/-- **A text is cut open whenever it is a program.** -/
theorem Definition.ofText_eq_error_iff : Definition.ofText source = .error failure ↔
    readProgram .unit (Text.dedent source) = .error failure := by
  rw [Definition.ofText, bind_eq_error_iff]
  refine or_iff_left ?_
  rintro ⟨statements, hread, h⟩
  obtain ⟨-, hread⟩ := readProgram_eq_ok_iff.mp hread
  dsimp only at h
  split at h
  · next span _ _ _ first rest _ _ _ =>
    obtain ⟨token, hmem, hword, hstart, hbody⟩ :=
      isSpannedIn_of_read hread _ (mem_allIn (List.mem_singleton_self _)) rfl
    have hlast : rest.getLast?.getD first ∈ first :: rest := by
      cases hlast : rest.getLast? with
      | none => exact List.mem_cons_self
      | some last => exact List.mem_cons_of_mem _ (List.mem_of_getLast? hlast)
    have hline : span.start.line = token.span.start.line := congrArg Place.line hstart
    have hpos : 0 < span.start.line := hline ▸ one_le_line hmem
    have hlines := hline ▸ line_le_length_splitLines hmem hword
    obtain ⟨body, hlookup⟩ := @exists_bodyLines _ _ first.span _ hpos hlines (hbody _ hlast)
    rw [hlookup] at h
    cases h
  · cases h

lemma return_not_mem_endLines {lines : List (List Char)} (h : ∀ line ∈ lines, '\r' ∉ line) :
    '\r' ∉ Text.endLines lines := by
  intro hmem
  obtain ⟨line, hline, hmem⟩ := List.mem_flatMap.mp hmem
  rcases List.mem_append.mp hmem with hmem | hmem
  · exact h line hline hmem
  · cases List.mem_singleton.mp hmem

/-- The body of a definition holds no carriage return, since these end lines of the text. -/
lemma return_not_mem_body {definition : Definition} (h : Definition.ofText source = .ok definition) :
    '\r' ∉ definition.body := by
  have hsplit : ∀ line ∈ Text.splitLines (Text.dedent source), '\r' ∉ line :=
    fun line hline => Text.not_mem_of_mem_splitLines rfl hline
  rw [Definition.ofText] at h
  obtain ⟨statements, -, h⟩ := bind_eq_ok_iff.mp h
  dsimp only at h
  split at h
  · obtain ⟨body, hlookup, h⟩ := bind_eq_ok_iff.mp h
    cases h
    intro hmem
    rcases mem_of_mem_dedent hmem with hmem | hmem
    · cases hmem
    · refine return_not_mem_endLines (fun line hline hreturn => ?_) hmem
      obtain ⟨whole, hwhole, hmem⟩ := mem_of_mem_bodyLines hlookup hline hreturn
      exact hsplit whole hwhole hmem
  · cases h
    exact return_not_mem_endLines hsplit

end

/-! ## Carriage returns before newlines -/

namespace Text

/-- Every carriage return of a text stands before a newline. -/
def PairsReturns (text : List Char) : Prop :=
  ∀ rest, '\r' :: rest <:+ text → rest.head? = some '\n'

lemma pairsReturns_of_not_mem {text : List Char} (h : '\r' ∉ text) : PairsReturns text :=
  fun _ hsuffix => absurd (hsuffix.subset List.mem_cons_self) h

lemma PairsReturns.of_suffix {text rest : List Char} (h : PairsReturns text)
    (hsuffix : rest <:+ text) : PairsReturns rest :=
  fun rest hreturn => h rest (hreturn.trans hsuffix)

/-- Lines that lose their beginnings do not lose the newlines behind carriage returns. -/
lemma PairsReturns.joinWith {lines shorter : List (List Char)}
    (hshorter : List.Forall₂ (· <:+ ·) shorter lines) (h : PairsReturns (joinWith ['\n'] lines)) :
    PairsReturns (joinWith ['\n'] shorter) := by
  induction hshorter with
  | nil => exact h
  | @cons part line shorter lines hpart hrest ih =>
    cases hrest with
    | nil => exact h.of_suffix hpart
    | @cons next more parts others hnext hmore =>
      have hjoined : '\n' :: Text.joinWith ['\n'] (more :: others) <:+
          Text.joinWith ['\n'] (line :: more :: others) :=
        ⟨line, (joinWith_cons_cons ['\n'] line more others).symm⟩
      have hih := ih (h.of_suffix ((List.suffix_cons _ _).trans hjoined))
      rintro rest ⟨before, heq⟩
      rw [joinWith_cons_cons] at heq
      rcases List.append_eq_append_iff.mp heq with ⟨own, hpart', hrest⟩ | ⟨own, -, hrest⟩
      · -- the return stands on the first line
        cases own with
        | nil => cases hrest
        | cons c own =>
          obtain ⟨rfl, rfl⟩ := List.cons_eq_cons.mp hrest
          obtain ⟨lost, rfl⟩ := hpart
          have hline : '\r' :: (own ++ '\n' :: Text.joinWith ['\n'] (more :: others)) <:+
              Text.joinWith ['\n'] ((lost ++ part) :: more :: others) :=
            ⟨lost ++ before, by rw [joinWith_cons_cons, hpart']; simp⟩
          have hhead := h _ hline
          rw [List.head?_append] at hhead
          exact List.head?_append.trans hhead
      · -- it stands on a later one
        cases own with
        | nil => cases hrest
        | cons c own =>
          exact hih rest ⟨own, (List.cons_eq_cons.mp hrest).2.symm⟩

lemma PairsReturns.dedent {source : List Char} (h : PairsReturns source) :
    PairsReturns (dedent source) := by
  refine PairsReturns.joinWith ?_ ((joinWith_splitOn '\n' source).symm ▸ h)
  rw [dedentLines, List.forall₂_map_left_iff, List.forall₂_same]
  intro line _
  have hclear : clearBlank line <:+ line := by
    rw [clearBlank]
    split
    · exact List.nil_suffix
    · exact List.suffix_rfl
  exact (List.drop_suffix _ _).trans hclear

/-- A carriage return and the newline behind it become one newline. -/
lemma PairsReturns.count_unifyNewlines {text : List Char} (h : PairsReturns text) :
    (unifyNewlines text).count '\n' = text.count '\n' := by
  fun_induction unifyNewlines text with
  | case1 => rfl
  | case2 rest ih =>
    have hrest := ih (h.of_suffix ⟨['\r', '\n'], rfl⟩)
    rw [List.count_cons_self, hrest, List.count_cons_of_ne (by decide), List.count_cons_self]
  | case3 c rest hnext ih =>
    have hc : c ≠ '\r' := by
      rintro rfl
      obtain ⟨more, rfl⟩ := List.head?_eq_some_iff.mp (h rest List.suffix_rfl)
      exact hnext more rfl rfl
    rw [if_neg hc, List.count_cons, List.count_cons, ih (h.of_suffix (List.suffix_cons c rest))]

end Text

/-! ## Searching for writes -/

section
variable {lines : List (List Char)} {targets : List Expr} {source text : List Char}
  {failure : Failure}

/-- Writes are found among targets on lines that are there. -/
lemma exists_writesTo (h : ∀ target ∈ targets, target.span.start.line - 1 < lines.length) :
    ∃ writes, writesTo lines targets = .ok writes := by
  induction targets with
  | nil => exact ⟨[], rfl⟩
  | cons target rest ih =>
    obtain ⟨hline, hrest⟩ := List.forall_mem_cons.mp h
    obtain ⟨writes, hwrites⟩ := ih hrest
    obtain ⟨write, hwrite⟩ : ∃ write, writeTo? lines target = .ok write := by
      unfold writeTo?
      rw [startsLine?, List.getElem?_eq_getElem hline, Option.map_some]
      split
      · exact ⟨_, rfl⟩
      · split
        · next hnone => cases hnone
        · exact ⟨_, rfl⟩
        · exact ⟨_, rfl⟩
    rw [writesTo, hwrite, hwrites]
    exact ⟨_, rfl⟩

/-- Tokens start on lines that newlines make. -/
lemma line_lt_length_splitOn (htext : Text.PairsReturns text) {token : Token}
    (h : token ∈ (TokenSequence.ofText text).tokens) :
    token.span.start.line - 1 < (Text.splitOn '\n' text).length := by
  -- the grammar ends the last line if the text does not
  have hcount : (uniformLines text).count '\n' ≤ text.count '\n' + 1 := by
    rw [uniformLines]
    split
    · rw [htext.count_unifyNewlines]
      exact Nat.le_succ _
    · rw [List.count_append, List.count_singleton_self, htext.count_unifyNewlines]
  have hline := line_le_count h
  rw [Text.length_splitOn]
  omega

/-- **A text whose carriage returns stand before newlines has a usage whenever it is a program.** -/
theorem Usage.ofText_eq_error_iff (hsource : Text.PairsReturns source) :
    Usage.ofText source = .error failure ↔
      readProgram .block (Text.dedent source) = .error failure := by
  rw [Usage.ofText, bind_eq_error_iff]
  refine or_iff_left ?_
  rintro ⟨statements, hread, h⟩
  obtain ⟨-, hread⟩ := readProgram_eq_ok_iff.mp hread
  have htargets : ∀ target ∈ (allIn statements).flatMap Stmt.targets,
      target.span.start.line - 1 < (Text.splitOn '\n' (Text.dedent source)).length := by
    intro target hmem
    obtain ⟨stmt, hstmt, htarget⟩ := List.mem_flatMap.mp hmem
    obtain ⟨token, htoken, hplace⟩ := exists_token_of_mem_targets hread hstmt htarget
    exact hplace ▸ line_lt_length_splitOn hsource.dedent htoken
  obtain ⟨writes, hwrites⟩ := exists_writesTo htargets
  dsimp only at h
  rw [hwrites] at h
  cases h

/-- A carriage return ends a line of a program, but none that writes are searched for on. -/
theorem usage_behind_return : Usage.ofText "b = 1\ra[0] = 1".toList = .error .missingLine := by
  have hfails : (match Usage.ofText "b = 1\ra[0] = 1".toList with
      | .error failure => decide (failure = .missingLine)
      | .ok _ => false) = true := by decide +kernel
  split at hfails
  · next hresult => rw [hresult, of_decide_eq_true hfails]
  · cases hfails

end

namespace Block

variable {source : List Char} {scope : Scope} {given : Option String} {block : Block}
  {failure : Failure}

/-- **A block of a text has a usage whenever it is a program**, whatever ends the lines of the
text. -/
theorem usage_eq_error_iff (h : Block.ofText source scope given = .ok block) :
    block.usage = .error failure ↔
      readProgram .block (Text.dedent block.text) = .error failure := by
  obtain ⟨definition, _, hdefinition, -, -, rfl⟩ := Block.ofText_eq_ok_iff.mp h
  exact Usage.ofText_eq_error_iff (Text.pairsReturns_of_not_mem (return_not_mem_body hdefinition))

end Block

end AdjointSynthesis
