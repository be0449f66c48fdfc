import AdjointSynthesis.Proofs.Margins
import AdjointSynthesis.Proofs.Newlines

/-!
# The texts of blocks

The text of a block is cut out of a text in one of three ways: it is the whole text, some lines of
it, or what stands behind a colon on one line.  Whichever way it was, the text that comes out has
the same form, and nothing is left to do when it is taken for a text itself.

* `Text.IsNormal`: whole lines without a margin.
* `Definition.isNormal_body`: the body of a definition has that form.
* `Definition.ofText_body`: the body of bare statements is cut open as it is.
* `Block.isNormal_text`: what follows for blocks.
-/

namespace AdjointSynthesis

namespace Text

/-- Only newlines end lines in a text. -/
def HasOnlyNewlines (text : List Char) : Prop := ∀ c ∈ text, isBoundary c = true → c = '\n'

instance decidableHasOnlyNewlines (text : List Char) : Decidable (HasOnlyNewlines text) :=
  List.decidableBAll (fun c => isBoundary c = true → c = '\n') text

/-- A text of whole lines that has no margin. -/
structure IsNormal (text : List Char) : Prop where
  ended : text = [] ∨ text.getLast? = some '\n'
  only_newlines : HasOnlyNewlines text
  dedented : dedent text = text

section
variable {text : List Char} {lines : List (List Char)}

namespace HasOnlyNewlines

lemma hasPlainBoundaries (h : HasOnlyNewlines text) : HasPlainBoundaries text :=
  fun c hc hboundary => .inl (h c hc hboundary)

lemma return_not_mem (h : HasOnlyNewlines text) : '\r' ∉ text := by
  intro hmem
  cases h '\r' hmem rfl

lemma dedent (h : HasOnlyNewlines text) : HasOnlyNewlines (dedent text) := by
  intro c hc hboundary
  rcases mem_of_mem_dedent hc with rfl | hc
  · rfl
  · exact h c hc hboundary

lemma append_newline (h : HasOnlyNewlines text) : HasOnlyNewlines (text ++ ['\n']) := by
  intro c hc hboundary
  rcases List.mem_append.mp hc with hc | hc
  · exact h c hc hboundary
  · exact List.mem_singleton.mp hc

lemma endLines (h : ∀ line ∈ lines, ∀ c ∈ line, isBoundary c = false) :
    HasOnlyNewlines (endLines lines) := by
  intro c hc hboundary
  obtain ⟨line, hline, hc⟩ := List.mem_flatMap.mp hc
  rcases List.mem_append.mp hc with hc | hc
  · rw [h line hline c hc] at hboundary
    cases hboundary
  · exact List.mem_singleton.mp hc

end HasOnlyNewlines

/-! ## A newline at the end -/

/-- An empty line has no part in the margin. -/
lemma margin?_concat_nil (lines : List (List Char)) : margin? (lines ++ [[]]) = margin? lines := by
  induction lines with
  | nil => rfl
  | cons line rest ih => rw [List.cons_append, margin?, margin?, ih]

/-- A newline at the end stays when the margin is taken off. -/
lemma dedent_append_newline (text : List Char) : dedent (text ++ ['\n']) = dedent text ++ ['\n'] := by
  have hlines : splitOn '\n' (text ++ ['\n']) = splitOn '\n' text ++ [[]] :=
    splitOn_append_cons_self '\n' text []
  have hdedent : dedentLines (splitOn '\n' text ++ [[]]) =
      dedentLines (splitOn '\n' text) ++ [[]] := by
    simp [dedentLines, margin?_concat_nil, clearBlank]
  rw [dedent, hlines, hdedent, joinWith_concat_nil (dedentLines_ne_nil (splitOn_ne_nil _ _)), dedent]

lemma endLines_concat (lines : List (List Char)) (last : List Char) :
    endLines (lines ++ [last]) = endLines lines ++ last ++ ['\n'] := by
  simp [endLines]

/-! ## Normal texts -/

/-- Whole lines have a normal form once their margin is taken off. -/
lemma isNormal_dedent_endLines (h : ∀ line ∈ lines, ∀ c ∈ line, isBoundary c = false) :
    IsNormal (dedent (endLines lines)) where
  ended := by
    rcases List.eq_nil_or_concat' lines with rfl | ⟨before, last, rfl⟩
    · exact .inl rfl
    · right
      rw [endLines_concat, dedent_append_newline, List.getLast?_concat]
  only_newlines := (HasOnlyNewlines.endLines h).dedent
  dedented := dedent_dedent _

lemma relined_eq_closeLine (h : HasOnlyNewlines text) : relined text = closeLine text := by
  rw [relined_eq h.hasPlainBoundaries, Code.unifyNewlines_eq h.return_not_mem]

/-- A text that has no margin has a normal form once its last line is ended. -/
lemma isNormal_closeLine (h : HasOnlyNewlines text) (hdedent : dedent text = text) :
    IsNormal (closeLine text) := by
  unfold closeLine
  split
  · next hended => exact ⟨hended, h, hdedent⟩
  · exact ⟨.inr List.getLast?_concat, h.append_newline, by rw [dedent_append_newline, hdedent]⟩

/-- The lines of a normal text, ended by newlines, make up the text. -/
lemma IsNormal.relined (h : IsNormal text) : relined text = text := by
  rw [relined_eq_closeLine h.only_newlines, closeLine, if_pos h.ended]

end

end Text

/-! ## Bodies -/

open Text

namespace Code

/-- A text is read by its tokens. -/
lemma read_congr {text other : List Char} {statements : List Stmt}
    (h : uniformLines text = uniformLines other) (hread : read text = .ok statements) :
    read other = .ok statements := by
  have htokens : TokenSequence.ofText text = TokenSequence.ofText other := by
    simp only [TokenSequence.ofText, TokenSequence.ofLines, h]
  -- with enough steps for both, the tokens are all that matters
  rw [read_eq_ok_iff (Nat.le_max_left _ (Grammar.stepsFor other)), htokens] at hread
  exact (read_eq_ok_iff (Nat.le_max_right _ _) statements).mpr hread

end Code

namespace Definition

variable {source : List Char} {definition : Definition}

/-- A definition is a function that was cut open, or a whole text. -/
lemma ofText_cases (h : ofText source = .ok definition) :
    (definition.name.isSome ∧ ∃ lines, (∀ line ∈ lines, ∀ c ∈ line, isBoundary c = false) ∧
        definition.body = dedent (endLines lines)) ∨
      definition = ⟨none, relined (dedent source)⟩ := by
  rw [ofText] at h
  obtain ⟨statements, -, h⟩ := bind_eq_ok_iff.mp h
  dsimp only at h
  split at h
  · left
    obtain ⟨body, hbody, h⟩ := bind_eq_ok_iff.mp h
    cases h
    refine ⟨rfl, body, fun line hline c hc => ?_, rfl⟩
    obtain ⟨whole, hwhole, hmem⟩ := mem_of_mem_bodyLines hbody hline hc
    exact isBoundary_eq_false_of_mem_splitLines hwhole c hmem
  · right
    cases h
    rfl

/-- **The body of a definition is made of whole lines and has no margin.** -/
theorem isNormal_body (hsource : HasOnlyNewlines source) (h : ofText source = .ok definition) :
    IsNormal definition.body := by
  rcases ofText_cases h with ⟨-, lines, hlines, hbody⟩ | rfl
  · rw [hbody]
    exact isNormal_dedent_endLines hlines
  · rw [relined_eq_closeLine hsource.dedent]
    exact isNormal_closeLine hsource.dedent (dedent_dedent source)

/-- **The body of bare statements is cut open as it is.** -/
theorem ofText_body (hsource : HasOnlyNewlines source) (h : ofText source = .ok definition)
    (hbare : definition.name = none) : ofText definition.body = .ok definition := by
  have hnormal := isNormal_body hsource h
  rcases ofText_cases h with ⟨hnamed, -⟩ | rfl
  · rw [hbare] at hnamed
    cases hnamed
  dsimp only at hnormal ⊢
  rw [ofText] at h
  obtain ⟨statements, hread, h⟩ := bind_eq_ok_iff.mp h
  obtain ⟨hnull, hread⟩ := readProgram_eq_ok_iff.mp hread
  have hdedent := hsource.dedent
  have huniform : Code.uniformLines (dedent source) =
      Code.uniformLines (relined (dedent source)) := by
    rcases Code.uniformLines_relined hdedent.hasPlainBoundaries with heq | ⟨hreturn, -⟩
    · exact heq.symm
    · exact absurd (hreturn.subset List.mem_cons_self) hdedent.return_not_mem
  have hnull' : '\x00' ∉ relined (dedent source) := by
    rw [relined_eq_closeLine hdedent, closeLine]
    split
    · exact hnull
    · simpa using hnull
  rw [ofText, hnormal.dedented]
  refine bind_eq_ok_iff.mpr ⟨statements,
    readProgram_eq_ok_iff.mpr ⟨hnull', Code.read_congr huniform hread⟩, ?_⟩
  -- the statements are the same, so they are still no function
  dsimp only at h ⊢
  split at h
  · obtain ⟨body, -, h⟩ := bind_eq_ok_iff.mp h
    cases h
  · exact congrArg (fun body => Except.ok (Definition.mk none body)) hnormal.relined

end Definition

/-! ## Blocks -/

namespace Block

variable {source : List Char} {scope : Scope} {given : Option String} {block : Block}

/-- **The text of a block is made of whole lines and has no margin.**  So the text of its usage is the
text itself, and a block of bare statements is the block of its own text. -/
theorem isNormal_text (hsource : HasOnlyNewlines source)
    (h : Block.ofText source scope given = .ok block) :
    IsNormal block.text ∧ (∀ usage, block.usage = .ok usage → usage.text = block.text) ∧
      ((∃ body, Definition.ofText source = .ok ⟨none, body⟩) →
        Block.ofText block.text block.scope (some block.name) = .ok block) := by
  obtain ⟨definition, name, hdefinition, hname, hidentifier, rfl⟩ := ofText_eq_ok_iff.mp h
  have hnormal := Definition.isNormal_body hsource hdefinition
  refine ⟨hnormal, fun usage husage => ?_, ?_⟩
  · rw [(Usage.ofText_eq_ok_iff.mp husage).1]
    exact hnormal.dedented
  · rintro ⟨body, hbare⟩
    rw [hdefinition] at hbare
    cases hbare
    have hne : name ≠ "" := by
      rintro rfl
      cases hidentifier
    refine ofText_eq_ok_iff.mpr ⟨_, name, Definition.ofText_body hsource hdefinition rfl, ?_,
      hidentifier, rfl⟩
    rw [chosenName, if_neg hne]

/-- The last line has no newline, and the blank line is not empty. -/
theorem isNormal_text_last_line_open :
    ∃ block, Block.ofText "  a[0] = 1\n \n  b = a".toList (.ofNames ["a", "b"] .object)
        (some "f") = .ok block ∧
      HasOnlyNewlines "  a[0] = 1\n \n  b = a".toList ∧
      Definition.ofText "  a[0] = 1\n \n  b = a".toList = .ok ⟨none, "a[0] = 1\n\nb = a\n".toList⟩ ∧
      block.text = "a[0] = 1\n\nb = a\n".toList ∧ IsNormal block.text ∧
      (∃ usage, block.usage = .ok usage ∧ usage.text = block.text) ∧
      Block.ofText block.text block.scope (some block.name) = .ok block := by
  obtain ⟨block, hblock, htext⟩ : ∃ block,
      Block.ofText "  a[0] = 1\n \n  b = a".toList (.ofNames ["a", "b"] .object) (some "f") =
        .ok block ∧ block.text = "a[0] = 1\n\nb = a\n".toList :=
    exists_ok_of_decide (by decide +kernel)
  have hsource : HasOnlyNewlines "  a[0] = 1\n \n  b = a".toList := by decide +kernel
  obtain ⟨definition, hdefinition, rfl⟩ : ∃ definition,
      Definition.ofText "  a[0] = 1\n \n  b = a".toList = .ok definition ∧
        definition = ⟨none, "a[0] = 1\n\nb = a\n".toList⟩ :=
    exists_ok_of_decide (by decide +kernel)
  obtain ⟨usage, husage, -⟩ : ∃ usage, Usage.ofText "a[0] = 1\n\nb = a\n".toList = .ok usage ∧
      usage.mutated = ["a"] := exists_ok_of_decide (by decide +kernel)
  rw [← htext] at husage
  obtain ⟨hnormal, hown, hagain⟩ := isNormal_text hsource hblock
  exact ⟨block, hblock, hsource, hdefinition, htext, hnormal, ⟨usage, husage, hown usage husage⟩,
    hagain ⟨_, hdefinition⟩⟩

end Block

end AdjointSynthesis
