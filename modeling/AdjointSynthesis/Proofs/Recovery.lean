import AdjointSynthesis.Proofs.Alignment
import AdjointSynthesis.Proofs.BlockTexts
import AdjointSynthesis.Proofs.Settings

/-!
# The text of a block in its two forms

Both forms of a block are a head, the statements at depth one and a return.  Without their first and
last line they are an indented text, and the text of the block comes back when its margin is taken
off.

* `Text.IsUnbroken`, `Text.inner`: what makes up one line, and a text without its outer lines.
* `indent_endLines`, `inner_endLines`: lines that are ended by newlines are indented, and cut off, one
  by one.
* `Block.HasPlainText`: whole lines without a margin, in plain white space.
* `Recovers`: a form that gives the text of its block back.
* `forms_recover`: both forms do, whatever the roles are.
-/

namespace AdjointSynthesis

/-! ## Lines of a text -/

namespace Text

/-- Whether nothing in a word ends a line. -/
def IsUnbroken (word : List Char) : Prop := ∀ c ∈ word, isBoundary c = false

instance decidableIsUnbroken (word : List Char) : Decidable (IsUnbroken word) :=
  List.decidableBAll (fun c => isBoundary c = false) word

/-- A text without its first and its last line. -/
def inner (text : List Char) : List Char :=
  (cutLines text).tail.dropLast.flatMap fun line => line.1 ++ line.2

section
variable {start word other text : List Char} {lines : List (List Char)}

lemma IsUnbroken.append (h : IsUnbroken word) (hother : IsUnbroken other) :
    IsUnbroken (word ++ other) := List.forall_mem_append.mpr ⟨h, hother⟩

lemma IsUnbroken.of_parts (h : ∀ c ∈ word, isIdentifierPart c = true) : IsUnbroken word :=
  fun c hc => isBoundary_eq_false_of_isIdentifierPart (h c hc)

lemma IsUnbroken.of_isMarginal (h : word.all isMarginal) : IsUnbroken word := by
  intro c hc
  have hmarginal := List.all_eq_true.mp h c hc
  simp only [isMarginal, Bool.or_eq_true, beq_iff_eq] at hmarginal
  rcases hmarginal with rfl | rfl <;> rfl

lemma IsUnbroken.indentLine (hstart : IsUnbroken start) (h : IsUnbroken word) :
    IsUnbroken (indentLine start word) := by
  intro c hc
  rcases mem_of_mem_indentLine hc with hc | hc
  · exact hstart c hc
  · exact h c hc

/-- Lines that are ended by newlines are indented one by one. -/
lemma indent_endLines (start : List Char) (h : ∀ line ∈ lines, IsUnbroken line) :
    indent start (endLines lines) = endLines (lines.map (indentLine start)) := by
  rw [indent, cutLines_endLines h, endLines, List.flatMap_map, List.flatMap_map]
  refine List.flatMap_congr fun line _ => ?_
  -- the newline behind a line does not make it less blank
  have hblank : (line ++ ['\n']).all isBlank = line.all isBlank := by
    rw [List.all_append]
    exact Bool.and_true _
  rw [indentLine, hblank]
  split <;> simp

/-- Between the outer lines stand the others. -/
lemma inner_endLines {first last : List Char} (hfirst : IsUnbroken first)
    (h : ∀ line ∈ lines, IsUnbroken line) (hlast : IsUnbroken last) :
    inner (endLines (first :: lines ++ [last])) = endLines lines := by
  have hall : ∀ line ∈ first :: lines ++ [last], IsUnbroken line := by
    simp only [List.cons_append, List.forall_mem_cons, List.forall_mem_append]
    exact ⟨hfirst, h, hlast, by simp⟩
  rw [inner, cutLines_endLines hall, List.cons_append, List.map_cons, List.tail_cons,
    List.map_append, List.map_singleton, List.dropLast_concat, List.flatMap_map]
  rfl

end

end Text

open Text

/-! ## Blocks with a plain text -/

/-- Whether the text of a block is made of whole lines, has no margin and has no other white space
than spaces, tabs and newlines. -/
structure Block.HasPlainText (block : Block) : Prop where
  ended : block.text = [] ∨ block.text.getLast? = some '\n'
  dedented : dedent block.text = block.text
  blanks : HasPlainBlanks block.text

section
variable {source : List Char} {c : Char}

lemma Text.HasPlainBlanks.hasOnlyNewlines (h : HasPlainBlanks source) : HasOnlyNewlines source := by
  intro c hc hboundary
  rcases h c hc (isBlank_of_isBoundary hboundary) with hc | hmarginal
  · exact hc
  · simp only [isMarginal, Bool.or_eq_true, beq_iff_eq] at hmarginal
    rcases hmarginal with rfl | rfl <;> cases hboundary

/-- The body of a definition is made of characters of its text. -/
lemma Definition.mem_of_mem_body {definition : Definition}
    (h : Definition.ofText source = .ok definition) (hc : c ∈ definition.body) :
    c = '\n' ∨ c ∈ source := by
  have hline {line : List Char} (hmem : line ∈ splitLines (dedent source)) (hc : c ∈ line) :
      c = '\n' ∨ c ∈ source := mem_of_mem_dedent (mem_of_mem_splitLines hmem hc)
  rw [Definition.ofText] at h
  obtain ⟨statements, -, h⟩ := bind_eq_ok_iff.mp h
  dsimp only at h
  split at h
  · obtain ⟨body, hbody, h⟩ := bind_eq_ok_iff.mp h
    cases h
    rcases mem_of_mem_dedent hc with hc | hc
    · exact .inl hc
    rcases mem_of_mem_endLines hc with hc | ⟨line, hmem, hc⟩
    · exact .inl hc
    obtain ⟨whole, hwhole, hc⟩ := mem_of_mem_bodyLines hbody hmem hc
    exact hline hwhole hc
  · cases h
    rcases mem_of_mem_endLines hc with hc | ⟨line, hmem, hc⟩
    · exact .inl hc
    · exact hline hmem hc

end

namespace Block

variable {block : Block}

lemma HasPlainText.isNormal (h : block.HasPlainText) : IsNormal block.text :=
  ⟨h.ended, h.blanks.hasOnlyNewlines, h.dedented⟩

/-- Blocks of texts in plain white space have plain texts. -/
lemma hasPlainText_of_ofText {source : List Char} {scope : Scope} {given : Option String}
    (hsource : HasPlainBlanks source) (h : Block.ofText source scope given = .ok block) :
    block.HasPlainText := by
  obtain ⟨definition, name, hdefinition, -, -, rfl⟩ := ofText_eq_ok_iff.mp h
  have hnormal := Definition.isNormal_body hsource.hasOnlyNewlines hdefinition
  refine ⟨hnormal.ended, hnormal.dedented, fun c hc hblank => ?_⟩
  rcases Definition.mem_of_mem_body hdefinition hc with hc | hc
  · exact .inl hc
  · exact hsource c hc hblank

end Block

/-! ## Forms -/

/-- Whether a form gives a text back: it has a head and a last line, and what stands between them
is the text behind a margin. -/
structure Recovers (form head last text : List Char) : Prop where
  lines : ∃ body, splitLines form = head :: body ++ [last]
  inside : dedent (inner form) = text

/-- The line that a function begins with. -/
def headLine (name : String) (arguments : List String) : List Char :=
  ("def " ++ signature name arguments ++ ":").toList

/-- The line that a form ends with. -/
def returnLine (settings : Settings) (returned : String) : List Char :=
  (settings.indent ++ "return " ++ returned).toList

section
variable {block : Block} {settings : Settings} {name returned : String} {arguments : List String}

lemma indentation_one (settings : Settings) : indentation settings 1 = settings.indent.toList := by
  simp [indentation]

lemma isUnbroken_headLine (hname : IsUnbroken name.toList)
    (harguments : ∀ argument ∈ arguments, IsUnbroken argument.toList) :
    IsUnbroken (headLine name arguments) := by
  have hsigns : IsUnbroken listSigns := by decide
  have hsignature : IsUnbroken (signature name arguments).toList := by
    intro c hc
    rcases mem_of_mem_signature hc with hc | hc | ⟨argument, hmem, hc⟩
    · exact hsigns c hc
    · exact hname c hc
    · exact harguments argument hmem c hc
  simp only [headLine, String.toList_append]
  exact (IsUnbroken.append (by decide) hsignature).append (by decide)

lemma isUnbroken_returnLine (hindent : IsUnbroken settings.indent.toList)
    (hreturned : IsUnbroken returned.toList) : IsUnbroken (returnLine settings returned) := by
  simp only [returnLine, String.toList_append]
  exact (hindent.append (by decide)).append hreturned

lemma isUnbroken_tupleText {names : List String} (h : ∀ name ∈ names, IsUnbroken name.toList) :
    IsUnbroken (tupleText names).toList := by
  have hsigns : IsUnbroken listSigns := by decide
  intro c hc
  rcases mem_of_mem_tupleText hc with hc | ⟨name, hmem, hc⟩
  · exact hsigns c hc
  · exact h name hmem c hc

lemma isUnbroken_of_mem_indented {start line text : List Char} (hstart : IsUnbroken start)
    (h : line ∈ (splitLines text).map (indentLine start)) : IsUnbroken line := by
  obtain ⟨whole, hwhole, rfl⟩ := List.mem_map.mp h
  exact hstart.indentLine (isBoundary_eq_false_of_mem_splitLines hwhole)

/-- The lines of a normal text, indented one by one, make up the indented text. -/
lemma endLines_indented (start : List Char) {text : List Char} (htext : IsNormal text) :
    endLines ((splitLines text).map (indentLine start)) = indent start text := by
  have hwhole : endLines (splitLines text) = text := htext.relined
  rw [← indent_endLines start fun _ hline => isBoundary_eq_false_of_mem_splitLines hline, hwhole]

/-- A form is a head, the lines of the text at depth one and a return. -/
lemma functionForm_eq_ofLines (block : Block) (settings : Settings) (name : String)
    (arguments : List String) (returned : String) :
    functionForm block settings name arguments returned =
      ofLines (headLine name arguments :: linesAt settings 1 block.text ++
        [returnLine settings returned]) := by
  simp [functionForm, lineAt, headLine, returnLine, indentation, String.ext_iff]

/-- The lines of a normal text are put at depth one by putting the indent before them. -/
lemma functionForm_eq (htext : IsNormal block.text) (hindent : IsUnbroken settings.indent.toList) :
    functionForm block settings name arguments returned =
      endLines (headLine name arguments ::
        (splitLines block.text).map (indentLine settings.indent.toList) ++
          [returnLine settings returned]) := by
  have hlines : linesAt settings 1 block.text =
      (splitLines block.text).map (indentLine settings.indent.toList) := by
    rw [linesAt, indentation_one, ← endLines_indented _ htext]
    exact splitLines_endLines fun line hline => isUnbroken_of_mem_indented hindent hline
  rw [functionForm_eq_ofLines, hlines, ofLines_eq_endLines (by simp)]

/-- **A form gives the text of its block back**, and nothing but the text, indented, stands between
its outer lines. -/
lemma functionForm_recovers (hblock : block.HasPlainText)
    (hindent : settings.indent.toList.all isMarginal) (hname : IsUnbroken name.toList)
    (harguments : ∀ argument ∈ arguments, IsUnbroken argument.toList)
    (hreturned : IsUnbroken returned.toList) :
    Recovers (functionForm block settings name arguments returned) (headLine name arguments)
        (returnLine settings returned) block.text ∧
      inner (functionForm block settings name arguments returned) =
        indent settings.indent.toList block.text := by
  have hstart := IsUnbroken.of_isMarginal hindent
  have hhead := isUnbroken_headLine hname harguments
  have hlast := isUnbroken_returnLine hstart hreturned
  have hbody : ∀ line ∈ (splitLines block.text).map (indentLine settings.indent.toList),
      IsUnbroken line := fun line hline => isUnbroken_of_mem_indented hstart hline
  have hinner : inner (functionForm block settings name arguments returned) =
      indent settings.indent.toList block.text := by
    rw [functionForm_eq hblock.isNormal hstart, inner_endLines hhead hbody hlast,
      endLines_indented _ hblock.isNormal]
  refine ⟨⟨⟨(splitLines block.text).map (indentLine settings.indent.toList), ?_⟩, ?_⟩, hinner⟩
  · rw [functionForm_eq hblock.isNormal hstart]
    refine splitLines_endLines ?_
    simp only [List.cons_append, List.forall_mem_cons, List.forall_mem_append]
    exact ⟨hhead, hbody, hlast, by simp⟩
  · rw [hinner, dedent_indent hindent hblock.blanks, hblock.dedented]

end

/-- The suffix of an in-place form holds nothing that ends a line. -/
lemma Settings.Accepted.isUnbroken_inplaceSuffix {settings : Settings} (h : settings.Accepted) :
    IsUnbroken settings.inplaceSuffix.toList :=
  .of_parts (all_part_of_check_inplaceSuffix (h .inplaceSuffix _ rfl))

/-- **Both forms give the text of their block back.**  Blocks of texts in plain white space have
plain texts.  Whatever names and roles such a block has, as long as each name stands on one line, the
text is what stands between the head and the return of either form, behind a margin. -/
theorem forms_recover :
    (∀ source scope given block, HasPlainBlanks source →
      Block.ofText source scope given = .ok block → block.HasPlainText) ∧
    ∀ (block : Block) (roles : Roles) (settings : Settings), block.HasPlainText →
      settings.Accepted → settings.indent.toList.all isMarginal →
      IsUnbroken block.name.toList →
      (∀ name ∈ roles.inputs ++ roles.mutated, IsUnbroken name.toList) →
      Recovers (inplaceForm block roles settings)
          (headLine (block.name ++ settings.inplaceSuffix) roles.inputs)
          (returnLine settings "None") block.text ∧
        Recovers (returningForm block roles settings) (headLine block.name roles.inputs)
          (returnLine settings (tupleText roles.mutated)) block.text ∧
        inner (inplaceForm block roles settings) = inner (returningForm block roles settings) := by
  refine ⟨fun source scope given block => Block.hasPlainText_of_ofText, ?_⟩
  intro block roles settings hblock hsettings hindent hname hnames
  obtain ⟨hinputs, hmutated⟩ := List.forall_mem_append.mp hnames
  have hinplaceName : IsUnbroken (block.name ++ settings.inplaceSuffix).toList := by
    rw [String.toList_append]
    exact hname.append hsettings.isUnbroken_inplaceSuffix
  have hnone : IsUnbroken "None".toList := by decide
  obtain ⟨hinplace, hinside⟩ := functionForm_recovers hblock hindent hinplaceName hinputs hnone
  obtain ⟨hreturning, hinside'⟩ := functionForm_recovers hblock hindent hname hinputs
    (isUnbroken_tupleText hmutated)
  exact ⟨hinplace, hreturning, hinside.trans hinside'.symm⟩

/-- Tabs and spaces are mixed in the indent and in the text, one of the blank lines is not empty, and
the roles are no partition. -/
theorem forms_recover_mixed :
    ∃ block settings, Block.ofText "  if c:\n\n  \t  a[0] = 1\n \n  b = 2".toList
        (.ofNames ["a", "b", "c"] .object) (some "f") = .ok block ∧
      Settings.ofSources [[("indent", .text "\t ")]] = .ok settings ∧
      block.text = "if c:\n\n\t  a[0] = 1\n\nb = 2\n".toList ∧
      inner (inplaceForm block ⟨["b", "a", "a"], ["x", "a"], [], ["b"]⟩ settings) =
        "\t if c:\n\n\t \t  a[0] = 1\n\n\t b = 2\n".toList ∧
      Recovers (inplaceForm block ⟨["b", "a", "a"], ["x", "a"], [], ["b"]⟩ settings)
        "def f_(b, a, a):".toList "\t return None".toList block.text ∧
      Recovers (returningForm block ⟨["b", "a", "a"], ["x", "a"], [], ["b"]⟩ settings)
        "def f(b, a, a):".toList "\t return (x, a)".toList block.text := by
  obtain ⟨block, hblock, htext, hname⟩ : ∃ block,
      Block.ofText "  if c:\n\n  \t  a[0] = 1\n \n  b = 2".toList
          (.ofNames ["a", "b", "c"] .object) (some "f") = .ok block ∧
        block.text = "if c:\n\n\t  a[0] = 1\n\nb = 2\n".toList ∧ block.name = "f" :=
    exists_ok_of_decide (by decide +kernel)
  obtain ⟨settings, hsettings, hindent, hsuffix⟩ : ∃ settings,
      Settings.ofSources [[("indent", .text "\t ")]] = .ok settings ∧
        settings.indent = "\t " ∧ settings.inplaceSuffix = "_" :=
    exists_ok_of_decide (by decide +kernel)
  have hplain : block.HasPlainText :=
    forms_recover.1 "  if c:\n\n  \t  a[0] = 1\n \n  b = 2".toList _ _ _ (by decide +kernel) hblock
  obtain ⟨hinplace, hreturning, -⟩ := forms_recover.2 block
    ⟨["b", "a", "a"], ["x", "a"], [], ["b"]⟩ settings hplain
    (Settings.accepted_of_ofSources hsettings) (by rw [hindent]; decide) (by rw [hname]; decide)
    (by decide)
  have hinplaceLines : headLine ("f" ++ "_") ["b", "a", "a"] = "def f_(b, a, a):".toList ∧
      ("\t " ++ "return " ++ "None").toList = "\t return None".toList := by decide +kernel
  have hreturningLines : headLine "f" ["b", "a", "a"] = "def f(b, a, a):".toList ∧
      ("\t " ++ "return " ++ tupleText ["x", "a"]).toList = "\t return (x, a)".toList := by
    decide +kernel
  refine ⟨block, settings, hblock, hsettings, htext, ?_, ?_, ?_⟩
  · simp only [inplaceForm, functionForm, Naming.of, lineAt, linesAt, indentation, htext, hname,
      hindent, hsuffix]
    decide +kernel
  · rwa [hname, hsuffix, returnLine, hindent, hinplaceLines.1, hinplaceLines.2] at hinplace
  · rwa [hname, returnLine, hindent, hreturningLines.1, hreturningLines.2] at hreturning

end AdjointSynthesis
