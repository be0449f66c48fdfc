import AdjointSynthesis.Proofs.Reading.Texts
import AdjointSynthesis.Proofs.Scanning.Layout

/-!
# Lines and the statements they are written for

* `bracketsText_lined`: values in brackets, each on a line of its own.
* `LinesText`: some lines at a depth are written for some statements.  Statements, functions and
  decorated functions are such lines, and so are lines below lines.
* `LinesText.exists_read`: lines at no depth are read as their statements.
-/

namespace AdjointSynthesis.Code

open Grammar

/-! ## Beginnings -/

lemma isPlainStart_append {word rest : List Char} (h : isWord word = true) :
    IsPlainStart (word ++ rest) := by
  obtain ⟨hne, hall⟩ := isWord_iff.mp h
  obtain ⟨c, tail, rfl⟩ := List.exists_cons_of_ne_nil hne
  rintro d ⟨⟩ hmem
  have hpart := hall c List.mem_cons_self
  simp only [List.mem_cons, List.not_mem_nil, or_false] at hmem
  rcases hmem with rfl | rfl | rfl | rfl | rfl | rfl <;> cases hpart

lemma IsUnreserved.isPlainStart {written rest : List Char} (h : IsUnreserved written) :
    IsPlainStart (written ++ rest) :=
  isPlainStart_append (isWord_of_isIdentifier h.isIdentifier)

lemma isPlainStart_cons {c : Char} {rest : List Char}
    (h : c ∉ [' ', '\t', '\x0c', '\\', '#', '\n']) : IsPlainStart (c :: rest) := by
  rintro d ⟨⟩
  exact h

lemma IsUnreserved.isPlainStart_toList {name rest : String} {behind : List Char}
    (h : IsUnreserved name.toList) : IsPlainStart ((name ++ rest).toList ++ behind) := by
  rw [String.toList_append, List.append_assoc]
  exact h.isPlainStart

/-! ## Brackets over several lines -/

section
variable {levels : Nat} {inner outer : List Char}

/-- Texts of values, each on a line of its own with a comma behind it. -/
def linesInside (inner : List Char) (texts : List (List Char)) : List Char :=
  texts.flatMap fun text => '\n' :: (inner ++ (text ++ [',']))

/-- Texts of values in brackets, each on a line of its own with a comma behind it. -/
def linedText (inner outer : List Char) (texts : List (List Char)) : List Char :=
  '(' :: (linesInside inner texts ++ '\n' :: (outer ++ [')']))

/-- A line end inside brackets and the margin of the next line. -/
lemma leads_margin {margin text : List Char} (hmargin : ∀ c ∈ margin, Text.isMarginal c = true)
    (indents : List Indentation) (depth : Nat) (htext : IsPlainStart text) :
    Leads ⟨.inLine false, indents, depth + 1, '\n' :: (margin ++ text)⟩ []
      ⟨.inLine false, indents, depth + 1, text⟩ :=
  (leads_lineBreak (Nat.succ_ne_zero depth)).trans
    (leads_lineInside hmargin (Nat.succ_ne_zero depth) htext)

lemma leads_linesInside (hinner : ∀ c ∈ inner, Text.isMarginal c = true)
    {items : List (List Char × List Word)} (h : ∀ item ∈ items, Writes levels item.1 item.2)
    (hstart : ∀ item ∈ items, ∀ rest, IsPlainStart (item.1 ++ rest))
    (indents : List Indentation) {depth : Nat} (hdepth : depth + 1 + levels ≤ maxBrackets)
    (rest : List Char) :
    Leads ⟨.inLine false, indents, depth + 1, linesInside inner (items.map Prod.fst) ++ rest⟩
      (items.flatMap fun item => item.2 ++ [(Token.Kind.mark .comma).word])
      ⟨.inLine false, indents, depth + 1, rest⟩ := by
  induction items with
  | nil => exact .refl _
  | cons item items ih =>
    have more := ih (fun item hitem => h item (List.mem_cons_of_mem _ hitem))
      fun item hitem => hstart item (List.mem_cons_of_mem _ hitem)
    have value := h item List.mem_cons_self indents (depth + 1)
      (',' :: (linesInside inner (items.map Prod.fst) ++ rest)) (endsWord_cons (by decide)) hdepth
    have line := leads_margin hinner indents depth (hstart item List.mem_cons_self
      (',' :: (linesInside inner (items.map Prod.fst) ++ rest)))
    have leads := line.trans (value.trans (leads_comma.trans more))
    simpa [linesInside] using leads

/-- The words of values with a comma behind each of them. -/
lemma flatMap_comma (first : List Word) (rest : List (List Word)) :
    ((first :: rest).flatMap fun words => words ++ [(Token.Kind.mark .comma).word]) =
      listed first rest ++ [(Token.Kind.mark .comma).word] := by
  induction rest generalizing first with
  | nil => simp [listed, behindCommas]
  | cons second rest ih =>
    rw [List.flatMap_cons, ih]
    simp [listed, behindCommas]

lemma writes_lined (hinner : ∀ c ∈ inner, Text.isMarginal c = true)
    (houter : ∀ c ∈ outer, Text.isMarginal c = true) (first : List Char × List Word)
    (rest : List (List Char × List Word))
    (h : ∀ item ∈ first :: rest, Writes levels item.1 item.2)
    (hstart : ∀ item ∈ first :: rest, ∀ behind, IsPlainStart (item.1 ++ behind)) :
    Writes (levels + 1) (linedText inner outer ((first :: rest).map Prod.fst))
      (bracketed first.2 (rest.map Prod.snd) true) := by
  intro indents depth behind hbehind hdepth
  have inside := leads_linesInside hinner h hstart indents (by omega : depth + 1 + levels ≤ _)
    ('\n' :: (outer ++ ')' :: behind))
  have hclose : IsPlainStart (')' :: behind) := isPlainStart_cons (by decide)
  have close := (leads_margin houter indents depth hclose).trans leads_closeParen
  have leads := (leads_openParen (by omega)).trans (inside.trans close)
  have hwords := flatMap_comma first.2 (rest.map Prod.snd)
  rw [← List.map_cons (f := Prod.snd), List.flatMap_map] at hwords
  rw [hwords] at leads
  simpa [linedText, bracketed, trailingComma] using leads

/-- Values in brackets, each on a line of its own. -/
lemma bracketsText_lined (hinner : ∀ c ∈ inner, Text.isMarginal c = true)
    (houter : ∀ c ∈ outer, Text.isMarginal c = true) (first : List Char × Expr)
    (rest : List (List Char × Expr))
    (h : ∀ item ∈ first :: rest, ExpressionText levels item.1 item.2)
    (hstart : ∀ item ∈ first :: rest, ∀ behind, IsPlainStart (item.1 ++ behind)) :
    BracketsText (levels + 1) (linedText inner outer ((first :: rest).map Prod.fst)) first.2
      (rest.map Prod.snd) true := by
  obtain ⟨words, hwords⟩ := exists_words h
  have hwrites := writes_lined hinner houter (first.1, words first)
    (rest.map fun item => (item.1, words item))
    (by
      intro item hitem
      rw [← List.map_cons (f := fun item : List Char × Expr => (item.1, words item))] at hitem
      obtain ⟨original, hmem, rfl⟩ := List.mem_map.mp hitem
      exact (hwords original hmem).1)
    (by
      intro item hitem
      rw [← List.map_cons (f := fun item : List Char × Expr => (item.1, words item))] at hitem
      obtain ⟨original, hmem, rfl⟩ := List.mem_map.mp hitem
      exact hstart original hmem)
  rw [List.map_cons, List.map_map, List.map_map] at hwrites
  refine ⟨fun behind => endsWord_cons (by decide), words first,
    rest.map fun item => (words item, item.2), ?_, ?_, fun sub c _ _ => ⟨?_, ?_⟩⟩
  · rw [List.map_map]
    rfl
  · rw [List.map_map]
    exact hwrites
  · exact (hwords first List.mem_cons_self).2 sub c
  · intro item hitem
    obtain ⟨original, hmem, rfl⟩ := List.mem_map.mp hitem
    exact (hwords original (List.mem_cons_of_mem _ hmem)).2 sub c

end

/-! ## Lines of statements -/

/-- A text is written for a statement and begins with no blank, comment or line end. -/
structure LineText (levels : Nat) (text : List Char) (s : Stmt) : Prop where
  statement : StatementText levels text s
  start : ∀ rest, IsPlainStart (text ++ rest)

/-- Some lines that stand at a depth are written for some statements.  Blocks that are open behind
the last line are closed by the next line that stands at the depth. -/
def LinesText (indent : List Char) (depth : Nat) (text : List Char) (statements : List Stmt) :
    Prop :=
  ∃ (shown : List Word) (behind : Nat) (items : List (List Word × Stmt)),
    items.map Prod.snd = statements ∧
    shown ++ List.replicate behind Token.Kind.dedent.word = itemsWords items ∧
    depth + behind + 1 < maxIndents ∧
    (∀ (current : Nat) (rest : List Char), depth ≤ current + 1 → current + 1 < maxIndents →
      Leads ⟨.lineStart, openIndents indent current, 0, text ++ rest⟩
        (layoutWords current depth ++ shown)
        ⟨.lineStart, openIndents indent (depth + behind), 0, rest⟩) ∧
    ∀ (sub : Grammar) (c : Context) [sub.Settled c] [c.IsPlain],
      ∀ item ∈ items, SpellsItem sub c item.1 item.2

lemma layoutWords_add (depth behind : Nat) :
    layoutWords (depth + behind) depth = List.replicate behind Token.Kind.dedent.word := by
  rw [layoutWords, layoutKinds, if_neg (by omega), List.map_replicate]
  congr
  omega

lemma layoutWords_self (depth : Nat) : layoutWords depth depth = [] := layoutWords_add depth 0

lemma layoutWords_succ (depth : Nat) :
    layoutWords depth (depth + 1) = [Token.Kind.indent.word] := by
  rw [layoutWords, layoutKinds, if_pos (Nat.lt_succ_self _)]
  rfl

section
variable {indent : List Char} {depth levels : Nat} {text text' : List Char}
  {statements statements' : List Stmt} {s : Stmt}

/-- Lines below lines. -/
lemma LinesText.append (h : LinesText indent depth text statements)
    (h' : LinesText indent depth text' statements') :
    LinesText indent depth (text ++ text') (statements ++ statements') := by
  obtain ⟨shown, behind, items, rfl, hshown, hbehind, hleads, hspells⟩ := h
  obtain ⟨shown', behind', items', rfl, hshown', hbehind', hleads', hspells'⟩ := h'
  refine ⟨shown ++ (List.replicate behind Token.Kind.dedent.word ++ shown'), behind',
    items ++ items', List.map_append, ?_, hbehind', ?_, ?_⟩
  · rw [itemsWords, List.flatMap_append, ← itemsWords, ← itemsWords, ← hshown, ← hshown']
    simp only [List.append_assoc]
  · intro current rest hcurrent hmax
    have first := hleads current (text' ++ rest) hcurrent hmax
    have second := hleads' (depth + behind) rest (by omega) hbehind
    rw [layoutWords_add] at second
    rw [List.append_assoc, ← List.append_assoc (layoutWords current depth)]
    exact first.trans second
  · intro sub c _ _ item hitem
    rcases List.mem_append.mp hitem with hmem | hmem
    · exact hspells sub c item hmem
    · exact hspells' sub c item hmem

/-- An empty line below lines. -/
lemma LinesText.emptyLine (h : LinesText indent depth text statements) :
    LinesText indent depth (text ++ ['\n']) statements := by
  obtain ⟨shown, behind, items, rfl, hshown, hbehind, hleads, hspells⟩ := h
  refine ⟨shown, behind, items, rfl, hshown, hbehind, fun current rest hcurrent hmax => ?_, hspells⟩
  have leads := (hleads current ('\n' :: rest) hcurrent hmax).trans leads_emptyLine
  rw [List.append_nil] at leads
  rwa [List.append_assoc]

variable (hindent : indent ≠ []) (hmargin : ∀ c ∈ indent, Text.isMarginal c = true)
include hindent hmargin

/-- A line of words at a depth. -/
lemma leads_line {words : List Word} (h : Writes levels text words) (hlevels : levels ≤ maxBrackets)
    (hstart : ∀ rest, IsPlainStart (text ++ rest)) {current : Nat} (hcurrent : depth ≤ current + 1)
    (hmax : current + 1 < maxIndents) (rest : List Char) :
    Leads ⟨.lineStart, openIndents indent current, 0,
        marginAt indent depth ++ (text ++ '\n' :: rest)⟩
      (layoutWords current depth ++ (words ++ [Token.Kind.newline.word]))
      ⟨.lineStart, openIndents indent depth, 0, rest⟩ := by
  have start := leads_lineStart hindent hmargin hcurrent hmax (hstart ('\n' :: rest))
  have line := h (openIndents indent depth) 0 ('\n' :: rest) (endsWord_cons (by decide)) (by omega)
  exact start.trans (line.trans leads_lineEnd)

/-- A statement on a line of its own. -/
lemma linesText_statement (depth : Nat) (hmax : depth + 1 < maxIndents)
    (h : LineText levels text s) (hlevels : levels ≤ maxBrackets) :
    LinesText indent depth (marginAt indent depth ++ (text ++ ['\n'])) [s] := by
  obtain ⟨⟨words, hwrites, hspells⟩, hstart⟩ := h
  refine ⟨words ++ [Token.Kind.newline.word], 0, [(words ++ [Token.Kind.newline.word], s)], rfl, ?_,
    hmax, ?_, ?_⟩
  · simp [itemsWords]
  · intro current rest hcurrent hmax
    have leads := leads_line hindent hmargin hwrites hlevels hstart hcurrent hmax rest
    simpa using leads
  · rintro sub c _ _ item (_ | ⟨_, hmem⟩)
    · exact (hspells sub c).item
    · cases hmem

/-- Statements on lines of their own. -/
lemma linesText_statements (depth : Nat) (hmax : depth + 1 < maxIndents)
    {items : List (List Char × Stmt)} (hne : items ≠ [])
    (h : ∀ item ∈ items, LineText levels item.1 item.2) (hlevels : levels ≤ maxBrackets) :
    LinesText indent depth
      (items.flatMap fun item => marginAt indent depth ++ (item.1 ++ ['\n']))
      (items.map Prod.snd) := by
  obtain ⟨first, rest, rfl⟩ := List.exists_cons_of_ne_nil hne
  induction rest generalizing first with
  | nil =>
    simpa using linesText_statement hindent hmargin depth hmax (h first List.mem_cons_self) hlevels
  | cons second rest ih =>
    have line := linesText_statement hindent hmargin depth hmax (h first List.mem_cons_self) hlevels
    exact line.append (ih second (List.cons_ne_nil _ _)
      fun item hitem => h item (List.mem_cons_of_mem _ hitem))

/-! ## Functions -/

/-- The line that a function begins with. -/
def headText (name first : List Char) (rest : List (List Char)) : List Char :=
  "def".toList ++ ' ' :: (name ++ (bracketedText first rest false ++ [':']))

omit hindent hmargin in
lemma leads_head {name first : List Char} {rest : List (List Char)} (hname : IsUnreserved name)
    (hfirst : IsUnreserved first) (hrest : ∀ written ∈ rest, IsUnreserved written)
    (indents : List Indentation) (behind : List Char) :
    Leads ⟨.inLine false, indents, 0, headText name first rest ++ '\n' :: behind⟩
      ((Token.Kind.keyword .def_).word :: nameWord name :: (Token.Kind.mark .openParen).word ::
        (namesWords first rest ++
          [(Token.Kind.mark .closeParen).word, (Token.Kind.mark .colon).word]))
      ⟨.inLine false, indents, 0, '\n' :: behind⟩ := by
  have word {written : List Char} (h : IsUnreserved written) :
      Writes 0 written [nameWord written] :=
    writes_name h.isIdentifier h.wordKind_eq
  have hdef : Writes 1 "def".toList [(Token.Kind.keyword .def_).word] :=
    writes_keyword (by decide) 1
  have names := writes_bracketed (first, [nameWord first])
    (rest.map fun written => (written, [nameWord written])) false (word hfirst)
    (fun item hitem => by
      obtain ⟨written, hmem, rfl⟩ := List.mem_map.mp hitem
      exact word (hrest written hmem))
  have htexts : rest.map (Prod.fst ∘ fun written => (written, [nameWord written])) = rest :=
    List.map_id rest
  rw [List.map_map, List.map_map, htexts] at names
  have head := hdef.spaced (((word hname).mono (Nat.zero_le 1)).append names
    fun _ _ => endsWord_cons (by decide))
  have line := head indents 0 (':' :: '\n' :: behind) (endsWord_cons (by decide)) (by decide)
  have leads := line.trans (leads_colon (by decide))
  have hmap : rest.map (Prod.snd ∘ fun written => (written, [nameWord written])) =
      (rest.map nameItem).map Prod.fst := by rw [List.map_map]; rfl
  rw [hmap] at leads
  simpa [headText, bracketed, trailingComma, namesWords, nameItem] using leads

variable {name first : List Char} (rest : List (List Char)) {body : List Stmt}

/-- The words of a function up to the blocks that are still open at its end. -/
def openFunctionWords (name first : List Char) (rest : List (List Char)) (shown : List Word) :
    List Word :=
  (Token.Kind.keyword .def_).word :: nameWord name :: (Token.Kind.mark .openParen).word ::
    (namesWords first rest ++ [(Token.Kind.mark .closeParen).word, (Token.Kind.mark .colon).word] ++
      (Token.Kind.newline.word :: Token.Kind.indent.word :: shown))

omit hindent hmargin in
lemma openFunctionWords_append (name first : List Char) {shown : List Word} {behind : Nat}
    {items : List (List Word × Stmt)}
    (h : shown ++ List.replicate behind Token.Kind.dedent.word = itemsWords items) :
    openFunctionWords name first rest shown ++
      List.replicate (behind + 1) Token.Kind.dedent.word = functionWords name first rest items := by
  rw [List.replicate_succ', functionWords, blockWords, ← h, openFunctionWords]
  simp only [List.cons_append, List.append_assoc, List.nil_append]

lemma leads_function (hname : IsUnreserved name) (hfirst : IsUnreserved first)
    (hrest : ∀ written ∈ rest, IsUnreserved written) {shown : List Word} {behind : Nat}
    (hleads : ∀ below, Leads ⟨.lineStart, openIndents indent depth, 0, text ++ below⟩
      (layoutWords depth (depth + 1) ++ shown)
      ⟨.lineStart, openIndents indent (depth + 1 + behind), 0, below⟩)
    {current : Nat} (hcurrent : depth ≤ current + 1) (hopen : current + 1 < maxIndents)
    (below : List Char) :
    Leads ⟨.lineStart, openIndents indent current, 0,
        marginAt indent depth ++ (headText name first rest ++ '\n' :: (text ++ below))⟩
      (layoutWords current depth ++ openFunctionWords name first rest shown)
      ⟨.lineStart, openIndents indent (depth + (behind + 1)), 0, below⟩ := by
  have hplain : IsPlainStart (headText name first rest ++ '\n' :: (text ++ below)) :=
    isPlainStart_cons (by decide)
  have start := leads_lineStart hindent hmargin hcurrent hopen hplain
  have head := leads_head hname hfirst hrest (openIndents indent depth) (text ++ below)
  have inside := hleads below
  rw [layoutWords_succ] at inside
  have leads := start.trans (head.trans (leads_lineEnd.trans inside))
  have hdepth : depth + (behind + 1) = depth + 1 + behind := by omega
  rw [hdepth]
  simpa [openFunctionWords] using leads

/-- A function: its head, and its statements further in. -/
lemma linesText_function (hname : IsUnreserved name) (hfirst : IsUnreserved first)
    (hrest : ∀ written ∈ rest, IsUnreserved written) (hne : body ≠ [])
    (h : LinesText indent (depth + 1) text body) :
    LinesText indent depth (marginAt indent depth ++ (headText name first rest ++ '\n' :: text))
      [functionTree name (first :: rest) body []] := by
  obtain ⟨shown, behind, items, rfl, hshown, hbehind, hleads, hspells⟩ := h
  refine ⟨openFunctionWords name first rest shown, behind + 1,
    [(functionWords name first rest items,
      functionTree name (first :: rest) (items.map Prod.snd) [])],
    rfl, ?_, by omega, ?_, ?_⟩
  · rw [openFunctionWords_append rest name first hshown]
    exact (List.append_nil _).symm
  · intro current below hcurrent hmax
    have leads := leads_function hindent hmargin rest hname hfirst hrest
      (fun below => hleads depth below (Nat.le_refl _) (by omega)) hcurrent hmax below
    simpa using leads
  · rintro sub c _ _ item (_ | ⟨_, hmem⟩)
    · exact spellsItem_function name first rest (fun hnil => hne (List.map_eq_nil_iff.mpr hnil))
        (hspells sub c)
    · cases hmem

/-- A function with a decorator on the line above. -/
lemma linesText_decorated {decorator : List Char} (hdecorator : IsUnreserved decorator)
    (hname : IsUnreserved name) (hfirst : IsUnreserved first)
    (hrest : ∀ written ∈ rest, IsUnreserved written) (hne : body ≠ [])
    (h : LinesText indent (depth + 1) text body) :
    LinesText indent depth
      (marginAt indent depth ++ ('@' :: decorator ++ '\n' ::
        (marginAt indent depth ++ (headText name first rest ++ '\n' :: text))))
      [functionTree name (first :: rest) body [nameTree decorator]] := by
  obtain ⟨shown, behind, items, rfl, hshown, hbehind, hleads, hspells⟩ := h
  have sign : Writes 0 ('@' :: decorator) [(Token.Kind.mark .at_).word, nameWord decorator] := by
    intro indents depth behind hbehind hdepth
    have word := writes_name hdecorator.isIdentifier hdecorator.wordKind_eq indents depth behind
      hbehind hdepth
    obtain ⟨hne, hall⟩ := isWord_iff.mp (isWord_of_isIdentifier hdecorator.isIdentifier)
    obtain ⟨c, tail, rfl⟩ := List.exists_cons_of_ne_nil hne
    have hc : c ≠ '=' := by
      rintro rfl
      cases hall '=' List.mem_cons_self
    exact (leads_at hc).trans word
  refine ⟨(Token.Kind.mark .at_).word :: nameWord decorator :: Token.Kind.newline.word ::
      openFunctionWords name first rest shown, behind + 1,
    [(decoratedWords decorator name first rest items,
      functionTree name (first :: rest) (items.map Prod.snd) [nameTree decorator])],
    rfl, ?_, by omega, ?_, ?_⟩
  · have hwords := openFunctionWords_append rest name first hshown
    simp [itemsWords, decoratedWords, hwords]
  · intro current below hcurrent hmax
    have line := leads_line hindent hmargin sign (Nat.zero_le _)
      (fun rest => isPlainStart_cons (by decide)) hcurrent hmax
      (marginAt indent depth ++ (headText name first rest ++ '\n' :: (text ++ below)))
    have function := leads_function hindent hmargin rest hname hfirst hrest
      (fun below => hleads depth below (Nat.le_refl _) (by omega)) (Nat.le_succ depth) (by omega)
      below
    rw [layoutWords_self] at function
    simpa using line.trans function
  · rintro sub c _ _ item (_ | ⟨_, hmem⟩)
    · exact spellsItem_decorated decorator name first rest
        (fun hnil => hne (List.map_eq_nil_iff.mpr hnil)) (hspells sub c)
    · cases hmem

/-! ## Programs -/

/-- **Lines are read as their statements.** -/
theorem LinesText.exists_read (h : LinesText indent 0 text body) (hne : body ≠ [])
    (htext : '\r' ∉ text) (hend : text.getLast? = some '\n') :
    ∃ statements, read text = .ok statements ∧ statements.map (Stmt.seen .bare) = body := by
  obtain ⟨shown, behind, items, rfl, hshown, hbehind, hleads, hspells⟩ := h
  have leads := hleads 0 [] (Nat.le_succ 0) (by decide)
  rw [List.append_nil, layoutWords_self, List.nil_append, Nat.zero_add] at leads
  have hshows := shows_of_leads hindent hmargin (by omega) htext hend leads
  have hclosed : layoutWords behind 0 = List.replicate behind Token.Kind.dedent.word := by
    rw [← layoutWords_add 0 behind, Nat.zero_add]
  rw [hclosed, ← List.append_assoc, hshown] at hshows
  exact exists_read_of_shows (fun hnil => hne (List.map_eq_nil_iff.mpr hnil)) hspells hshows

end

end AdjointSynthesis.Code
