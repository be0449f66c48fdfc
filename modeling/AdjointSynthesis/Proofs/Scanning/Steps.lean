import AdjointSynthesis.Proofs.Tokens

/-!
# Scanning step by step

Scanning goes through states.  What one step does is said once, and the whole run is taken apart
into steps: how many of them are allowed makes no difference when there are enough.

* `Scanner.step`: one step, with the tokens it adds.
* `Scanner.step_eq_goes_iff`, `Scanner.step_stops`: what a step does, by whether it goes on.
* `Scanner.run`: all steps up to the end.
* `scan_eq_run`: scanning with enough fuel is the run.
* `run_of_goes`, `run_of_stops`: a run is a step and the rest of the run.
* `finished_of_mem_run`: a run that reaches the end of the text is finished.
-/

namespace AdjointSynthesis.Code

/-! ## Steps -/

/-- A state of the scan. -/
structure Scanner where
  stand : Stand
  indents : List Indentation
  brackets : List Bracket
  cursor : Cursor

/-- What a step leads to, with the tokens it adds, newest first. -/
inductive Next where
  | stops (tokens : List Token) (ending : Ending)
  | goes (tokens : List Token) (scanner : Scanner)

namespace Scanner

/-- The token of layout at a cursor. -/
def layoutToken (cursor : Cursor) (kind : Token.Kind) : Token :=
  let place : Place := ⟨cursor.readLine, cursor.column⟩
  ⟨kind, [], ⟨place, place⟩, 0⟩

/-- The step at the start of a line. -/
def stepLine (scanner : Scanner) : Next :=
  match indentation scanner.cursor.line 0 0 0 0 scanner.cursor.rest with
  | .error fault => .stops [] (.ofFault fault false scanner.brackets)
  | .ok (own, cursor) =>
    let blank := cursor.rest.head? = some '#' ∨ cursor.rest.head? = some '\n'
    if blank ∨ !scanner.brackets.isEmpty then
      .goes [] ⟨.inLine (decide blank), scanner.indents, scanner.brackets, cursor⟩
    else
      match indentTokens scanner.indents own with
      | .error cause => .stops [] (.ofFault ⟨cause, cursor.readLine⟩ false scanner.brackets)
      | .ok (kinds, indents) =>
        .goes (kinds.map (layoutToken cursor)) ⟨.inLine false, indents, scanner.brackets, cursor⟩

/-- The step over a word. -/
def stepWord (scanner : Scanner) : Next :=
  let cursor := scanner.cursor
  match lexeme cursor.line cursor.rest with
  | .error cause => .stops [] (.ofFault ⟨cause, cursor.line⟩ true scanner.brackets)
  | .ok (kind, behind) =>
    match bracketsAfter scanner.brackets cursor.line kind with
    | .error cause => .stops [] (.ofFault ⟨cause, cursor.line⟩ true scanner.brackets)
    | .ok brackets =>
      let count := cursor.rest.length - behind.length
      let next := cursor.skip count
      .goes [⟨kind, cursor.rest.take count, ⟨cursor.place, next.place⟩, brackets.length⟩]
        ⟨.inLine false, scanner.indents, brackets, next⟩

/-- The step inside a line. -/
def stepIn (scanner : Scanner) (blank : Bool) : Next :=
  let cursor := scanner.cursor
  match cursor.rest with
  | [] =>
    if scanner.brackets.isEmpty then .stops [layoutToken cursor .finish] .finished
    else .stops [] (.ofFault ⟨.endOfText, cursor.readLine⟩ false scanner.brackets)
  | c :: rest =>
    if c = ' ' ∨ c = '\t' ∨ c = '\x0c' then .goes [] { scanner with cursor := cursor.next }
    else if c = '#' then
      let comment := cursor.rest.takeWhile (· != '\n')
      .goes [] { scanner with cursor := cursor.skip comment.length }
    else if c = '\n' then
      .goes
        (if blank || !scanner.brackets.isEmpty then []
          else [⟨.newline, [], ⟨cursor.place, cursor.place⟩, 0⟩])
        { scanner with stand := .lineStart, cursor := cursor.next }
    else if c = '\\' then
      match rest with
      | '\n' :: more =>
        if more.isEmpty then .stops [] (.ofFault ⟨.endOfText, cursor.line⟩ false scanner.brackets)
        else .goes [] { scanner with stand := .inLine false, cursor := cursor.next.next }
      | _ => .stops [] (.ofFault ⟨.continuation, cursor.line⟩ false scanner.brackets)
    else scanner.stepWord

/-- One step of the scan. -/
def step (scanner : Scanner) : Next :=
  match scanner.stand with
  | .lineStart => scanner.stepLine
  | .inLine blank => scanner.stepIn blank

/-- Scanning goes step by step. -/
lemma scan_succ (fuel : Nat) (scanner : Scanner) (tokens : List Token) :
    scan (fuel + 1) scanner.stand scanner.indents scanner.brackets scanner.cursor tokens =
      match scanner.step with
      | .stops new ending => (new ++ tokens, ending)
      | .goes new next =>
      scan fuel next.stand next.indents next.brackets next.cursor (new ++ tokens) := by
  rcases scanner with ⟨_ | blank, indents, brackets, cursor⟩
  · rw [scan, step, stepLine]
    dsimp only
    rcases indentation cursor.line 0 0 0 0 cursor.rest with fault | ⟨own, behind⟩
    · rfl
    · dsimp only
      split_ifs
      · rfl
      · rcases indentTokens indents own with cause | ⟨kinds, left⟩ <;> rfl
  · rw [scan.eq_def]
    unfold step stepIn stepWord
    dsimp only
    rcases hrest : cursor.rest with _ | ⟨c, rest⟩
    · dsimp only
      split_ifs <;> rfl
    · dsimp only
      split_ifs
      · rfl
      · rfl
      · rfl
      · rfl
      · rcases rest with _ | ⟨d, more⟩
        · rfl
        · by_cases hd : d = '\n'
          · subst hd
            by_cases hmore : more.isEmpty = true <;> simp [hmore]
          · simp [hd]
      · rcases lexeme cursor.line (c :: rest) with cause | ⟨kind, behind⟩
        · rfl
        · dsimp only
          rcases bracketsAfter brackets cursor.line kind with cause | left <;> rfl

/-! ## What a step can do -/

/-- Whether a line that goes on like this is blank. -/
def isBlankLine (rest : List Char) : Prop := rest.head? = some '#' ∨ rest.head? = some '\n'

instance (rest : List Char) : Decidable (isBlankLine rest) := by
  unfold isBlankLine
  infer_instance

/-- What a step that goes on can do. -/
inductive Goes : Scanner → List Token → Scanner → Prop
  | blankLine {indents : List Indentation} {brackets : List Bracket} {cursor behind : Cursor}
    {own : Indentation} (hown : indentation cursor.line 0 0 0 0 cursor.rest = .ok (own, behind))
    (hblank : isBlankLine behind.rest ∨ brackets ≠ []) :
    Goes ⟨.lineStart, indents, brackets, cursor⟩ []
      ⟨.inLine (decide (isBlankLine behind.rest)), indents, brackets, behind⟩
  | line {indents left : List Indentation} {cursor behind : Cursor} {own : Indentation}
    {kinds : List Token.Kind}
    (hown : indentation cursor.line 0 0 0 0 cursor.rest = .ok (own, behind))
    (hblank : ¬ isBlankLine behind.rest) (hkinds : indentTokens indents own = .ok (kinds, left)) :
    Goes ⟨.lineStart, indents, [], cursor⟩ (kinds.map (layoutToken behind))
      ⟨.inLine false, left, [], behind⟩
  | space {blank : Bool} {indents : List Indentation} {brackets : List Bracket} {cursor : Cursor}
    {c : Char} {rest : List Char} (hrest : cursor.rest = c :: rest)
    (hc : c = ' ' ∨ c = '\t' ∨ c = '\x0c') :
    Goes ⟨.inLine blank, indents, brackets, cursor⟩ []
      ⟨.inLine blank, indents, brackets, cursor.next⟩
  | comment {blank : Bool} {indents : List Indentation} {brackets : List Bracket} {cursor : Cursor}
    {rest : List Char} (hrest : cursor.rest = '#' :: rest) :
    Goes ⟨.inLine blank, indents, brackets, cursor⟩ []
      ⟨.inLine blank, indents, brackets,
        cursor.skip (cursor.rest.takeWhile (· != '\n')).length⟩
  | newline {blank : Bool} {indents : List Indentation} {brackets : List Bracket} {cursor : Cursor}
    {rest : List Char} (hrest : cursor.rest = '\n' :: rest) :
    Goes ⟨.inLine blank, indents, brackets, cursor⟩
      (if blank || !brackets.isEmpty then []
        else [⟨.newline, [], ⟨cursor.place, cursor.place⟩, 0⟩])
      ⟨.lineStart, indents, brackets, cursor.next⟩
  | continuation {blank : Bool} {indents : List Indentation} {brackets : List Bracket}
    {cursor : Cursor} {rest : List Char} (hrest : cursor.rest = '\\' :: '\n' :: rest)
    (hmore : rest ≠ []) :
    Goes ⟨.inLine blank, indents, brackets, cursor⟩ []
      ⟨.inLine false, indents, brackets, cursor.next.next⟩
  | word {blank : Bool} {indents : List Indentation} {brackets left : List Bracket}
    {cursor : Cursor} {c : Char} {rest behind : List Char} {kind : Token.Kind}
    (hrest : cursor.rest = c :: rest)
    (hc : ¬ (c = ' ' ∨ c = '\t' ∨ c = '\x0c') ∧ c ≠ '#' ∧ c ≠ '\n' ∧ c ≠ '\\')
    (hlexeme : lexeme cursor.line (c :: rest) = .ok (kind, behind))
    (hbrackets : bracketsAfter brackets cursor.line kind = .ok left) :
    Goes ⟨.inLine blank, indents, brackets, cursor⟩
      [⟨kind, (c :: rest).take ((c :: rest).length - behind.length),
        ⟨cursor.place, (cursor.skip ((c :: rest).length - behind.length)).place⟩, left.length⟩]
      ⟨.inLine false, indents, left, cursor.skip ((c :: rest).length - behind.length)⟩

/-- **What a step that goes on does.** -/
theorem step_eq_goes_iff {scanner next : Scanner} {tokens : List Token} :
    scanner.step = .goes tokens next ↔ Goes scanner tokens next := by
  constructor
  · intro h
    rcases scanner with ⟨_ | blank, indents, brackets, cursor⟩
    · unfold step stepLine at h
      dsimp only at h
      rcases hown : indentation cursor.line 0 0 0 0 cursor.rest with fault | ⟨own, behind⟩
      · rw [hown] at h
        cases h
      rw [hown] at h
      dsimp only at h
      split_ifs at h with hblank
      · cases h
        exact .blankLine hown (by simpa [isBlankLine, List.isEmpty_iff] using hblank)
      · obtain ⟨hnonblank, hempty⟩ := not_or.mp hblank
        obtain rfl : brackets = [] := by simpa using hempty
        rcases hkinds : indentTokens indents own with cause | ⟨kinds, left⟩
        · rw [hkinds] at h
          cases h
        rw [hkinds] at h
        cases h
        exact .line hown hnonblank hkinds
    · unfold step stepIn stepWord at h
      dsimp only at h
      rcases hrest : cursor.rest with _ | ⟨c, rest⟩
      · rw [hrest] at h
        dsimp only at h
        split_ifs at h
      rw [hrest] at h
      dsimp only at h
      by_cases hspace : c = ' ' ∨ c = '\t' ∨ c = '\x0c'
      · rw [if_pos hspace] at h
        cases h
        exact .space hrest hspace
      rw [if_neg hspace] at h
      by_cases hcomment : c = '#'
      · rw [if_pos hcomment] at h
        cases h
        subst hcomment
        rw [← hrest]
        exact .comment hrest
      rw [if_neg hcomment] at h
      by_cases hnewline : c = '\n'
      · rw [if_pos hnewline] at h
        cases h
        subst hnewline
        exact .newline hrest
      rw [if_neg hnewline] at h
      by_cases hslash : c = '\\'
      · rw [if_pos hslash] at h
        subst hslash
        split at h
        · next rest =>
          split_ifs at h with hmore
          cases h
          exact .continuation hrest (by simpa using hmore)
        · cases h
      rw [if_neg hslash] at h
      rcases hlexeme : lexeme cursor.line (c :: rest) with cause | ⟨kind, behind⟩
      · rw [hlexeme] at h
        cases h
      rw [hlexeme] at h
      dsimp only at h
      rcases hleft : bracketsAfter brackets cursor.line kind with cause | left
      · rw [hleft] at h
        cases h
      rw [hleft] at h
      cases h
      exact .word hrest ⟨hspace, hcomment, hnewline, hslash⟩ hlexeme hleft
  · intro h
    cases h with
    | blankLine hown hblank =>
      unfold step stepLine
      dsimp only
      rw [hown]
      exact if_pos (by simpa [isBlankLine, List.isEmpty_iff] using hblank)
    | line hown hblank hkinds =>
      unfold step stepLine
      dsimp only
      rw [hown]
      dsimp only
      rw [if_neg (by simpa [isBlankLine] using hblank), hkinds]
    | space hrest hc =>
      unfold step stepIn
      dsimp only
      rw [hrest]
      exact if_pos hc
    | comment hrest =>
      unfold step stepIn
      dsimp only
      rw [hrest]
      rfl
    | newline hrest =>
      unfold step stepIn
      dsimp only
      rw [hrest]
      rfl
    | continuation hrest hmore =>
      unfold step stepIn
      dsimp only
      rw [hrest]
      dsimp only
      rw [if_neg (by decide), if_neg (by decide), if_neg (by decide), if_pos rfl]
      exact if_neg (by simpa using hmore)
    | word hrest hc hlexeme hbrackets =>
      unfold step stepIn stepWord
      dsimp only
      rw [hrest]
      dsimp only
      rw [if_neg hc.1, if_neg hc.2.1, if_neg hc.2.2.1, if_neg hc.2.2.2, hlexeme]
      dsimp only
      rw [hbrackets]

/-- A fault ends no text well. -/
lemma ofFault_ne_finished (fault : Fault) (sharp : Bool) (brackets : List Bracket) :
    Ending.ofFault fault sharp brackets ≠ .finished := by
  unfold Ending.ofFault
  split <;> nofun

/-- **What a step that stops does**: it is at the end of the text and says so, or it adds nothing
and has found a fault. -/
theorem step_stops {scanner : Scanner} {tokens : List Token} {ending : Ending}
    (h : scanner.step = .stops tokens ending) :
    (scanner.cursor.rest = [] ∧ tokens = [layoutToken scanner.cursor .finish] ∧
      ending = .finished) ∨ (tokens = [] ∧ ending ≠ .finished) := by
  rcases scanner with ⟨_ | blank, indents, brackets, cursor⟩
  · unfold step stepLine at h
    grind [ofFault_ne_finished]
  · unfold step stepIn stepWord at h
    grind [ofFault_ne_finished]

/-! ## Enough fuel -/

/-- Steps that are enough from a state on. -/
def bound (scanner : Scanner) : Nat :=
  match scanner.stand with
  | .lineStart => 2 * scanner.cursor.rest.length + 2
  | .inLine _ => 2 * scanner.cursor.rest.length + 1

/-- Every step comes closer to the end. -/
lemma bound_of_step {scanner next : Scanner} {tokens : List Token}
    (h : scanner.step = .goes tokens next) : next.bound < scanner.bound := by
  cases step_eq_goes_iff.mp h with
  | blankLine hown _ =>
    have := (length_indentation hown).1
    simp only [bound]
    omega
  | line hown _ _ =>
    have := (length_indentation hown).1
    simp only [bound]
    omega
  | space hrest _ =>
    simp only [bound, Cursor.rest_next hrest, hrest, List.length_cons]
    omega
  | @comment _ _ _ _ rest hrest =>
    have hpos : (('#' :: rest).takeWhile (· != '\n')).length ≠ 0 := Nat.succ_ne_zero _
    simp only [bound, Cursor.rest_skip, hrest, List.length_drop, List.length_cons]
    omega
  | newline hrest =>
    simp only [bound, Cursor.rest_next hrest, hrest, List.length_cons]
    omega
  | continuation hrest _ =>
    simp only [bound, Cursor.rest_next (Cursor.rest_next hrest), hrest, List.length_cons]
    omega
  | word hrest _ hlexeme _ =>
    have := length_lexeme hlexeme
    simp only [bound, hrest, Cursor.rest_skip, List.length_drop, List.length_cons]
    omega

/-- With enough fuel its amount makes no difference. -/
lemma scan_eq_scan {fuel fuel' : Nat} {scanner : Scanner} (h : scanner.bound ≤ fuel)
    (h' : scanner.bound ≤ fuel') (tokens : List Token) :
    scan fuel scanner.stand scanner.indents scanner.brackets scanner.cursor tokens =
      scan fuel' scanner.stand scanner.indents scanner.brackets scanner.cursor tokens := by
  induction fuel generalizing fuel' scanner tokens with
  | zero =>
    have : 0 < scanner.bound := by
      unfold bound
      split <;> omega
    omega
  | succ fuel ih =>
    obtain ⟨fuel', rfl⟩ : ∃ n, fuel' = n + 1 := by
      refine ⟨fuel' - 1, ?_⟩
      have : 0 < scanner.bound := by
        unfold bound
        split <;> omega
      omega
    rw [scan_succ, scan_succ]
    cases hstep : scanner.step with
    | stops new ending => rfl
    | goes new next =>
      have := bound_of_step hstep
      exact ih (by omega) (by omega) _

/-- The accumulator of the scan is only added to. -/
lemma scan_append (fuel : Nat) (scanner : Scanner) (tokens more : List Token) :
    scan fuel scanner.stand scanner.indents scanner.brackets scanner.cursor (tokens ++ more) =
      ((scan fuel scanner.stand scanner.indents scanner.brackets scanner.cursor tokens).1 ++ more,
        (scan fuel scanner.stand scanner.indents scanner.brackets scanner.cursor tokens).2) := by
  induction fuel generalizing scanner tokens with
  | zero => rfl
  | succ fuel ih =>
    rw [scan_succ, scan_succ]
    cases scanner.step with
    | stops new ending =>
      dsimp only
      rw [List.append_assoc]
    | goes new next =>
      dsimp only
      rw [← List.append_assoc, ih next]

/-- All tokens from a state on, newest first, and how the text ends. -/
def run (scanner : Scanner) : List Token × Ending :=
  scan scanner.bound scanner.stand scanner.indents scanner.brackets scanner.cursor []

/-- Scanning with enough fuel is the run. -/
lemma scan_eq_run {fuel : Nat} {scanner : Scanner} (h : scanner.bound ≤ fuel)
    (tokens : List Token) :
    scan fuel scanner.stand scanner.indents scanner.brackets scanner.cursor tokens =
      (scanner.run.1 ++ tokens, scanner.run.2) := by
  rw [scan_eq_scan h (Nat.le_refl _)]
  exact scan_append scanner.bound scanner [] tokens

/-- **A run is a step and the rest of the run.** -/
theorem run_eq (scanner : Scanner) : scanner.run =
    match scanner.step with
    | .stops tokens ending => (tokens, ending)
    | .goes tokens next => (next.run.1 ++ tokens, next.run.2) := by
  have hfuel := scan_eq_scan (Nat.le_refl scanner.bound) (Nat.le_succ scanner.bound) []
  rw [run, hfuel, scan_succ]
  cases hstep : scanner.step with
  | stops tokens ending =>
    dsimp only
    rw [List.append_nil]
  | goes tokens next =>
    have := bound_of_step hstep
    dsimp only
    rw [List.append_nil, scan_eq_run (by omega)]

lemma run_of_goes {scanner next : Scanner} {tokens : List Token}
    (h : scanner.step = .goes tokens next) :
    scanner.run = (next.run.1 ++ tokens, next.run.2) := by
  rw [run_eq, h]

lemma run_of_stops {scanner : Scanner} {tokens : List Token} {ending : Ending}
    (h : scanner.step = .stops tokens ending) : scanner.run = (tokens, ending) := by
  rw [run_eq, h]

/-- **What every step says of the tokens that it adds holds of all tokens of a run**, if it only
depends on what the steps keep. -/
theorem forall_mem_run {I : Scanner → Prop} {Q : Token → Prop}
    (hgoes : ∀ {scanner next tokens}, I scanner → Goes scanner tokens next →
      I next ∧ ∀ token ∈ tokens, Q token)
    (hstops : ∀ {scanner tokens ending}, I scanner → scanner.step = .stops tokens ending →
      ∀ token ∈ tokens, Q token)
    {scanner : Scanner} (h : I scanner) : ∀ token ∈ scanner.run.1, Q token := by
  -- every step comes closer to the end
  induction hbound : scanner.bound using Nat.strongRecOn generalizing scanner with
  | ind bound ih =>
    subst hbound
    intro token hmem
    cases hstep : scanner.step with
    | stops tokens ending =>
      rw [run_of_stops hstep] at hmem
      exact hstops h hstep token hmem
    | goes tokens next =>
      obtain ⟨hnext, htokens⟩ := hgoes h (step_eq_goes_iff.mp hstep)
      rw [run_of_goes hstep] at hmem
      rcases List.mem_append.mp hmem with hmem | hmem
      · exact ih _ (bound_of_step hstep) hnext rfl token hmem
      · exact htokens token hmem

/-- The tokens of a step stand for words of the text, or for its layout before the end. -/
lemma ne_finish_of_goes {scanner next : Scanner} {tokens : List Token}
    (h : Goes scanner tokens next) : ∀ token ∈ tokens, token.kind ≠ .finish := by
  intro token hmem hkind
  cases h with
  | line _ _ hkinds =>
    obtain ⟨kind, hin, rfl⟩ := List.mem_map.mp hmem
    rcases eq_of_mem_indentTokens hkinds kind hin with rfl | rfl <;> cases hkind
  | newline _ =>
    split at hmem
    · cases hmem
    · rw [List.mem_singleton.mp hmem] at hkind
      cases hkind
  | word _ _ hlexeme _ =>
    rw [List.mem_singleton.mp hmem] at hkind
    cases hkind
    exact absurd (by decide) (notMem_layout_of_lexeme hlexeme)
  | _ => cases hmem

/-- A run that reaches the end of the text is finished. -/
theorem finished_of_mem_run {scanner : Scanner} {token : Token} (hmem : token ∈ scanner.run.1)
    (hkind : token.kind = .finish) : scanner.run.2 = .finished := by
  -- every step comes closer to the end
  induction hbound : scanner.bound using Nat.strongRecOn generalizing scanner with
  | ind bound ih =>
    subst hbound
    cases hstep : scanner.step with
    | stops tokens ending =>
      rw [run_of_stops hstep] at hmem ⊢
      rcases step_stops hstep with ⟨-, -, hending⟩ | ⟨rfl, -⟩
      · exact hending
      · cases hmem
    | goes tokens next =>
      rw [run_of_goes hstep] at hmem ⊢
      rcases List.mem_append.mp hmem with hmem | hmem
      · exact ih _ (bound_of_step hstep) hmem rfl
      · exact absurd hkind (ne_finish_of_goes (step_eq_goes_iff.mp hstep) token hmem)

/-- Where a text is scanned from. -/
def start (line : Nat) (text : List Char) : Scanner := ⟨.lineStart, [], [], ⟨text, line, 0⟩⟩

lemma ofLines_eq (line : Nat) (text : List Char) :
    (TokenSequence.ofLines line text).tokens.toList =
        (start line (uniformLines text)).run.1.reverse ∧
      (TokenSequence.ofLines line text).ending = (start line (uniformLines text)).run.2 := by
  have h : (start line (uniformLines text)).bound ≤ 2 * (uniformLines text).length + 4 := by
    simp only [bound, start]
    omega
  have := scan_eq_run h []
  rw [List.append_nil] at this
  have hscan : scan (2 * (uniformLines text).length + 4) .lineStart [] []
      ⟨uniformLines text, line, 0⟩ [] = ((start line (uniformLines text)).run.1,
        (start line (uniformLines text)).run.2) := this
  rw [tokens_ofLines, TokenSequence.ofLines, hscan]
  exact ⟨rfl, rfl⟩

end Scanner

end AdjointSynthesis.Code
