import AdjointSynthesis.Proofs.Scanning.Lookahead
import AdjointSynthesis.Proofs.Scanning.Places
import AdjointSynthesis.Proofs.Views
import Mathlib.Data.List.Basic
import Mathlib.Data.List.Forall2
import Mathlib.Data.List.TakeWhile

/-!
# An empty line at the end

A text that ends with a newline is cut into the same words when an empty line follows, unless a
backslash in front of the newline takes the next line for its own.  Only the layout tokens that
stand at the very end move.

* `IsEnded`: a text ends with a newline that no backslash stands before.
* `Scanner.lengthen`: the state with a newline more at the end of the text.
* `Scanner.goes_lengthen`, `Scanner.goes_of_goes_lengthen`: a step does the same with the newline
  more.
* `Scanner.run_lengthen`: so does a whole run, where places behind the last line are seen on it.
-/

namespace AdjointSynthesis.Code

/-! ## Texts that end -/

/-- A text ends with a newline that no backslash stands before. -/
structure IsEnded (text : List Char) : Prop where
  getLast? : text.getLast? = some '\n'
  not_continued : ¬['\\', '\n'] <:+ text

namespace IsEnded

variable {text rest : List Char} {c : Char}

lemma ne_nil (h : IsEnded text) : text ≠ [] := by
  rintro rfl
  cases h.getLast?

lemma of_suffix (h : IsEnded text) (hsuffix : rest <:+ text) (hne : rest ≠ []) : IsEnded rest := by
  refine ⟨?_, fun hslash => h.not_continued (hslash.trans hsuffix)⟩
  obtain ⟨before, rfl⟩ := hsuffix
  rw [← h.getLast?, List.getLast?_append_of_ne_nil _ hne]

/-- Behind a character that is no newline the text goes on. -/
lemma tail (h : IsEnded (c :: rest)) (hc : c ≠ '\n') : IsEnded rest := by
  refine h.of_suffix (List.suffix_cons c rest) ?_
  rintro rfl
  exact hc (Option.some.inj h.getLast?)

/-- The newline at the end is not part of a comment. -/
lemma drop_comment (h : IsEnded rest) :
    IsEnded (rest.drop (rest.takeWhile (· != '\n')).length) := by
  refine h.of_suffix (List.drop_suffix _ _) fun hnil => ?_
  have hwhole := List.take_append_drop (rest.takeWhile (· != '\n')).length rest
  rw [hnil, List.append_nil, ← List.prefix_iff_eq_take.mp (List.takeWhile_prefix _)] at hwhole
  have hmem : '\n' ∈ rest := List.mem_of_getLast? h.getLast?
  rw [← hwhole] at hmem
  cases List.mem_takeWhile_imp hmem

end IsEnded

/-! ## States with a newline more -/

/-- The cursor with a newline more at the end of the text. -/
def Cursor.lengthen (cursor : Cursor) : Cursor := { cursor with rest := cursor.rest ++ ['\n'] }

namespace Cursor

variable {cursor : Cursor} {c : Char} {rest : List Char}

lemma next_lengthen (h : cursor.rest = c :: rest) :
    cursor.lengthen.next = cursor.next.lengthen := by
  obtain ⟨_, line, column⟩ := cursor
  subst h
  by_cases hc : c = '\n' <;> simp [lengthen, next, hc]

lemma skip_lengthen {count : Nat} (h : count ≤ cursor.rest.length) :
    cursor.lengthen.skip count = (cursor.skip count).lengthen := by
  induction count generalizing cursor with
  | zero => rfl
  | succ count ih =>
    cases hrest : cursor.rest with
    | nil =>
      rw [hrest] at h
      cases h
    | cons c rest =>
      rw [hrest] at h
      rw [skip, skip, next_lengthen hrest]
      refine ih ?_
      rw [rest_next hrest]
      exact Nat.le_of_succ_le_succ h

lemma readLine_lengthen (h : cursor.rest ≠ []) : cursor.lengthen.readLine = cursor.readLine := by
  obtain ⟨_ | ⟨c, rest⟩, line, column⟩ := cursor
  · exact absurd rfl h
  · rfl

end Cursor

/-- The width of an indentation does not depend on the end of the text. -/
lemma indentation_append {line column wide narrow fixed : Nat} {rest : List Char}
    (h : IsEnded rest) :
    indentation line column wide narrow fixed (rest ++ ['\n']) =
      (indentation line column wide narrow fixed rest).map fun (own, behind) =>
        (own, behind.lengthen) := by
  fun_induction indentation line column wide narrow fixed rest with
  | case1 line column wide narrow fixed rest ih => exact ih (h.tail (by decide))
  | case2 line column wide narrow fixed rest ih => exact ih (h.tail (by decide))
  | case3 line column wide narrow fixed rest ih => exact ih (h.tail (by decide))
  | case4 line column wide narrow fixed more hmore =>
    rw [List.isEmpty_iff] at hmore
    exact absurd (hmore ▸ List.suffix_rfl) h.not_continued
  | case5 line column wide narrow fixed more hmore ih =>
    rw [← ih (h.of_suffix ⟨['\\', '\n'], rfl⟩ (by simpa using hmore))]
    simp [indentation]
  | case6 line column wide narrow fixed rest hrest =>
    cases rest with
    | nil => cases h.getLast?
    | cons c rest =>
      have hc : c ≠ '\n' := fun hc => hrest rest (by rw [hc])
      simp [indentation, hc, Except.map]
  | case7 line column wide narrow fixed rest hspace htab hfeed hslash =>
    cases rest with
    | nil => exact absurd rfl h.ne_nil
    | cons c rest =>
      rw [List.cons_append, indentation]
      · rfl
      · exact fun more heq => hspace rest (by rw [(List.cons_eq_cons.mp heq).1])
      · exact fun more heq => htab rest (by rw [(List.cons_eq_cons.mp heq).1])
      · exact fun more heq => hfeed rest (by rw [(List.cons_eq_cons.mp heq).1])
      · exact fun more heq => hslash rest (by rw [(List.cons_eq_cons.mp heq).1])

/-- Behind an indentation the text goes on. -/
lemma isEnded_of_indentation {line column wide narrow fixed : Nat} {rest : List Char}
    {own : Indentation} {behind : Cursor} (h : IsEnded rest)
    (hown : indentation line column wide narrow fixed rest = .ok (own, behind)) :
    IsEnded behind.rest := by
  fun_induction indentation line column wide narrow fixed rest with
  | case1 _ _ _ _ _ _ ih | case2 _ _ _ _ _ _ ih | case3 _ _ _ _ _ _ ih =>
    exact ih (h.tail (by decide)) hown
  | case4 | case6 => cases hown
  | case5 _ _ _ _ _ _ hmore ih =>
    exact ih (h.of_suffix ⟨['\\', '\n'], rfl⟩ (by simpa using hmore)) hown
  | case7 =>
    cases hown
    exact h

lemma indentation_of_append {line column wide narrow fixed : Nat} {rest : List Char}
    (h : IsEnded rest) {own : Indentation} {behind : Cursor}
    (hown : indentation line column wide narrow fixed (rest ++ ['\n']) = .ok (own, behind)) :
    ∃ cursor, indentation line column wide narrow fixed rest = .ok (own, cursor) ∧
      behind = cursor.lengthen ∧ IsEnded cursor.rest := by
  rw [indentation_append h] at hown
  cases hplain : indentation line column wide narrow fixed rest with
  | error fault =>
    rw [hplain] at hown
    cases hown
  | ok found =>
    rw [hplain] at hown
    cases hown
    exact ⟨_, rfl, rfl, isEnded_of_indentation h hplain⟩

/-- Two tokens are the same, or layout tokens of one kind that a view shows at one place. -/
def Token.IsLike (v : View) (token other : Token) : Prop :=
  token = other ∨ token.kind = other.kind ∧ token.written = [] ∧ other.written = [] ∧
    v.span token.span = v.span other.span

lemma Token.IsLike.symm {v : View} {token other : Token} (h : token.IsLike v other) :
    other.IsLike v token :=
  h.imp Eq.symm fun ⟨hkind, hwritten, hwritten', hspan⟩ =>
    ⟨hkind.symm, hwritten', hwritten, hspan.symm⟩

/-- Places behind the last line of a text are seen on that line. -/
def View.upTo (last : Nat) : View := ⟨fun place => ⟨min place.line last, place.column⟩, id⟩

namespace Scanner

/-- The state with a newline more at the end of the text. -/
def lengthen (scanner : Scanner) : Scanner := { scanner with cursor := scanner.cursor.lengthen }

/-- Where a text that is ended is scanned: before its end, or at it and at the start of a line. -/
def IsWithin (scanner : Scanner) : Prop :=
  IsEnded scanner.cursor.rest ∨ scanner.cursor.rest = [] ∧ scanner.stand = .lineStart

variable {scanner next : Scanner} {tokens : List Token}

lemma isBlankLine_append {rest : List Char} (h : rest ≠ []) :
    isBlankLine (rest ++ ['\n']) ↔ isBlankLine rest := by
  cases rest with
  | nil => exact absurd rfl h
  | cons c rest => rfl

lemma layoutToken_lengthen {cursor : Cursor} (h : cursor.rest ≠ []) (kind : Token.Kind) :
    layoutToken cursor.lengthen kind = layoutToken cursor kind := by
  rw [layoutToken, layoutToken, Cursor.readLine_lengthen h]
  rfl

/-- A lexeme found with a newline more is found without it, and something is left behind it. -/
lemma lexeme_of_append {line : Nat} {c : Char} {rest more : List Char} {kind : Token.Kind}
    (h : IsEnded (c :: rest)) (hc : ¬(c = ' ' ∨ c = '\t' ∨ c = '\x0c'))
    (hlexeme : lexeme line (c :: rest ++ ['\n']) = .ok (kind, more)) :
    ∃ behind, lexeme line (c :: rest) = .ok (kind, behind) ∧ more = behind ++ ['\n'] ∧
      behind <:+ c :: rest ∧ IsEnded behind := by
  have happend := lexeme_append line c rest
  rw [hlexeme] at happend
  cases hplain : lexeme line (c :: rest) with
  | error cause =>
    rw [hplain] at happend
    cases happend
  | ok found =>
    obtain ⟨kind', behind⟩ := found
    rw [hplain] at happend
    obtain ⟨rfl, rfl⟩ := Prod.mk.inj (Option.some.inj happend)
    -- the last character of a token is no newline
    obtain ⟨taken, last, heq, hlast⟩ := (closes_lexeme hc hplain).exists_eq
    have hsuffix : behind <:+ c :: rest := ⟨taken ++ [last], by rw [heq, ← List.append_cons]⟩
    refine ⟨behind, rfl, rfl, hsuffix, h.of_suffix hsuffix ?_⟩
    rintro rfl
    have hend := h.getLast?
    rw [heq, List.getLast?_concat] at hend
    obtain rfl := Option.some.inj hend
    cases hlast

/-- A word is as long with a newline more behind it. -/
lemma word_lengthen {cursor : Cursor} {c : Char} {rest : List Char} (behind : List Char)
    (kind : Token.Kind) (hrest : cursor.rest = c :: rest) (depth : Nat) :
    (⟨kind, (c :: (rest ++ ['\n'])).take
        ((c :: (rest ++ ['\n'])).length - (behind ++ ['\n']).length),
      ⟨cursor.lengthen.place, (cursor.lengthen.skip
        ((c :: (rest ++ ['\n'])).length - (behind ++ ['\n']).length)).place⟩, depth⟩ : Token) =
      ⟨kind, (c :: rest).take ((c :: rest).length - behind.length),
        ⟨cursor.place, (cursor.skip ((c :: rest).length - behind.length)).place⟩, depth⟩ ∧
    cursor.lengthen.skip ((c :: (rest ++ ['\n'])).length - (behind ++ ['\n']).length) =
      (cursor.skip ((c :: rest).length - behind.length)).lengthen := by
  have hcount : (c :: (rest ++ ['\n'])).length - (behind ++ ['\n']).length =
      (c :: rest).length - behind.length := by
    simp only [List.length_cons, List.length_append, List.length_nil]
    omega
  have hle : (c :: rest).length - behind.length ≤ cursor.rest.length := by
    rw [hrest]
    exact Nat.sub_le _ _
  have htake : (c :: (rest ++ ['\n'])).take ((c :: rest).length - behind.length) =
      (c :: rest).take ((c :: rest).length - behind.length) :=
    List.take_append_of_le_length (Nat.sub_le _ _)
  rw [hcount, htake, Cursor.skip_lengthen hle]
  exact ⟨rfl, rfl⟩

/-- What a step does, it does with a newline more. -/
lemma goes_lengthen (h : IsEnded scanner.cursor.rest) (hgoes : Goes scanner tokens next) :
    Goes scanner.lengthen tokens next.lengthen := by
  have hlonger {cursor : Cursor} {c : Char} {rest : List Char} (hrest : cursor.rest = c :: rest) :
      cursor.lengthen.rest = c :: (rest ++ ['\n']) := by
    rw [Cursor.lengthen, hrest]
    rfl
  cases hgoes with
  | blankLine hown hblank =>
    have hbehind := isEnded_of_indentation h hown
    have hsame : isBlankLine (Cursor.lengthen _).rest ↔ _ := isBlankLine_append hbehind.ne_nil
    have hmore := (indentation_append h).trans (congrArg (Except.map _) hown)
    rw [lengthen, ← decide_eq_decide.mpr hsame]
    exact .blankLine hmore (by rwa [hsame])
  | line hown hblank hkinds =>
    have hbehind := isEnded_of_indentation h hown
    have hsame : isBlankLine (Cursor.lengthen _).rest ↔ _ := isBlankLine_append hbehind.ne_nil
    have hmore := (indentation_append h).trans (congrArg (Except.map _) hown)
    rw [← funext fun kind => layoutToken_lengthen hbehind.ne_nil kind]
    exact .line hmore (by rwa [hsame]) hkinds
  | space hrest hc =>
    rw [lengthen, lengthen, ← Cursor.next_lengthen hrest]
    exact .space (hlonger hrest) hc
  | @comment _ _ _ cursor _ hrest =>
    have htake : cursor.lengthen.rest.takeWhile (· != '\n') =
        cursor.rest.takeWhile (· != '\n') := takeWhile_concat rfl cursor.rest
    have hlength : (cursor.rest.takeWhile (· != '\n')).length ≤ cursor.rest.length :=
      (List.takeWhile_sublist _).length_le
    rw [lengthen, lengthen, ← Cursor.skip_lengthen hlength, ← htake]
    exact .comment (hlonger hrest)
  | newline hrest =>
    rw [lengthen, lengthen, ← Cursor.next_lengthen hrest]
    exact .newline (hlonger hrest)
  | continuation hrest hmore =>
    rw [lengthen, lengthen, ← Cursor.next_lengthen (Cursor.rest_next hrest),
      ← Cursor.next_lengthen hrest]
    exact .continuation (hlonger hrest) (by simp)
  | @word _ _ _ left cursor c rest behind kind hrest hc hlexeme hbrackets =>
    have happend := lexeme_append cursor.line c rest
    rw [hlexeme] at happend
    obtain ⟨htoken, hskip⟩ := word_lengthen behind kind hrest left.length
    rw [lengthen, lengthen, ← htoken, ← hskip]
    cases hmore : lexeme cursor.line (c :: rest ++ ['\n']) with
    | error cause =>
      rw [hmore] at happend
      cases happend
    | ok found =>
      rw [hmore] at happend
      obtain rfl := Option.some.inj happend
      exact .word (hlonger hrest) hc hmore hbrackets

/-- **What a step does with a newline more, it does without it.** -/
lemma goes_of_goes_lengthen (h : IsEnded scanner.cursor.rest)
    (hgoes : Goes scanner.lengthen tokens next) :
    ∃ behind : Scanner, Goes scanner tokens behind ∧ next = behind.lengthen ∧ behind.IsWithin := by
  obtain ⟨stand, indents, brackets, cursor⟩ := scanner
  -- what is left of the text is not just the added newline
  have hcons {c : Char} {rest : List Char} (hrest : cursor.lengthen.rest = c :: rest) :
      ∃ more, cursor.rest = c :: more ∧ rest = more ++ ['\n'] := by
    cases hcursor : cursor.rest with
    | nil => exact absurd hcursor h.ne_nil
    | cons d more =>
      rw [Cursor.lengthen, hcursor] at hrest
      obtain ⟨rfl, rfl⟩ := List.cons_eq_cons.mp hrest
      exact ⟨more, rfl, rfl⟩
  generalize hlengthen : (Scanner.mk stand indents brackets cursor).lengthen = longer at hgoes
  cases hgoes with
  | blankLine hown hblank =>
    cases hlengthen
    obtain ⟨behind, hplain, rfl, hbehind⟩ := indentation_of_append h hown
    have hsame : isBlankLine behind.lengthen.rest ↔ isBlankLine behind.rest :=
      isBlankLine_append hbehind.ne_nil
    rw [hsame] at hblank
    refine ⟨_, .blankLine hplain hblank, ?_, .inl hbehind⟩
    rw [decide_eq_decide.mpr hsame]
    rfl
  | line hown hblank hkinds =>
    cases hlengthen
    obtain ⟨behind, hplain, rfl, hbehind⟩ := indentation_of_append h hown
    have hsame : isBlankLine behind.lengthen.rest ↔ isBlankLine behind.rest :=
      isBlankLine_append hbehind.ne_nil
    rw [hsame] at hblank
    rw [funext fun kind => layoutToken_lengthen hbehind.ne_nil kind]
    exact ⟨_, .line hplain hblank hkinds, rfl, .inl hbehind⟩
  | @space _ _ _ _ c rest hrest hc =>
    cases hlengthen
    obtain ⟨more, hcursor, rfl⟩ := hcons hrest
    refine ⟨_, .space hcursor hc, ?_, .inl ?_⟩
    · rw [Cursor.next_lengthen hcursor]
      rfl
    · rw [Cursor.rest_next hcursor]
      dsimp only at h
      rw [hcursor] at h
      refine h.tail ?_
      rintro rfl
      revert hc
      decide
  | comment hrest =>
    cases hlengthen
    obtain ⟨more, hcursor, rfl⟩ := hcons hrest
    have htake : cursor.lengthen.rest.takeWhile (· != '\n') =
        cursor.rest.takeWhile (· != '\n') := takeWhile_concat rfl cursor.rest
    have hlength : (cursor.rest.takeWhile (· != '\n')).length ≤ cursor.rest.length :=
      (List.takeWhile_sublist _).length_le
    refine ⟨_, .comment hcursor, ?_, .inl ?_⟩
    · rw [htake, Cursor.skip_lengthen hlength]
      rfl
    · rw [Cursor.rest_skip]
      exact IsEnded.drop_comment h
  | @newline _ _ _ _ rest hrest =>
    cases hlengthen
    obtain ⟨more, hcursor, rfl⟩ := hcons hrest
    refine ⟨_, .newline hcursor, ?_, ?_⟩
    · rw [Cursor.next_lengthen hcursor]
      rfl
    · rw [IsWithin, Cursor.rest_next hcursor]
      dsimp only at h
      rw [hcursor] at h
      by_cases hmore : more = []
      · -- only the added newline is left, at the start of a line
        exact .inr ⟨hmore, rfl⟩
      · exact .inl (h.of_suffix (List.suffix_cons _ _) hmore)
  | @continuation _ _ _ _ rest hrest hne =>
    cases hlengthen
    obtain ⟨more, hcursor, hmore⟩ := hcons hrest
    dsimp only at h
    rw [hcursor] at h
    cases more with
    | nil => cases h.getLast?
    | cons c more =>
      obtain ⟨rfl, rfl⟩ := List.cons_eq_cons.mp hmore
      -- the line that the backslash goes on with is one of the text
      have hleft : more ≠ [] := by
        rintro rfl
        exact h.not_continued List.suffix_rfl
      refine ⟨_, .continuation hcursor hleft, ?_, .inl ?_⟩
      · rw [Cursor.next_lengthen hcursor, Cursor.next_lengthen (Cursor.rest_next hcursor)]
        rfl
      · rw [Cursor.rest_next (Cursor.rest_next hcursor)]
        exact h.of_suffix ⟨['\\', '\n'], rfl⟩ hleft
  | @word _ _ _ _ _ c rest behind kind hrest hc hlexeme hbrackets =>
    cases hlengthen
    obtain ⟨more, hcursor, rfl⟩ := hcons hrest
    dsimp only at h
    rw [hcursor] at h
    obtain ⟨left, hplain, rfl, hsuffix, hended⟩ := lexeme_of_append h hc.1 hlexeme
    obtain ⟨htoken, hskip⟩ := word_lengthen left kind hcursor _
    dsimp only
    rw [htoken, hskip]
    refine ⟨_, .word hcursor hc hplain hbrackets, rfl, .inl ?_⟩
    rw [Cursor.rest_skip, hcursor, ← List.suffix_iff_eq_drop.mp hsuffix]
    exact hended

/-- A step in the text leaves something of the text, or is at the start of a line. -/
lemma isWithin_of_goes (h : IsEnded scanner.cursor.rest) (hgoes : Goes scanner tokens next) :
    next.IsWithin := by
  obtain ⟨behind, hplain, heq, hbehind⟩ := goes_of_goes_lengthen h (goes_lengthen h hgoes)
  obtain ⟨-, rfl⟩ := Next.goes.inj
    ((step_eq_goes_iff.mpr hgoes).symm.trans (step_eq_goes_iff.mpr hplain))
  exact hbehind

/-- Before the end of the text a run stops at a fault only. -/
lemma stops_of_ne_nil {ending : Ending} (h : scanner.cursor.rest ≠ [])
    (hstops : scanner.step = .stops tokens ending) : tokens = [] ∧ ending ≠ .finished :=
  (step_stops hstops).resolve_left fun hend => h hend.1

/-! ## Runs -/

/-- At the end of the text nothing is left to close but indentations. -/
lemma closed_of_finished {indents : List Indentation} {brackets : List Bracket} {line column : Nat}
    (h : (Scanner.mk .lineStart indents brackets ⟨[], line, column⟩).run.2 = .finished) :
    brackets = [] ∧ ∃ kinds left, indentTokens indents ⟨0, 0⟩ = .ok (kinds, left) := by
  have hown : indentation line 0 0 0 0 [] = .ok (⟨0, 0⟩, ⟨[], line, 0⟩) := rfl
  cases brackets with
  | cons bracket outer =>
    have hline : (Scanner.mk .lineStart indents (bracket :: outer) ⟨[], line, column⟩).step =
        .goes [] ⟨.inLine false, indents, bracket :: outer, ⟨[], line, 0⟩⟩ := rfl
    have hstop : (Scanner.mk (.inLine false) indents (bracket :: outer) ⟨[], line, 0⟩).step =
        .stops [] (.ofFault ⟨.endOfText, Cursor.readLine ⟨[], line, 0⟩⟩ false
          (bracket :: outer)) := rfl
    rw [run_of_goes hline, run_of_stops hstop] at h
    dsimp only at h
    exact absurd h (ofFault_ne_finished _ _ _)
  | nil =>
    refine ⟨rfl, ?_⟩
    cases hkinds : indentTokens indents ⟨0, 0⟩ with
    | ok found => exact ⟨found.1, found.2, rfl⟩
    | error cause =>
      have hstop : (Scanner.mk .lineStart indents [] ⟨[], line, column⟩).step =
          .stops [] (.ofFault ⟨cause, Cursor.readLine ⟨[], line, 0⟩⟩ false []) := by
        simp [step, stepLine, hown, hkinds]
      rw [run_of_stops hstop] at h
      exact absurd h (ofFault_ne_finished _ _ _)

/-- At the end of the text the open indentations are closed. -/
lemma run_of_end {indents left : List Indentation} {kinds : List Token.Kind}
    (hkinds : indentTokens indents ⟨0, 0⟩ = .ok (kinds, left)) (line column : Nat) :
    (Scanner.mk .lineStart indents [] ⟨[], line, column⟩).run =
      (layoutToken ⟨[], line, 0⟩ .finish :: kinds.map (layoutToken ⟨[], line, 0⟩), .finished) := by
  have hline : (Scanner.mk .lineStart indents [] ⟨[], line, column⟩).step =
      .goes (kinds.map (layoutToken ⟨[], line, 0⟩)) ⟨.inLine false, left, [], ⟨[], line, 0⟩⟩ :=
    step_eq_goes_iff.mpr (.line rfl (fun hblank => by rcases hblank with h | h <;> cases h) hkinds)
  have hstop : (Scanner.mk (.inLine false) left [] ⟨[], line, 0⟩).step =
      .stops [layoutToken ⟨[], line, 0⟩ .finish] .finished := rfl
  rw [run_of_goes hline, run_of_stops hstop]
  rfl

/-- A run that is at the end of the text ends well if it closes indentations only. -/
lemma finished_iff {indents : List Indentation} {brackets : List Bracket} {line column : Nat} :
    (Scanner.mk .lineStart indents brackets ⟨[], line, column⟩).run.2 = .finished ↔
      brackets = [] ∧ ∃ kinds left, indentTokens indents ⟨0, 0⟩ = .ok (kinds, left) := by
  constructor
  · exact closed_of_finished
  · rintro ⟨rfl, kinds, left, hkinds⟩
    rw [run_of_end hkinds]

/-- An empty line is skipped. -/
lemma run_emptyLine (indents : List Indentation) (brackets : List Bracket) (line column : Nat) :
    (Scanner.mk .lineStart indents brackets ⟨['\n'], line, column⟩).run =
      (Scanner.mk .lineStart indents brackets ⟨[], line + 1, 0⟩).run := by
  have hline : (Scanner.mk .lineStart indents brackets ⟨['\n'], line, column⟩).step =
      .goes [] ⟨.inLine true, indents, brackets, ⟨['\n'], line, 0⟩⟩ := rfl
  have hnewline : (Scanner.mk (.inLine true) indents brackets ⟨['\n'], line, 0⟩).step =
      .goes [] ⟨.lineStart, indents, brackets, ⟨[], line + 1, 0⟩⟩ := rfl
  rw [run_of_goes hline, run_of_goes hnewline, List.append_nil, List.append_nil]

/-- **A newline more at the end of an ended text moves nothing but layout tokens**, and these no
further than behind the last line. -/
theorem run_lengthen {text : List Char} (h : scanner.IsWithin) (hstands : scanner.StandsIn text) :
    (scanner.lengthen.run.2 = .finished ↔ scanner.run.2 = .finished) ∧
      (scanner.run.2 = .finished →
        List.Forall₂ (Token.IsLike (.upTo (text.count '\n'))) scanner.run.1
          scanner.lengthen.run.1) := by
  -- every step comes closer to the end
  induction hbound : scanner.bound using Nat.strongRecOn generalizing scanner with
  | ind bound ih =>
    subst hbound
    rcases h with h | ⟨hrest, hstand⟩
    · cases hstep : scanner.step with
      | goes tokens next =>
        have hgoes := step_eq_goes_iff.mp hstep
        have hlonger := step_eq_goes_iff.mpr (goes_lengthen h hgoes)
        obtain ⟨hended, hlike⟩ :=
          ih _ (bound_of_step hstep) (isWithin_of_goes h hgoes) (hstands.goes hgoes) rfl
        rw [run_of_goes hstep, run_of_goes hlonger]
        exact ⟨hended, fun hfinished => List.rel_append (hlike hfinished)
          (List.forall₂_same.mpr fun token _ => Or.inl rfl)⟩
      | stops tokens ending =>
        -- inside the text a run stops at a fault only, with or without the newline
        obtain ⟨-, hfault⟩ := stops_of_ne_nil h.ne_nil hstep
        have hlonger : scanner.lengthen.run.2 ≠ .finished := by
          cases hmore : scanner.lengthen.step with
          | goes more next =>
            obtain ⟨behind, hgoes, -⟩ := goes_of_goes_lengthen h (step_eq_goes_iff.mp hmore)
            rw [step_eq_goes_iff.mpr hgoes] at hstep
            cases hstep
          | stops more ending' =>
            rw [run_of_stops hmore]
            exact (stops_of_ne_nil (by simp [lengthen, Cursor.lengthen]) hmore).2
        rw [run_of_stops hstep]
        exact ⟨iff_of_false hlonger hfault, fun hfinished => absurd hfinished hfault⟩
    · -- the added line is skipped, and what is closed at the end is closed one line later
      obtain ⟨stand, indents, brackets, _, line, column⟩ := scanner
      obtain rfl : stand = .lineStart := hstand
      dsimp only at hrest
      subst hrest
      have hlonger : (Scanner.mk .lineStart indents brackets ⟨[], line, column⟩).lengthen.run =
          (Scanner.mk .lineStart indents brackets ⟨[], line + 1, 0⟩).run :=
        run_emptyLine indents brackets line column
      rw [hlonger, finished_iff, finished_iff]
      refine ⟨Iff.rfl, ?_⟩
      rintro ⟨rfl, kinds, left, hkinds⟩
      obtain ⟨read, ⟨htext, hplace⟩, -⟩ := hstands.cursor
      obtain rfl : text = read := htext.trans (List.append_nil _)
      obtain rfl : line = text.count '\n' + 1 := congrArg Place.line hplace
      have hlike (kind : Token.Kind) : Token.IsLike (.upTo (text.count '\n'))
          (layoutToken ⟨[], text.count '\n' + 1, 0⟩ kind)
          (layoutToken ⟨[], text.count '\n' + 1 + 1, 0⟩ kind) :=
        .inr ⟨rfl, rfl, rfl, by simp [layoutToken, Cursor.readLine, View.span, View.upTo]⟩
      rw [run_of_end hkinds, run_of_end hkinds]
      refine .cons (hlike _) ?_
      rw [List.forall₂_map_left_iff, List.forall₂_map_right_iff]
      exact List.forall₂_same.mpr fun kind _ => hlike kind

end Scanner

end AdjointSynthesis.Code
