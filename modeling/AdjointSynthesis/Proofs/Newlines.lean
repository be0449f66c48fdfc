import AdjointSynthesis.Proofs.Bodies
import AdjointSynthesis.Proofs.Reading.Likeness
import AdjointSynthesis.Proofs.Scanning.Layout
import AdjointSynthesis.Proofs.Synthesis

/-!
# The lines of bare statements

Statements that no function wraps are taken as they are, but for their lines, which are cut by the
wide notion of a line and ended by newlines.  If only newlines and carriage returns end lines, this
is how a file is read anyway, and the program stays what it is.  Any other line boundary may stand
inside a text, and a newline in its place breaks the program.

* `Text.relined_eq`: cutting a text into lines and ending them by newlines unifies its newlines.
* `uniformLines_relined`: both texts are scanned as the same text, or an empty line is gone.
* `Definition.read_body`: the body is the same program up to places.
* `Definition.body_breaks_at_form_feed`, `Definition.body_breaks_behind_backslash`: what is asked of
  the text is needed.
-/

namespace AdjointSynthesis

/-! ## Lines ended by newlines -/

namespace Text

/-- Only newlines and carriage returns end lines in a text. -/
def HasPlainBoundaries (text : List Char) : Prop :=
  ∀ c ∈ text, isBoundary c = true → c = '\n' ∨ c = '\r'

lemma HasPlainBoundaries.tail {c : Char} {text : List Char} (h : HasPlainBoundaries (c :: text)) :
    HasPlainBoundaries text := fun d hd => h d (List.mem_cons_of_mem _ hd)

/-- The lines of a text, ended by newlines. -/
def relined (text : List Char) : List Char := endLines (splitLines text)

/-- A text with a newline at its end, unless it is empty. -/
def closeLine (text : List Char) : List Char :=
  if text = [] ∨ text.getLast? = some '\n' then text else text ++ ['\n']

lemma closeLine_newline_cons (text : List Char) :
    closeLine ('\n' :: text) = '\n' :: closeLine text := by
  cases text with
  | nil => rfl
  | cons c rest =>
    simp only [closeLine, List.cons_ne_nil, false_or, List.getLast?_cons_cons]
    split <;> rfl

lemma closeLine_cons {c : Char} {text : List Char} (h : text ≠ []) :
    closeLine (c :: text) = c :: closeLine text := by
  cases text with
  | nil => exact absurd rfl h
  | cons d rest =>
    simp only [closeLine, List.cons_ne_nil, false_or, List.getLast?_cons_cons]
    split <;> rfl

lemma unifyNewlines_ne_nil {text : List Char} (h : text ≠ []) : unifyNewlines text ≠ [] := by
  fun_cases unifyNewlines text with
  | case1 => exact absurd rfl h
  | case2 => exact List.cons_ne_nil _ _
  | case3 => exact List.cons_ne_nil _ _

/-- **To cut a text into lines and end them by newlines is to unify its newlines.** -/
lemma relined_eq {text : List Char} (h : HasPlainBoundaries text) :
    relined text = closeLine (unifyNewlines text) := by
  unfold relined splitLines
  fun_induction cutLines text with
  | case1 => rfl
  | case2 rest ih =>
    rw [unifyNewlines, closeLine_newline_cons, ← ih h.tail.tail]
    rfl
  | case3 c rest hreturn hboundary ih =>
    -- either boundary becomes a newline
    have hnewline : (if c = '\r' then '\n' else c) = '\n' := by
      rcases h c List.mem_cons_self hboundary with rfl | rfl <;> rfl
    rw [Code.unifyNewlines_cons hreturn, hnewline, closeLine_newline_cons, ← ih h.tail]
    rfl
  | case4 c rest hreturn hboundary hcut =>
    -- the text ends inside a line, which gets a newline
    obtain ⟨hnewline, hc⟩ : c ≠ '\n' ∧ c ≠ '\r' := by
      constructor <;> rintro rfl <;> exact hboundary rfl
    obtain rfl : rest = [] := by rw [← flatMap_cutLines rest, hcut, List.flatMap_nil]
    rw [Code.unifyNewlines_cons hreturn, if_neg hc, unifyNewlines, closeLine, if_neg]
    · rfl
    · rintro (hnil | hlast)
      · cases hnil
      · exact hnewline (Option.some.inj hlast)
  | case5 c rest hreturn hboundary body ending lines hcut ih =>
    have hc : c ≠ '\r' := by
      rintro rfl
      exact hboundary rfl
    have hne : rest ≠ [] := by
      rintro rfl
      cases hcut
    rw [Code.unifyNewlines_cons hreturn, if_neg hc, closeLine_cons (unifyNewlines_ne_nil hne),
      ← ih h.tail, hcut]
    rfl

lemma return_not_mem_relined (text : List Char) : '\r' ∉ relined text :=
  return_not_mem_endLines fun _ hline => not_mem_of_mem_splitLines rfl hline

lemma unifyNewlines_append_return (text : List Char) :
    unifyNewlines (text ++ ['\r', '\n']) = unifyNewlines text ++ ['\n'] := by
  fun_induction unifyNewlines text with
  | case1 => rfl
  | case2 rest ih => exact congrArg ('\n' :: ·) ih
  | case3 c rest hreturn ih =>
    rw [List.cons_append, Code.unifyNewlines_cons, ih, List.cons_append]
    rintro more rfl heq
    cases rest with
    | nil => cases heq
    | cons d rest =>
      obtain ⟨rfl, -⟩ := List.cons_eq_cons.mp heq
      exact hreturn rest rfl rfl

/-- Only newlines are put in the place of characters. -/
lemma getLast?_of_unifyNewlines {text : List Char} {c : Char} (hc : c ≠ '\n')
    (h : (unifyNewlines text).getLast? = some c) : text.getLast? = some c := by
  fun_induction unifyNewlines text with
  | case1 => cases h
  | case2 rest ih =>
    cases rest with
    | nil => exact absurd (Option.some.inj h).symm hc
    | cons d rest =>
      rw [List.getLast?_cons_of_ne_nil (unifyNewlines_ne_nil (List.cons_ne_nil d rest))] at h
      exact ih h
  | case3 d rest hreturn ih =>
    cases rest with
    | nil =>
      rw [unifyNewlines, List.getLast?_singleton] at h
      split at h
      · exact absurd (Option.some.inj h).symm hc
      · exact h
    | cons e rest =>
      rw [List.getLast?_cons_of_ne_nil (unifyNewlines_ne_nil (List.cons_ne_nil e rest))] at h
      exact ih h

end Text

/-! ## What is scanned -/

namespace Code

open Text

variable {text : List Char}

/-- Both texts are scanned as the same text, unless a carriage return with a newline at the end
leaves an empty line behind. -/
lemma uniformLines_relined (h : HasPlainBoundaries text) :
    uniformLines (relined text) = uniformLines text ∨
      ['\r', '\n'] <:+ text ∧ uniformLines text = uniformLines (relined text) ++ ['\n'] := by
  have hreturn := return_not_mem_relined text
  rw [relined_eq h, closeLine] at hreturn ⊢
  by_cases hnil : text = []
  · subst hnil
    exact .inl rfl
  by_cases hlast : (unifyNewlines text).getLast? = some '\n'
  · rw [if_pos (.inr hlast)] at hreturn ⊢
    rw [uniformLines_eq hreturn hlast, uniformLines]
    -- a carriage return with a newline at the very end leaves an empty line
    by_cases htake : text.reverse.take 2 = ['\n', '\r']
    · refine .inr ⟨?_, if_neg fun hne => hne.2 htake⟩
      rw [← List.reverse_prefix]
      exact List.prefix_iff_eq_take.mpr htake.symm
    · exact .inl (if_pos ⟨hlast, htake⟩).symm
  · have hopen : ¬(unifyNewlines text = [] ∨ (unifyNewlines text).getLast? = some '\n') := by
      rintro (hempty | hclosed)
      · exact unifyNewlines_ne_nil hnil hempty
      · exact hlast hclosed
    rw [if_neg hopen] at hreturn ⊢
    rw [uniformLines_eq hreturn List.getLast?_concat, uniformLines]
    exact .inl (if_neg fun hclosed => hlast hclosed.1).symm

lemma getLast?_relined (h : HasPlainBoundaries text) (hend : ['\r', '\n'] <:+ text) :
    (relined text).getLast? = some '\n' := by
  obtain ⟨before, rfl⟩ := hend
  rw [relined_eq h, unifyNewlines_append_return, closeLine, if_pos (.inr List.getLast?_concat),
    List.getLast?_concat]

/-- No backslash stands before the last newline, if none stands before it in the text. -/
lemma isEnded_relined (h : HasPlainBoundaries text) (hend : ['\r', '\n'] <:+ text)
    (hcontinued : ¬['\\', '\r', '\n'] <:+ text) : IsEnded (uniformLines (relined text)) := by
  have hreturn := return_not_mem_relined text
  obtain ⟨before, rfl⟩ := hend
  rw [relined_eq h, unifyNewlines_append_return, closeLine,
    if_pos (.inr List.getLast?_concat)] at hreturn ⊢
  rw [uniformLines_eq hreturn List.getLast?_concat]
  refine ⟨List.getLast?_concat, ?_⟩
  rintro ⟨taken, heq⟩
  have hbefore : taken ++ ['\\'] = unifyNewlines before :=
    List.append_cancel_right (by rw [← heq, List.append_assoc]; rfl)
  -- a backslash is not what a line end was made into, so it stands in the text itself
  have hslash : before.getLast? = some '\\' :=
    getLast?_of_unifyNewlines (by decide) (by rw [← hbefore, List.getLast?_concat])
  obtain ⟨rest, rfl⟩ := List.getLast?_eq_some_iff.mp hslash
  exact hcontinued ⟨rest, by rw [List.append_assoc]; rfl⟩

/-- There is a newline for each line that newlines end. -/
lemma count_endLines {lines : List (List Char)} (h : ∀ line ∈ lines, '\n' ∉ line) :
    (endLines lines).count '\n' = lines.length := by
  induction lines with
  | nil => rfl
  | cons line rest ih =>
    obtain ⟨hline, hrest⟩ := List.forall_mem_cons.mp h
    have := ih hrest
    simp_all [endLines, List.count_eq_zero_of_not_mem hline]

/-- **The lines of a text, ended by newlines, are cut into tokens like the text**, where the end of
the text is seen on its last line. -/
theorem isLike_relined (h : HasPlainBoundaries text) (hcontinued : ¬['\\', '\r', '\n'] <:+ text) :
    ((TokenSequence.ofText text).ending = .finished ↔
        (TokenSequence.ofText (relined text)).ending = .finished) ∧
      ((TokenSequence.ofText text).ending = .finished →
        (TokenSequence.ofText text).IsLike (.upTo (splitLines text).length)
          (.ofText (relined text))) := by
  obtain ⟨htokens, hending⟩ := Scanner.ofLines_eq 1 text
  obtain ⟨htokens', hending'⟩ := Scanner.ofLines_eq 1 (relined text)
  have hlike : ((Scanner.start 1 (uniformLines text)).run.2 = .finished ↔
        (Scanner.start 1 (uniformLines (relined text))).run.2 = .finished) ∧
      ((Scanner.start 1 (uniformLines (relined text))).run.2 = .finished →
        List.Forall₂ (Token.IsLike (.upTo (splitLines text).length))
          (Scanner.start 1 (uniformLines (relined text))).run.1
          (Scanner.start 1 (uniformLines text)).run.1) := by
    rcases uniformLines_relined h with heq | ⟨hend, heq⟩
    · rw [heq]
      exact ⟨Iff.rfl, fun _ => List.forall₂_same.mpr fun _ _ => .inl rfl⟩
    · have hended := isEnded_relined h hend hcontinued
      have hclosed : uniformLines (relined text) = relined text :=
        uniformLines_eq (return_not_mem_relined text) (getLast?_relined h hend)
      have hcount : (uniformLines (relined text)).count '\n' = (splitLines text).length := by
        rw [hclosed]
        exact count_endLines fun _ hline => not_mem_of_mem_splitLines rfl hline
      rw [heq, ← hcount]
      exact Scanner.run_lengthen (.inl hended) (Scanner.standsIn_start (relined text))
  rw [TokenSequence.ofText, TokenSequence.ofText, hending, hending']
  refine ⟨hlike.1, fun hfinished => ⟨?_, hending.trans hfinished,
    hending'.trans (hlike.1.mp hfinished)⟩⟩
  rw [htokens, htokens', List.forall₂_reverse_iff]
  exact (hlike.2 (hlike.1.mp hfinished)).flip.imp fun _ _ hother => Token.IsLike.symm hother

end Code

/-! ## Bare statements -/

open Text

/-- **The body of bare statements is the same program up to places**, if only newlines and carriage
returns end lines of the text, and no backslash stands before the last of them. -/
theorem Definition.read_body {source : List Char} {definition : Definition}
    (h : Definition.ofText source = .ok definition) (hbare : definition.name = none)
    (hplain : HasPlainBoundaries (dedent source))
    (hcontinued : ¬['\\', '\r', '\n'] <:+ dedent source) :
    ∃ statements inner, Code.read (dedent source) = .ok statements ∧
      Code.read definition.body = .ok inner ∧
      statements.map (Code.Stmt.seen .bare) = inner.map (Code.Stmt.seen .bare) := by
  rw [Definition.ofText] at h
  obtain ⟨statements, hread, h⟩ := bind_eq_ok_iff.mp h
  obtain ⟨-, hread⟩ := readProgram_eq_ok_iff.mp hread
  have hbody : definition.body = relined (dedent source) := by
    dsimp only at h
    split at h
    · obtain ⟨body, -, h⟩ := bind_eq_ok_iff.mp h
      cases h
      cases hbare
    · cases h
      rfl
  obtain ⟨inner, hinner, hseen⟩ := Code.read_of_isLike
    ((Code.isLike_relined hplain hcontinued).2 (Code.finished_of_read hread)).bare hread
  exact ⟨statements, inner, hread, hbody ▸ hinner, hseen⟩

/-- A form feed in a text is made a newline, which no text of one line may hold. -/
theorem Definition.body_breaks_at_form_feed :
    ∃ definition, Definition.ofText "a[0] = 'x\x0cy'\n".toList = .ok definition ∧
      definition = ⟨none, "a[0] = 'x\ny'\n".toList⟩ ∧
        (Code.read definition.body).toOption.isNone :=
  exists_ok_of_decide (by decide +kernel)

/-- A carriage return behind a last backslash goes, and nothing is left for the backslash to go on
with. -/
theorem Definition.body_breaks_behind_backslash :
    ∃ definition, Definition.ofText "b = 1\\\r\n".toList = .ok definition ∧
      definition = ⟨none, "b = 1\\\n".toList⟩ ∧ (Code.read definition.body).toOption.isNone :=
  exists_ok_of_decide (by decide +kernel)

end AdjointSynthesis
