import AdjointSynthesis.Proofs.Lines
import AdjointSynthesis.Proofs.Reading.Targets
import AdjointSynthesis.Proofs.Scanning.Layout
import AdjointSynthesis.Proofs.Scanning.Places
import AdjointSynthesis.Proofs.Usage

/-!
# Which writes are found

A block writes to a variable where a statement stores a value to an element of it.  The search goes
by lines: a store counts when its target is the first thing on its line.

* `IsFirst`: a place is the first on its line that is not blank.
* `startsLine?_eq_true_iff`: the count of leading blanks tells so for the place of every token, also
  on lines with characters of several bytes.
* `Usage.mem_mutated_iff_isFirst`: the names that are found.
* `Stmt.stored`: what a statement stores something to.
* `Usage.mem_mutated_of_mem_stored`, `Usage.mem_stored_or_mem_declared_of_mem_mutated`: which stores
  are found, and what is found that is no store.
-/

namespace AdjointSynthesis

open Code

/-! ## First on a line -/

/-- Whether nothing but blanks stands before a place on its line, and no blank at it. -/
def IsFirst (lines : List (List Char)) (place : Place) : Prop :=
  ∃ line ∈ lines[place.line - 1]?, ∃ count ≤ line.length,
    place.column = bytesOf (line.take count) ∧ (line.take count).all Text.isBlank = true ∧
    Text.leadingBlanks (line.drop count) = 0

instance decidableIsFirst (lines : List (List Char)) (place : Place) :
    Decidable (IsFirst lines place) := by
  unfold IsFirst
  infer_instance

section
variable {before behind other rest : List Char}

lemma leadingBlanks_append (h : ∀ c ∈ before, Text.isBlank c = true) (behind : List Char) :
    Text.leadingBlanks (before ++ behind) = before.length + Text.leadingBlanks behind := by
  rw [Text.leadingBlanks, List.takeWhile_append_of_pos h, List.length_append, Text.leadingBlanks]

lemma leadingBlanks_lt {c : Char} (hmem : c ∈ before) (hc : Text.isBlank c = false)
    (behind : List Char) : Text.leadingBlanks (before ++ behind) < before.length := by
  induction before with
  | nil => cases hmem
  | cons d more ih =>
    rw [List.cons_append, Text.leadingBlanks]
    cases hd : Text.isBlank d with
    | false =>
      rw [List.takeWhile_cons_of_neg (by simp [hd])]
      exact Nat.succ_pos _
    | true =>
      have hmore : c ∈ more := by
        rcases List.mem_cons.mp hmem with rfl | hmore
        · rw [hd] at hc
          cases hc
        · exact hmore
      rw [List.takeWhile_cons_of_pos hd]
      exact Nat.succ_lt_succ (ih hmore)

lemma bytesOf_eq_length (h : ∀ c ∈ before, byteWidth c = 1) : bytesOf before = before.length := by
  induction before with
  | nil => rfl
  | cons c more ih =>
    rw [bytesOf_cons, h c List.mem_cons_self, ih fun d hd => h d (List.mem_cons_of_mem _ hd),
      List.length_cons, Nat.add_comm]

/-- The bytes up to a place are as many as the leading blanks when these are all that stands before
it.  A wide blank would not be counted right, but none stands on a line of nothing but blanks. -/
lemma bytesOf_eq_leadingBlanks_iff (hnarrow : HasNarrowBlanks before) :
    bytesOf before = Text.leadingBlanks (before ++ behind) ↔
      (∀ c ∈ before, Text.isBlank c = true) ∧ Text.leadingBlanks behind = 0 := by
  by_cases hblank : ∀ c ∈ before, Text.isBlank c = true
  · rw [bytesOf_eq_length (hnarrow hblank), leadingBlanks_append hblank, and_iff_right hblank]
    omega
  · -- from the first character that is no blank on, the bytes outnumber the leading blanks
    obtain ⟨c, hmem, hc⟩ : ∃ c ∈ before, Text.isBlank c = false := by simpa using hblank
    have hlt := leadingBlanks_lt hmem hc behind
    have hle := length_le_bytesOf before
    exact ⟨fun heq => by omega, fun h => absurd h.1 hblank⟩

/-- Two beginnings of a line that are equally wide are the same. -/
lemma eq_of_bytesOf_eq (h : before ++ behind = other ++ rest)
    (hbytes : bytesOf before = bytesOf other) : before = other ∧ behind = rest := by
  refine List.append_inj h ?_
  -- one is the beginning of the other, and what it lacks takes no bytes
  rcases List.append_eq_append_iff.mp h with ⟨more, rfl, -⟩ | ⟨more, rfl, -⟩ <;>
  · rw [bytesOf_append] at hbytes
    have := length_le_bytesOf more
    rw [List.length_append]
    omega

end

/-! ## Lines of a text -/

/-- What stands on the last line of a text is the beginning of that line in every longer text. -/
lemma getElem?_splitOn (read rest : List Char) :
    (Text.splitOn '\n' (read ++ rest))[read.count '\n']? =
      some (openLine read ++ rest.takeWhile (· != '\n')) := by
  obtain ⟨before, heq, hempty, hline⟩ := exists_eq_append_openLine read
  have hopen : (openLine read ++ rest).takeWhile (· != '\n') =
      openLine read ++ rest.takeWhile (· != '\n') := by
    refine List.takeWhile_append_of_pos fun c hc => ?_
    exact List.mem_takeWhile_imp (p := (· != '\n')) (List.mem_reverse.mp hc)
  have hcount : before.count '\n' = read.count '\n' := Nat.succ.inj hline
  rw [← hcount]
  nth_rewrite 1 [heq]
  rw [List.append_assoc, ← hopen]
  -- the last line of `read` is the first one or stands behind a newline
  rcases List.eq_nil_or_concat' before with rfl | ⟨earlier, c, rfl⟩
  · exact Text.head?_splitOn _ _
  · have hc : c = '\n' := by
      by_contra hc
      rw [openLine_concat hc] at hempty
      exact List.append_ne_nil_of_right_ne_nil _ (List.cons_ne_nil _ _) hempty
    subst hc
    rw [← List.append_cons, Text.splitOn_append_cons_self, List.getElem?_append_right,
      Text.length_splitOn, List.count_append, List.count_singleton_self, Nat.sub_self]
    · exact Text.head?_splitOn _ _
    · rw [Text.length_splitOn, List.count_append, List.count_singleton_self]

/-- The lines of a text are read as they are, and an empty line behind them may be. -/
lemma getElem?_splitOn_uniformLines {text line : List Char} {i : ℕ} (h : '\r' ∉ text)
    (hline : (Text.splitOn '\n' text)[i]? = some line) :
    (Text.splitOn '\n' (uniformLines text))[i]? = some line := by
  rw [uniformLines, unifyNewlines_eq h]
  split
  · exact hline
  · rw [Text.splitOn_append_cons_self, List.getElem?_append_left]
    · exact hline
    · exact (List.getElem?_eq_some_iff.mp hline).1

/-- **A place is told to be the first on its line just when it is**, if it is where a token may
start. -/
theorem startsLine?_eq_true_iff {text : List Char} {place : Place} (htext : '\r' ∉ text)
    (hstart : StartsIn (uniformLines text) place) :
    startsLine? (Text.splitOn '\n' text) place = some true ↔
      IsFirst (Text.splitOn '\n' text) place := by
  obtain ⟨read, rest, huniform, rfl, hnarrow⟩ := hstart
  unfold startsLine? IsFirst
  cases hline : (Text.splitOn '\n' text)[(placeAfter read).line - 1]? with
  | none => simp
  | some line =>
    have hread := getElem?_splitOn_uniformLines htext hline
    rw [huniform] at hread
    obtain rfl : openLine read ++ rest.takeWhile (· != '\n') = line :=
      Option.some.inj ((getElem?_splitOn read rest).symm.trans hread)
    have hcolumn : (placeAfter read).column = bytesOf (openLine read) := rfl
    rw [Option.map_some, hcolumn, Option.some.injEq, beq_iff_eq,
      bytesOf_eq_leadingBlanks_iff hnarrow]
    constructor
    · rintro ⟨hblank, hbehind⟩
      refine ⟨_, rfl, (openLine read).length, ?_, ?_, ?_, ?_⟩
      · rw [List.length_append]
        exact Nat.le_add_right _ _
      · rw [List.take_left]
      · rw [List.take_left]
        exact List.all_eq_true.mpr hblank
      · rwa [List.drop_left]
    · -- there is only one way to cut the line at that column
      rintro ⟨_, ⟨⟩, count, -, hbytes, hblank, hbehind⟩
      obtain ⟨hbefore, hrest⟩ := eq_of_bytesOf_eq (List.take_append_drop count _) hbytes.symm
      rw [hbefore] at hblank
      rw [hrest] at hbehind
      exact ⟨List.all_eq_true.mp hblank, hbehind⟩

/-! ## Characters of a text without its margin -/

lemma mem_of_mem_clearBlank {line : List Char} {c : Char} (hc : c ∈ Text.clearBlank line) :
    c ∈ line := by
  unfold Text.clearBlank at hc
  split at hc
  · cases hc
  · exact hc

/-- Taking off the margin adds no character but newlines, which were there before. -/
lemma mem_of_mem_dedent {source : List Char} {c : Char} (hc : c ∈ Text.dedent source) :
    c = '\n' ∨ c ∈ source := by
  refine (Text.mem_of_mem_joinWith hc).imp List.mem_singleton.mp ?_
  rintro ⟨_, hmem, hc⟩
  obtain ⟨line, hline, rfl⟩ := List.mem_map.mp hmem
  exact Text.mem_of_mem_splitOn hline (mem_of_mem_clearBlank (List.mem_of_mem_drop hc))

/-! ## The names that are found -/

lemma mem_parts_of_mem_flatTargets {whole target : Expr} (h : target ∈ whole.flatTargets) :
    target ∈ whole.parts := by
  unfold Expr.flatTargets at h
  split at h
  · rw [Expr.parts, partsIn_eq]
    exact List.mem_cons_of_mem _ (List.mem_flatMap.mpr ⟨target, h, mem_parts target⟩)
  · rw [Expr.parts, partsIn_eq]
    exact List.mem_cons_of_mem _ (List.mem_flatMap.mpr ⟨target, h, mem_parts target⟩)
  · exact List.mem_singleton.mp h ▸ mem_parts target

lemma exists_wholeTarget {stmt : Stmt} {target : Expr} (h : target ∈ stmt.targets) :
    ∃ whole ∈ stmt.wholeTargets, target ∈ whole.parts := by
  rcases stmt with ⟨span, form⟩
  cases form with
  | assign targets value =>
    obtain ⟨whole, hwhole, hmem⟩ := List.mem_flatMap.mp h
    exact ⟨whole, hwhole, mem_parts_of_mem_flatTargets hmem⟩
  | augment | annotate => exact ⟨target, h, mem_parts target⟩
  | _ => cases h

/-- The targets of a program start at tokens. -/
lemma exists_token_of_mem_targets {text : List Char} {statements : List Stmt}
    (hread : read text = .ok statements) {stmt : Stmt} (hstmt : stmt ∈ allIn statements)
    {target : Expr} (htarget : target ∈ stmt.targets) :
    ∃ token ∈ (TokenSequence.ofText text).tokens, token.span.start = target.span.start := by
  obtain ⟨whole, hwhole, hpart⟩ := exists_wholeTarget htarget
  exact isAnchoredIn_of_read hread stmt hstmt whole hwhole _ hpart

namespace Usage

variable {source : List Char} {usage : Usage} {name : String}

/-- **The names that are written to** are the roots of the targets that are the first things on
their lines, whatever characters stand on these lines. -/
theorem mem_mutated_iff_isFirst (h : Usage.ofText source = .ok usage) (hsource : '\r' ∉ source) :
    name ∈ usage.mutated ↔ ∃ stmt ∈ allIn usage.statements, ∃ target ∈ stmt.targets,
      target.subscriptRoot? = some name ∧
        IsFirst (Text.splitOn '\n' usage.text) target.span.start := by
  obtain ⟨htext, -, hread, -⟩ := ofText_eq_ok_iff.mp h
  have hreturn : '\r' ∉ usage.text := fun hmem =>
    (mem_of_mem_dedent (htext ▸ hmem)).elim (by decide) hsource
  have hstarts {stmt : Stmt} (hstmt : stmt ∈ allIn usage.statements) {target : Expr}
      (htarget : target ∈ stmt.targets) :
      StartsIn (uniformLines usage.text) target.span.start := by
    obtain ⟨token, htoken, hplace⟩ := exists_token_of_mem_targets hread hstmt htarget
    exact hplace ▸ startsIn_of_mem_ofText htoken
  rw [mem_mutated_iff h]
  constructor
  · rintro ⟨stmt, hstmt, target, htarget, hroot, hfirst⟩
    exact ⟨stmt, hstmt, target, htarget, hroot,
      (startsLine?_eq_true_iff hreturn (hstarts hstmt htarget)).mp hfirst⟩
  · rintro ⟨stmt, hstmt, target, htarget, hroot, hfirst⟩
    exact ⟨stmt, hstmt, target, htarget, hroot,
      (startsLine?_eq_true_iff hreturn (hstarts hstmt htarget)).mpr hfirst⟩

end Usage

/-! ## Stores -/

namespace Code

/-- What a statement stores something to, at any depth of its targets.  An annotation without a
value stores nothing. -/
def Stmt.stored : Stmt → List Expr
  | .mk _ (.assign targets _) => partsIn targets
  | .mk _ (.augment target _ _) => [target]
  | .mk _ (.annotate target _ (some _) _) => [target]
  | _ => []

/-- What a statement declares the type of, without a value. -/
def Stmt.declared : Stmt → List Expr
  | .mk _ (.annotate target _ none _) => [target]
  | _ => []

/-- What is a chain of subscripts is not taken apart. -/
lemma exists_flatTarget {whole part : Expr} {name : String} (h : part ∈ whole.parts)
    (hroot : part.subscriptRoot? = some name) :
    ∃ outer ∈ whole.flatTargets, part ∈ outer.parts := by
  unfold Expr.parts at h
  unfold Expr.flatTargets
  split at h
  · rcases List.mem_cons.mp h with rfl | h
    · cases hroot
    · rw [partsIn_eq] at h
      exact List.mem_flatMap.mp h
  · rcases List.mem_cons.mp h with rfl | h
    · cases hroot
    · rw [partsIn_eq] at h
      exact List.mem_flatMap.mp h
  · exact ⟨_, List.mem_singleton.mpr rfl, by rwa [Expr.parts]⟩
  · obtain rfl := List.mem_singleton.mp h
    split
    · cases hroot
    · cases hroot
    · exact ⟨part, List.mem_singleton.mpr rfl, mem_parts part⟩

lemma exists_target_of_mem_stored {stmt : Stmt} {target : Expr} {name : String}
    (h : target ∈ stmt.stored) (hroot : target.subscriptRoot? = some name) :
    ∃ outer ∈ stmt.targets, target ∈ outer.parts := by
  rcases stmt with ⟨span, form⟩
  cases form with
  | assign targets value =>
    rw [Stmt.stored, partsIn_eq] at h
    obtain ⟨whole, hwhole, hpart⟩ := List.mem_flatMap.mp h
    obtain ⟨outer, houter, hpart⟩ := exists_flatTarget hpart hroot
    exact ⟨outer, List.mem_flatMap.mpr ⟨whole, hwhole, houter⟩, hpart⟩
  | augment => exact ⟨target, h, mem_parts target⟩
  | annotate _ _ value _ =>
    cases value with
    | none => cases h
    | some value => exact ⟨target, h, mem_parts target⟩
  | _ => cases h

lemma mem_stored_or_mem_declared {stmt : Stmt} {target : Expr} (h : target ∈ stmt.targets) :
    target ∈ stmt.stored ∨ target ∈ stmt.declared := by
  obtain ⟨whole, hwhole, hpart⟩ := exists_wholeTarget h
  rcases stmt with ⟨span, form⟩
  cases form with
  | assign targets value =>
    rw [Stmt.stored, partsIn_eq]
    exact .inl (List.mem_flatMap.mpr ⟨whole, hwhole, hpart⟩)
  | augment => exact .inl h
  | annotate _ _ value _ =>
    cases value with
    | none => exact .inr h
    | some value => exact .inl h
  | _ => cases h

end Code

namespace Usage

variable {source : List Char} {usage : Usage} {name : String}

/-- **A store that is the first thing on its line is found**, unless it lies inside an item of what
is assigned to: a tuple in a tuple is not taken apart, and neither is a starred item. -/
theorem mem_mutated_of_mem_stored (h : Usage.ofText source = .ok usage) (hsource : '\r' ∉ source)
    {stmt : Stmt} (hstmt : stmt ∈ allIn usage.statements) {target : Expr}
    (hstored : target ∈ stmt.stored) (hroot : target.subscriptRoot? = some name)
    (hfirst : IsFirst (Text.splitOn '\n' usage.text) target.span.start) :
    name ∈ usage.mutated ∨ ∃ outer ∈ stmt.targets, target ∈ outer.parts ∧ outer ≠ target := by
  obtain ⟨outer, houter, hpart⟩ := exists_target_of_mem_stored hstored hroot
  by_cases heq : outer = target
  · -- nothing hides the target
    subst heq
    exact .inl ((mem_mutated_iff_isFirst h hsource).mpr
      ⟨stmt, hstmt, outer, houter, hroot, hfirst⟩)
  · exact .inr ⟨outer, houter, hpart, heq⟩

/-- A store to an item of a tuple in a tuple, which is the first thing on its line. -/
theorem not_mem_mutated_of_nested :
    ∃ usage, Usage.ofText "(x, (\na[0], y)) = v\n".toList = .ok usage ∧
      (∃ stmt ∈ allIn usage.statements, ∃ target ∈ stmt.stored,
        target.subscriptRoot? = some "a" ∧
          IsFirst (Text.splitOn '\n' usage.text) target.span.start) ∧ "a" ∉ usage.mutated :=
  exists_ok_of_decide (by decide +kernel)

/-- **Every name that is found is stored to**, or its type is declared without a value. -/
theorem mem_stored_or_mem_declared_of_mem_mutated (h : Usage.ofText source = .ok usage)
    (hname : name ∈ usage.mutated) :
    ∃ stmt ∈ allIn usage.statements, ∃ target, target.subscriptRoot? = some name ∧
      (target ∈ stmt.stored ∨ target ∈ stmt.declared) := by
  obtain ⟨stmt, hstmt, target, htarget, hroot, -⟩ := (mem_mutated_iff h).mp hname
  exact ⟨stmt, hstmt, target, hroot, mem_stored_or_mem_declared htarget⟩

/-- A declaration counts as a write, though nothing is stored. -/
theorem mem_mutated_of_declared :
    ∃ usage, Usage.ofText "a[0]: float\n".toList = .ok usage ∧
      (∀ stmt ∈ allIn usage.statements, stmt.stored = []) ∧ "a" ∈ usage.mutated :=
  exists_ok_of_decide (by decide +kernel)

end Usage

end AdjointSynthesis
