import AdjointSynthesis.CommandLine.Request
import AdjointSynthesis.Proofs.Lines
import AdjointSynthesis.Proofs.Scanning.Ends
import Mathlib.Data.List.DropRight

/-!
# Lists of names

A flag takes a list of names that are separated by commas.  White space around a name does not count,
and neither does a place between commas where nothing else stands.

* `Lists`: the ways to write a list of names.
* `Text.strip_around`, `Text.exists_around`: what stripping does to the pieces between the commas.
* `namesOf_eq_ok_iff`: a list of names is read just when it is written in one of these ways.
* `namesOf_intercalate`: what is written in one of them is read, and otherwise the first piece that is
  no name is reported.
-/

namespace AdjointSynthesis

namespace Text

/-! ## Joining -/

lemma joinWith_eq_intercalate (separator : List Char) (parts : List (List Char)) :
    joinWith separator parts = separator.intercalate parts := by
  fun_induction joinWith separator parts with
  | case1 => rfl
  | case2 part => exact (List.intercalate_singleton).symm
  | case3 part more hmore ih =>
    obtain ⟨next, others, rfl⟩ := List.exists_cons_of_ne_nil hmore
    rw [ih, List.intercalate_cons_cons, List.append_assoc]

/-! ## White space around a word -/

variable {before word behind text : List Char}

/-- Whether a text is nothing but white space. -/
def IsSpace (text : List Char) : Prop := ∀ c ∈ text, isBlank c = true

instance decidableIsSpace (text : List Char) : Decidable (IsSpace text) :=
  List.decidableBAll (isBlank · = true) text

/-- Stripping takes off the white space around a word and leaves the word. -/
lemma strip_around (hbefore : IsSpace before) (hword : ∀ c ∈ word, isBlank c = false)
    (hbehind : IsSpace behind) : strip (before ++ word ++ behind) = word := by
  have hleft : stripLeft (before ++ word ++ behind) = stripLeft (word ++ behind) := by
    rw [List.append_assoc]
    exact List.dropWhile_append_of_pos hbefore
  rw [strip, hleft]
  cases word with
  | nil =>
    have hnone : stripLeft ([] ++ behind) = [] := List.dropWhile_eq_nil_iff.mpr hbehind
    rw [hnone]
    rfl
  | cons c rest =>
    have hkept : stripLeft (c :: rest ++ behind) = c :: rest ++ behind :=
      List.dropWhile_cons_of_neg (by simp [hword c List.mem_cons_self])
    have hreverse : IsSpace behind.reverse := fun d hd => hbehind d (List.mem_reverse.mp hd)
    have hright : stripRight (c :: rest ++ behind) = (c :: rest).rdropWhile isBlank := by
      rw [stripRight, List.reverse_append, List.dropWhile_append_of_pos hreverse]
      rfl
    rw [hkept, hright, List.rdropWhile_eq_self_iff]
    intro hne
    simp [hword _ (List.getLast_mem hne)]

/-- A text is what stripping leaves of it, with white space around that. -/
lemma exists_around (text : List Char) :
    ∃ before behind, IsSpace before ∧ IsSpace behind ∧ text = before ++ strip text ++ behind := by
  refine ⟨text.takeWhile isBlank, (stripLeft text).rtakeWhile isBlank,
    fun c hc => List.mem_takeWhile_imp hc, fun c hc => List.mem_rtakeWhile_imp hc, ?_⟩
  calc text = text.takeWhile isBlank ++ stripLeft text := List.takeWhile_append_dropWhile.symm
    _ = text.takeWhile isBlank ++ (strip text ++ (stripLeft text).rtakeWhile isBlank) :=
      congrArg _ List.rdropWhile_append_rtakeWhile.symm
    _ = _ := (List.append_assoc _ _ _).symm

lemma strip_eq_nil_iff : strip text = [] ↔ IsSpace text := by
  constructor
  · intro hnil
    obtain ⟨before, behind, hbefore, hbehind, heq⟩ := exists_around text
    rw [hnil, List.append_nil] at heq
    intro c hc
    rw [heq] at hc
    exact (List.mem_append.mp hc).elim (hbefore c) (hbehind c)
  · intro h
    change strip ([] ++ [] ++ text) = []
    exact strip_around (List.forall_mem_nil _) (List.forall_mem_nil _) h

end Text

namespace CommandLine

/-! ## Ways to write a list -/

/-- Whether some pieces list some names: each piece is a name with white space around it or, between
names, nothing but white space. -/
inductive Lists : List String → List String → Prop where
  | nil : Lists [] []
  | space {piece : String} {names pieces : List String} (hpiece : Text.IsSpace piece.toList)
      (rest : Lists names pieces) : Lists names (piece :: pieces)
  | name {piece name : String} {before behind : List Char} {names pieces : List String}
      (hpiece : piece.toList = before ++ name.toList ++ behind)
      (hbefore : Text.IsSpace before) (hname : Text.isIdentifier name.toList = true)
      (hbehind : Text.IsSpace behind) (rest : Lists names pieces) :
      Lists (name :: names) (piece :: pieces)

/-- Whether a piece is neither white space nor a name. -/
def IsStray (piece : String) : Prop :=
  ¬Text.IsSpace piece.toList ∧ Text.isIdentifier (Text.strip piece.toList) = false

instance decidableIsStray (piece : String) : Decidable (IsStray piece) :=
  inferInstanceAs (Decidable (_ ∧ _))

/-- The parts of some pieces without white space around them and without empty ones. -/
def strippedParts (pieces : List String) : List (List Char) :=
  (pieces.map fun piece => Text.strip piece.toList).filter fun part => !part.isEmpty

section
variable {flag : Flag} {names pieces : List String} {piece : String}

lemma strippedParts_cons_of_isSpace (h : Text.IsSpace piece.toList) (pieces : List String) :
    strippedParts (piece :: pieces) = strippedParts pieces := by
  rw [strippedParts, List.map_cons, Text.strip_eq_nil_iff.mpr h]
  rfl

lemma strippedParts_cons (h : ¬Text.IsSpace piece.toList) (pieces : List String) :
    strippedParts (piece :: pieces) = Text.strip piece.toList :: strippedParts pieces := by
  rw [strippedParts, List.map_cons, List.filter_cons_of_pos]
  · rfl
  · simpa [Text.strip_eq_nil_iff] using h

/-! ## Reading what is written -/

/-- Nothing that separates names occurs in one. -/
lemma separators_not_mem {word : List Char} (h : Text.isIdentifier word = true) :
    (∀ c ∈ word, Text.isBlank c = false) ∧ ',' ∉ word := by
  have hparts := List.all_eq_true.mp (Text.all_part_of_isIdentifier h)
  exact ⟨fun c hc => Code.isBlank_of_isIdentifierPart (hparts c hc), fun hc => nomatch hparts ',' hc⟩

/-- Names that are listed are what is left of the pieces. -/
lemma Lists.strippedParts_eq (h : Lists names pieces) :
    strippedParts pieces = names.map String.toList ∧
      ∀ name ∈ names, Text.isIdentifier name.toList = true := by
  induction h with
  | nil => exact ⟨rfl, fun _ hname => nomatch hname⟩
  | space hpiece _ ih => exact ⟨(strippedParts_cons_of_isSpace hpiece _).trans ih.1, ih.2⟩
  | @name piece name before behind _ _ hpiece hbefore hname hbehind _ ih =>
    have hstrip : Text.strip piece.toList = name.toList :=
      hpiece ▸ Text.strip_around hbefore (separators_not_mem hname).1 hbehind
    have hne : ¬Text.IsSpace piece.toList := by
      rw [← Text.strip_eq_nil_iff, hstrip]
      intro hnil
      rw [hnil] at hname
      cases hname
    rw [strippedParts_cons hne, hstrip, ih.1]
    exact ⟨rfl, List.forall_mem_cons.mpr ⟨hname, ih.2⟩⟩

/-- Pieces of which nothing but names is left list these names. -/
lemma lists_of_forall (h : ∀ part ∈ strippedParts pieces, Text.isIdentifier part = true) :
    Lists ((strippedParts pieces).map String.ofList) pieces := by
  induction pieces with
  | nil => exact .nil
  | cons piece rest ih =>
    -- only a piece that is not all white space adds a name
    by_cases hspace : Text.IsSpace piece.toList
    · rw [strippedParts_cons_of_isSpace hspace] at h ⊢
      exact .space hspace (ih h)
    · rw [strippedParts_cons hspace] at h ⊢
      obtain ⟨hname, hrest⟩ := List.forall_mem_cons.mp h
      obtain ⟨before, behind, hbefore, hbehind, hpiece⟩ := Text.exists_around piece.toList
      exact .name (by rwa [String.toList_ofList]) hbefore (by rwa [String.toList_ofList]) hbehind
        (ih hrest)

/-- No piece of a list of names holds a comma. -/
lemma Lists.comma_not_mem (h : Lists names pieces) : ∀ piece ∈ pieces, ',' ∉ piece.toList := by
  induction h with
  | nil => exact fun _ hpiece => nomatch hpiece
  | space hpiece _ ih => exact List.forall_mem_cons.mpr ⟨fun hmem => (nomatch hpiece ',' hmem), ih⟩
  | name hpiece hbefore hname hbehind _ ih =>
    refine List.forall_mem_cons.mpr ⟨fun hmem => ?_, ih⟩
    rw [hpiece, List.mem_append, List.mem_append] at hmem
    rcases hmem with (hmem | hmem) | hmem
    · exact nomatch hbefore ',' hmem
    · exact (separators_not_mem hname).2 hmem
    · exact nomatch hbehind ',' hmem

lemma nameParts_intercalate (h : ∀ piece ∈ pieces, ',' ∉ piece.toList) :
    nameParts (",".intercalate pieces).toList = strippedParts pieces := by
  have hcomma : ∀ part ∈ pieces.map String.toList, ',' ∉ part := by
    intro part hpart
    obtain ⟨piece, hpiece, rfl⟩ := List.mem_map.mp hpart
    exact h piece hpiece
  rw [nameParts, String.toList_intercalate, ← Text.joinWith_eq_intercalate]
  cases pieces with
  | nil =>
    -- joining nothing leaves one empty part, which is dropped
    rfl
  | cons piece rest =>
    change ((Text.splitOn ',' (Text.joinWith [','] _)).map _).filter _ = _
    rw [Text.splitOn_joinWith (by simp) hcomma, List.map_map]
    rfl

lemma find?_strippedParts (pieces : List String) :
    (strippedParts pieces).find? (fun part => !Text.isIdentifier part) =
      (pieces.find? (IsStray ·)).map fun piece => Text.strip piece.toList := by
  rw [strippedParts, List.find?_filter, List.find?_map]
  congr 2
  funext piece
  rw [Function.comp_apply, decide_eq_decide]
  simp [IsStray, ← Text.strip_eq_nil_iff]

/-- What is read of pieces that are joined: the first piece that is no name decides. -/
lemma namesOf_eq_match (flag : Flag) (h : ∀ piece ∈ pieces, ',' ∉ piece.toList) :
    namesOf flag (",".intercalate pieces) =
      match pieces.find? (IsStray ·) with
      | some piece => .error (.badName flag (String.ofList (Text.strip piece.toList)))
      | none => .ok ((strippedParts pieces).map String.ofList) := by
  rw [namesOf, CommandLine.names, nameParts_intercalate h, find?_strippedParts]
  cases pieces.find? (IsStray ·) with
  | some piece => rfl
  | none => rfl

lemma forall_strippedParts_iff : (∀ part ∈ strippedParts pieces, Text.isIdentifier part = true) ↔
    pieces.find? (IsStray ·) = none := by
  rw [← Option.map_eq_none_iff, ← find?_strippedParts, List.find?_eq_none]
  simp

/-- **A list of names is read** just when the pieces between its commas list these names. -/
theorem namesOf_eq_ok_iff (h : ∀ piece ∈ pieces, ',' ∉ piece.toList) :
    namesOf flag (",".intercalate pieces) = .ok names ↔ Lists names pieces := by
  rw [namesOf_eq_match flag h]
  constructor
  · intro hread
    split at hread
    · cases hread
    · next hnone =>
      cases hread
      exact lists_of_forall (forall_strippedParts_iff.mpr hnone)
  · intro hlists
    obtain ⟨hparts, hnames⟩ := hlists.strippedParts_eq
    have hnone : pieces.find? (IsStray ·) = none := by
      rw [← forall_strippedParts_iff, hparts]
      exact List.forall_mem_map.mpr hnames
    rw [hnone, hparts, List.map_map]
    have hid : String.ofList ∘ String.toList = id := funext fun _ => String.ofList_toList
    rw [hid, List.map_id]

/-- **Lists of names, however they are written.**  The names are read in their order and with their
repetitions, whatever white space stands around them and however many pieces hold nothing else.  If
some piece is neither white space nor a name, the first such piece is reported. -/
theorem namesOf_intercalate (flag : Flag) (pieces : List String) :
    (∀ names, Lists names pieces → namesOf flag (",".intercalate pieces) = .ok names) ∧
      ((∀ piece ∈ pieces, ',' ∉ piece.toList) → (∃ piece ∈ pieces, IsStray piece) →
        ∃ piece ∈ pieces.find? (IsStray ·), namesOf flag (",".intercalate pieces) =
          .error (.badName flag (String.ofList (Text.strip piece.toList)))) := by
  refine ⟨fun names hlists => (namesOf_eq_ok_iff hlists.comma_not_mem).mpr hlists,
    fun hcomma hstray => ?_⟩
  have hsome : (pieces.find? (IsStray ·)).isSome = true := by
    obtain ⟨piece, hmem, hpiece⟩ := hstray
    exact List.find?_isSome.mpr ⟨piece, hmem, decide_eq_true hpiece⟩
  obtain ⟨piece, hfirst⟩ := Option.isSome_iff_exists.mp hsome
  refine ⟨piece, hfirst, ?_⟩
  rw [namesOf_eq_match flag hcomma, hfirst]

/-- A name twice, with white space of several sorts, and two pieces of which the first is reported. -/
theorem namesOf_intercalate_spaced :
    let pieces := ["", "\u3000a\t", " \n ", "x\u0301", "\x1fa"]
    let strays := ["a", " ", "\u00a02b ", "c-d"]
    (Lists ["a", "x\u0301", "a"] pieces ∧
      namesOf .visible (",".intercalate pieces) = .ok ["a", "x\u0301", "a"]) ∧
    (IsStray "\u00a02b " ∧ IsStray "c-d" ∧
      namesOf .constants (",".intercalate strays) = .error (.badName .constants "2b") ∧
      (ArgumentFault.badName .constants "2b").message =
        "argument --const: '2b' is not a valid identifier") := by
  intro pieces strays
  have hlists : Lists ["a", "x\u0301", "a"] pieces := by
    have hfirst : "\u3000a\t".toList = ['\u3000'] ++ "a".toList ++ ['\t'] := rfl
    have hsecond : "x\u0301".toList = [] ++ "x\u0301".toList ++ [] := rfl
    have hthird : "\x1fa".toList = ['\x1f'] ++ "a".toList ++ [] := rfl
    refine .space ?_ (.name hfirst ?_ ?_ ?_ (.space ?_ (.name hsecond ?_ ?_ ?_
      (.name hthird ?_ ?_ ?_ .nil))))
    all_goals decide +kernel
  have hstray : IsStray "\u00a02b " := by decide +kernel
  have hfirst : strays.find? (IsStray ·) = some "\u00a02b " := by decide +kernel
  obtain ⟨piece, hpiece, hread⟩ := (namesOf_intercalate .constants strays).2 (by decide +kernel)
    ⟨_, by simp [strays], hstray⟩
  rw [hfirst] at hpiece
  cases hpiece
  exact ⟨⟨hlists, (namesOf_intercalate .visible pieces).1 _ hlists⟩, hstray, by decide +kernel,
    hread, by decide +kernel⟩

end

end CommandLine

end AdjointSynthesis
