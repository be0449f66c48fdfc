import AdjointSynthesis.Emission
import AdjointSynthesis.Proofs.Lines
import AdjointSynthesis.Proofs.Names

/-!
# Reading the emitted lists back

The definitions written for a block hold lists of names in brackets.  Here they are read from the
finished texts, line by line and without knowing how the lines came about: a line is searched for
its first bracket, and what stands in brackets is cut at its commas.

* `definedBy?`, `returnedBy?`: what the first line of a text defines and what its last line returns.
* `RuleLists.read?`: all lists of an adjoint rule.
* `readListed?_signature`, `readTuple?_tupleText`: names that hold no sign of the layout are read
  back as they were written.
-/

namespace AdjointSynthesis

/-! ## Lines -/

/-- The lines of a text each of which ends in a newline. -/
def textLines (text : List Char) : List (List Char) := (Text.splitOn '\n' text).dropLast

/-- A line without its margin. -/
def withoutMargin (line : List Char) : List Char := line.dropWhile Text.isMarginal

/-! ## Lists in a line -/

/-- Something in round brackets, with what stands before and behind it. -/
structure Bracketed where
  before : List Char
  inside : List Char
  behind : List Char
deriving DecidableEq, Repr

/-- The first brackets of a line. -/
def bracketed? (line : List Char) : Option Bracketed :=
  match line.dropWhile (· != '(') with
  | [] => none
  | _ :: rest =>
    match rest.dropWhile (· != ')') with
    | [] => none
    | _ :: behind => some ⟨line.takeWhile (· != '('), rest.takeWhile (· != ')'), behind⟩

/-- A part without the blank that it may begin with. -/
def withoutBlank : List Char → List Char
  | ' ' :: rest => rest
  | part => part

/-- The parts between commas, without a blank behind a comma. -/
def commaParts (inside : List Char) : List (List Char) :=
  (Text.splitOn ',' inside).map withoutBlank

/-- The items in the brackets behind a name. -/
def listItems (inside : List Char) : List String :=
  if inside = [] then [] else (commaParts inside).map String.ofList

/-- The items of a tuple.  Without any comma, brackets make a tuple only when they are empty; a
comma behind the last item does not count. -/
def tupleItems? (inside : List Char) : Option (List String) :=
  if inside = [] then some []
  else if inside.contains ',' then
    let parts := commaParts inside
    some ((if parts.getLast? = some [] then parts.dropLast else parts).map String.ofList)
  else none

/-- A name with a list in brackets behind it. -/
structure Listed where
  name : String
  items : List String
deriving DecidableEq, Repr

/-- The name with its list on a line that starts and ends in a given way. -/
def readListed? (start ending line : List Char) : Option Listed := do
  let found ← bracketed? line
  let name ← start.isPrefixOf? found.before
  if found.behind = ending then some ⟨String.ofList name, listItems found.inside⟩ else none

/-- The tuple on a line that starts in a given way, and what stands behind it. -/
def readTuple? (start line : List Char) : Option (List String × List Char) := do
  let found ← bracketed? line
  if found.before = start then (tupleItems? found.inside).map (·, found.behind) else none

/-! ## Lists in the definitions -/

/-- The name and the parameters of the definition on the first line of a text. -/
def definedBy? (text : List Char) : Option Listed :=
  (textLines text).head?.bind fun line => readListed? "def ".toList ":".toList line

/-- The tuple that the last line of a text returns. -/
def returnedBy? (text : List Char) : Option (List String) :=
  (textLines text).getLast?.bind fun line =>
    (readTuple? "return ".toList (withoutMargin line)).map Prod.fst

/-- The lists of an adjoint rule. -/
structure RuleLists where
  /-- The rule with its parameters. -/
  definition : Listed
  /-- The call that runs the block forwards. -/
  replay : Listed
  /-- What the cotangents are destructured into. -/
  cotangents : List String
  /-- What the result of the engine is destructured into, unless it is not. -/
  computed : Option (List String)
  /-- The annotated arguments of the engine. -/
  arguments : List Listed
  /-- What the function that runs backwards returns. -/
  slots : List String
  /-- What the rule returns beside that function. -/
  values : List String
deriving DecidableEq, Repr

/-- Whether a line ends by opening a bracket. -/
def opensBracket (line : List Char) : Bool := line.getLast? == some '('

/-- The lists of an adjoint rule.  The call of the engine begins on the first line that ends by
opening a bracket; the function, its activity and one annotated argument a line follow. -/
def RuleLists.read? (text : List Char) : Option RuleLists :=
  match (textLines text).map withoutMargin with
  | _decorator :: definition :: replay :: _blank :: _backward :: cotangents :: rest =>
    match rest.dropWhile fun line => !opensBracket line with
    | engine :: _function :: _activity :: rest =>
      match rest.dropWhile (· != ")".toList) with
      | [_closing, slots, _blank, values] => do
        return {
          definition := ← readListed? "def ".toList ":".toList definition
          replay := ← readListed? [] [] replay
          cotangents := ← (readTuple? [] cotangents).map Prod.fst
          computed := (readTuple? [] engine).map Prod.fst
          arguments := ← (rest.takeWhile (· != ")".toList)).mapM (readListed? [] ",".toList)
          slots := ← (readTuple? "return ".toList slots).map Prod.fst
          values := ← (readTuple? "return ".toList values).map Prod.fst }
      | _ => none
    | _ => none
  | _ => none

/-! ## Plain names -/

/-- Whether a character is a sign of the layout. -/
def isSign (c : Char) : Bool :=
  c == '(' || c == ')' || c == ',' || c == ' ' || c == '\t' || c == '\n'

/-- A name that is not empty and holds no sign of the layout. -/
def IsPlain (name : String) : Prop := name ≠ "" ∧ ∀ c ∈ name.toList, isSign c = false

lemma isSign_of_isWordPart {c : Char} (h : Code.isWordPart c = true) : isSign c = false := by
  rw [Bool.eq_false_iff]
  intro hsign
  simp only [isSign, Bool.or_eq_true, beq_iff_eq] at hsign
  rcases hsign with ((((rfl | rfl) | rfl) | rfl) | rfl) | rfl <;> cases h

lemma isPlain_of_isWord {name : String} (h : Code.isWord name.toList = true) : IsPlain name := by
  obtain ⟨hne, hall⟩ := Code.isWord_iff.mp h
  exact ⟨fun hempty => hne (by rw [hempty]; rfl), fun c hc => isSign_of_isWordPart (hall c hc)⟩

namespace IsPlain

variable {name : String}

lemma not_mem (h : IsPlain name) {c : Char} (hc : isSign c = true) : c ∉ name.toList :=
  fun hmem => by simp [h.2 c hmem] at hc

lemma toList_ne_nil (h : IsPlain name) : name.toList ≠ [] :=
  fun hnil => h.1 (String.toList_eq_nil_iff.mp hnil)

/-- A plain name begins with a character that is no sign. -/
lemma exists_cons (h : IsPlain name) :
    ∃ c rest, name.toList = c :: rest ∧ isSign c = false := by
  obtain ⟨c, rest, heq⟩ := List.exists_cons_of_ne_nil h.toList_ne_nil
  exact ⟨c, rest, heq, h.2 c (heq ▸ List.mem_cons_self)⟩

lemma withoutBlank_toList (h : IsPlain name) : withoutBlank name.toList = name.toList := by
  obtain ⟨c, rest, heq, hc⟩ := h.exists_cons
  rw [heq]
  unfold withoutBlank
  split
  · next hblank =>
    obtain ⟨rfl, -⟩ := List.cons.inj hblank
    cases hc
  · rfl

end IsPlain

/-- The lines of a text that lines make up are these lines. -/
lemma textLines_ofLines {lines : List (List Char)} (hne : lines ≠ [])
    (h : ∀ line ∈ lines, '\n' ∉ line) : textLines (ofLines lines) = lines := by
  rw [textLines, ofLines, Text.splitOn_append_cons_self, Text.splitOn_joinWith hne h]
  exact List.dropLast_concat

/-- A text of lines is the lines, each ended by a newline. -/
lemma ofLines_eq_endLines {lines : List (List Char)} (hne : lines ≠ []) :
    ofLines lines = Text.endLines lines := by
  obtain ⟨first, rest, rfl⟩ := List.exists_cons_of_ne_nil hne
  unfold ofLines Text.endLines
  induction rest generalizing first with
  | nil => simp [Text.joinWith]
  | cons second rest ih =>
    have hmore := ih second (List.cons_ne_nil _ _)
    rw [Text.joinWith, List.append_assoc, hmore]
    · simp
    · exact List.cons_ne_nil _ _

/-! ## Characters of lists -/

/-- The signs that lists are written with. -/
def listSigns : List Char := ['(', ')', ',', ' ']

section
variable {items : List String} {c : Char}

lemma mem_of_mem_intercalate (h : c ∈ (", ".intercalate items).toList) :
    c ∈ ", ".toList ∨ ∃ item ∈ items, c ∈ item.toList := by
  induction items with
  | nil => nomatch h
  | cons item rest ih =>
    cases rest with
    | nil =>
      rw [String.intercalate_singleton] at h
      exact .inr ⟨item, List.mem_cons_self, h⟩
    | cons next more =>
      rw [String.intercalate_cons_cons, String.toList_append, String.toList_append,
        List.mem_append, List.mem_append] at h
      rcases h with (h | h) | h
      · exact .inr ⟨item, List.mem_cons_self, h⟩
      · exact .inl h
      · refine (ih h).imp_right ?_
        rintro ⟨other, hother, hmem⟩
        exact ⟨other, List.mem_cons_of_mem _ hother, hmem⟩

/-- A name with its list holds the characters of both, and signs. -/
lemma mem_of_mem_signature {name : String} (h : c ∈ (signature name items).toList) :
    c ∈ listSigns ∨ c ∈ name.toList ∨ ∃ item ∈ items, c ∈ item.toList := by
  have hsigns : "(".toList ⊆ listSigns ∧ ", ".toList ⊆ listSigns ∧ ")".toList ⊆ listSigns := by
    decide
  simp only [signature, String.toList_append, List.mem_append] at h
  rcases h with ((h | h) | h) | h
  · exact .inr (.inl h)
  · exact .inl (hsigns.1 h)
  · exact (mem_of_mem_intercalate h).imp (fun hmem => hsigns.2.1 hmem) .inr
  · exact .inl (hsigns.2.2 h)

/-- A tuple holds the characters of its items, and signs. -/
lemma mem_of_mem_tupleText (h : c ∈ (tupleText items).toList) :
    c ∈ listSigns ∨ ∃ item ∈ items, c ∈ item.toList := by
  have hsigns : "(".toList ⊆ listSigns ∧ ",)".toList ⊆ listSigns ∧ ", ".toList ⊆ listSigns ∧
      ")".toList ⊆ listSigns := by decide
  unfold tupleText at h
  split at h
  · simp only [String.toList_append, List.mem_append] at h
    rcases h with (h | h) | h
    · exact .inl (hsigns.1 h)
    · exact .inr ⟨_, List.mem_cons_self, h⟩
    · exact .inl (hsigns.2.1 h)
  · simp only [String.toList_append, List.mem_append] at h
    rcases h with (h | h) | h
    · exact .inl (hsigns.1 h)
    · exact (mem_of_mem_intercalate h).imp_left fun hmem => hsigns.2.2.1 hmem
    · exact .inl (hsigns.2.2.2 h)

end

/-! ## Lists of plain names -/

section
variable {items : List String}

lemma bracketed?_append {before inside : List Char} (hbefore : '(' ∉ before) (hinside : ')' ∉ inside)
    (behind : List Char) :
    bracketed? (before ++ '(' :: (inside ++ ')' :: behind)) = some ⟨before, inside, behind⟩ := by
  have hopen : ∀ c ∈ before, (c != '(') = true :=
    fun c hc => bne_iff_ne.mpr (ne_of_mem_of_not_mem hc hbefore)
  have hclose : ∀ c ∈ inside, (c != ')') = true :=
    fun c hc => bne_iff_ne.mpr (ne_of_mem_of_not_mem hc hinside)
  simp only [bracketed?, List.dropWhile_append_of_pos hopen, List.takeWhile_append_of_pos hopen,
    List.dropWhile_cons_of_neg, List.takeWhile_cons_of_neg, bne_self_eq_false, Bool.false_eq_true,
    not_false_eq_true, List.dropWhile_append_of_pos hclose, List.takeWhile_append_of_pos hclose,
    List.append_nil]

lemma not_mem_intercalate {c : Char} (hc : isSign c = true) (hcomma : c ≠ ',') (hblank : c ≠ ' ')
    (hitems : ∀ item ∈ items, IsPlain item) : c ∉ (", ".intercalate items).toList := by
  intro hmem
  rcases mem_of_mem_intercalate hmem with hmem | ⟨item, hitem, hmem⟩
  · have hsigns : c = ',' ∨ c = ' ' := by simpa using hmem
    exact hsigns.elim hcomma hblank
  · exact (hitems item hitem).not_mem hc hmem

/-- At its commas a list falls apart into its first item and the others with a blank each. -/
lemma splitOn_intercalate {lead : List Char} (hlead : ',' ∉ lead) {item : String} {rest : List String}
    (hitems : ∀ other ∈ item :: rest, IsPlain other) :
    Text.splitOn ',' (lead ++ (", ".intercalate (item :: rest)).toList) =
      (lead ++ item.toList) :: rest.map fun other => ' ' :: other.toList := by
  induction rest generalizing lead item with
  | nil =>
    have hitem := (hitems item List.mem_cons_self).not_mem (show isSign ',' = true from rfl)
    rw [String.intercalate_singleton]
    exact Text.splitOn_of_not_mem (List.not_mem_append hlead hitem)
  | cons next more ih =>
    have hitem := (hitems item List.mem_cons_self).not_mem (show isSign ',' = true from rfl)
    have hnext := ih (show ',' ∉ [' '] from by simp)
      fun other hmem => hitems other (List.mem_cons_of_mem _ hmem)
    rw [String.intercalate_cons_cons, String.toList_append, String.toList_append,
      show (", " : String).toList = [',', ' '] from rfl, List.append_assoc, ← List.append_assoc,
      List.cons_append, Text.splitOn_append_cons (List.not_mem_append hlead hitem), hnext]
    rfl

lemma commaParts_intercalate (hne : items ≠ []) (hitems : ∀ item ∈ items, IsPlain item) :
    commaParts (", ".intercalate items).toList = items.map String.toList := by
  obtain ⟨item, rest, rfl⟩ := List.exists_cons_of_ne_nil hne
  have hsplit := splitOn_intercalate (show ',' ∉ [] from List.not_mem_nil) hitems
  rw [List.nil_append, List.nil_append] at hsplit
  rw [commaParts, hsplit, List.map_cons, (hitems item List.mem_cons_self).withoutBlank_toList,
    List.map_map, List.map_cons]
  rfl

lemma intercalate_ne_nil (hne : items ≠ []) (hitems : ∀ item ∈ items, IsPlain item) :
    (", ".intercalate items).toList ≠ [] := by
  intro hnil
  have := commaParts_intercalate hne hitems
  obtain ⟨item, rest, rfl⟩ := List.exists_cons_of_ne_nil hne
  rw [hnil, List.map_cons] at this
  obtain ⟨hempty, -⟩ := List.cons.inj this
  exact (hitems item List.mem_cons_self).toList_ne_nil hempty.symm

lemma map_ofList_map_toList (items : List String) :
    (items.map String.toList).map String.ofList = items := by
  simp [List.map_map, Function.comp_def]

lemma listItems_intercalate (hitems : ∀ item ∈ items, IsPlain item) :
    listItems (", ".intercalate items).toList = items := by
  unfold listItems
  by_cases hne : items = []
  · rw [hne]; rfl
  · rw [if_neg (intercalate_ne_nil hne hitems), commaParts_intercalate hne hitems,
      map_ofList_map_toList]

/-- What stands in the brackets of a tuple. -/
def tupleInside (items : List String) : String :=
  match items with
  | [item] => item ++ ","
  | _ => ", ".intercalate items

lemma toList_tupleText (items : List String) :
    (tupleText items).toList = '(' :: ((tupleInside items).toList ++ [')']) := by
  unfold tupleText tupleInside
  split <;> simp

lemma not_mem_tupleInside {c : Char} (hc : isSign c = true) (hcomma : c ≠ ',') (hblank : c ≠ ' ')
    (hitems : ∀ item ∈ items, IsPlain item) : c ∉ (tupleInside items).toList := by
  unfold tupleInside
  split
  · next item =>
    have := (hitems item List.mem_cons_self).not_mem hc
    simp [this, hcomma]
  · exact not_mem_intercalate hc hcomma hblank hitems

lemma tupleItems?_tupleInside (hitems : ∀ item ∈ items, IsPlain item) :
    tupleItems? (tupleInside items).toList = some items := by
  match items with
  | [] => rfl
  | [item] =>
    have hitem := hitems item List.mem_cons_self
    have hparts : commaParts (tupleInside [item]).toList = [item.toList, []] := by
      have hsplit := Text.splitOn_append_cons (hitem.not_mem (show isSign ',' = true from rfl)) []
      rw [commaParts, tupleInside, String.toList_append]
      erw [hsplit]
      rw [List.map_cons, hitem.withoutBlank_toList]
      rfl
    have hne : (tupleInside [item]).toList ≠ [] := by
      simp [tupleInside]
    have hcomma : (tupleInside [item]).toList.contains ',' = true := by
      simp [tupleInside]
    rw [tupleItems?, if_neg hne, if_pos hcomma, hparts]
    simp
  | first :: second :: rest =>
    have hne := intercalate_ne_nil (List.cons_ne_nil _ _) hitems
    have hparts := commaParts_intercalate (List.cons_ne_nil _ _) hitems
    have hcomma : (", ".intercalate (first :: second :: rest)).toList.contains ',' = true := by
      rw [String.intercalate_cons_cons]
      simp
    have hlast : ((first :: second :: rest).map String.toList).getLast? ≠ some [] := by
      intro hlast
      obtain ⟨item, hmem, hempty⟩ := List.mem_map.mp (List.mem_of_getLast? hlast)
      exact (hitems item hmem).toList_ne_nil hempty
    rw [tupleInside, tupleItems?, if_neg hne, if_pos hcomma, hparts]
    dsimp only
    rw [if_neg hlast, map_ofList_map_toList]
    exact fun item h => by cases h

/-! ## Lines with lists -/

lemma isPrefixOf?_append (start rest : List Char) : start.isPrefixOf? (start ++ rest) = some rest := by
  induction start with
  | nil => rfl
  | cons c start ih => simp [List.isPrefixOf?, ih]

/-- **A name with its list is read back from its line.** -/
theorem readListed?_signature {start : List Char} (hstart : '(' ∉ start) (ending : List Char)
    {name : String} (hname : IsPlain name) (hitems : ∀ item ∈ items, IsPlain item) :
    readListed? start ending (start ++ (signature name items).toList ++ ending) =
      some ⟨name, items⟩ := by
  have hbefore : '(' ∉ start ++ name.toList := List.not_mem_append hstart (hname.not_mem rfl)
  have hinside : ')' ∉ (", ".intercalate items).toList :=
    not_mem_intercalate rfl (by decide) (by decide) hitems
  have hline : start ++ (signature name items).toList ++ ending =
      (start ++ name.toList) ++ '(' :: ((", ".intercalate items).toList ++ ')' :: ending) := by
    simp [signature]
  rw [readListed?, hline, bracketed?_append hbefore hinside]
  simp only [Option.bind_eq_bind, Option.bind_some, isPrefixOf?_append, if_pos,
    listItems_intercalate hitems, String.ofList_toList]

/-- **A tuple is read back from its line.** -/
theorem readTuple?_tupleText {start : List Char} (hstart : '(' ∉ start) (behind : List Char)
    (hitems : ∀ item ∈ items, IsPlain item) :
    readTuple? start (start ++ (tupleText items).toList ++ behind) = some (items, behind) := by
  have hinside : ')' ∉ (tupleInside items).toList :=
    not_mem_tupleInside rfl (by decide) (by decide) hitems
  have hline : start ++ (tupleText items).toList ++ behind =
      start ++ '(' :: ((tupleInside items).toList ++ ')' :: behind) := by
    simp [toList_tupleText]
  rw [readTuple?, hline, bracketed?_append hstart hinside]
  simp only [Option.bind_eq_bind, Option.bind_some, if_pos, tupleItems?_tupleInside hitems,
    Option.map_some]

end

end AdjointSynthesis
