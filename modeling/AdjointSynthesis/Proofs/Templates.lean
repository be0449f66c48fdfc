import AdjointSynthesis.Proofs.Emission
import Mathlib.Data.List.TakeWhile

/-!
# Templates that refer to their keys

The check of a template looks for a field by its spelling.  Filling the template in reads it piece
by piece, and there a doubled brace stands for itself, so the spelling may be found where no field
is, and braces that stand alone are only noticed then.  This file shows where the check is enough.

* `Template.Part`: the characters and fields that a template is made of.
* `Template.fill_written`: a template that is made of parts is filled in part by part.
* `Template.occursIn_written_iff`: unless a brace is doubled, the check finds the fields.
* `adjointRule_of_simpleTemplates`: with templates in which braces only enclose the keys, the check
  guarantees that rules are written and refer to the gradients.
-/

namespace AdjointSynthesis

namespace Template

/-! ## Parts -/

/-- Whether a character is a brace. -/
def isBrace (c : Char) : Bool := c == '\x7b' || c == '\x7d'

/-- A part of a template. -/
inductive Part where
  /-- A character; a brace is written twice. -/
  | text (c : Char)
  /-- A field without conversion and layout. -/
  | field (key : List Char)
deriving DecidableEq

/-- A part as it is written. -/
def Part.written : Part → List Char
  | text c => if isBrace c then [c, c] else [c]
  | field key => '\x7b' :: (key ++ ['\x7d'])

/-- A part with the value of its key. -/
def Part.filled (values : Values) : Part → List Char
  | text c => [c]
  | field key => (values.lookup key).getD []

/-- Whether a character means something in a field. -/
def isMark (c : Char) : Bool := ['\x7b', '\x7d', ':', '!', '[', '.'].contains c

/-- Whether the name of a field is read as a key. -/
structure IsKey (key : List Char) : Prop where
  ne_nil : key ≠ []
  unmarked : key.all (fun c => !isMark c) = true
  start : key.head?.all (fun c => (Text.digitValue? c).isNone) = true

lemma isKey_grad : IsKey "grad".toList := ⟨by simp, rfl, rfl⟩

lemma isKey_primal : IsKey "primal".toList := ⟨by simp, rfl, rfl⟩

lemma not_mem_of_unmarked {key : List Char} (h : key.all (fun c => !isMark c) = true) {c : Char}
    (hc : isMark c = true) : c ∉ key := by
  intro hmem
  have hnot := List.all_eq_true.mp h c hmem
  simp [hc] at hnot

/-! ## Reading a part -/

section
variable {values : Values} {key value rest : List Char}

lemma takeName_append (h : key.all (fun c => !isMark c) = true) :
    takeName false (key ++ '\x7d' :: rest) = .ok (key, .brace, rest) := by
  induction key with
  | nil => rfl
  | cons c key ih =>
    have hne {mark : Char} (hmark : isMark mark = true) : c ≠ mark := by
      rintro rfl
      exact not_mem_of_unmarked h hmark List.mem_cons_self
    rw [List.all_cons, Bool.and_eq_true] at h
    rw [List.cons_append, takeName, if_neg Bool.false_ne_true, if_neg (hne rfl), if_neg (hne rfl),
      if_neg (hne rfl), if_neg (hne rfl), decide_eq_false (hne rfl), ih h.2]
    rfl

lemma takeField_append (hkey : IsKey key) :
    takeField (key ++ '\x7d' :: rest) = .ok (⟨key, none, [], false⟩, rest) := by
  rw [takeField, takeName_append hkey.unmarked]
  rfl

/-- No step begins inside of a key. -/
lemma IsKey.not_beginsStep (hkey : IsKey key) {c : Char} (hc : c ∈ key) :
    (!beginsStep c) = true := by
  have hdot : c ≠ '.' := by
    rintro rfl
    exact not_mem_of_unmarked hkey.unmarked rfl hc
  have hbracket : c ≠ '[' := by
    rintro rfl
    exact not_mem_of_unmarked hkey.unmarked rfl hc
  simp [beginsStep, hdot, hbracket]

lemma keyOf_of_isKey (hkey : IsKey key) : keyOf key = .ok (.name key) := by
  have hword : key.takeWhile (fun c => !beginsStep c) = key := by
    exact List.takeWhile_eq_self_iff.mpr fun c hc => hkey.not_beginsStep hc
  have hnumber : numberOf? key = .ok none := by
    cases key with
    | nil => exact absurd rfl hkey.ne_nil
    | cons c key =>
      have hdigit : Text.digitValue? c = none := Option.isNone_iff_eq_none.mp hkey.start
      rw [numberOf?, Text.leadingNumber, hdigit]
      rfl
  have hne : key.isEmpty = false := List.isEmpty_eq_false_iff.mpr hkey.ne_nil
  rw [keyOf, hword, hne, hnumber]
  rfl

lemma valueOf_of_isKey [Runtime] (hkey : IsKey key) (hvalue : values.lookup key = some value) :
    valueOf values key = .ok (.text value) := by
  have hsteps : key.dropWhile (fun c => !beginsStep c) = [] := by
    exact List.dropWhile_eq_nil_iff.mpr fun c hc => hkey.not_beginsStep hc
  rw [valueOf, keyOf_of_isKey hkey, hsteps]
  change (lookUp values (.name key) >>= _) = _
  rw [lookUp, hvalue]
  rfl

lemma nextPiece_field (hkey : IsKey key) :
    nextPiece ('\x7b' :: (key ++ '\x7d' :: rest)) =
      .ok ⟨[], some ⟨key, none, [], false⟩, rest⟩ := by
  cases key with
  | nil => exact absurd rfl hkey.ne_nil
  | cons c key =>
    have hopen : c ≠ '\x7b' := by
      rintro rfl
      exact not_mem_of_unmarked hkey.unmarked rfl List.mem_cons_self
    rw [List.cons_append, nextPiece, if_pos (.inl rfl)]
    dsimp only
    rw [if_neg hopen, if_neg (by decide), ← List.cons_append, takeField_append hkey]
    rfl

end

/-! ## Filling in part by part -/

section
variable [Runtime] {values : Values} {fillLayout : List Char → Except Fault (List Char)} {fuel : Nat}
  {rest : List Char}

/-- One step of filling in: the next piece, its field, and what is behind it. -/
lemma fillPieces_of_nextPiece {template : List Char} {piece : Piece} (hne : template ≠ [])
    (hpiece : nextPiece template = .ok piece) :
    fillPieces values fillLayout (fuel + 1) template = (do
      let text ←
        match piece.field with
        | some field => fillField values fillLayout field
        | none => pure []
      let more ← fillPieces values fillLayout fuel piece.rest
      return piece.text ++ text ++ more) := by
  rw [fillPieces, if_neg (by simpa using hne), hpiece]
  rfl

lemma fillPieces_nil : fillPieces values fillLayout fuel [] = .ok [] := by
  cases fuel <;> rfl

lemma fillPieces_plain {c : Char} (hc : isBrace c = false) :
    fillPieces values fillLayout (fuel + 1) (c :: rest) =
      (fillPieces values fillLayout (fuel + 1) rest).map (c :: ·) := by
  have hnot : ¬(c = '\x7b' ∨ c = '\x7d') := by simpa [isBrace] using hc
  have hnext : nextPiece (c :: rest) =
      (nextPiece rest).map fun piece => { piece with text := c :: piece.text } := by
    rw [nextPiece.eq_def]
    exact if_neg hnot
  by_cases hrest : rest = []
  · subst hrest
    rw [fillPieces_of_nextPiece (List.cons_ne_nil _ _) hnext, fillPieces_nil, fillPieces_nil]
    rfl
  · cases hpiece : nextPiece rest with
    | error fault =>
      rw [fillPieces, fillPieces, hnext, hpiece, if_neg (by simp), if_neg (by simpa using hrest)]
      rfl
    | ok piece =>
      rw [hpiece] at hnext
      rw [fillPieces_of_nextPiece (List.cons_ne_nil _ _) hnext,
        fillPieces_of_nextPiece hrest hpiece]
      -- the two sides differ in the first character of the text alone
      obtain ⟨text, field, behind⟩ := piece
      cases field with
      | none => cases fillPieces values fillLayout fuel behind <;> rfl
      | some field =>
        dsimp only
        cases fillField values fillLayout field <;>
          cases fillPieces values fillLayout fuel behind <;> rfl

lemma fillPieces_doubled {c : Char} (hc : isBrace c = true) :
    fillPieces values fillLayout (fuel + 1) (c :: c :: rest) =
      (fillPieces values fillLayout fuel rest).map (c :: ·) := by
  have hbrace : c = '\x7b' ∨ c = '\x7d' := by simpa [isBrace] using hc
  have hpiece : nextPiece (c :: c :: rest) = .ok ⟨[c], none, rest⟩ := by
    rw [nextPiece, if_pos hbrace]
    exact if_pos rfl
  rw [fillPieces_of_nextPiece (List.cons_ne_nil _ _) hpiece]
  cases fillPieces values fillLayout fuel rest <;> rfl

lemma fillPieces_field {key value : List Char} (hkey : IsKey key)
    (hvalue : values.lookup key = some value) :
    fillPieces values fillLayout (fuel + 1) ('\x7b' :: (key ++ '\x7d' :: rest)) =
      (fillPieces values fillLayout fuel rest).map (value ++ ·) := by
  have hfield : fillField values fillLayout ⟨key, none, [], false⟩ = .ok value := by
    rw [fillField, valueOf_of_isKey hkey hvalue]
    rfl
  rw [fillPieces_of_nextPiece (List.cons_ne_nil _ _) (nextPiece_field hkey)]
  dsimp only
  rw [hfield]
  cases fillPieces values fillLayout fuel rest <;> rfl

/-- A template is filled in part by part, given fuel for each of its characters. -/
lemma fillPieces_written {parts : List Part}
    (hkeys : ∀ key, .field key ∈ parts → IsKey key ∧ (values.lookup key).isSome)
    (hfuel : (parts.flatMap Part.written).length < fuel) :
    fillPieces values fillLayout fuel (parts.flatMap Part.written) =
      .ok (parts.flatMap (Part.filled values)) := by
  induction parts generalizing fuel with
  | nil => exact fillPieces_nil
  | cons part parts ih =>
    obtain ⟨fuel, rfl⟩ : ∃ less, fuel = less + 1 := ⟨fuel - 1, by omega⟩
    have hrest : ∀ key, .field key ∈ parts → IsKey key ∧ (values.lookup key).isSome :=
      fun key hmem => hkeys key (List.mem_cons_of_mem _ hmem)
    rw [List.flatMap_cons, List.length_append] at hfuel
    rw [List.flatMap_cons, List.flatMap_cons]
    cases part with
    | text c =>
      by_cases hbrace : isBrace c = true
      · have hwritten : (Part.text c).written = [c, c] := if_pos hbrace
        rw [hwritten, List.length_cons] at hfuel
        rw [hwritten, List.cons_append, List.singleton_append, fillPieces_doubled hbrace,
          ih hrest (by omega)]
        rfl
      · have hwritten : (Part.text c).written = [c] := if_neg hbrace
        rw [hwritten, List.length_singleton] at hfuel
        rw [hwritten, List.singleton_append, fillPieces_plain (by simpa using hbrace),
          ih hrest (by omega)]
        rfl
    | field key =>
      obtain ⟨hkey, hsome⟩ := hkeys key List.mem_cons_self
      obtain ⟨value, hvalue⟩ := Option.isSome_iff_exists.mp hsome
      rw [Part.written, List.length_cons] at hfuel
      rw [Part.written, List.cons_append, List.append_assoc, List.singleton_append,
        fillPieces_field hkey hvalue, ih hrest (by omega), Part.filled, hvalue]
      rfl

end

/-- **A template is filled in part by part.** -/
lemma fill_written [Runtime] {values : Values} {parts : List Part}
    (hkeys : ∀ key, .field key ∈ parts → IsKey key ∧ (values.lookup key).isSome) :
    fill values (parts.flatMap Part.written) = .ok (parts.flatMap (Part.filled values)) :=
  fillPieces_written hkeys (Nat.lt_succ_self _)

/-! ## Finding fields by their spelling -/

lemma occursIn_iff {word text : List Char} : occursIn word text = true ↔ word <:+: text := by
  induction text with
  | nil => rw [occursIn, List.isEmpty_iff, List.infix_nil]
  | cons c rest ih =>
    rw [occursIn, Bool.or_eq_true, ih, List.isPrefixOf_iff_prefix, List.infix_cons_iff]

/-- What begins with a character is not found where the character is missing. -/
lemma infix_of_not_mem {c : Char} {word start rest : List Char} (hstart : c ∉ start)
    (h : c :: word <:+: start ++ rest) : c :: word <:+: rest := by
  induction start with
  | nil => exact h
  | cons d start ih =>
    rw [List.mem_cons, not_or] at hstart
    rw [List.cons_append, List.infix_cons_iff] at h
    rcases h with hprefix | hinfix
    · exact absurd (List.cons_prefix_cons.mp hprefix).1 hstart.1
    · exact ih hstart.2 hinfix

lemma IsKey.not_mem {key : List Char} (hkey : IsKey key) :
    '\x7b' ∉ key ∧ '\x7d' ∉ key :=
  ⟨not_mem_of_unmarked hkey.unmarked rfl, not_mem_of_unmarked hkey.unmarked rfl⟩

/-- A key ends where its field does. -/
lemma IsKey.takeWhile_append {key : List Char} (hkey : IsKey key) (rest : List Char) :
    (key ++ '\x7d' :: rest).takeWhile (· ≠ '\x7d') = key := by
  have hne : ∀ c ∈ key, decide (c ≠ '\x7d') = true :=
    fun c hc => decide_eq_true fun h => hkey.not_mem.2 (h ▸ hc)
  rw [List.takeWhile_append_of_pos hne, List.takeWhile_cons_of_neg (by simp), List.append_nil]

/-- **Without doubled braces, fields are found by their spelling.** -/
lemma occursIn_written_iff {parts : List Part} {key : List Char} (hkey : IsKey key)
    (htext : ∀ c, .text c ∈ parts → isBrace c = false)
    (hfields : ∀ other, .field other ∈ parts → IsKey other) :
    occursIn (Part.field key).written (parts.flatMap Part.written) = true ↔
      .field key ∈ parts := by
  rw [occursIn_iff]
  constructor
  · intro h
    induction parts with
    | nil => exact absurd (List.infix_nil.mp h) (List.cons_ne_nil _ _)
    | cons part parts ih =>
      have hrest := ih (fun c hc => htext c (List.mem_cons_of_mem _ hc))
        (fun other hother => hfields other (List.mem_cons_of_mem _ hother))
      rw [List.flatMap_cons] at h
      cases part with
      | text c =>
        -- the field does not begin here
        have hbrace := htext c List.mem_cons_self
        have hwritten : (Part.text c).written = [c] := if_neg (by simp [hbrace])
        have hne : '\x7b' ≠ c := by
          rintro rfl
          nomatch hbrace
        rw [hwritten] at h
        exact List.mem_cons_of_mem _ (hrest (infix_of_not_mem (by simpa using hne) h))
      | field other =>
        have hother := hfields other List.mem_cons_self
        rw [Part.written, Part.written, List.cons_append, List.infix_cons_iff] at h
        rcases h with hprefix | hinfix
        · -- the field begins where this one does, so both end with the first closing brace
          obtain ⟨behind, hbehind⟩ := (List.cons_prefix_cons.mp hprefix).2
          rw [List.append_assoc, List.append_assoc, List.singleton_append,
            List.singleton_append] at hbehind
          obtain rfl : key = other := by
            rw [← hkey.takeWhile_append behind, hbehind, hother.takeWhile_append]
          exact List.mem_cons_self
        · have hnone : '\x7b' ∉ other ++ ['\x7d'] := by simpa using hother.not_mem.1
          exact List.mem_cons_of_mem _ (hrest (infix_of_not_mem hnone hinfix))
  · intro hmem
    obtain ⟨before, behind, rfl⟩ := List.append_of_mem hmem
    rw [List.flatMap_append, List.flatMap_cons]
    exact ⟨_, _, List.append_assoc _ _ _⟩

/-- What stands for the key of a field is found in the filled template. -/
lemma infix_filled {values : Values} {parts : List Part} {key value : List Char}
    (hmem : .field key ∈ parts) (hvalue : values.lookup key = some value) :
    value <:+: parts.flatMap (Part.filled values) := by
  obtain ⟨before, behind, rfl⟩ := List.append_of_mem hmem
  have hfilled : (Part.field key).filled values = value := by rw [Part.filled, hvalue]; rfl
  rw [List.flatMap_append, List.flatMap_cons, hfilled]
  exact ⟨_, _, List.append_assoc _ _ _⟩

/-! ## Simple templates -/

/-- Whether a part is a character but a brace, or a field for one of some keys. -/
def Part.isSimple (keys : List String) : Part → Bool
  | text c => !isBrace c
  | field key => (keys.map String.toList).contains key

/-- Whether the braces of a template do nothing but enclose some keys. -/
def IsSimple (template : String) (keys : List String) : Prop :=
  ∃ parts : List Part, template.toList = parts.flatMap Part.written ∧
    ∀ part ∈ parts, part.isSimple keys = true

end Template

open Template

/-! ## Rules from simple templates -/

section
variable (values : List (String × String))

lemma lookup_map_toList (key : String) :
    (values.map fun entry => (entry.1.toList, entry.2.toList)).lookup key.toList =
      (values.lookup key).map String.toList := by
  induction values with
  | nil => rfl
  | cons entry rest ih =>
    have hkey : (key.toList == entry.1.toList) = (key == entry.1) := by
      rw [Bool.eq_iff_iff, beq_iff_eq, beq_iff_eq, String.toList_inj]
    rw [List.map_cons, List.lookup_cons, List.lookup_cons, hkey, ih]
    split <;> rfl

lemma isSome_lookup_of_mem {values : List (String × String)} {entry : String × String}
    (h : entry ∈ values) : (values.lookup entry.1).isSome := by
  induction values with
  | nil => nomatch h
  | cons first rest ih =>
    rw [List.lookup_cons]
    split
    · rfl
    · next hne =>
      rcases List.mem_cons.mp h with rfl | hrest
      · simp at hne
      · exact ih hrest

/-- A simple template is filled in, and what stands for a key that the check finds is found in the
text. -/
lemma fillTemplate_of_isSimple [Runtime] (hkeys : ∀ entry ∈ values, IsKey entry.1.toList)
    {template : String} (htemplate : IsSimple template (values.map Prod.fst)) :
    ∃ text, fillTemplate template values = .ok text ∧
      ∀ key value, IsKey key.toList → values.lookup key = some value →
        mentions template key = true → value.toList <:+: text.toList := by
  obtain ⟨parts, hparts, hsimple⟩ := htemplate
  have htext : ∀ c, .text c ∈ parts → isBrace c = false := by
    intro c hmem
    simpa [Part.isSimple] using hsimple _ hmem
  have hfield : ∀ key, .field key ∈ parts → IsKey key ∧
      ((values.map fun entry => (entry.1.toList, entry.2.toList)).lookup key).isSome := by
    intro key hmem
    obtain ⟨word, hword, rfl⟩ := List.mem_map.mp (List.contains_iff_mem.mp (hsimple _ hmem))
    obtain ⟨entry, hentry, rfl⟩ := List.mem_map.mp hword
    refine ⟨hkeys entry hentry, ?_⟩
    rw [lookup_map_toList, Option.isSome_map]
    exact isSome_lookup_of_mem hentry
  refine ⟨String.ofList (parts.flatMap
    (Part.filled (values.map fun entry => (entry.1.toList, entry.2.toList)))), ?_, ?_⟩
  · rw [fillTemplate, hparts, fill_written hfield]
  · intro key value hkey hvalue hmentions
    have hmem : .field key.toList ∈ parts := by
      rw [mentions, hparts, String.toList_append, String.toList_append] at hmentions
      exact (occursIn_written_iff hkey htext fun other hother => (hfield other hother).1).mp
        hmentions
    rw [String.toList_ofList]
    refine infix_filled hmem ?_
    rw [lookup_map_toList, hvalue]
    rfl

end

section
variable {block : Block} {constants : List String} {roles : Roles} {settings : Settings}

lemma mentions_of_check_densifyTemplate {template value : String}
    (h : Setting.densifyTemplate.check template = .ok value) : mentions template "grad" = true := by
  simp only [Setting.check] at h
  split at h
  · assumption
  · nomatch h

lemma mentions_of_check_noGradientTemplate {template value : String}
    (h : Setting.noGradientTemplate.check template = .ok value) :
    mentions template "grad" = true ∧ mentions template "primal" = true := by
  simp only [Setting.check] at h
  split at h
  · assumption
  · nomatch h

/-- The settings in whose templates braces do nothing but enclose the keys. -/
structure Settings.SimpleTemplates (settings : Settings) : Prop where
  densify : IsSimple settings.densifyTemplate ["grad"]
  noGradient : IsSimple settings.noGradientTemplate ["grad", "primal"]

/-- **Accepted simple templates can be used.**  Whatever roles a block gets, its adjoint rule is
written, and what it makes of the gradient of a mutated variable refers to the gradient, and to the
variable where the gradient may be missing. -/
theorem adjointRule_of_simpleTemplates [Runtime] (hsimple : settings.SimpleTemplates)
    {dense zeroed : String}
    (hdensify : Setting.densifyTemplate.check settings.densifyTemplate = .ok dense)
    (hnoGradient : Setting.noGradientTemplate.check settings.noGradientTemplate = .ok zeroed)
    (hroles : roles.Partitioned constants) :
    let naming := Naming.of block settings
    ∃ dense zeroed : String → String,
      adjointRule block roles settings = .ok (ofLines ((dialectLines naming settings roles
        (roles.mutated.map fun name => naming.gradient name ++ " = " ++ dense name)
        (roles.mutated.map fun name => naming.gradient name ++ " = " ++ zeroed name)).map
          fun line => lineAt settings line.1 line.2)) ∧
      ∀ name,
        (naming.gradient name).toList <:+: (dense name).toList ∧
        (naming.gradient name).toList <:+: (zeroed name).toList ∧
        name.toList <:+: (zeroed name).toList := by
  intro naming
  have hgrad := mentions_of_check_densifyTemplate hdensify
  obtain ⟨hgrad', hprimal⟩ := mentions_of_check_noGradientTemplate hnoGradient
  have hdense (name : String) := fillTemplate_of_isSimple [("grad", naming.gradient name)]
    (by simpa using isKey_grad) hsimple.densify
  have hzeroed (name : String) := fillTemplate_of_isSimple
    [("grad", naming.gradient name), ("primal", name)] (by simpa using ⟨isKey_grad, isKey_primal⟩)
    hsimple.noGradient
  choose dense hdense hdense' using hdense
  choose zeroed hzeroed hzeroed' using hzeroed
  refine ⟨dense, zeroed, ?_, fun name => ⟨?_, ?_, ?_⟩⟩
  · rw [adjointRule_eq_lines hroles]
    have hdenseLine : ∀ name ∈ roles.mutated, densifyLine naming settings name =
        pure (naming.gradient name ++ " = " ++ dense name) := by
      intro name _
      rw [densifyLine, hdense]
      rfl
    have hzeroedLine : ∀ name ∈ roles.mutated, noGradientLine naming settings name =
        pure (naming.gradient name ++ " = " ++ zeroed name) := by
      intro name _
      rw [noGradientLine, hzeroed]
      rfl
    dsimp only
    rw [mapM_eq_pure hdenseLine, mapM_eq_pure hzeroedLine]
    rfl
  · exact hdense' name "grad" _ isKey_grad rfl hgrad
  · exact hzeroed' name "grad" _ isKey_grad rfl hgrad'
  · exact hzeroed' name "primal" _ isKey_primal rfl hprimal

/-- The templates that nobody changed are simple. -/
lemma simpleTemplates_of_eq_default
    (hdensify : settings.densifyTemplate = Settings.default.densifyTemplate)
    (hnoGradient : settings.noGradientTemplate = Settings.default.noGradientTemplate) :
    settings.SimpleTemplates where
  densify := by
    rw [hdensify]
    refine ⟨"np.array(".toList.map .text ++ [.field "grad".toList] ++
      ") if isinstance(".toList.map .text ++ [.field "grad".toList] ++
      ", Fill) else ".toList.map .text ++ [.field "grad".toList], ?_, ?_⟩
    · decide +kernel
    · decide +kernel
  noGradient := by
    rw [hnoGradient]
    refine ⟨"np.zeros_like(".toList.map .text ++ [.field "primal".toList] ++
      ") if ".toList.map .text ++ [.field "grad".toList] ++
      " is None else ".toList.map .text ++ [.field "grad".toList], ?_, ?_⟩
    · decide +kernel
    · decide +kernel

attribute [local instance] Runtime.bare

/-- A template with doubled braces is accepted, and what it makes of a gradient does not refer to
the gradient. -/
theorem accepted_without_gradient :
    let template := "\x7b\x7bgrad\x7d\x7d"
    let settings := { Settings.default with densifyTemplate := template }
    let block : Block := ⟨"a[0] = 1\n".toList, "f", .ofNames ["a"] .array, false⟩
    Setting.densifyTemplate.check template = .ok template ∧
      densifyLine (Naming.of block settings) settings "a" = .ok "dz_a = \x7bgrad\x7d" := by
  decide +kernel

/-- A template with a brace that stands alone is accepted, and no rule can be written with it. -/
theorem accepted_without_rule :
    let template := "\x7bgrad\x7d\x7d"
    let settings := { Settings.default with densifyTemplate := template }
    let block : Block := ⟨"a[0] = 1\n".toList, "f", .ofNames ["a"] .array, false⟩
    Setting.densifyTemplate.check template = .ok template ∧
      adjointRule block ⟨["a"], ["a"], [], []⟩ settings = .error (.template (.lone '\x7d')) := by
  decide +kernel

end

end AdjointSynthesis
