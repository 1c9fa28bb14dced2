import IntegerEnum.Proofs.Documents
import IntegerEnum.Proofs.PrintedText
import IntegerEnum.Proofs.Reports

/-! # Spellings of family names

A family may be asked for by any spelling of its name: blanks around it, letters in either case, and
hyphens for underscores. These spellings are read as the family, no other text of ASCII characters
is read as any, and so what is planned or derived depends on the families alone. -/
set_option autoImplicit false

namespace IntegerEnum

namespace Text

def isAscii (c : Char) : Bool := c.toNat < 128

theorem of_ascii {P : Char → Prop} (each : ∀ n < 128, P (Char.ofNat n)) {c : Char}
    (ascii : isAscii c = true) : P c := by
  have own := each c.toNat (of_decide_eq_true ascii)
  rwa [Char.ofNat_toNat] at own

/-! ## Trimming -/

section Trim
variable {blank : Char → Bool}

theorem trimStart_append {before rest : List Char} (blanks : ∀ c ∈ before, blank c = true)
    (stops : ∀ c ∈ rest.head?, blank c = false) : trimStart blank (before ++ rest) = rest := by
  rw [trimStart, List.dropWhile_append_of_pos blanks]
  cases rest with
  | nil => rfl
  | cons c rest => exact List.dropWhile_cons_of_neg (by simp [stops c rfl])

/-- Trimming removes the blanks around a text that neither begins nor ends with one. -/
theorem trim_append {before core after : List Char} (leading : ∀ c ∈ before, blank c = true)
    (trailing : ∀ c ∈ after, blank c = true) (nonempty : core ≠ [])
    (solid : ∀ c ∈ core, blank c = false) : trim blank (before ++ core ++ after) = core := by
  have opened : trimStart blank (before ++ (core ++ after)) = core ++ after := by
    apply trimStart_append leading
    intro c first
    rw [List.head?_append_of_ne_nil core nonempty] at first
    exact solid c (List.mem_of_head? first)
  have closed : trimStart blank (after.reverse ++ core.reverse) = core.reverse := by
    apply trimStart_append
    · exact fun c member => trailing c (List.mem_reverse.mp member)
    · intro c first
      exact solid c (List.mem_reverse.mp (List.mem_of_head? first))
  rw [trim, List.append_assoc, opened, List.reverse_append, closed, List.reverse_reverse]

/-- What trimming removes are blanks at both ends. -/
theorem exists_eq_append_trim (blank : Char → Bool) (text : List Char) :
    ∃ before after, text = before ++ trim blank text ++ after ∧
      (∀ c ∈ before, blank c = true) ∧ ∀ c ∈ after, blank c = true := by
  have parts : ∀ cs : List Char, cs = cs.takeWhile blank ++ trimStart blank cs :=
    fun cs => List.takeWhile_append_dropWhile.symm
  have blanks : ∀ cs : List Char, ∀ c ∈ cs.takeWhile blank, blank c = true :=
    fun cs c member => List.all_eq_true.mp List.all_takeWhile c member
  set rest := trimStart blank text with isRest
  refine ⟨text.takeWhile blank, (rest.reverse.takeWhile blank).reverse, ?_, blanks text, ?_⟩
  · have ending := congrArg List.reverse (parts rest.reverse)
    rw [List.reverse_reverse, List.reverse_append] at ending
    rw [trim, ← isRest, List.append_assoc, ← ending]
    exact parts text
  · exact fun c member => blanks _ c (List.mem_reverse.mp member)

end Trim

end Text

namespace Family

open Text

/-! ## Characters -/

/-- How a character of a name may be written. Names have small letters only, so another case of a
letter is the capital one; an underscore may be a hyphen too. -/
def WrittenAs (c written : Char) : Prop :=
  written = c ∨ written = c.toUpper ∨ c = '_' ∧ written = '-'

instance (c written : Char) : Decidable (WrittenAs c written) :=
  inferInstanceAs (Decidable (_ ∨ _ ∨ _))

/-- A small letter or the underscore. -/
def isNameMark (c : Char) : Bool := c.isLower || c = '_'

theorem within_name (family : Family) : Within isNameMark family.name := by
  cases family <;> decide

theorem isAscii_of_isNameMark {c : Char} (mark : isNameMark c = true) : isAscii c = true := by
  simp only [isNameMark, Bool.or_eq_true, decide_eq_true_eq, Char.isLower, Bool.and_eq_true] at mark
  rcases mark with ⟨_, small⟩ | rfl
  · have bound : c.toNat ≤ 122 := UInt32.le_iff_toNat_le.mp small
    exact decide_eq_true (by omega)
  · decide

/-- Folding takes back every way of writing a character of a name, and none of them is blank. -/
theorem fold_of_writtenAs {c written : Char} (mark : isNameMark c = true)
    (isWritten : WrittenAs c written) :
    isBlank written = false ∧ foldMark (foldCase written) = c := by
  have own := of_ascii (P := fun c => isNameMark c = true →
      (isBlank c = false ∧ foldMark (foldCase c) = c) ∧
        isBlank c.toUpper = false ∧ foldMark (foldCase c.toUpper) = c)
    (by decide) (isAscii_of_isNameMark mark)
  rcases isWritten with rfl | rfl | ⟨rfl, rfl⟩
  · exact (own mark).1
  · exact (own mark).2
  · decide

theorem writtenAs_fold {c : Char} (ascii : isAscii c = true) :
    WrittenAs (foldMark (foldCase c)) c :=
  of_ascii (P := fun c => WrittenAs (foldMark (foldCase c)) c) (by decide) ascii

theorem fold_of_forall₂ {name core : List Char} (written : List.Forall₂ WrittenAs name core) :
    (∀ c ∈ name, isNameMark c = true) →
      (∀ c ∈ core, isBlank c = false) ∧ core.map (fun c => foldMark (foldCase c)) = name := by
  induction written with
  | nil => intro _; exact ⟨nofun, rfl⟩
  | cons first _ ih =>
      intro marks
      obtain ⟨own, others⟩ := List.forall_mem_cons.mp marks
      obtain ⟨solid, folded⟩ := fold_of_writtenAs own first
      obtain ⟨restSolid, restFolded⟩ := ih others
      refine ⟨List.forall_mem_cons.mpr ⟨solid, restSolid⟩, ?_⟩
      rw [List.map_cons, folded, restFolded]

/-! ## Spellings -/

/-- The text spells the name of the family, with blanks around it. -/
def Spells (text : String) (family : Family) : Prop :=
  ∃ before core after, text.toList = before ++ core ++ after ∧
    (∀ c ∈ before, isBlank c = true) ∧ (∀ c ∈ after, isBlank c = true) ∧
      List.Forall₂ WrittenAs family.name.toList core

section Reading
variable {text : String} {family : Family}

theorem read_eq_ok_iff : read text = .ok family ↔ normalSpelling text = family.name := by
  rw [read]
  constructor
  · intro success
    cases known : ofName? (normalSpelling text) with
    | none =>
        rw [known] at success
        cases success
    | some found =>
        rw [known] at success
        cases success
        rw [ofName?] at known
        have named := List.find?_some known
        exact (of_decide_eq_true named).symm
  · intro spelled
    rw [spelled, ofName?_name]

theorem read_eq_error_of_unknown (unknown : ∀ family, read text ≠ .ok family) :
    read text = .error ⟨text⟩ := by
  rw [read]
  cases known : ofName? (normalSpelling text) with
  | none => rfl
  | some found => exact absurd (by rw [read, known]) (unknown found)

theorem read_of_spells (spells : Spells text family) : read text = .ok family := by
  obtain ⟨before, core, after, split, leading, trailing, written⟩ := spells
  obtain ⟨solid, folded⟩ := fold_of_forall₂ written family.within_name
  have nonempty : core ≠ [] := by
    rintro rfl
    cases family <;> cases folded
  rw [read_eq_ok_iff, normalSpelling, split, trim_append leading trailing nonempty solid, folded,
    String.ofList_toList]

theorem spells_of_read (ascii : Within isAscii text) (success : read text = .ok family) :
    Spells text family := by
  obtain ⟨before, after, split, leading, trailing⟩ := exists_eq_append_trim isBlank text.toList
  refine ⟨before, trim isBlank text.toList, after, split, leading, trailing, ?_⟩
  rw [← read_eq_ok_iff.mp success, normalSpelling, String.toList_ofList,
    List.forall₂_map_left_iff, List.forall₂_same]
  intro c member
  apply writtenAs_fold
  apply ascii
  rw [split]
  exact List.mem_append_left _ (List.mem_append_right _ member)

theorem Spells.unique {other : Family} (spells : Spells text family)
    (otherwise : Spells text other) : family = other := by
  have known := read_of_spells spells
  rw [read_of_spells otherwise] at known
  cases known
  rfl

end Reading

theorem requested_of_spells {names : List String} {families : List Family}
    (spelled : List.Forall₂ Spells names families) : Requested (some names) families :=
  spelled.imp fun _ _ spells => read_of_spells spells

/-- A text is read as the family that it spells. The converse is for texts of ASCII characters. -/
structure ReadsAsSpelled (text : String) : Prop where
  read : ∀ family, Spells text family → read text = .ok family
  unique : ∀ family other, Spells text family → Spells text other → family = other
  spelled : Within isAscii text → ∀ family, Family.read text = .ok family → Spells text family
  refused : Within isAscii text → (∀ family, ¬ Spells text family) →
    Family.read text = .error ⟨text⟩

/-- Planning and deriving make the same of both lists of names. -/
structure PlansAlike (names others : List String) : Prop where
  reports : ∀ d, planConversions d (some names) = planConversions d (some others)
  raised : ∀ d, planOrRaise d (some names) = planOrRaise d (some others)
  batches : ∀ m, (requested (some names)).map (deriveAll m) =
    (requested (some others)).map (deriveAll m)

/-- Every spelling of a family is read as it, so none spells two, and among texts of ASCII
characters nothing else is read; what is planned and derived for names does not depend on their
spelling. -/
theorem spellings_are_read :
    (∀ text, ReadsAsSpelled text) ∧
      (∀ names others families, List.Forall₂ Spells names families →
        List.Forall₂ Spells others families → PlansAlike names others) ∧
      ∀ name other family, Spells name family → Spells other family →
        ∀ m, (read name).map (derive m) = (read other).map (derive m) := by
  refine ⟨?_, ?_, ?_⟩
  · intro text
    refine ⟨fun _ => read_of_spells, fun _ _ => Spells.unique,
      fun ascii _ => spells_of_read ascii, fun ascii unspelled => ?_⟩
    apply read_eq_error_of_unknown
    intro family success
    exact unspelled family (spells_of_read ascii success)
  · intro names others families spelled otherwise
    have first := requested_of_spells spelled
    have second := requested_of_spells otherwise
    have reports : ∀ d, planConversions d (some names) = planConversions d (some others) := by
      intro d
      rw [planConversions_of_requested first, planConversions_of_requested second]
    refine ⟨reports, fun d => ?_, fun m => ?_⟩
    · rw [planOrRaise, planOrRaise, reports]
    · rw [requested_eq_ok_iff.mpr first, requested_eq_ok_iff.mpr second]
  · intro name other family spells otherwise m
    rw [read_of_spells spells, read_of_spells otherwise]

/-- A spelling with blanks of two kinds, both cases and both marks. -/
def mixedSpelling : String := "\t To-INTEGER\u3000"

theorem spells_mixedSpelling : Spells mixedSpelling .toInteger :=
  ⟨['\t', ' '], "To-INTEGER".toList, ['\u3000'], by decide, by simp [isBlank, isSpace],
    by simp [isBlank, isSpace], by simp [WrittenAs, name]⟩

/-- The mixed spelling plans what the bare name does, and a hyphen too many is refused. -/
theorem spellings_are_read_mixed :
    Spells mixedSpelling .toInteger ∧ read mixedSpelling = .ok .toInteger ∧
      Within isAscii "to--integer" ∧ read "to--integer" = .error ⟨"to--integer"⟩ ∧
        planConversions EnumDecl.reply (some [mixedSpelling]) =
          planConversions EnumDecl.reply (some ["to_integer"]) := by
  obtain ⟨reads, plans, _⟩ := spellings_are_read
  have bare : Spells "to_integer" .toInteger :=
    ⟨[], "to_integer".toList, [], by decide, nofun, nofun, by simp [WrittenAs, name]⟩
  have unspelled : ∀ family, ¬ Spells "to--integer" family := by
    intro family spells
    have spelled := read_eq_ok_iff.mp ((reads _).read _ spells)
    cases family <;> revert spelled <;> decide
  have same := plans _ _ _ (.cons spells_mixedSpelling .nil) (.cons bare .nil)
  exact ⟨spells_mixedSpelling, (reads _).read _ spells_mixedSpelling, by decide,
    (reads _).refused (by decide) unspelled, same.reports EnumDecl.reply⟩

end Family

end IntegerEnum
