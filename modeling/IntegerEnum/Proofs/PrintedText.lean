import IntegerEnum.Json.Printer

/-! # Printed documents are plain text

A document is printed in the printable characters of ASCII and line feeds, whatever its texts hold:
every other character is written as an escape of such characters. So a printed document is the same
in every encoding that extends ASCII, and has no line ending but the line feed. -/
set_option autoImplicit false

namespace IntegerEnum

namespace Text

/-! ## Alphabets -/

/-- All characters of the text are allowed ones. -/
def Within (allowed : Char → Bool) (s : String) : Prop := ∀ c ∈ s.toList, allowed c = true

instance (allowed : Char → Bool) (s : String) : Decidable (Within allowed s) :=
  decidable_of_iff (s.toList.all allowed = true) List.all_eq_true

section Within
variable {allowed : Char → Bool}

theorem within_ofList {cs : List Char} (each : ∀ c ∈ cs, allowed c = true) :
    Within allowed (String.ofList cs) := by
  simpa [Within] using each

theorem Within.append {a b : String} (withinA : Within allowed a) (withinB : Within allowed b) :
    Within allowed (a ++ b) := by
  intro c member
  rw [String.toList_append] at member
  exact (List.mem_append.mp member).elim (withinA c) (withinB c)

theorem Within.intercalate {separator : String} (within : Within allowed separator) :
    ∀ {texts : List String}, (∀ s ∈ texts, Within allowed s) →
      Within allowed (String.intercalate separator texts)
  | [], _ => by simp [Within]
  | [s], each => by simpa [Within, String.toList_intercalate] using each s
  | s :: s' :: rest, each => by
    have first : Within allowed s := each s List.mem_cons_self
    have others : Within allowed (String.intercalate separator (s' :: rest)) :=
      within.intercalate fun x member => each x (List.mem_cons_of_mem s member)
    intro c member
    have split : c ∈ s.toList ∨ c ∈ separator.toList ∨
        c ∈ (String.intercalate separator (s' :: rest)).toList := by
      simpa [String.toList_intercalate, List.intercalate] using member
    exact split.elim (first c) fun later => later.elim (within c) (others c)

end Within

/-! ## Plain text -/

/-- A line feed or a printable character of ASCII. -/
def isPlain (c : Char) : Bool := c = '\n' || (32 ≤ c.toNat && c.toNat < 127)

abbrev Plain (s : String) : Prop := Within isPlain s

theorem isPlain_of_isDigit {c : Char} (h : c.isDigit = true) : isPlain c = true := by
  simp only [Char.isDigit, Bool.and_eq_true, decide_eq_true_eq] at h
  have least : 48 ≤ c.toNat := UInt32.le_iff_toNat_le.mp h.1
  have greatest : c.toNat ≤ 57 := UInt32.le_iff_toNat_le.mp h.2
  simp only [isPlain, Bool.or_eq_true, Bool.and_eq_true, decide_eq_true_eq]
  omega

theorem isPlain_hexDigit {n : Nat} (small : n < 16) : isPlain (hexDigit n) = true := by
  revert n
  decide

theorem isPlain_hexDigits : ∀ (width n : Nat), ∀ c ∈ hexDigits width n, isPlain c = true
  | 0, _ => by simp [hexDigits]
  | width + 1, n => by
    intro c member
    rcases List.mem_append.mp member with earlier | last
    · exact isPlain_hexDigits width (n / 16) c earlier
    · rw [List.mem_singleton.mp last]
      exact isPlain_hexDigit (Nat.mod_lt n (by decide))

theorem plain_nat (n : Nat) : Plain (toString n) := by
  intro c member
  rw [Nat.toString_eq_repr, Nat.toList_repr] at member
  exact isPlain_of_isDigit (Nat.isDigit_of_mem_toDigits (by decide) (by decide) member)

theorem plain_int (n : Int) : Plain (toString n) := by
  rw [Int.toString_eq_repr, Int.repr_eq_if]
  split
  · exact plain_nat _
  · exact Within.append (by decide) (plain_nat _)

end Text

open Text

/-! ## Doubles -/

namespace Double

theorem plain_significant {digits : List Char} (plain : ∀ c ∈ digits, isPlain c = true) :
    ∀ c ∈ significant digits, isPlain c = true := by
  intro c member
  apply plain
  have kept : c ∈ digits.reverse.dropWhile (· = '0') := List.mem_reverse.mp member
  exact List.mem_reverse.mp ((List.dropWhile_sublist _).subset kept)

theorem plain_exponentText (e : Int) : Plain (exponentText e) := by
  have zero : Plain "0" := by decide
  unfold exponentText
  refine Within.append ?_ ?_
  · split <;> decide
  · split
    · exact zero.append (plain_nat _)
    · exact plain_nat _

theorem plain_placePoint {digits : List Char} (plain : ∀ c ∈ digits, isPlain c = true)
    (leading : Int) : Plain (placePoint digits leading) := by
  have zero : isPlain '0' = true := by decide
  have point : isPlain '.' = true := by decide
  have padded : ∀ count, ∀ c ∈ digits ++ List.replicate count '0', isPlain c = true := by
    intro count c member
    rcases List.mem_append.mp member with given | added
    · exact plain c given
    · rwa [List.eq_of_mem_replicate added]
  unfold placePoint
  dsimp only
  split
  · refine Within.append (within_ofList fun c member => ?_) (plain_exponentText leading)
    rcases List.mem_append.mp member with first | rest
    · exact plain c (List.mem_of_mem_take first)
    · split at rest
      · cases rest
      · rcases List.mem_cons.mp rest with rfl | later
        · exact point
        · exact plain c (List.mem_of_mem_drop later)
  · split
    · refine Within.append (by decide) (within_ofList fun c member => ?_)
      rcases List.mem_append.mp member with added | given
      · rwa [List.eq_of_mem_replicate added]
      · exact plain c given
    · refine within_ofList fun c member => ?_
      rcases List.mem_append.mp member with whole | rest
      · exact padded _ c (List.mem_of_mem_take whole)
      · rcases List.mem_cons.mp rest with rfl | fraction
        · exact point
        · split at fraction
          · rwa [List.mem_singleton.mp fraction]
          · exact padded _ c (List.mem_of_mem_drop fraction)

theorem plain_positiveText (mantissa : Nat) (exponent : Int) :
    Plain (positiveText mantissa exponent) := by
  unfold positiveText
  split
  · decide
  · -- By cases on any pair, so that the search for the shortest digits is never run.
    generalize shortest mantissa exponent = decimal
    cases decimal with
    | mk digits power =>
      refine plain_placePoint (plain_significant fun c member => ?_) _
      exact isPlain_of_isDigit (Nat.isDigit_of_mem_toDigits (by decide) (by decide) member)

theorem plain_text {infinity noNumber : String} (plainInfinity : Plain infinity)
    (plainNoNumber : Plain noNumber) (x : Double) : Plain (x.text infinity noNumber) := by
  have sign : ∀ negative : Bool, Plain (if negative then "-" else "") := by
    intro negative
    cases negative <;> decide
  cases x with
  | nan => exact plainNoNumber
  | infinite negative => exact (sign negative).append plainInfinity
  | finite negative mantissa exponent =>
    exact (sign negative).append (plain_positiveText mantissa exponent)

end Double

/-! ## Documents -/

namespace Json

theorem isPlain_unitEscape (code : Nat) : ∀ c ∈ unitEscape code, isPlain c = true := by
  intro c member
  rcases List.mem_cons.mp member with rfl | later
  · decide
  · rcases List.mem_cons.mp later with rfl | digit
    · decide
    · exact isPlain_hexDigits 4 code c digit

/-- A character that is not plain itself is written as an escape. -/
theorem isPlain_textChar (c : Char) : ∀ d ∈ textChar c, isPlain d = true := by
  have escaped : ∀ letter, isPlain letter = true →
      ∀ d ∈ [backslash, letter], isPlain d = true := by
    intro letter plain d member
    rcases List.mem_cons.mp member with rfl | rest
    · decide
    · rwa [List.mem_singleton.mp rest]
  unfold textChar
  dsimp only
  split
  · rename_i marked
    exact escaped c (by rcases marked with rfl | rfl <;> decide)
  iterate 5 split; exact escaped _ (by decide)
  split
  · exact isPlain_unitEscape _
  · rename_i notControl
    split
    · rename_i ascii
      intro d member
      rw [List.mem_singleton.mp member]
      simp only [isPlain, Bool.or_eq_true, Bool.and_eq_true, decide_eq_true_eq]
      omega
    · split
      · exact isPlain_unitEscape _
      · intro d member
        exact (List.mem_append.mp member).elim (isPlain_unitEscape _ d) (isPlain_unitEscape _ d)

theorem plain_textToken (s : String) : Plain (textToken s) := by
  refine within_ofList fun d member => ?_
  rcases List.mem_append.mp member with before | last
  · rcases List.mem_cons.mp before with rfl | inside
    · decide
    · obtain ⟨c, _, written⟩ := List.mem_flatMap.mp inside
      exact isPlain_textChar c d written
  · rw [List.mem_singleton.mp last]
    decide

theorem plain_scalarToken (value : Json) : Plain (scalarToken value) := by
  cases value with
  | null => decide
  | arr items => exact fun c member => nomatch member
  | obj members => exact fun c member => nomatch member
  | bool b => cases b <;> decide
  | int n => exact plain_int n
  | float x => exact x.plain_text (by decide) (by decide)
  | str s => exact plain_textToken s

theorem plain_margin (level : Nat) : Plain (margin level) := by
  refine within_ofList fun c member => ?_
  rw [List.eq_of_mem_replicate member]
  decide

theorem plain_block (level : Nat) {opening closing : String} {lines : List String}
    (plainOpening : Plain opening) (plainClosing : Plain closing)
    (each : ∀ line ∈ lines, Plain line) : Plain (block level opening closing lines) := by
  have breaks : Plain ",\n" ∧ Plain "\n" := by decide
  unfold block
  split
  · exact plainOpening.append plainClosing
  · refine (((plainOpening.append breaks.2).append ?_).append breaks.2).append (plain_margin level)
      |>.append plainClosing
    refine breaks.1.intercalate fun line member => ?_
    obtain ⟨bare, listed, rfl⟩ := List.mem_map.mp member
    exact (plain_margin _).append (each bare listed)

mutual
theorem plain_indentedAt (level : Nat) : ∀ value : Json, Plain (indentedAt level value)
  | arr items => by
    rw [indentedAt]
    exact plain_block level (by decide) (by decide)
      (plain_indentedItems (level + 1) items)
  | obj members => by
    rw [indentedAt]
    refine plain_block level (by decide) (by decide) ?_
    intro line member
    obtain ⟨entry, sorted, rfl⟩ := List.mem_map.mp member
    exact plain_indentedMembers (level + 1) members entry (List.mem_mergeSort.mp sorted)
  | null => plain_scalarToken null
  | bool b => plain_scalarToken (bool b)
  | int n => plain_scalarToken (int n)
  | float x => plain_scalarToken (float x)
  | str s => plain_scalarToken (str s)

theorem plain_indentedItems (level : Nat) :
    ∀ items : List Json, ∀ line ∈ indentedItems level items, Plain line
  | [] => by simp [indentedItems]
  | item :: rest => by
    intro line member
    rcases List.mem_cons.mp member with rfl | later
    · exact plain_indentedAt level item
    · exact plain_indentedItems level rest line later

theorem plain_indentedMembers (level : Nat) :
    ∀ members : Members, ∀ entry ∈ indentedMembers level members, Plain entry.2
  | [] => by simp [indentedMembers]
  | (key, value) :: rest => by
    intro entry member
    rcases List.mem_cons.mp member with rfl | later
    · have colon : Plain ": " := by decide
      exact ((plain_textToken key).append colon).append (plain_indentedAt level value)
    · exact plain_indentedMembers level rest entry later
end

theorem plain_indented (value : Json) : Plain value.indented := plain_indentedAt 0 value

end Json

end IntegerEnum
