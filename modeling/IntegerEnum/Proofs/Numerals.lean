import IntegerEnum.Proofs.Documents

/-! # Numerals of declarations

An integer that comes with a JSON text has a numeral there, so it has one on its way out again. The
tokens of a text keep to that, the values built from them do, and so do the parts of a declaration
that is read from one: `HasNumerals` says it of each of them. -/
set_option autoImplicit false

namespace IntegerEnum

/-! ## Documents -/

namespace Json

/-- Every integer in the document has a numeral. -/
def HasNumerals (value : Json) : Prop :=
  ∀ part ∈ value.parts, ∀ n, part = .int n → Numeral.fits n = true

theorem hasNumerals_arr_iff {items : List Json} :
    HasNumerals (.arr items) ↔ ∀ item ∈ items, item.HasNumerals :=
  forall_parts_arr.trans (and_iff_right nofun)

theorem hasNumerals_obj_iff {fields : Members} :
    HasNumerals (.obj fields) ↔ ∀ field ∈ fields, field.2.HasNumerals :=
  forall_parts_obj.trans (and_iff_right nofun)

theorem hasNumerals_int_iff {n : Int} : HasNumerals (.int n) ↔ Numeral.fits n = true := by
  simp [HasNumerals, parts]

def Token.HasNumerals : Token → Prop
  | .scalar value => value.HasNumerals
  | _ => True

section Scanning
variable {c : Char} {done : List Token}

end Scanning

/-! ## Values built from tokens -/

def Frame.HasNumerals : Frame → Prop
  | .items done => ∀ item ∈ done, item.HasNumerals
  | .member done _ => ∀ field ∈ done, field.2.HasNumerals

def Expect.HasNumerals : Expect → Prop
  | .value outer | .firstItem outer | .firstKey outer => ∀ frame ∈ outer, frame.HasNumerals
  | .key done outer | .colon done _ outer | .afterMember done outer =>
    (∀ field ∈ done, field.2.HasNumerals) ∧ ∀ frame ∈ outer, frame.HasNumerals
  | .afterItem done outer =>
    (∀ item ∈ done, item.HasNumerals) ∧ ∀ frame ∈ outer, frame.HasNumerals
  | .nothing result => result.HasNumerals

section Building
variable {depth : Nat} {outer : List Frame} {token : Token}

end Building

end Json

/-! ## Declarations -/

structure SourceSpan.HasNumerals (s : SourceSpan) : Prop where
  line : ∀ n ∈ s.line, Numeral.fits n = true
  column : ∀ n ∈ s.column, Numeral.fits n = true

def ConstExpr.HasNumerals (e : ConstExpr) : Prop := Numeral.fits e.value = true

structure ValueRange.HasNumerals (r : ValueRange) : Prop where
  start : Numeral.fits r.start = true
  stop : Numeral.fits r.stop = true

def Alternative.HasNumerals : Alternative → Prop
  | constant expr => expr.HasNumerals
  | range values => values.HasNumerals

structure Modifier.HasNumerals (m : Modifier) : Prop where
  entries : ∀ e ∈ m.entries, e.HasNumerals
  span : ∀ s ∈ m.span, s.HasNumerals

structure VariantDecl.HasNumerals (v : VariantDecl) : Prop where
  explicitValue : ∀ e ∈ v.explicitValue, e.HasNumerals
  modifiers : ∀ m ∈ v.modifiers, m.HasNumerals
  span : ∀ s ∈ v.span, s.HasNumerals

def ErrorType.HasNumerals (e : ErrorType) : Prop := ∀ s ∈ e.span, s.HasNumerals

/-- Every integer that the declaration gives has a numeral: the explicit values, the bounds of the
alternatives, and the lines and columns of all spans. -/
structure EnumDecl.HasNumerals (d : EnumDecl) : Prop where
  variants : ∀ v ∈ d.variants, v.HasNumerals
  errorTypes : ∀ e ∈ d.errorTypes, e.HasNumerals

open Json Reading

theorem hereditary_hasNumerals : Hereditary HasNumerals where
  member numerals found := hasNumerals_obj_iff.mp numerals _ (Dictionary.mem_of_find? found)
  item numerals := hasNumerals_arr_iff.mp numerals _

/-- What is read from a document with numerals has the property. -/
abbrev Inherits {α : Type} (read : Json → Reading α) (Has : α → Prop) : Prop :=
  Yields HasNumerals read Has

theorem inherits_integer : Inherits readInteger fun n => Numeral.fits n = true := by
  intro p n numerals accepted
  cases p with
  | int k =>
      cases accepted
      exact hasNumerals_int_iff.mp numerals
  | bool b =>
      cases accepted
      cases b <;> decide
  | float x =>
      simp only [readInteger] at accepted
      split at accepted
      · split at accepted
        · cases accepted
        · split at accepted
          · rename_i small
            cases accepted
            exact Numeral.fits_of_between small.1.le small.2.le (by decide) (by decide)
          · cases accepted
      · cases accepted
  | str s =>
      simp only [readInteger] at accepted
      split at accepted
      · split at accepted
        · rename_i fits
          cases accepted
          exact fits
        · cases accepted
      · cases accepted
  | _ => cases accepted

theorem inherits_positive : Inherits readPositive fun n => Numeral.fits n = true := by
  intro p n numerals accepted
  obtain ⟨k, read, checked⟩ := Reading.next_eq_accepted.mp accepted
  split at checked
  · cases checked
    exact inherits_integer p n numerals read
  · cases checked

theorem SourceSpan.inherits : Inherits read HasNumerals := by
  intro p s numerals accepted
  have positive := inherits_positive.nullable
  rw [eq_accepted_iff, read] at accepted
  simp only [accepts_object, accepts_seq, accepts_map] at accepted
  obtain ⟨fields, rfl, file, _, line, readLine, column, readColumn, rfl⟩ := accepted
  constructor
  · exact positive.optional hereditary_hasNumerals numerals readLine (by simp)
  · exact positive.optional hereditary_hasNumerals numerals readColumn (by simp)

theorem SourceSpan.hasNumerals_of_readField {fields : Members} {span : Option SourceSpan}
    (numerals : Json.HasNumerals (.obj fields)) (accepted : readField fields = .accepted span) :
    ∀ s ∈ span, s.HasNumerals :=
  inherits.nullable.optional hereditary_hasNumerals numerals accepted (by simp)

theorem ConstExpr.inherits : Inherits read HasNumerals := by
  intro p e numerals accepted
  rw [eq_accepted_iff, read] at accepted
  simp only [accepts_object, accepts_seq, accepts_map] at accepted
  obtain ⟨fields, rfl, value, readValue, text, _, rfl⟩ := accepted
  exact inherits_integer.required hereditary_hasNumerals numerals readValue

theorem ValueRange.inherits : Inherits read HasNumerals := by
  intro p r numerals accepted
  rw [eq_accepted_iff, read] at accepted
  simp only [accepts_object, accepts_seq, accepts_map, accepts_next] at accepted
  obtain ⟨fields, rfl, start, readStart, stop, readStop, inclusive, _, _, bounds, rfl⟩ := accepted
  have startFits := inherits_integer.required hereditary_hasNumerals numerals readStart
  have stopFits := inherits_integer.required hereditary_hasNumerals numerals readStop
  unfold ofBounds at bounds
  split at bounds
  · cases bounds
    exact ⟨startFits, stopFits⟩
  · cases bounds

theorem Alternative.inherits (form : Form) : Inherits (read form) HasNumerals := by
  intro p a numerals accepted
  unfold read at accepted
  split at accepted
  · rename_i e r asConstant asRange
    cases accepted
    split
    · exact ValueRange.inherits p r numerals asRange
    · exact ConstExpr.inherits p e numerals asConstant
  · rename_i e _ _ asConstant _
    cases accepted
    exact ConstExpr.inherits p e numerals asConstant
  · rename_i r _ asRange
    cases accepted
    exact ValueRange.inherits p r numerals asRange
  · cases accepted

namespace Modifier
variable {form : Form} {p : Json} {m : Modifier}

theorem hasNumerals_of_readOf {kind : ModifierKind} (numerals : p.HasNumerals)
    (accepted : readOf form kind p = .accepted m) : m.HasNumerals := by
  rw [eq_accepted_iff] at accepted
  cases kind with
  | byDefault =>
      simp only [readOf, readDefault, accepts_object, accepts_seq, accepts_map] at accepted
      obtain ⟨fields, rfl, _, _, span, readSpan, rfl⟩ := accepted
      exact ⟨by simp [entries], SourceSpan.hasNumerals_of_readField numerals readSpan⟩
  | catchAll =>
      simp only [readOf, readCatchAll, accepts_object, accepts_seq, accepts_map] at accepted
      obtain ⟨fields, rfl, _, _, span, readSpan, rfl⟩ := accepted
      exact ⟨by simp [entries], SourceSpan.hasNumerals_of_readField numerals readSpan⟩
  | alternatives =>
      have list := (Alternative.inherits form).list hereditary_hasNumerals
      simp only [readOf, readAlternatives, accepts_object, accepts_seq, accepts_map] at accepted
      obtain ⟨fields, rfl, _, _, entries, readEntries, span, readSpan, rfl⟩ := accepted
      have each := (list.nonempty .emptyList).required hereditary_hasNumerals numerals readEntries
      exact ⟨each.1, SourceSpan.hasNumerals_of_readField numerals readSpan⟩

theorem inherits (form : Form) : Inherits (read form) HasNumerals := by
  intro p m numerals accepted
  unfold read at accepted
  split at accepted
  · split at accepted
    · cases accepted
    · split at accepted
      · exact hasNumerals_of_readOf numerals (within_eq_accepted.mp accepted)
      · cases accepted
  · cases accepted

end Modifier

theorem VariantDecl.inherits (form : Form) : Inherits (read form) HasNumerals := by
  intro p v numerals accepted
  have explicit := ConstExpr.inherits.nullable
  have modifiers := (Modifier.inherits form).list hereditary_hasNumerals
  rw [eq_accepted_iff, read] at accepted
  simp only [accepts_object, accepts_ensure, accepts_seq, accepts_map] at accepted
  obtain ⟨fields, rfl, name, _, value, readValue, marks, readMarks, types, _, span, readSpan, _,
    rfl⟩ := accepted
  constructor
  · exact explicit.optional hereditary_hasNumerals numerals readValue (by simp)
  · exact modifiers.optional hereditary_hasNumerals numerals readMarks (by simp)
  · exact SourceSpan.hasNumerals_of_readField numerals readSpan

theorem ErrorType.inherits : Inherits read HasNumerals := by
  intro p e numerals accepted
  rw [eq_accepted_iff, read] at accepted
  simp only [accepts_object, accepts_seq, accepts_map] at accepted
  obtain ⟨fields, rfl, name, _, path, _, span, readSpan, rfl⟩ := accepted
  exact SourceSpan.hasNumerals_of_readField numerals readSpan

theorem EnumDecl.inherits (form : Form) : Inherits (read form) HasNumerals := by
  intro p d numerals accepted
  have variants := ((VariantDecl.inherits form).list hereditary_hasNumerals).nonempty .emptyList
  have errorTypes := ErrorType.inherits.list hereditary_hasNumerals
  rw [eq_accepted_iff, read] at accepted
  simp only [accepts_object, accepts_ensure, accepts_seq, accepts_map] at accepted
  obtain ⟨fields, rfl, name, _, t, _, vs, readVariants, es, readErrors, _, rfl⟩ := accepted
  constructor
  · exact (variants.required hereditary_hasNumerals numerals readVariants).1
  · exact errorTypes.optional hereditary_hasNumerals numerals readErrors (by simp)

end IntegerEnum
