import IntegerEnum.Proofs.ModifierProblems
import IntegerEnum.Proofs.Numerals
import IntegerEnum.Proofs.ValueProblems

/-! # Problems that can be told

A problem is raised with its message written, and shown with its place. The only number in a message
that may lack a numeral is an integer out of range, and that was declared; the place is that of a
part of the declaration. So the problems of a declaration whose integers have numerals can all be
told, those of any declaration that is read from a text among them. -/
set_option autoImplicit false

namespace IntegerEnum

/-! ## Numbers in messages and places -/

theorem SourceSpan.HasNumerals.hasText {s : SourceSpan} (numerals : s.HasNumerals) :
    s.hasText = true := by
  obtain ⟨file, line, column⟩ := s
  cases line with
  | none => rfl
  | some line =>
      have lineFits := numerals.line line rfl
      cases column with
      | none => simpa [SourceSpan.hasText, SourceSpan.numbers] using lineFits
      | some column =>
          have columnFits := numerals.column column rfl
          simpa [SourceSpan.hasText, SourceSpan.numbers] using And.intro lineFits columnFits

/-- The bounds of an entry lie between those that are declared. -/
theorem Alternative.HasNumerals.bounds {a : Alternative} (numerals : a.HasNumerals) :
    Numeral.fits a.values.start = true ∧ Numeral.fits a.values.last = true := by
  cases a with
  | constant expr => exact ⟨numerals, numerals⟩
  | range r =>
      have below : r.last ≤ r.stop := by
        rw [ValueRange.last, lastOf]
        split <;> omega
      exact ⟨numerals.start,
        Numeral.fits_of_between r.start_le_last below numerals.start numerals.stop⟩

namespace VariantDecl.HasNumerals
variable {v : VariantDecl}

theorem alternativeRanges (numerals : v.HasNumerals) :
    ∀ r ∈ v.alternativeRanges, Numeral.fits r.start = true ∧ Numeral.fits r.last = true := by
  intro r listed
  obtain ⟨mark, inModifiers, inMark⟩ := List.mem_flatMap.mp listed
  obtain ⟨entry, declared, rfl⟩ := List.mem_map.mp inMark
  exact ((numerals.modifiers mark inModifiers).entries entry declared).bounds

theorem entrySpan (numerals : v.HasNumerals) {value : Int} {e : Entry}
    (member : e ∈ v.entries value) : ∀ s ∈ e.span, s.HasNumerals := by
  rcases cases_of_mem_entries member with rfl | alternative
  · exact numerals.span
  · obtain ⟨mark, inModifiers, inMark⟩ := List.mem_flatMap.mp alternative
    obtain ⟨entry, _, rfl⟩ := List.mem_map.mp inMark
    exact (numerals.modifiers mark inModifiers).span

theorem locatedSpan (numerals : v.HasNumerals) {problem : Diagnostic}
    (located : v.Locates problem) : ∀ s ∈ problem.span, s.HasNumerals := by
  unfold Locates at located
  split at located
  · rw [located]
    exact numerals.span
  · obtain ⟨mark, inModifiers, place⟩ := located
    rw [place]
    exact (numerals.modifiers mark inModifiers).span

end VariantDecl.HasNumerals

section Problems
variable {d : EnumDecl} {problem : Diagnostic}

/-- An integer that is claimed twice lies in the type. -/
theorem contains_of_collision {n : Int} {owner name : String} (failure : resolve d = .error problem)
    (collision : problem.cause = .collision n owner name) : d.integerType.contains n = true := by
  have kind : problem.kind = .collision := by rw [Diagnostic.kind, collision]; rfl
  obtain ⟨i, v, own, e, later, reached, _, _, _, ordered, claimed, stopped⟩ :=
    exists_stop_of_value_problem failure (Or.inl kind)
  rcases claimEntry_eq_error_iff.mp stopped with ⟨k, _, rfl⟩ | ⟨inType, k, taker, found, rfl⟩
  · cases collision
  · cases collision
    obtain ⟨inEntry, _⟩ := exists_entry_of_clash ordered claimed found
    exact (Entry.outside?_eq_none_iff.mp inType).contains inEntry

/-- Only an integer out of range keeps a message from being written. -/
theorem hasMessage_eq_false_iff (failure : resolve d = .error problem) :
    problem.hasMessage = false ↔
      ∃ n name, problem.cause = .outOfRange n name d.integerType.name ∧ Numeral.fits n = false := by
  obtain ⟨cause, span⟩ := problem
  constructor
  · intro unwritten
    cases cause with
    | collision n owner name =>
        have inType := contains_of_collision failure rfl
        have fits := IntegerType.fits_of_contains inType
        simp [Diagnostic.hasMessage, Cause.numbers, fits] at unwritten
    | outOfRange n name typeName =>
        obtain ⟨k, v, _, cause, _⟩ := exists_declared_of_outOfRange failure rfl
        cases cause
        exact ⟨n, v.name, rfl, by simpa [Diagnostic.hasMessage, Cause.numbers] using unwritten⟩
    | _ => cases unwritten
  · rintro ⟨n, name, rfl, long⟩
    simp [Diagnostic.hasMessage, Cause.numbers, long]

/-- The place of a problem is that of a part of the declaration. -/
theorem EnumDecl.HasNumerals.problemSpan (numerals : d.HasNumerals)
    (failure : resolve d = .error problem) : ∀ s ∈ problem.span, s.HasNumerals := by
  rcases resolve_eq_error_iff.mp failure with claims | ⟨_, checked⟩
  · obtain ⟨before, e, after, reached, split, _, _, stopped⟩ := claimAll_error claims
    obtain ⟨i, v, own, later, place, listed, _⟩ := exists_place_of_entries split
    have member : e ∈ v.entries (d.chainValue i) := by
      rw [listed]
      exact List.mem_append_right _ (List.mem_cons_self ..)
    have told := (numerals.variants v (List.mem_of_getElem? place)).entrySpan member
    rcases claimEntry_eq_error_iff.mp stopped with ⟨n, _, rfl⟩ | ⟨_, n, owner, _, rfl⟩
    · exact told
    · exact told
  · rcases checkModifiers_eq_error checked with ⟨i, v, first, _, located⟩ | ⟨_, _, _, whole⟩
    · exact (numerals.variants v (List.mem_of_getElem? first.place)).locatedSpan located
    · rcases wholeFault?_marks_eq_some whole with
        ⟨b, c, mark, inModifiers, both, _, rfl⟩ | ⟨_, second, listed, rfl⟩
      · exact ((numerals.variants c both.catchAll.1).modifiers mark inModifiers).span
      · exact numerals.errorTypes second (List.mem_of_getElem? listed)

theorem EnumDecl.HasNumerals.hasMessage (numerals : d.HasNumerals)
    (failure : resolve d = .error problem) : problem.hasMessage = true := by
  rw [← Bool.not_eq_false, hasMessage_eq_false_iff failure]
  rintro ⟨n, name, cause, long⟩
  have kind : problem.kind = .outOfRange := by rw [Diagnostic.kind, cause]; rfl
  obtain ⟨k, v, member, told, _, declared⟩ := exists_declared_of_outOfRange failure kind
  have variant := numerals.variants v member
  rw [cause] at told
  cases told
  have fits : Numeral.fits n = true := by
    rcases declared with ⟨expr, explicit, rfl⟩ | ⟨r, listed, rfl | rfl⟩
    · exact variant.explicitValue expr explicit
    · exact (variant.alternativeRanges r listed).1
    · exact (variant.alternativeRanges r listed).2
  rw [fits] at long
  contradiction

theorem EnumDecl.HasNumerals.hasLine (numerals : d.HasNumerals)
    (failure : resolve d = .error problem) : problem.hasLine = true := by
  have place : problem.span.all SourceSpan.hasText = true := by
    rw [Option.all_eq_true]
    intro s found
    exact (numerals.problemSpan failure s found).hasText
  rw [Diagnostic.hasLine, numerals.hasMessage failure, place]
  rfl

/-! ## Raised problems -/

end Problems

end IntegerEnum
