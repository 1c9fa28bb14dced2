import IntegerEnum.CommandLine.Run
import IntegerEnum.Proofs.Canonical
import IntegerEnum.Proofs.PrintedText

/-! # Lines on unavailable families

A family without a plan is told of in one line, unless the problem itself breaks it. The only texts
of a declaration in such a problem are the names of the enumeration and of its variants, so none is
broken as long as the names are not. -/
set_option autoImplicit false

namespace IntegerEnum

open Text

/-! ## Problems in one line -/

/-- A text without a line feed. -/
abbrev OneLine (s : String) : Prop := Within (· ≠ '\n') s

def lineFeeds (s : String) : Nat := s.toList.count '\n'

theorem lineFeeds_append (a b : String) : lineFeeds (a ++ b) = lineFeeds a + lineFeeds b := by
  simp [lineFeeds]

theorem lineFeeds_eq_zero_iff {s : String} : lineFeeds s = 0 ↔ OneLine s := by
  rw [lineFeeds, List.count_eq_zero]
  constructor
  · intro absent c member
    refine decide_eq_true ?_
    rintro rfl
    exact absent member
  · intro oneLine member
    exact absurd (oneLine '\n' member) (by decide)

/-- The enumeration and its variants have names of one line. -/
structure EnumDecl.NamesInLine (d : EnumDecl) : Prop where
  own : OneLine d.name
  variants : ∀ name ∈ d.variantNames, OneLine name

section Problems
variable {d : EnumDecl} {m : Mapping} {family : Family} {problem : Diagnostic}

theorem oneLine_uncheckedBlockers (success : resolve d = .ok m) (inLine : d.NamesInLine) :
    ∀ reason ∈ m.uncheckedBlockers, OneLine reason := by
  have sound := sound_of_resolve success
  have named : ∀ v ∈ m.variants, OneLine v.name := by
    intro v member
    apply inLine.variants
    rw [← Mapping.names_of_resolve success]
    exact List.mem_map_of_mem member
  have opening : OneLine "variant `" := by decide
  intro reason member
  rcases List.mem_append.mp member with marked | bare
  · rcases List.mem_append.mp marked with isDefault | isCatchAll
    · obtain ⟨name, found, rfl⟩ := List.mem_map.mp isDefault
      obtain ⟨v, listed, _, rfl⟩ := (sound.defaultVariant_iff name).mp (Option.mem_toList.mp found)
      exact (opening.append (named v listed)).append (by decide)
    · obtain ⟨name, found, rfl⟩ := List.mem_map.mp isCatchAll
      obtain ⟨v, listed, _, rfl⟩ := (sound.catchAllVariant_iff name).mp (Option.mem_toList.mp found)
      exact (opening.append (named v listed)).append (by decide)
  · obtain ⟨v, listed, rfl⟩ := List.mem_map.mp bare
    exact (opening.append (named v (List.mem_filter.mp listed).1)).append (by decide)

/-- A problem of derivation is told in one line if the names are. -/
theorem oneLine_message_of_derive (success : resolve d = .ok m) (inLine : d.NamesInLine)
    (failure : derive m family = .error problem) : OneLine problem.message := by
  have own : OneLine m.enumName := by
    obtain ⟨_, rfl⟩ := resolve_eq_ok_iff.mp success
    exact inLine.own
  have opened : ∀ {opening : String}, OneLine opening → OneLine (opening ++ m.enumName) :=
    fun inOpening => inOpening.append own
  cases family with
  | toInteger => cases failure
  | fromIntegerFallible => cases failure
  | fromIntegerTotal =>
      rw [derive] at failure
      split at failure
      · cases failure
      · cases failure
        exact ((opened (by decide)).append (by decide)).append (by decide)
  | fromIntegerUnchecked =>
      rw [derive] at failure
      split at failure
      · cases failure
      · cases failure
        have separator : OneLine "; " := by decide
        exact ((opened (by decide)).append (by decide)).append
          (separator.intercalate (oneLine_uncheckedBlockers success inLine))
  | defaultValue =>
      rw [derive] at failure
      split at failure
      · cases failure
      · cases failure
        exact (opened (by decide)).append (by decide)

end Problems

namespace Invocation

/-! ## One line for each -/

theorem lineFeeds_unavailableLine {label : String} (inLine : OneLine label) (family : Family)
    (problem : Diagnostic) :
    lineFeeds (unavailableLine label family problem) = lineFeeds problem.message + 1 := by
  have code : lineFeeds problem.code = 0 := by
    rw [Diagnostic.code]
    cases problem.kind <;> rfl
  have name : lineFeeds family.name = 0 := by cases family <;> rfl
  have fixed : lineFeeds "[" = 0 ∧ lineFeeds "]: " = 0 ∧ lineFeeds ": " = 0 ∧
      lineFeeds "\n" = 1 := by decide
  have spelled : unavailableLine label family problem =
      label ++ "[" ++ problem.code ++ "]: " ++ family.name ++ ": " ++ problem.message ++ "\n" := rfl
  rw [spelled]
  simp only [lineFeeds_append, lineFeeds_eq_zero_iff.mpr inLine, code, name, fixed]
  omega

/-- There is a line for each family exactly if no problem is told in several. -/
theorem lineFeeds_notes_iff {label : String} (inLine : OneLine label)
    (unavailable : List (Family × Diagnostic)) :
    lineFeeds (notes label unavailable) = unavailable.length ↔
      ∀ entry ∈ unavailable, OneLine entry.2.message := by
  have total : lineFeeds (notes label unavailable) =
      (unavailable.map fun entry => lineFeeds entry.2.message).sum + unavailable.length := by
    induction unavailable with
    | nil => rfl
    | cons entry rest ih =>
        have first := lineFeeds_unavailableLine inLine entry.1 entry.2
        rw [notes] at ih
        rw [notes, List.map_cons, String.join_cons, lineFeeds_append, ih, first, List.map_cons,
          List.sum_cons, List.length_cons]
        omega
  rw [total, Nat.add_eq_right, List.sum_eq_zero_iff_forall_eq_nat]
  simp only [List.mem_map, forall_exists_index, and_imp, forall_apply_eq_imp_iff₂,
    lineFeeds_eq_zero_iff]

end Invocation

end IntegerEnum
