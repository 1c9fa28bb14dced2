import IntegerEnum.Proofs.AcceptedDocuments
import IntegerEnum.Proofs.HandWritten

/-! # Names of enumerations and variants

`IsName` is the plain notion of a name. The check of identifiers accepts the names and, beyond them,
every name with one line feed after it. Mappings and plans mention declared variants only, so all
that a valid declaration brings into them is made of the characters of names, apart from a line feed
at an end. -/
set_option autoImplicit false

namespace IntegerEnum

namespace Identifier

def IsLetter (c : Char) : Prop := 'A' ≤ c ∧ c ≤ 'Z' ∨ 'a' ≤ c ∧ c ≤ 'z'

def IsDigit (c : Char) : Prop := '0' ≤ c ∧ c ≤ '9'

theorem isAlpha_iff {c : Char} : c.isAlpha = true ↔ IsLetter c := by
  simp [Char.isAlpha, Char.isUpper, Char.isLower, IsLetter, Char.le_def]

theorem isDigit_iff {c : Char} : c.isDigit = true ↔ IsDigit c := by
  simp [Char.isDigit, IsDigit, Char.le_def]

theorem startsName_iff {c : Char} : startsName c = true ↔ IsLetter c ∨ c = '_' := by
  simp [startsName, isAlpha_iff]

theorem continuesName_iff {c : Char} :
    continuesName c = true ↔ IsLetter c ∨ IsDigit c ∨ c = '_' := by
  simp [continuesName, Char.isAlphanum, isAlpha_iff, isDigit_iff, or_assoc]

/-- A letter or an underscore, then letters, digits and underscores, all of them ASCII. -/
def IsName (s : String) : Prop :=
  ∃ c rest, s.toList = c :: rest ∧ (IsLetter c ∨ c = '_') ∧
    ∀ d ∈ rest, IsLetter d ∨ IsDigit d ∨ d = '_'

theorem isName_iff_classes {s : String} :
    IsName s ↔ ∃ c rest, s.toList = c :: rest ∧ startsName c = true ∧
      ∀ d ∈ rest, continuesName d = true := by
  simp only [IsName, startsName_iff, continuesName_iff]

/-- A name, or a name with a line feed after it. -/
def IsNameOrBroken (s : String) : Prop := ∃ name, IsName name ∧ (s = name ∨ s = name ++ "\n")

theorem isTail_iff {cs : List Char} :
    isTail cs = true ↔
      ∃ front, (∀ c ∈ front, continuesName c = true) ∧ (cs = front ∨ cs = front ++ ['\n']) := by
  induction cs with
  | nil => exact iff_of_true rfl ⟨[], nofun, Or.inl rfl⟩
  | cons c rest ih =>
      simp only [isTail, Bool.or_eq_true, Bool.and_eq_true, decide_eq_true_eq, ih,
        List.isEmpty_iff]
      constructor
      · rintro (⟨first, front, each, ending⟩ | ⟨rfl, rfl⟩)
        · refine ⟨c :: front, List.forall_mem_cons.mpr ⟨first, each⟩, ?_⟩
          exact ending.imp (congrArg (c :: ·)) (congrArg (c :: ·))
        · exact ⟨[], nofun, Or.inr rfl⟩
      · rintro ⟨front, each, ending⟩
        cases front with
        | nil =>
            rcases ending with ending | ending
            · cases ending
            · cases ending
              exact Or.inr ⟨rfl, rfl⟩
        | cons d front =>
            obtain ⟨first, others⟩ := List.forall_mem_cons.mp each
            rw [List.cons_append, List.cons.injEq, List.cons.injEq, ← and_or_left] at ending
            obtain ⟨rfl, ending⟩ := ending
            exact Or.inl ⟨first, front, others, ending⟩

theorem isIdentifier_iff {s : String} : isIdentifier s = true ↔ IsNameOrBroken s := by
  rw [isIdentifier]
  constructor
  · intro accepted
    cases chars : s.toList with
    | nil => simp [chars] at accepted
    | cons c rest =>
        rw [chars] at accepted
        obtain ⟨first, tail⟩ := Bool.and_eq_true_iff.mp accepted
        obtain ⟨front, each, ending⟩ := isTail_iff.mp tail
        have isName : IsName (String.ofList (c :: front)) :=
          isName_iff_classes.mpr ⟨c, front, String.toList_ofList, first, each⟩
        refine ⟨_, isName, ?_⟩
        rw [← String.toList_inj, ← String.toList_inj, String.toList_append, String.toList_ofList,
          chars]
        exact ending.imp (congrArg (c :: ·)) (congrArg (c :: ·))
  · rintro ⟨name, isName, ending⟩
    obtain ⟨c, front, chars, first, each⟩ := isName_iff_classes.mp isName
    obtain ⟨rest, whole, tail⟩ : ∃ rest, s.toList = c :: rest ∧ isTail rest = true := by
      rcases ending with rfl | rfl
      · exact ⟨front, chars, isTail_iff.mpr ⟨front, each, Or.inl rfl⟩⟩
      · refine ⟨front ++ ['\n'], ?_, isTail_iff.mpr ⟨front, each, Or.inr rfl⟩⟩
        rw [String.toList_append, chars]
        rfl
    rw [whole]
    exact Bool.and_eq_true_iff.mpr ⟨first, tail⟩

theorem IsName.no_lineFeed {s : String} (isName : IsName s) : '\n' ∉ s.toList := by
  obtain ⟨c, rest, chars, first, each⟩ := isName_iff_classes.mp isName
  rw [chars, List.mem_cons]
  rintro (rfl | later)
  · exact absurd first (by decide)
  · exact absurd (each _ later) (by decide)

/-- The names are the texts that pass the check and hold no line feed. -/
theorem isName_iff {s : String} : IsName s ↔ isIdentifier s = true ∧ '\n' ∉ s.toList := by
  rw [isIdentifier_iff]
  constructor
  · exact fun isName => ⟨⟨s, isName, Or.inl rfl⟩, isName.no_lineFeed⟩
  · rintro ⟨⟨name, isName, rfl | rfl⟩, unbroken⟩
    · exact isName
    · exact absurd (by simp) unbroken

/-- The check tells names from other texts just where the text is no name with a line feed. -/
theorem isIdentifier_iff_isName_iff {s : String} :
    (isIdentifier s = true ↔ IsName s) ↔ ¬ ∃ name, IsName name ∧ s = name ++ "\n" := by
  constructor
  · rintro exact ⟨name, isName, rfl⟩
    have passes := isIdentifier_iff.mpr ⟨name, isName, Or.inr rfl⟩
    exact (exact.mp passes).no_lineFeed (by simp)
  · intro unbroken
    refine ⟨fun passes => ?_, fun isName => (isName_iff.mp isName).1⟩
    obtain ⟨name, isName, rfl | rfl⟩ := isIdentifier_iff.mp passes
    · exact isName
    · exact absurd ⟨name, isName, rfl⟩ unbroken

end Identifier

open Identifier

/-! ## Names that mappings and plans mention -/

def Mapping.mentioned (m : Mapping) : List String :=
  m.names ++ m.defaultVariant.toList ++ m.catchAllVariant.toList

def Plan.mentioned (p : Plan) : List String :=
  p.table.map TableRow.variant ++ p.defaultVariant.toList ++ p.catchAllVariant.toList ++
    (p.fallback.bind Fallback.variant?).toList

namespace Mapping
variable {m : Mapping} {family : Family} {p : Plan} {name : String}

theorem mentioned_of_resolve {d : EnumDecl} (success : resolve d = .ok m)
    (mentioned : name ∈ m.mentioned) : name ∈ d.variantNames := by
  have sound := sound_of_resolve success
  rw [← names_of_resolve success]
  rcases List.mem_append.mp mentioned with others | isCatchAll
  · rcases List.mem_append.mp others with ofVariant | isDefault
    · exact ofVariant
    · obtain ⟨v, member, _, rfl⟩ :=
        (sound.defaultVariant_iff name).mp (Option.mem_toList.mp isDefault)
      exact List.mem_map_of_mem member
  · obtain ⟨v, member, _, rfl⟩ :=
      (sound.catchAllVariant_iff name).mp (Option.mem_toList.mp isCatchAll)
    exact List.mem_map_of_mem member

theorem mentioned_of_fallback? {fallback : Fallback} (chosen : m.fallback? = some fallback)
    (named : fallback.variant? = some name) :
    m.defaultVariant = some name ∨ m.catchAllVariant = some name := by
  rw [fallback?] at chosen
  split at chosen
  · cases chosen
    cases named
  · split at chosen
    · rename_i isDefault
      cases chosen
      cases named
      exact Or.inl isDefault
    · rename_i isCatchAll
      cases chosen
      cases named
      exact Or.inr isCatchAll
    · cases chosen

theorem mentioned_of_table (mentioned : name ∈ m.table.map TableRow.variant) : name ∈ m.names := by
  obtain ⟨row, isRow, rfl⟩ := List.mem_map.mp mentioned
  obtain ⟨v, listed, rfl⟩ := List.mem_map.mp isRow
  exact List.mem_map_of_mem (List.mem_filter.mp listed).1

/-- A plan names the fallbacks of its mapping and no others. -/
theorem fallbacks_of_derive (derived : derive m family = .ok p) :
    p.defaultVariant = m.defaultVariant ∧ p.catchAllVariant = m.catchAllVariant ∧
      ∀ name, p.fallback.bind Fallback.variant? = some name →
        m.defaultVariant = some name ∨ m.catchAllVariant = some name := by
  cases family with
  | toInteger => cases derived; exact ⟨rfl, rfl, nofun⟩
  | fromIntegerTotal =>
      obtain ⟨fallback, chosen, rfl⟩ := derive_total_eq_ok_iff.mp derived
      exact ⟨rfl, rfl, fun _ named => mentioned_of_fallback? chosen named⟩
  | fromIntegerFallible =>
      cases derived
      refine ⟨rfl, rfl, ?_⟩
      intro name named
      change (m.fallback?.getD .returnError).variant? = some name at named
      cases chosen : m.fallback? with
      | none =>
          rw [chosen] at named
          cases named
      | some fallback =>
          rw [chosen] at named
          exact mentioned_of_fallback? chosen named
  | fromIntegerUnchecked =>
      obtain ⟨_, rfl⟩ := derive_unchecked_eq_ok_iff.mp derived
      exact ⟨rfl, rfl, nofun⟩
  | defaultValue =>
      obtain ⟨_, rfl⟩ := derive_defaultValue_eq_ok_iff.mp derived
      exact ⟨rfl, rfl, nofun⟩

theorem mentioned_of_derive (derived : derive m family = .ok p) (mentioned : name ∈ p.mentioned) :
    name ∈ m.mentioned := by
  obtain ⟨sameDefault, sameCatchAll, fallbacks⟩ := fallbacks_of_derive derived
  simp only [Plan.mentioned, table_of_derive derived, sameDefault, sameCatchAll, List.mem_append,
    Option.mem_toList] at mentioned
  simp only [Mapping.mentioned, List.mem_append, Option.mem_toList]
  rcases mentioned with ((inTable | isDefault) | isCatchAll) | isFallback
  · exact Or.inl (Or.inl (mentioned_of_table inTable))
  · exact Or.inl (Or.inr isDefault)
  · exact Or.inr isCatchAll
  · exact (fallbacks name isFallback).imp Or.inr id

end Mapping

/-- What holds of the names in a declaration that passed the check, and in its mapping and plans. -/
structure EnumDecl.PassesNames (d : EnumDecl) : Prop where
  names : ∀ name ∈ d.name :: d.variantNames, IsNameOrBroken name
  unbroken : (∀ name ∈ d.name :: d.variantNames, IsName name) ↔
    ∀ name ∈ d.name :: d.variantNames, '\n' ∉ name.toList
  mapped : ∀ m, resolve d = .ok m →
    ∀ name ∈ m.mentioned, name ∈ d.variantNames ∧ IsNameOrBroken name
  planned : ∀ m, resolve d = .ok m → ∀ family p, derive m family = .ok p →
    ∀ name ∈ p.mentioned, name ∈ d.variantNames ∧ IsNameOrBroken name

/-- The check of identifiers accepts the names and, beyond them, just the names with a line feed
after them. So much and no more holds of the names of a valid declaration, which are all names
unless one of them has a line feed, and its mapping and plans mention declared variants only. -/
theorem names_pass_with_line_feed (s : String) :
    (isIdentifier s = true ↔ IsNameOrBroken s) ∧
      ((isIdentifier s = true ↔ IsName s) ↔ ¬ ∃ name, IsName name ∧ s = name ++ "\n") ∧
        ∀ d : EnumDecl, d.Valid → d.PassesNames := by
  refine ⟨isIdentifier_iff, isIdentifier_iff_isName_iff, ?_⟩
  intro d valid
  have accepted := valid.inOrder.names
  have passes : ∀ name ∈ d.name :: d.variantNames, IsNameOrBroken name :=
    fun name member => isIdentifier_iff.mp (accepted name member)
  have declared : ∀ m, resolve d = .ok m →
      ∀ name ∈ m.mentioned, name ∈ d.variantNames ∧ IsNameOrBroken name := by
    intro m success name mentioned
    have member := Mapping.mentioned_of_resolve success mentioned
    exact ⟨member, passes name (List.mem_cons_of_mem _ member)⟩
  refine ⟨passes, ?_, declared, ?_⟩
  · constructor
    · exact fun names name member => (names name member).no_lineFeed
    · exact fun unbroken name member => isName_iff.mpr ⟨accepted name member, unbroken name member⟩
  · intro m success family p derived name mentioned
    exact declared m success name (Mapping.mentioned_of_derive derived mentioned)

theorem names_pass_with_line_feed_reply :
    EnumDecl.reply.Valid ∧ resolve EnumDecl.reply = .ok Mapping.reply ∧
      (∀ name ∈ EnumDecl.reply.name :: EnumDecl.reply.variantNames, IsName name) ∧
        derive Mapping.reply .fromIntegerFallible = .ok Mapping.reply.falliblePlan ∧
          ∀ name ∈ Mapping.reply.falliblePlan.mentioned,
            name ∈ ["Ready", "Busy", "Other"] ∧ IsNameOrBroken name := by
  obtain ⟨_, _, named⟩ := names_pass_with_line_feed "Reply"
  have passes := named EnumDecl.reply EnumDecl.valid_reply
  have unbroken : ∀ name ∈ EnumDecl.reply.name :: EnumDecl.reply.variantNames,
      '\n' ∉ name.toList := by decide
  exact ⟨EnumDecl.valid_reply, resolve_reply, passes.unbroken.mpr unbroken, rfl,
    passes.planned Mapping.reply resolve_reply .fromIntegerFallible _ rfl⟩

/-- One variant, whose name ends in a line feed. -/
def EnumDecl.brokenName : EnumDecl where
  name := "E"
  integerType := { kind := .u8 }
  variants := [{ name := "A\n" }]

/-- The check lets the broken name through, although it is no name, and with it the declaration. -/
theorem broken_name_passes_check :
    isIdentifier "A\n" = true ∧ ¬ IsName "A\n" ∧ EnumDecl.brokenName.Valid ∧
      ∃ m, resolve EnumDecl.brokenName = .ok m ∧ "A\n" ∈ m.names :=
  ⟨by decide, fun isName => isName.no_lineFeed (by decide), by decide, _, rfl, by decide⟩

end IntegerEnum
