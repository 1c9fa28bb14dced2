import IntegerEnum.Proofs.Demands
import IntegerEnum.Proofs.Readers
import IntegerEnum.ValueRange
import Mathlib.Data.List.Forall2

/-! # Demands that suffice for readers

A document is tidy when there are no doubles and no empty ranges anywhere in it. A demand suffices
for a reader when every tidy document that meets it is accepted. Those of scalars do, and each way
of building a reader from others keeps it so. -/
set_option autoImplicit false

namespace IntegerEnum

open Json Reading

/-! ## Tidy documents -/

namespace Json

def isFloat : Json → Bool
  | float _ => true
  | _ => false

/-- Whether the value is an object with integer bounds that no integer lies between. -/
def isEmptyRange (value : Json) : Bool :=
  match value.get? "start", value.get? "end", value.get? "inclusive" with
  | some (int start), some (int stop), none => lastOf stop true < start
  | some (int start), some (int stop), some (bool inclusive) => lastOf stop inclusive < start
  | _, _, _ => false

/-- There are no doubles and no empty ranges anywhere in the document. -/
def Tidy (value : Json) : Prop :=
  ∀ part ∈ value.parts, part.isFloat = false ∧ part.isEmptyRange = false

variable {value : Json}

theorem tidy_arr_iff {items : List Json} : Tidy (.arr items) ↔ ∀ item ∈ items, item.Tidy := by
  have here : isFloat (.arr items) = false ∧ isEmptyRange (.arr items) = false := ⟨rfl, rfl⟩
  exact forall_parts_arr.trans (and_iff_right here)

theorem tidy_obj_iff {fields : Members} :
    Tidy (.obj fields) ↔
      isEmptyRange (.obj fields) = false ∧ ∀ field ∈ fields, field.2.Tidy := by
  have here : isFloat (.obj fields) = false := rfl
  exact forall_parts_obj.trans (and_congr_left' (and_iff_right here))

namespace Tidy

theorem item {items : List Json} (tidy : Tidy (.arr items)) {item : Json}
    (member : item ∈ items) : item.Tidy :=
  tidy_arr_iff.mp tidy item member

theorem member {fields : Members} (tidy : Tidy (.obj fields)) {key : String} {member : Json}
    (found : lookup key fields = some member) : member.Tidy :=
  (tidy_obj_iff.mp tidy).2 _ (Dictionary.mem_of_find? found)

/-- Where there are no doubles, a contract means by an integer what a reader does. -/
theorem eq_int (tidy : value.Tidy) (isInteger : value.IsInteger) : ∃ n, value = .int n := by
  cases value with
  | int n => exact ⟨n, rfl⟩
  | float x => cases (tidy _ (mem_parts_self _)).1
  | _ => cases isInteger

end Tidy

end Json

/-! ## Readers that succeed -/

namespace Reading
variable {α β : Type}

def Succeeds (r : Reading α) : Prop := ∃ x, r = accepted x

theorem accepts_accepted {x : α} {P : α → Prop} : (accepted x).Accepts P ↔ P x := by
  simp [Accepts]

theorem succeeds_of_eq {r : Reading α} {x : α} (accepted : r = .accepted x) : r.Succeeds :=
  ⟨x, accepted⟩

theorem violations_eq_nil_iff {r : Reading α} : r.violations = [] ↔ r.Succeeds := by
  cases r <;> simp [violations, Succeeds]

theorem succeeds_map {f : α → β} {r : Reading α} :
    (f <$> r : Reading β).Succeeds ↔ r.Succeeds := by
  cases r <;> simp [Succeeds, Functor.map, map]

theorem succeeds_seq {f : Reading (α → β)} {r : Reading α} :
    (f <*> r : Reading β).Succeeds ↔ f.Succeeds ∧ r.Succeeds := by
  cases f <;> cases r <;> simp [Succeeds, Seq.seq, apply]

theorem succeeds_within {step : Step} {r : Reading α} :
    (r.within step).Succeeds ↔ r.Succeeds := by
  cases r <;> simp [Succeeds, within]

theorem succeeds_next {f : α → Reading β} {r : Reading α} :
    (r.next f).Succeeds ↔ r.Accepts fun x => (f x).Succeeds := by
  cases r <;> simp [Succeeds, Accepts, next]

theorem succeeds_ensure {input : Json} {reason? : α → Option String} {r : Reading α} :
    (r.ensure input reason?).Succeeds ↔ r.Accepts fun x => reason? x = none := by
  cases r with
  | accepted x => cases fault : reason? x <;> simp [Succeeds, Accepts, ensure, next, fail, fault]
  | refused first others => simp [Succeeds, Accepts, ensure, next]

theorem succeeds_object {type : String} {read : Members → Reading α} {value : Json} :
    (readObject type read value).Succeeds ↔
      ∃ fields, value = .obj fields ∧ (read fields).Succeeds := by
  cases value <;> simp [Succeeds, readObject, fail]

end Reading

/-- Every tidy document that is as demanded can be read. -/
def Suffices {α : Type} (demand : Json → Prop) (read : Json → Reading α) : Prop :=
  ∀ value : Json, value.Tidy → demand value → (read value).Succeeds

namespace Suffices
variable {α : Type} {demand : Json → Prop} {read : Json → Reading α}

section Fields
variable {key : String} {fields : Members} {d : α}

theorem required (enough : Suffices demand read) (tidy : Tidy (.obj fields))
    (has : Has key demand fields) : (Json.required key read fields).Succeeds := by
  obtain ⟨member, found, demanded⟩ := has
  rw [Json.required, found]
  exact succeeds_within.mpr (enough member (tidy.member found) demanded)

theorem optional (enough : Suffices demand read) (tidy : Tidy (.obj fields))
    (mayHave : MayHave key demand fields) : (Json.optional key d read fields).Succeeds := by
  unfold Json.optional
  cases found : lookup key fields with
  | none => exact ⟨d, rfl⟩
  | some member =>
      exact succeeds_within.mpr (enough member (tidy.member found) (mayHave member found))

end Fields

theorem nullable (enough : Suffices demand read) :
    Suffices (OrNull demand) (nullable read) := by
  intro value tidy demanded
  unfold Json.nullable
  split
  · exact ⟨none, rfl⟩
  · rename_i notNull
    rcases demanded with demanded | isNull
    · exact succeeds_map.mpr (enough value tidy demanded)
    · exact absurd isNull notNull

theorem readItems (enough : Suffices demand read) : ∀ (items : List Json) (n : Nat),
    (∀ item ∈ items, item.Tidy ∧ demand item) → (readItems read n items).Succeeds := by
  intro items
  induction items with
  | nil => exact fun _ _ => ⟨[], rfl⟩
  | cons item rest ih =>
      intro n each
      obtain ⟨⟨tidy, demanded⟩, others⟩ := List.forall_mem_cons.mp each
      refine succeeds_seq.mpr ⟨succeeds_map.mpr (succeeds_within.mpr ?_), ih (n + 1) others⟩
      exact enough item tidy demanded

theorem list (enough : Suffices demand read) : Suffices (IsList demand) (readList read) := by
  rintro value tidy ⟨items, rfl, each⟩
  exact enough.readItems items 0 fun item member => ⟨tidy.item member, each item member⟩

theorem fixedList (enough : Suffices demand read) :
    Suffices (IsList demand) (readFixedList read) := by
  rintro value tidy ⟨items, rfl, each⟩
  exact enough.readItems items 0 fun item member => ⟨tidy.item member, each item member⟩

end Suffices

/-! ## Items one by one -/

section Items
variable {α : Type} {read : Json → Reading α} {xs : List α}

theorem readItems_eq_accepted_iff : ∀ {items : List Json} {n : Nat} {xs : List α},
    readItems read n items = .accepted xs ↔
      List.Forall₂ (fun item x => read item = .accepted x) items xs := by
  intro items
  induction items with
  | nil =>
      intro n xs
      rw [List.forall₂_nil_left_iff]
      exact ⟨fun accepted => by cases accepted; rfl, fun empty => by rw [empty]; rfl⟩
  | cons item rest ih =>
      intro n xs
      rw [readItems, seq_eq_accepted, List.forall₂_cons_left_iff]
      constructor
      · rintro ⟨cons, tail, head, others, rfl⟩
        obtain ⟨x, first, rfl⟩ := map_eq_accepted.mp head
        exact ⟨x, tail, within_eq_accepted.mp first, ih.mp others, rfl⟩
      · rintro ⟨x, tail, first, others, rfl⟩
        exact ⟨_, tail, map_eq_accepted.mpr ⟨x, within_eq_accepted.mpr first, rfl⟩,
          ih.mpr others, rfl⟩

theorem nonempty_eq_accepted_iff {read : Json → Reading (List α)} {fault : Fault} {value : Json} :
    nonempty fault read value = .accepted xs ↔ read value = .accepted xs ∧ xs ≠ [] := by
  rw [nonempty, next_eq_accepted]
  constructor
  · rintro ⟨ys, found, checked⟩
    cases ys with
    | nil => cases checked
    | cons y rest =>
        cases checked
        exact ⟨found, List.cons_ne_nil y rest⟩
  · rintro ⟨found, some_⟩
    cases xs with
    | nil => contradiction
    | cons x rest => exact ⟨_, found, rfl⟩

end Items

namespace Suffices
variable {α : Type} {demand : Json → Prop} {read : Json → Reading α}

theorem nonemptyItems (enough : Suffices demand read) {items : List Json}
    (tidy : Tidy (.arr items)) (each : ∀ item ∈ items, demand item) (nonempty : items ≠ []) :
    ∃ xs, Json.readItems read 0 items = .accepted xs ∧ xs ≠ [] := by
  obtain ⟨xs, accepted⟩ :=
    enough.readItems items 0 fun item member => ⟨tidy.item member, each item member⟩
  refine ⟨xs, accepted, ?_⟩
  rintro rfl
  exact nonempty (List.forall₂_nil_right_iff.mp (readItems_eq_accepted_iff.mp accepted))

theorem nonemptyList (enough : Suffices demand read) {fault : Fault} :
    Suffices (IsNonemptyList demand) (nonempty fault (readList read)) := by
  rintro value tidy ⟨items, rfl, nonempty, each⟩
  obtain ⟨xs, accepted⟩ := enough.nonemptyItems tidy each nonempty
  exact ⟨xs, nonempty_eq_accepted_iff.mpr accepted⟩

theorem nonemptyFixedList (enough : Suffices demand read) {fault : Fault} :
    Suffices (IsNonemptyList demand) (nonempty fault (readFixedList read)) := by
  rintro value tidy ⟨items, rfl, nonempty, each⟩
  obtain ⟨xs, accepted⟩ := enough.nonemptyItems tidy each nonempty
  exact ⟨xs, nonempty_eq_accepted_iff.mpr accepted⟩

end Suffices

/-! ## Scalars -/

theorem suffices_text : Suffices IsText readText := by
  rintro value _ ⟨s, rfl⟩
  exact ⟨s, rfl⟩

theorem suffices_textOrNull : Suffices (OrNull IsText) (nullable readText) :=
  suffices_text.nullable

theorem suffices_nonemptyText : Suffices IsNonemptyText readNonemptyText := by
  rintro value _ ⟨s, rfl, nonempty⟩
  exact ⟨s, lossless_nonemptyText.complete s nonempty⟩

theorem suffices_integer : Suffices IsInteger readInteger := by
  intro value tidy isInteger
  obtain ⟨n, rfl⟩ := tidy.eq_int isInteger
  exact ⟨n, rfl⟩

theorem suffices_positive : Suffices IsPositive readPositive := by
  rintro value tidy ⟨notBelow, isInteger⟩
  obtain ⟨n, rfl⟩ := tidy.eq_int isInteger
  have positive : 1 ≤ n := Int.not_lt.mp (of_decide_eq_false notBelow)
  exact ⟨n, lossless_positive.complete n positive⟩

theorem suffices_truth : Suffices IsTruth readBoolean := by
  rintro value _ ⟨b, rfl⟩
  exact ⟨b, rfl⟩

theorem suffices_pointerWidth : Suffices IsPointerWidth readPointerWidth := by
  rintro value tidy ⟨width, equal⟩
  obtain ⟨n, rfl⟩ := tidy.eq_int (Contract.isInteger_of_isEqualTo equal)
  have same : n = width.toNat := of_decide_eq_true equal
  rw [same]
  exact ⟨width, lossless_pointerWidth.complete width trivial⟩

section Named
variable {α : Type} {name : α → String} {ofName? : String → Option α} {all : List α}

theorem suffices_named (found : ∀ x, ofName? (name x) = some x) :
    Suffices (IsName (all.map name)) (readNamed (all.map name) ofName?) := by
  rintro value _ ⟨s, listed, rfl⟩
  obtain ⟨x, _, rfl⟩ := List.mem_map.mp listed
  exact ⟨x, (lossless_named _ found).complete x trivial⟩

theorem suffices_literal (found : ∀ x, ofName? (name x) = some x) :
    Suffices (IsName (all.map name)) (readLiteral (all.map name) ofName?) := by
  rintro value _ ⟨s, listed, rfl⟩
  obtain ⟨x, _, rfl⟩ := List.mem_map.mp listed
  exact ⟨x, (lossless_literal _ found).complete x trivial⟩

end Named

end IntegerEnum
