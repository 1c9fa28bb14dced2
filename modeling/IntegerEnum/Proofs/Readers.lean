import IntegerEnum.Document.Scalar

/-! # Readers and writers that agree

A property that a document shares with its parts passes to what is read from it: `Yields` goes along
with each way of building a reader from others. A reader is lossless for a writer when it gives
every good value back from its document and accepts no other value. The readers of scalars are
lossless, and what is built from such readers is so too. What a reader of an object accepts is told
field by field by the rules of `Accepts`. -/
set_option autoImplicit false

namespace IntegerEnum

namespace Reading
variable {α β : Type} {P : β → Prop}

/-- The value is accepted, and has the property. -/
def Accepts (r : Reading α) (P : α → Prop) : Prop := ∃ x, r = accepted x ∧ P x

theorem eq_accepted_iff {r : Reading α} {x : α} : r = accepted x ↔ r.Accepts (· = x) := by
  simp [Accepts]

theorem accepts_map {f : α → β} {r : Reading α} :
    (f <$> r : Reading β).Accepts P ↔ r.Accepts fun x => P (f x) := by
  cases r <;> simp [Accepts, Functor.map, map]

theorem accepts_seq {f : Reading (α → β)} {r : Reading α} :
    (f <*> r : Reading β).Accepts P ↔ f.Accepts fun g => r.Accepts fun x => P (g x) := by
  cases f <;> cases r <;> simp [Accepts, Seq.seq, apply]

theorem accepts_next {f : α → Reading β} {r : Reading α} :
    (r.next f).Accepts P ↔ r.Accepts fun x => (f x).Accepts P := by
  cases r <;> simp [Accepts, next]

theorem accepts_ensure {input : Json} {reason? : β → Option String} {r : Reading β} :
    (r.ensure input reason?).Accepts P ↔ r.Accepts fun x => reason? x = none ∧ P x := by
  cases r with
  | accepted x => cases fault : reason? x <;> simp [Accepts, ensure, next, fail, fault]
  | refused first others => simp [Accepts, ensure, next]

theorem accepts_object {type : String} {read : Json.Members → Reading β} {p : Json} :
    (Json.readObject type read p).Accepts P ↔
      ∃ fields, p = .obj fields ∧ (read fields).Accepts P := by
  cases p <;> simp [Accepts, Json.readObject, fail]

theorem within_eq_accepted {step : Step} {r : Reading α} {x : α} :
    r.within step = accepted x ↔ r = accepted x := by
  cases r <;> simp [within]

theorem next_eq_accepted {f : α → Reading β} {r : Reading α} {y : β} :
    r.next f = accepted y ↔ ∃ x, r = accepted x ∧ f x = accepted y := by
  cases r <;> simp [next]

end Reading

open Json

/-! ## Parts of documents -/

namespace Json

mutual
/-- The value and everything inside it. -/
def parts : Json → List Json
  | arr items => arr items :: partsOfItems items
  | obj members => obj members :: partsOfMembers members
  | scalar => [scalar]

def partsOfItems : List Json → List Json
  | [] => []
  | item :: rest => item.parts ++ partsOfItems rest

def partsOfMembers : List (String × Json) → List Json
  | [] => []
  | (_, member) :: rest => member.parts ++ partsOfMembers rest
end

theorem mem_parts_self (value : Json) : value ∈ value.parts := by cases value <;> simp [parts]

theorem mem_partsOfItems {part : Json} {items : List Json} :
    part ∈ partsOfItems items ↔ ∃ item ∈ items, part ∈ item.parts := by
  induction items with
  | nil => simp [partsOfItems]
  | cons item rest ih => simp [partsOfItems, ih]

theorem mem_partsOfMembers {part : Json} {fields : Members} :
    part ∈ partsOfMembers fields ↔ ∃ field ∈ fields, part ∈ field.2.parts := by
  induction fields with
  | nil => simp [partsOfMembers]
  | cons field rest ih => simp [partsOfMembers, ih]

variable {P : Json → Prop}

theorem forall_parts_arr {items : List Json} :
    (∀ part ∈ parts (.arr items), P part) ↔
      P (.arr items) ∧ ∀ item ∈ items, ∀ part ∈ item.parts, P part := by
  simp only [parts, List.forall_mem_cons, mem_partsOfItems, forall_exists_index, and_imp]
  exact and_congr_right' ⟨fun each item member part => each part item member,
    fun each part item member => each item member part⟩

theorem forall_parts_obj {fields : Members} :
    (∀ part ∈ parts (.obj fields), P part) ↔
      P (.obj fields) ∧ ∀ field ∈ fields, ∀ part ∈ field.2.parts, P part := by
  simp only [parts, List.forall_mem_cons, mem_partsOfMembers, forall_exists_index, and_imp]
  exact and_congr_right' ⟨fun each field member part => each part field member,
    fun each part field member => each field member part⟩

end Json

/-! ## What readers yield -/

/-- A property of documents that their members and items have as well. -/
structure Hereditary (From : Json → Prop) : Prop where
  member : ∀ {fields key value}, From (.obj fields) → lookup key fields = some value → From value
  item : ∀ {items item}, From (.arr items) → item ∈ items → From item

/-- What is read from a document of that property is good. -/
def Yields {α : Type} (From : Json → Prop) (read : Json → Reading α) (Good : α → Prop) : Prop :=
  ∀ p x, From p → read p = .accepted x → Good x

namespace Yields
variable {α : Type} {From : Json → Prop} {read : Json → Reading α} {Good : α → Prop}

section Fields
variable {key : String} {fields : Members} {absent x : α}

theorem required (yields : Yields From read Good) (passes : Hereditary From)
    (whole : From (.obj fields)) (accepted : Json.required key read fields = .accepted x) :
    Good x := by
  unfold Json.required at accepted
  cases found : lookup key fields with
  | none =>
      rw [found] at accepted
      cases accepted
  | some value =>
      rw [found] at accepted
      exact yields value x (passes.member whole found) (Reading.within_eq_accepted.mp accepted)

theorem optional (yields : Yields From read Good) (passes : Hereditary From)
    (whole : From (.obj fields)) (accepted : Json.optional key absent read fields = .accepted x)
    (byDefault : Good absent) : Good x := by
  unfold Json.optional at accepted
  cases found : lookup key fields with
  | none =>
      rw [found] at accepted
      cases accepted
      exact byDefault
  | some value =>
      rw [found] at accepted
      exact yields value x (passes.member whole found) (Reading.within_eq_accepted.mp accepted)

end Fields

theorem nullable (yields : Yields From read Good) :
    Yields From (Json.nullable read) fun o => ∀ x ∈ o, Good x := by
  intro p o whole accepted
  unfold Json.nullable at accepted
  split at accepted
  · cases accepted
    nofun
  · obtain ⟨x, found, rfl⟩ := Reading.map_eq_accepted.mp accepted
    rintro _ ⟨⟩
    exact yields p x whole found

theorem items (yields : Yields From read Good) : ∀ (items : List Json) (n : Nat) (xs : List α),
    (∀ item ∈ items, From item) → readItems read n items = .accepted xs → ∀ x ∈ xs, Good x := by
  intro items
  induction items with
  | nil =>
      intro n xs _ accepted
      cases accepted
      nofun
  | cons item rest ih =>
      intro n xs each accepted
      obtain ⟨first, others⟩ := List.forall_mem_cons.mp each
      obtain ⟨cons, tail, head, readTail, rfl⟩ := Reading.seq_eq_accepted.mp accepted
      obtain ⟨x, readHead, rfl⟩ := Reading.map_eq_accepted.mp head
      refine List.forall_mem_cons.mpr ⟨?_, ih (n + 1) tail others readTail⟩
      exact yields item x first (Reading.within_eq_accepted.mp readHead)

theorem list (yields : Yields From read Good) (passes : Hereditary From) :
    Yields From (readList read) fun xs => ∀ x ∈ xs, Good x := by
  intro p xs whole accepted
  cases p with
  | arr items => exact yields.items items 0 xs (fun _ => passes.item whole) accepted
  | _ => cases accepted

theorem fixedList (yields : Yields From read Good) (passes : Hereditary From) :
    Yields From (readFixedList read) fun xs => ∀ x ∈ xs, Good x := by
  intro p xs whole accepted
  cases p with
  | arr items => exact yields.items items 0 xs (fun _ => passes.item whole) accepted
  | _ => cases accepted

theorem nonempty {read : Json → Reading (List α)} {Good : List α → Prop}
    (yields : Yields From read Good) (fault : Fault) :
    Yields From (Json.nonempty fault read) fun xs => Good xs ∧ xs ≠ [] := by
  intro p xs whole accepted
  obtain ⟨ys, readItems, checked⟩ := Reading.next_eq_accepted.mp accepted
  cases ys with
  | nil => cases checked
  | cons y rest =>
      cases checked
      exact ⟨yields p _ whole readItems, List.cons_ne_nil y rest⟩

end Yields

/-! ## Lossless readers -/

/-- Every good value is given back from its document, and nothing else is ever accepted. -/
structure Lossless {α : Type} (read : Json → Reading α) (write : α → Json) (Good : α → Prop) :
    Prop where
  complete : ∀ x, Good x → read (write x) = .accepted x
  sound : ∀ p x, read p = .accepted x → Good x

namespace Lossless
variable {α : Type} {read : Json → Reading α} {write : α → Json} {Good : α → Prop}

theorem hereditary_any : Hereditary fun _ => True := ⟨fun _ _ => trivial, fun _ _ => trivial⟩

theorem yields (codec : Lossless read write Good) : Yields (fun _ => True) read Good :=
  fun p x _ accepted => codec.sound p x accepted

theorem read_back (codec : Lossless read write Good) {p : Json} {x : α}
    (accepted : read p = .accepted x) : read (write x) = .accepted x :=
  codec.complete x (codec.sound p x accepted)

section Fields
variable {key : String} {fields : Members} {absent x : α}

theorem required (codec : Lossless read write Good) (found : lookup key fields = some (write x))
    (good : Good x) : Json.required key read fields = .accepted x := by
  rw [Json.required, found]
  exact Reading.within_eq_accepted.mpr (codec.complete x good)

theorem optional (codec : Lossless read write Good) (found : lookup key fields = some (write x))
    (good : Good x) : Json.optional key absent read fields = .accepted x := by
  rw [Json.optional, found]
  exact Reading.within_eq_accepted.mpr (codec.complete x good)

theorem good_of_required (codec : Lossless read write Good)
    (accepted : Json.required key read fields = .accepted x) : Good x :=
  codec.yields.required hereditary_any trivial accepted

theorem good_of_optional (codec : Lossless read write Good)
    (accepted : Json.optional key absent read fields = .accepted x) (byDefault : Good absent) :
    Good x :=
  codec.yields.optional hereditary_any trivial accepted byDefault

end Fields

/-- A value never looks like an absent one, so both can be told apart. -/
theorem nullable (codec : Lossless read write Good) (present : ∀ x, write x ≠ .null) :
    Lossless (Json.nullable read) (ofOption write) fun o => ∀ x ∈ o, Good x where
  complete o good := by
    cases o with
    | none => rfl
    | some x =>
        have accepted := codec.complete x (good x rfl)
        unfold Json.nullable ofOption
        split
        · rename_i isNull
          exact absurd isNull (present x)
        · rw [accepted]
          rfl
  sound p o accepted := codec.yields.nullable p o trivial accepted

theorem nullable_total (codec : Lossless read write fun _ => True)
    (present : ∀ x, write x ≠ .null) :
    Lossless (Json.nullable read) (ofOption write) fun _ => True where
  complete o _ := (codec.nullable present).complete o fun _ _ => trivial
  sound _ _ _ := trivial

theorem readItems_complete (codec : Lossless read write Good) : ∀ (xs : List α) (n : Nat),
    (∀ x ∈ xs, Good x) → readItems read n (xs.map write) = .accepted xs := by
  intro xs
  induction xs with
  | nil => intro n _; rfl
  | cons x rest ih =>
      intro n good
      have head := codec.complete x (good x List.mem_cons_self)
      have tail := ih (n + 1) fun y member => good y (List.mem_cons_of_mem x member)
      rw [List.map_cons, readItems, head, tail]
      rfl

theorem list (codec : Lossless read write Good) :
    Lossless (readList read) (fun xs => .arr (xs.map write)) fun xs => ∀ x ∈ xs, Good x where
  complete xs good := codec.readItems_complete xs 0 good
  sound p xs accepted := codec.yields.list hereditary_any p xs trivial accepted

theorem fixedList (codec : Lossless read write Good) :
    Lossless (readFixedList read) (fun xs => .arr (xs.map write)) fun xs => ∀ x ∈ xs, Good x where
  complete xs good := codec.readItems_complete xs 0 good
  sound p xs accepted := codec.yields.fixedList hereditary_any p xs trivial accepted

end Lossless

theorem Lossless.nonempty {α : Type} {read : Json → Reading (List α)} {write : List α → Json}
    {Good : List α → Prop} (codec : Lossless read write Good) (fault : Fault) :
    Lossless (Json.nonempty fault read) write fun xs => Good xs ∧ xs ≠ [] where
  complete xs good := by
    obtain ⟨good, nonempty⟩ := good
    rw [Json.nonempty, codec.complete xs good]
    cases xs with
    | nil => contradiction
    | cons x rest => rfl
  sound p xs accepted := codec.yields.nonempty fault p xs trivial accepted

/-! ## Scalars -/

theorem lossless_text : Lossless readText .str fun _ => True where
  complete _ _ := rfl
  sound _ _ _ := trivial

theorem lossless_textOrNull : Lossless (nullable readText) (ofOption .str) fun _ => True :=
  lossless_text.nullable_total nofun

theorem lossless_nonemptyText : Lossless readNonemptyText .str (· ≠ "") where
  complete s nonempty := if_neg nonempty
  sound p s accepted := by
    obtain ⟨t, _, checked⟩ := Reading.next_eq_accepted.mp accepted
    by_cases empty : t = ""
    · rw [if_pos empty] at checked
      cases checked
    · rw [if_neg empty] at checked
      cases checked
      exact empty

theorem lossless_integer : Lossless readInteger .int fun _ => True where
  complete _ _ := rfl
  sound _ _ _ := trivial

theorem lossless_positive : Lossless readPositive .int (1 ≤ ·) where
  complete n positive := if_pos positive
  sound p n accepted := by
    obtain ⟨k, _, checked⟩ := Reading.next_eq_accepted.mp accepted
    by_cases positive : 1 ≤ k
    · rw [if_pos positive] at checked
      cases checked
      exact positive
    · rw [if_neg positive] at checked
      cases checked

theorem lossless_boolean : Lossless readBoolean .bool fun _ => True where
  complete _ _ := rfl
  sound _ _ _ := trivial

section Named
variable {α : Type} {name : α → String} {ofName? : String → Option α} (names : List String)

theorem lossless_named (found : ∀ x, ofName? (name x) = some x) :
    Lossless (readNamed names ofName?) (fun x => .str (name x)) fun _ => True where
  complete x _ := by rw [readNamed, found]
  sound _ _ _ := trivial

theorem lossless_literal (found : ∀ x, ofName? (name x) = some x) :
    Lossless (readLiteral names ofName?) (fun x => .str (name x)) fun _ => True where
  complete x _ := by rw [readLiteral, found]
  sound _ _ _ := trivial

end Named

theorem lossless_pointerWidth :
    Lossless readPointerWidth (fun width => .int width.toNat) fun _ => True where
  complete width _ := by cases width <;> rfl
  sound _ _ _ := trivial

end IntegerEnum
