/-! # Dictionaries

Keys with their values, in the order in which the keys first came. A key that is put again keeps its
place and takes the new value. -/
set_option autoImplicit false

namespace IntegerEnum

abbrev Dictionary (κ α : Type) := List (κ × α)

namespace Dictionary
variable {κ α : Type} [DecidableEq κ]

def find? (key : κ) : Dictionary κ α → Option α
  | [] => none
  | (k, v) :: rest => if k = key then some v else find? key rest

def put (key : κ) (value : α) : Dictionary κ α → Dictionary κ α
  | [] => [(key, value)]
  | (k, v) :: rest => if k = key then (key, value) :: rest else (k, v) :: put key value rest

variable {key other : κ} {value : α}

@[simp] theorem find?_put_self : ∀ d : Dictionary κ α, find? key (put key value d) = some value
  | [] => by simp [put, find?]
  | (k, v) :: rest => by
    by_cases same : k = key
    · simp [put, find?, same]
    · simp [put, find?, same, find?_put_self rest]

theorem find?_put_of_ne (ne : key ≠ other) :
    ∀ d : Dictionary κ α, find? other (put key value d) = find? other d
  | [] => by simp [put, find?, ne]
  | (k, v) :: rest => by
    by_cases same : k = key
    · subst same
      simp [put, find?, ne]
    · simp [put, find?, same, find?_put_of_ne ne rest]

theorem find?_isSome_iff : ∀ {d : Dictionary κ α}, (find? key d).isSome ↔ key ∈ d.map Prod.fst
  | [] => by simp [find?]
  | (k, v) :: rest => by
    by_cases same : k = key
    · simp [find?, same]
    · simpa [find?, same, Ne.symm same] using find?_isSome_iff (d := rest)

theorem put_of_find? : ∀ {d : Dictionary κ α}, find? key d = some value → put key value d = d
  | [], found => by cases found
  | (k, v) :: rest, found => by
    by_cases same : k = key
    · subst same
      have equal : v = value := by simpa [find?] using found
      rw [put, if_pos rfl, equal]
    · have later : find? key rest = some value := by simpa [find?, same] using found
      rw [put, if_neg same, put_of_find? later]

/-- A new key comes last. -/
theorem put_of_not_mem : ∀ {d : Dictionary κ α}, key ∉ d.map Prod.fst →
    put key value d = d ++ [(key, value)]
  | [], _ => rfl
  | (k, v) :: rest, fresh => by
    obtain ⟨ne, later⟩ := not_or.mp (mt List.mem_cons.mpr fresh)
    rw [put, if_neg (Ne.symm ne), put_of_not_mem later]
    rfl

theorem mem_put {entry : κ × α} : ∀ {d : Dictionary κ α}, entry ∈ put key value d →
    entry = (key, value) ∨ entry ∈ d
  | [], member => Or.inl (List.mem_singleton.mp member)
  | (k, v) :: rest, member => by
    by_cases same : k = key
    · rw [put, if_pos same] at member
      exact (List.mem_cons.mp member).imp_right (List.mem_cons_of_mem _)
    · rw [put, if_neg same] at member
      rcases List.mem_cons.mp member with first | later
      · exact Or.inr (first ▸ List.mem_cons_self)
      · exact (mem_put later).imp_right (List.mem_cons_of_mem _)

theorem mem_of_find? : ∀ {d : Dictionary κ α}, find? key d = some value → (key, value) ∈ d
  | [], found => by cases found
  | (k, v) :: rest, found => by
    by_cases same : k = key
    · subst same
      have equal : v = value := by simpa [find?] using found
      simp [equal]
    · have later : find? key rest = some value := by simpa [find?, same] using found
      exact List.mem_cons_of_mem _ (mem_of_find? later)

end Dictionary

end IntegerEnum
