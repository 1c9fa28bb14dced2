import IntegerEnum.Files

/-! # Files in a folder

Where paths lead and what a change of one file leaves as it is. A path that leads somewhere still
leads there as long as all folders stay, so writing a file over a file or into a free place moves
nothing. A folder lists the names under which something lies in it. -/
set_option autoImplicit false

namespace IntegerEnum

namespace Tree
variable {t t' : Tree} {folder path : Path} {place : Place} {name text : String}

/-! ## Nodes -/

theorem node?_eq_find? (ne : place ≠ []) : t.node? place = t.nodes.find? place := by
  cases place with
  | nil => exact absurd rfl ne
  | cons name rest => rfl

theorem node?_put_self (node : Node) (ne : place ≠ []) :
    (t.put place node).node? place = some node := by
  rw [node?_eq_find? ne]
  exact Dictionary.find?_put_self t.nodes

theorem node?_put_of_ne {other : Place} (node : Node) (ne : place ≠ other) :
    (t.put place node).node? other = t.node? other := by
  cases other with
  | nil => rfl
  | cons name rest => exact Dictionary.find?_put_of_ne ne t.nodes

/-- Putting a node where it lies already changes nothing. -/
theorem put_of_node? {node : Node} (ne : place ≠ []) (found : t.node? place = some node) :
    t.put place node = t := by
  rw [node?_eq_find? ne] at found
  rw [put, Dictionary.put_of_find? found]

/-! ## Places -/

theorem locateFrom_append : ∀ (names more : List String) (start : Place),
    t.locateFrom start (names ++ more) =
      (t.locateFrom start names).bind fun place => t.locateFrom place more := by
  intro names more
  induction names with
  | nil => intro start; rfl
  | cons name rest ih =>
      intro start
      simp only [List.cons_append, locateFrom]
      split
      · rfl
      · rfl
      · exact ih _

theorem locate_child (located : t.locate folder = .ok place)
    (isFolder : t.node? place = some .folder) (inside : name ≠ "..") :
    t.locate (folder.child name) = .ok (place ++ [name]) := by
  have start : t.locateFrom (t.start folder.root) folder.names = .ok place := located
  simp [locate, Path.child, locateFrom_append, start, Except.bind, locateFrom, isFolder, inside]

theorem locateFrom_of_kept (kept : ∀ q, t.node? q = some .folder → t'.node? q = some .folder) :
    ∀ (names : List String) (start : Place), t.locateFrom start names = .ok place →
      t'.locateFrom start names = .ok place := by
  intro names
  induction names with
  | nil => exact fun start located => located
  | cons name rest ih =>
      intro start located
      cases node : t.node? start with
      | none => simp [locateFrom, node] at located
      | some here =>
        cases here with
        | file text => simp [locateFrom, node] at located
        | folder =>
          -- every node on the way is a folder, so each step is the same in both trees
          simp only [locateFrom, node, kept start node] at located ⊢
          exact ih _ located

theorem locate_of_kept (sameHere : t'.here = t.here)
    (kept : ∀ q, t.node? q = some .folder → t'.node? q = some .folder)
    (located : t.locate path = .ok place) : t'.locate path = .ok place := by
  have sameStart : t'.start path.root = t.start path.root := by
    cases path.root with
    | here => exact sameHere
    | top => rfl
    | twoSlashes => rfl
  rw [locate, sameStart]
  exact locateFrom_of_kept kept path.names _ located

/-- A file is never written over a folder, so all folders stay. -/
theorem folder_of_put (text : String) (free : t.node? place ≠ some .folder) {q : Place}
    (isFolder : t.node? q = some .folder) :
    (t.put place (.file text)).node? q = some .folder := by
  have ne : place ≠ q := by
    rintro rfl
    exact free isFolder
  rw [node?_put_of_ne _ ne, isFolder]

/-! ## Folders -/

theorem isFolder_iff : t.isFolder path = true ↔
    ∃ place, t.locate path = .ok place ∧ t.node? place = some .folder := by
  unfold isFolder at?
  cases t.locate path <;> simp

theorem nameIn_eq_some {entry : Place} :
    nameIn place entry = some name ↔ entry = place ++ [name] := by
  constructor
  · intro named
    unfold nameIn at named
    split at named
    · rename_i inside
      obtain ⟨before, rfl⟩ := List.getLast?_eq_some_iff.mp named
      rw [List.dropLast_concat] at inside
      rw [inside]
    · cases named
  · rintro rfl
    simp [nameIn]

theorem mem_names : name ∈ t.names place ↔ (t.node? (place ++ [name])).isSome := by
  rw [node?_eq_find? (by simp), Dictionary.find?_isSome_iff, names, List.mem_filterMap]
  constructor
  · rintro ⟨entry, listed, named⟩
    rw [← nameIn_eq_some.mp named]
    exact List.mem_map_of_mem listed
  · intro listed
    obtain ⟨entry, found, equal⟩ := List.mem_map.mp listed
    exact ⟨entry, found, nameIn_eq_some.mpr equal⟩

theorem ensureFolder_of_isFolder (isThere : t.isFolder folder = true) :
    t.ensureFolder folder = .ok t := by
  obtain ⟨place, located, found⟩ := isFolder_iff.mp isThere
  have taken : t.addFolder folder = .error .taken := by
    simp [addFolder, located, found]
  have last : t.ensureLast folder = .ok t := by
    simp [ensureLast, taken, isThere]
  obtain ⟨root, names⟩ := folder
  unfold ensureFolder
  cases up : names.reverse with
  | nil =>
      obtain rfl := List.reverse_eq_nil_iff.mp up
      exact last
  | cons name rest =>
      obtain rfl := List.reverse_eq_iff.mp up
      simp only [ensureUp, taken]
      exact last

theorem filterMap_nameIn_put (node : Node) (nodes : Dictionary Place Node) :
    (nodes.put (place ++ [name]) node).filterMap (fun entry => nameIn place entry.1) =
      if name ∈ nodes.filterMap (fun entry => nameIn place entry.1)
      then nodes.filterMap fun entry => nameIn place entry.1
      else nodes.filterMap (fun entry => nameIn place entry.1) ++ [name] := by
  have own : nameIn place (place ++ [name]) = some name := nameIn_eq_some.mpr rfl
  induction nodes with
  | nil => simp [Dictionary.put, own]
  | cons entry rest ih =>
      obtain ⟨other, old⟩ := entry
      by_cases same : other = place ++ [name]
      · subst same
        simp [Dictionary.put, own]
      · have unnamed : nameIn place other ≠ some name := fun named => same (nameIn_eq_some.mp named)
        rw [Dictionary.put, if_neg same]
        cases here : nameIn place other with
        | none => simp only [List.filterMap_cons, here, ih]
        | some found =>
            have differs : name ≠ found := fun equal => unnamed (by rw [here, equal])
            simp only [List.filterMap_cons, here, ih, List.mem_cons, differs, false_or]
            split
            · rfl
            · rfl

theorem names_put (node : Node) :
    (t.put (place ++ [name]) node).names place =
      if name ∈ t.names place then t.names place else t.names place ++ [name] :=
  filterMap_nameIn_put node t.nodes

/-! ## Folders of texts -/

/-- A path and the place of the folder it leads to. Everything in the folder is a file, under a name
of its own, with line feeds for its only line endings. -/
structure TextFolder (t : Tree) (folder : Path) (place : Place) : Prop where
  located : t.locate folder = .ok place
  isThere : t.node? place = some .folder
  distinct : (t.names place).Nodup
  texts : ∀ name ∈ t.names place,
    ∃ text, t.node? (place ++ [name]) = some (.file text) ∧ '\r' ∉ text.toList

namespace TextFolder

theorem list_eq (folderOf : t.TextFolder folder place) : t.list folder = t.names place := by
  simp [list, folderOf.located, folderOf.isThere]

theorem nodup_list (folderOf : t.TextFolder folder place) : (t.list folder).Nodup :=
  folderOf.list_eq ▸ folderOf.distinct

theorem isFolder (folderOf : t.TextFolder folder place) : t.isFolder folder = true :=
  isFolder_iff.mpr ⟨place, folderOf.located, folderOf.isThere⟩

/-- What is found under a name, if anything, is a text. -/
theorem node?_cases (folderOf : t.TextFolder folder place) (name : String) :
    t.node? (place ++ [name]) = none ∨
      ∃ text, t.node? (place ++ [name]) = some (.file text) ∧ '\r' ∉ text.toList := by
  cases found : t.node? (place ++ [name]) with
  | none => exact Or.inl rfl
  | some node =>
      obtain ⟨text, isText, plain⟩ := folderOf.texts name (mem_names.mpr (by simp [found]))
      exact Or.inr ⟨text, found.symm.trans isText, plain⟩

theorem not_folder (folderOf : t.TextFolder folder place) (name : String) :
    t.node? (place ++ [name]) ≠ some .folder := by
  rcases folderOf.node?_cases name with found | ⟨text, found, _⟩ <;> simp [found]

theorem locate_child (folderOf : t.TextFolder folder place) (inside : name ≠ "..") :
    t.locate (folder.child name) = .ok (place ++ [name]) :=
  Tree.locate_child folderOf.located folderOf.isThere inside

theorem read_child (folderOf : t.TextFolder folder place) (inside : name ≠ "..") :
    t.read (folder.child name) = .ok text ↔ t.node? (place ++ [name]) = some (.file text) := by
  simp only [read, folderOf.locate_child inside]
  rcases folderOf.node?_cases name with found | ⟨other, found, _⟩ <;> simp [found]

/-- A name is listed when a text can be read under it. -/
theorem mem_list (folderOf : t.TextFolder folder place) (inside : name ≠ "..") :
    name ∈ t.list folder ↔ ∃ text, t.read (folder.child name) = .ok text := by
  simp only [folderOf.list_eq, mem_names, folderOf.read_child inside]
  rcases folderOf.node?_cases name with found | ⟨text, found, _⟩ <;> simp [found]

theorem write_child (folderOf : t.TextFolder folder place) (inside : name ≠ "..") (text : String) :
    t.write (folder.child name) text = .ok (t.put (place ++ [name]) (.file text)) := by
  simp only [write, folderOf.locate_child inside, if_neg (folderOf.not_folder name)]

/-- Writing a text into the folder keeps it a folder of texts. -/
theorem put (folderOf : t.TextFolder folder place) (plain : '\r' ∉ text.toList) :
    (t.put (place ++ [name]) (.file text)).TextFolder folder place := by
  have kept := fun q => folder_of_put (q := q) text (folderOf.not_folder name)
  refine ⟨locate_of_kept (t := t) rfl kept folderOf.located, kept place folderOf.isThere, ?_, ?_⟩
  · rw [names_put]
    split
    · exact folderOf.distinct
    · rename_i fresh
      refine List.nodup_append.mpr ⟨folderOf.distinct, by simp, ?_⟩
      rintro a listed b added rfl
      exact fresh (List.mem_singleton.mp added ▸ listed)
  · intro other listed
    by_cases same : other = name
    · rw [same]
      exact ⟨text, node?_put_self _ (by simp), plain⟩
    · have ne : place ++ [name] ≠ place ++ [other] := by
        simpa using Ne.symm same
      rw [mem_names, node?_put_of_ne _ ne, ← mem_names] at listed
      rw [node?_put_of_ne _ ne]
      exact folderOf.texts other listed

end TextFolder

end Tree

end IntegerEnum
