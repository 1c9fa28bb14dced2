import IntegerEnum.CommandLine.Invocation
import IntegerEnum.Proofs.Documents

/-! # Selections of a grammar

Every switch that a command line sets is one of its grammar, with a value that is one of its
choices. One word keeps this so, whatever stance it is met in, and so do all words. Hence no value
given for a family is lost when the values are read as families. -/
set_option autoImplicit false

namespace IntegerEnum

namespace CommandLine

/-- What every step keeps and the start has, the end of a run has. -/
theorem foldlM_keeps {α β ε : Type} {step : β → α → Except ε β} {Holds : β → Prop} :
    ∀ {xs : List α}, (∀ x ∈ xs, ∀ b b', Holds b → step b x = .ok b' → Holds b') →
      ∀ {b b' : β}, Holds b → xs.foldlM step b = .ok b' → Holds b' := by
  intro xs
  induction xs with
  | nil =>
      intro _ b b' start run
      cases run
      exact start
  | cons x rest ih =>
      intro keeps b b' start run
      rw [List.foldlM_cons] at run
      cases first : step b x with
      | error stop => simp [first, bind, Except.bind] at run
      | ok next =>
          simp only [first, bind, Except.bind] at run
          exact ih (fun y member => keeps y (List.mem_cons_of_mem x member))
            (keeps x List.mem_cons_self b next start first) run

theorem exists_of_map_eq_ok {α β ε : Type} {f : α → β} {b : β} :
    ∀ {outcome : Except ε α}, outcome.map f = .ok b → ∃ a, outcome = .ok a ∧ f a = b
  | .ok a, success => ⟨a, rfl, Except.ok.inj success⟩

variable {g : Grammar} {s : Switch}

/-! ## Words -/

theorem Grammar.mem_switches_of_spelling {spelling : String}
    (listed : (spelling, s) ∈ g.spellings) : s ∈ g.switches := by
  obtain ⟨own, member, spelled⟩ := List.mem_flatMap.mp listed
  obtain ⟨_, _, same⟩ := List.mem_map.mp spelled
  cases same
  exact member

theorem Grammar.mem_switches_of_switch? {spelling : String} (found : g.switch? spelling = some s) :
    s ∈ g.switches := by
  obtain ⟨before, after, split, _⟩ := List.lookup_eq_some_iff.mp found
  have listed : (spelling, s) ∈ g.spellings := by
    rw [split]
    simp
  exact mem_switches_of_spelling listed

namespace Word

/-- A switch that a word is read as is one of the grammar. -/
def Known (g : Grammar) : Word → Prop
  | switch _ found => found.switch ∈ g.switches
  | _ => True

theorem mem_of_spelledOut? {cs : List Char} {found : Found}
    (spelled : spelledOut? g cs = some found) : found.switch ∈ g.switches := by
  unfold spelledOut? at spelled
  split at spelled
  · rename_i whole
    cases spelled
    exact Grammar.mem_switches_of_switch? whole
  · obtain ⟨own, start, rfl⟩ := Option.map_eq_some_iff.mp spelled
    exact Grammar.mem_switches_of_switch? start

theorem mem_of_candidate {cs : List Char} {entry : String × Found}
    (listed : entry ∈ candidates g cs) : entry.2.switch ∈ g.switches := by
  have filtered : ∀ {keep : String × Switch → Bool} {find : String × Switch → String × Found},
      (∀ spelled, (find spelled).2.switch = spelled.2) →
        entry ∈ (g.spellings.filter keep).map find → entry.2.switch ∈ g.switches := by
    intro keep find same member
    obtain ⟨own, kept, rfl⟩ := List.mem_map.mp member
    rw [same]
    exact Grammar.mem_switches_of_spelling (List.mem_filter.mp kept).1
  unfold candidates at listed
  split at listed
  · exact filtered (fun _ => rfl) listed
  · exact filtered (fun _ => rfl) listed

theorem known_of_classify {word : String} {w : Word} (read : classify g word = .ok w) :
    w.Known g := by
  unfold classify at read
  split at read
  · unfold classifyHyphened at read
    dsimp only at read
    split at read
    · rename_i spelled
      cases read
      exact mem_of_spelledOut? spelled
    · rename_i spelling found _ only
      cases read
      exact mem_of_candidate (only ▸ List.mem_singleton_self (spelling, found))
    · cases read
      split <;> trivial
    · cases read
  · cases read
    trivial

theorem known_of_classifyAll : ∀ {words : List String} {ws : List Word},
    classifyAll g words = .ok ws → ∀ w ∈ ws, w.Known g := by
  intro words
  induction words with
  | nil =>
      intro ws read
      cases read
      exact nofun
  | cons word rest ih =>
      intro ws read w member
      rw [classifyAll] at read
      split at read
      · -- Behind the mark there are only operands.
        cases read
        rcases List.mem_cons.mp member with rfl | later
        · trivial
        · obtain ⟨text, _, rfl⟩ := List.mem_map.mp later
          trivial
      · cases first : classify g word with
        | error problem => simp [first] at read
        | ok head =>
            simp only [first] at read
            obtain ⟨tail, others, rfl⟩ := exists_of_map_eq_ok read
            rcases List.mem_cons.mp member with rfl | later
            · exact known_of_classify first
            · exact ih others w later

end Word

/-! ## Steps -/

/-- A setting of a switch of the grammar, with one of its choices if it has any. -/
structure Setting.Fits (g : Grammar) (setting : Setting) : Prop where
  known : setting.switch ∈ g.switches
  chosen : setting.choiceProblem? = none

def Selection.Fits (g : Grammar) (i : Selection) : Prop := ∀ setting ∈ i.settings, setting.Fits g

/-- What stands after some words: the settings fit, and a value is awaited by a known switch. -/
structure Progress.Fits (g : Grammar) (progress : Progress) : Prop where
  settings : progress.1.Fits g
  awaiting : ∀ s, progress.2 = .awaiting s → s ∈ g.switches

theorem Selection.Fits.set {i i' : Selection} (fits : i.Fits g) {setting : Setting}
    (known : setting.switch ∈ g.switches) (success : i.set g setting = .ok i') : i'.Fits g := by
  unfold Selection.set at success
  split at success
  · cases success
  · cases success
  · cases success
  · cases success
  · rename_i chosen _ _ _
    cases success
    intro other member
    rcases List.mem_append.mp member with earlier | added
    · exact fits other earlier
    · rw [List.mem_singleton.mp added]
      exact ⟨known, chosen⟩

/-- The switches of a group are of the grammar. -/
structure Group.Known (g : Grammar) (group : Group) : Prop where
  settings : ∀ setting ∈ group.settings, setting.switch ∈ g.switches
  awaiting : ∀ s, group.open? = some s → s ∈ g.switches

theorem Group.Known.single {value : Option String} {unknown : Option String}
    (known : s ∈ g.switches) : Group.Known g { settings := [⟨s, value⟩], unknown := unknown } where
  settings setting member := by rwa [List.mem_singleton.mp member]
  awaiting := nofun

theorem known_of_groupOf : ∀ {tail : List Char} {s : Switch} {group : Group}, s ∈ g.switches →
    groupOf g s tail = .ok group → group.Known g := by
  intro tail
  induction tail with
  | nil =>
      intro s group known read
      rw [groupOf] at read
      cases read
      split
      · exact ⟨nofun, fun awaited same => by cases same; exact known⟩
      · exact .single known
  | cons c rest ih =>
      intro s group known read
      by_cases equals : c = '='
      · subst equals
        rw [groupOf] at read
        split at read
        · cases read
          exact .single known
        · cases read
      · rw [groupOf.eq_3 g s c rest equals] at read
        split at read
        · cases read
          exact .single known
        · split at read
          · cases read
          · split at read
            · cases read
              exact .single known
            · -- The next letter is a switch of its own, and the rest is the group of that one.
              rename_i next found
              obtain ⟨others, later, rfl⟩ := exists_of_map_eq_ok read
              have knownLater := ih (Grammar.mem_switches_of_switch? found) later
              refine ⟨fun setting member => ?_, knownLater.awaiting⟩
              rcases List.mem_cons.mp member with rfl | member
              · exact known
              · exact knownLater.settings setting member

theorem Selection.Fits.takeGroup {i : Selection} {group : Group} {progress : Progress}
    (fits : i.Fits g) (known : group.Known g) (success : takeGroup g i group = .ok progress) :
    progress.Fits g := by
  obtain ⟨final, run, rfl⟩ := exists_of_map_eq_ok success
  constructor
  · refine foldlM_keeps (fun setting member b b' fits step =>
      fits.set (known.settings setting member) step) ?_ run
    split <;> exact fits
  · intro s awaited
    dsimp only at awaited
    split at awaited
    · cases awaited
    · rename_i opened
      cases awaited
      exact known.awaiting _ opened

theorem Selection.Fits.takeSwitch {i : Selection} {found : Found} {progress : Progress}
    (fits : i.Fits g) (known : found.switch ∈ g.switches)
    (success : takeSwitch g i found = .ok progress) : progress.Fits g := by
  unfold CommandLine.takeSwitch at success
  split at success
  · cases success
  · rename_i read
    exact fits.takeGroup (known_of_groupOf known read) success

theorem Selection.Fits.takeOperand {i : Selection} {stance : Stance} {text : String}
    {progress : Progress} (fits : i.Fits g)
    (success : takeOperand g i stance text = .ok progress) : progress.Fits g := by
  unfold CommandLine.takeOperand at success
  split at success
  · cases success
    exact ⟨fits, nofun⟩
  · dsimp only at success
    generalize (if stance = .marked then Word.mark.text else text) = name at success
    split at success
    · cases success
      exact ⟨fits, nofun⟩
    · cases success
  · cases success
    exact ⟨fits, nofun⟩

theorem Selection.Fits.takeMark {i : Selection} (fits : i.Fits g) (stance : Stance) :
    Progress.Fits g (takeMark g i stance) := by
  unfold CommandLine.takeMark
  split
  · exact ⟨fits, nofun⟩
  · exact ⟨fits, nofun⟩
  · split <;> exact ⟨fits, nofun⟩

/-- One word keeps the settings fitting, in whatever stance it is met. -/
theorem Progress.Fits.take {progress next : Progress} {word : Word} (fits : progress.Fits g)
    (known : word.Known g) (success : take g progress word = .ok next) : next.Fits g := by
  obtain ⟨i, stance⟩ := progress
  unfold CommandLine.take at success
  dsimp only at success
  split at success
  · cases success
    exact ⟨fits.settings, nofun⟩
  · -- The word is the value of the switch that the stance awaits.
    obtain ⟨set, step, rfl⟩ := exists_of_map_eq_ok success
    exact ⟨fits.settings.set (fits.awaiting _ rfl) step, nofun⟩
  · cases success
  · exact fits.settings.takeSwitch known success
  · cases success
    exact ⟨fits.settings, nofun⟩
  · exact fits.settings.takeOperand success
  · cases success
    exact fits.settings.takeMark _

theorem fits_of_select {words : List String} {i : Selection} (success : g.select words = .ok i) :
    i.Fits g := by
  unfold Grammar.select at success
  split at success
  · cases success
  · rename_i ws read
    split at success
    · cases success
    · rename_i final stance run
      split at success
      · cases success
      · cases success
        have known := Word.known_of_classifyAll read
        have start : Progress.Fits g ({}, .ready) := ⟨nofun, nofun⟩
        exact (foldlM_keeps (fun w member b b' fits step => fits.take (known w member) step)
          start run).settings

end CommandLine

namespace Invocation

open CommandLine

/-- A value that is set for a family is the name of one. -/
theorem exists_family_of_value {own : Selection} (fits : own.Fits planGrammar) {value : String}
    (given : value ∈ own.values "--family") : ∃ family : Family, family.name = value := by
  obtain ⟨⟨s, found⟩, kept, valued⟩ := List.mem_filterMap.mp given
  obtain rfl : found = some value := valued
  obtain ⟨set, spelled⟩ := List.mem_filter.mp kept
  obtain ⟨known, chosen⟩ := fits _ set
  obtain rfl : s = ⟨["--family"], .value (some familyNames)⟩ := by
    rcases List.mem_cons.mp known with rfl | others
    · have other : decide ("--family" ∈ helpSwitch.spellings) = false := by decide
      exact absurd (other.symm.trans spelled) nofun
    · exact List.mem_singleton.mp others
  have listed : value ∈ familyNames := by
    refine Decidable.byContradiction fun unlisted => ?_
    simp [Setting.choiceProblem?, unlisted] at chosen
  obtain ⟨family, _, named⟩ := List.mem_map.mp listed
  exact ⟨family, named⟩

/-- No value given for a family is lost when the values are read as families. -/
theorem map_name_of_values {own : Selection} (fits : own.Fits planGrammar) :
    ((own.values "--family").filterMap Family.ofName?).map Family.name = own.values "--family" := by
  have each : ∀ value ∈ own.values "--family", ∃ family : Family, family.name = value :=
    fun _ given => exists_family_of_value fits given
  generalize own.values "--family" = values at each
  induction values with
  | nil => rfl
  | cons value rest ih =>
      obtain ⟨family, rfl⟩ := each value List.mem_cons_self
      rw [List.filterMap_cons_some (Family.ofName?_name family), List.map_cons,
        ih fun other member => each other (List.mem_cons_of_mem _ member)]

/-- A command line that asks for plans names the families whose names it gives, in that order and
as often. -/
theorem named_of_read {words : List String} {i : Invocation} {named : List Family}
    (asked : read words = .ok i) (plan : i.command = .plan named) :
    ∃ general own, grammar.select words = .ok general ∧
      planGrammar.select general.words = .ok own ∧
        named.map Family.name = own.values "--family" := by
  unfold read at asked
  split at asked
  · cases asked
  · rename_i general selected
    refine ⟨general, ?_⟩
    unfold readCommand at asked
    split at asked
    · cases asked
    · rename_i own ownSelected
      split at asked
      · cases asked
        unfold commandOf at plan
        split at plan
        · rename_i isPlan
          cases plan
          rw [commandGrammar, if_pos isPlan] at ownSelected
          exact ⟨own, selected, ownSelected, map_name_of_values (fits_of_select ownSelected)⟩
        · cases plan
      · cases asked

end Invocation

end IntegerEnum
