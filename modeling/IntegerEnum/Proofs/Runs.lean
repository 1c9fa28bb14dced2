import IntegerEnum.Proofs.Notices
import IntegerEnum.Proofs.Reports
import IntegerEnum.Proofs.Selections

/-! # Runs of the program

A run ends in one of five ways: the document is not there or is refused, its declaration does not
resolve, its mapping or its plans are printed, or a family that is named has no plan. From the way
it ends follow the exit code and what is printed. -/
set_option autoImplicit false

namespace IntegerEnum

namespace Invocation

/-! ## How runs end -/

/-- The text is there and holds the declaration. -/
def Holds (text : Option String) (d : EnumDecl) : Prop :=
  ∃ s, text = some s ∧ EnumDecl.readText s = .accepted d

/-- The families that a plan command is about: all of them when it names none. -/
def considered (named : List Family) : List Family := if named.isEmpty then Family.all else named

/-- What is missing is an error only if it was asked for by name. -/
def label (named : List Family) : String := if named.isEmpty then "note" else "error"

/-- A family that is named has no plan. -/
def Lacks (m : Mapping) (named : List Family) : Prop :=
  ∃ family ∈ named, ∃ problem, derive m family = .error problem

/-- What the invocation asks of the declaration cannot be given. -/
def Fails (i : Invocation) (d : EnumDecl) : Prop :=
  (∃ problem, resolve d = .error problem) ∨
    ∃ m named, resolve d = .ok m ∧ i.command = .plan named ∧ Lacks m named

/-- What a plan command prints of a declaration that resolves. -/
structure Prints (i : Invocation) (d : EnumDecl) (m : Mapping) (named : List Family)
    (result : CommandResult) : Prop where
  stdout : result.exitCode = 0 →
    result.stdout = (plansJson (availablePlans m (considered named))).indented ++ "\n"
  stderr : result.stderr = i.log (planningEvents d (considered named)) ++
    notes (label named) (unavailableFamilies m (considered named))

inductive Ends (i : Invocation) (text : Option String) (result : CommandResult) : Prop where
  | unreadable (unread : ∀ d, ¬ Holds text d)
      (exitCode : result.exitCode = 2) (stdout : result.stdout = "")
  | rejected (d : EnumDecl) (problem : Diagnostic) (holds : Holds text d)
      (resolution : resolve d = .error problem)
      (exitCode : result.exitCode = 1) (stdout : result.stdout = "")
  | resolved (d : EnumDecl) (m : Mapping) (holds : Holds text d) (resolution : resolve d = .ok m)
      (command : i.command = .resolve)
      (exitCode : result.exitCode = 0) (stdout : result.stdout = m.toJson.indented ++ "\n")
  | planned (d : EnumDecl) (m : Mapping) (named : List Family) (holds : Holds text d)
      (resolution : resolve d = .ok m) (command : i.command = .plan named)
      (complete : ¬ Lacks m named) (exitCode : result.exitCode = 0)
      (prints : i.Prints d m named result)
  | lacking (d : EnumDecl) (m : Mapping) (named : List Family) (holds : Holds text d)
      (resolution : resolve d = .ok m) (command : i.command = .plan named)
      (lacks : Lacks m named) (exitCode : result.exitCode = 1) (stdout : result.stdout = "")
      (prints : i.Prints d m named result)

section Runs
variable {i : Invocation} {text : Option String} {d : EnumDecl} {m : Mapping}
  {named : List Family} {result : CommandResult}

theorem Holds.unique {d' : EnumDecl} (holds : Holds text d) (holds' : Holds text d') : d = d' := by
  obtain ⟨s, rfl, reading⟩ := holds
  obtain ⟨s', same, reading'⟩ := holds'
  cases same
  rw [reading] at reading'
  cases reading'
  rfl

theorem lacks_iff (m : Mapping) (named : List Family) :
    Lacks m named ↔ unavailableFamilies m named ≠ [] := by
  constructor
  · rintro ⟨family, member, problem, failure⟩ none
    have listed := mem_unavailableFamilies.mpr ⟨member, failure⟩
    rw [none] at listed
    cases listed
  · intro some
    obtain ⟨⟨family, problem⟩, listed⟩ := List.exists_mem_of_ne_nil _ some
    obtain ⟨member, failure⟩ := mem_unavailableFamilies.mp listed
    exact ⟨family, member, problem, failure⟩

theorem considered_cons (first : Family) (others : List Family) :
    considered (first :: others) = first :: others := rfl

theorem runPlan_of_resolve (resolution : resolve d = .ok m) :
    i.runPlan named d =
      let events := planningEvents d (considered named)
      let plans := availablePlans m (considered named)
      let unavailable := unavailableFamilies m (considered named)
      if named.isEmpty then i.printed events (notes "note" unavailable) (plansJson plans)
      else if unavailable.isEmpty then i.printed events "" (plansJson plans)
      else { exitCode := 1, stderr := i.log events ++ notes "error" unavailable } := by
  unfold runPlan
  simp only [reportOn, resolution]
  rfl

theorem runPlan_of_complete (resolution : resolve d = .ok m) (complete : ¬ Lacks m named) :
    i.runPlan named d =
      i.printed (planningEvents d (considered named))
        (notes (label named) (unavailableFamilies m (considered named)))
        (plansJson (availablePlans m (considered named))) := by
  rw [runPlan_of_resolve resolution]
  cases named with
  | nil => rfl
  | cons first others =>
      -- All families that are named have plans, so there is nothing to tell of.
      have none : unavailableFamilies m (first :: others) = [] :=
        Decidable.byContradiction fun some => complete ((lacks_iff m _).mpr some)
      simp only [considered_cons, none]
      rfl

theorem runPlan_of_lacks (resolution : resolve d = .ok m) (lacks : Lacks m named) :
    i.runPlan named d =
      { exitCode := 1
        stderr := i.log (planningEvents d (considered named)) ++
          notes (label named) (unavailableFamilies m (considered named)) } := by
  rw [runPlan_of_resolve resolution]
  cases named with
  | nil =>
      obtain ⟨family, member, _⟩ := lacks
      cases member
  | cons first others =>
      have some := List.isEmpty_eq_false_iff.mpr ((lacks_iff m _).mp lacks)
      simp only [considered_cons, some]
      rfl

theorem runPlan_of_rejected {problem : Diagnostic} (resolution : resolve d = .error problem) :
    i.runPlan named d = i.rejected (planningEvents d (considered named)) problem := by
  unfold runPlan
  simp only [reportOn, resolution]
  rfl

theorem run_of_holds (holds : Holds text d) : i.run text = i.runOn d := by
  obtain ⟨s, rfl, reading⟩ := holds
  simp only [run, reading]

/-- Every run ends in one of the five ways. -/
theorem ends_run (i : Invocation) (text : Option String) : i.Ends text (i.run text) := by
  cases text with
  | none => exact .unreadable nofun rfl rfl
  | some s =>
    cases reading : EnumDecl.readText s with
    | refused first others =>
        have run : i.run (some s) = invalidDocument i.source (others.length + 1) := by
          simp only [run, reading]
        rw [run]
        refine .unreadable ?_ rfl rfl
        rintro d ⟨_, same, accepted⟩
        cases same
        rw [reading] at accepted
        cases accepted
    | accepted d =>
        have holds : Holds (some s) d := ⟨s, rfl, reading⟩
        rw [run_of_holds holds, runOn]
        cases command : i.command with
        | resolve =>
            simp only [runResolve]
            cases resolution : resolve d with
            | error problem => exact .rejected d problem holds resolution rfl rfl
            | ok m => exact .resolved d m holds resolution command rfl rfl
        | plan named =>
            dsimp only
            cases resolution : resolve d with
            | error problem =>
                rw [runPlan_of_rejected resolution]
                exact .rejected d problem holds resolution rfl rfl
            | ok m =>
                by_cases lacks : Lacks m named
                · rw [runPlan_of_lacks resolution lacks]
                  exact .lacking d m named holds resolution command lacks rfl rfl ⟨nofun, rfl⟩
                · rw [runPlan_of_complete resolution lacks]
                  exact .planned d m named holds resolution command lacks rfl ⟨fun _ => rfl, rfl⟩

end Runs

/-! ## Exit codes and output -/

/-- What a plan command tells of a declaration that resolves, in terms of a report: the plans are
printed if the run succeeds, and below the log each family without a plan is told of. These problems
have one line each exactly if none of them breaks its line, and none does when no name does. -/
structure Tells (i : Invocation) (d : EnumDecl) (m : Mapping) (named : List Family)
    (result : CommandResult) (r : Report) : Prop where
  agrees : r.Agrees m (considered named)
  stdout : result.exitCode = 0 → result.stdout = (plansJson r.plans).indented ++ "\n"
  stderr : result.stderr =
    i.log (planningEvents d (considered named)) ++ notes (label named) r.unavailable
  inLines : lineFeeds (notes (label named) r.unavailable) = r.unavailable.length ↔
    ∀ entry ∈ r.unavailable, OneLine entry.2.message
  unbroken : d.NamesInLine → ∀ entry ∈ r.unavailable, OneLine entry.2.message

/-- The exit code tells whether the document could be read and whether it gave what was asked for;
standard output holds one document of a run that succeeds, and nothing of any other. -/
structure Consistent (i : Invocation) (text : Option String) (result : CommandResult) : Prop where
  exitCode : result.exitCode = 0 ∨ result.exitCode = 1 ∨ result.exitCode = 2
  unreadable : result.exitCode = 2 ↔ ∀ d, ¬ Holds text d
  failed : result.exitCode = 1 ↔ ∃ d, Holds text d ∧ i.Fails d
  silent : result.exitCode ≠ 0 → result.stdout = ""
  mapping : ∀ d m, Holds text d → resolve d = .ok m → i.command = .resolve →
    result.stdout = m.toJson.indented ++ "\n"
  plans : ∀ d m named, Holds text d → resolve d = .ok m → i.command = .plan named →
    ∃ r, i.Tells d m named result r

section Consistency
variable {i : Invocation} {text : Option String} {d : EnumDecl} {m : Mapping}
  {named : List Family} {result : CommandResult}

theorem not_fails_of_resolve (resolution : resolve d = .ok m) (command : i.command = .resolve) :
    ¬ i.Fails d := by
  rintro (⟨problem, refused⟩ | ⟨m', named, _, plan, _⟩)
  · rw [resolution] at refused
    cases refused
  · rw [command] at plan
    cases plan

theorem fails_iff_lacks (resolution : resolve d = .ok m) (command : i.command = .plan named) :
    i.Fails d ↔ Lacks m named := by
  constructor
  · rintro (⟨problem, refused⟩ | ⟨m', named', success, plan, lacks⟩)
    · rw [resolution] at refused
      cases refused
    · rw [resolution] at success
      rw [command] at plan
      cases success
      cases plan
      exact lacks
  · exact fun lacks => Or.inr ⟨m, named, resolution, command, lacks⟩

theorem Prints.tells (prints : i.Prints d m named result) (resolution : resolve d = .ok m)
    (command : i.command = .plan named) : ∀ m named, resolve d = .ok m →
      i.command = .plan named → ∃ r, i.Tells d m named result r := by
  intro m' named' success plan
  rw [resolution] at success
  rw [command] at plan
  cases success
  cases plan
  have inLine : OneLine (label named) := by
    unfold label
    split <;> decide
  refine ⟨_, agrees_resolved d.name m (considered named), prints.stdout, prints.stderr,
    lineFeeds_notes_iff inLine _, ?_⟩
  rintro namesInLine ⟨family, problem⟩ listed
  exact oneLine_message_of_derive resolution namesInLine (mem_unavailableFamilies.mp listed).2

/-- A document that holds a declaration is judged by that declaration alone. -/
theorem Consistent.of_holds (holds : Holds text d)
    (judged : result.exitCode = 0 ∧ ¬ i.Fails d ∨ result.exitCode = 1 ∧ i.Fails d)
    (silent : result.exitCode ≠ 0 → result.stdout = "")
    (mapping : ∀ m, resolve d = .ok m → i.command = .resolve →
      result.stdout = m.toJson.indented ++ "\n")
    (plans : ∀ m named, resolve d = .ok m → i.command = .plan named →
      ∃ r, i.Tells d m named result r) :
    i.Consistent text result where
  exitCode := judged.elim (fun success => Or.inl success.1) fun failure => Or.inr (Or.inl failure.1)
  unreadable := by
    refine iff_of_false ?_ fun unread => unread d holds
    rcases judged with ⟨code, _⟩ | ⟨code, _⟩ <;> rw [code] <;> decide
  failed := by
    have own : (∃ d, Holds text d ∧ i.Fails d) ↔ i.Fails d := by
      constructor
      · rintro ⟨d', holds', fails⟩
        rwa [holds.unique holds']
      · exact fun fails => ⟨d, holds, fails⟩
    rw [own]
    rcases judged with ⟨code, succeeds⟩ | ⟨code, fails⟩
    · exact iff_of_false (by rw [code]; decide) succeeds
    · exact iff_of_true code fails
  silent := silent
  mapping := by
    intro d' m holds'
    rw [← holds.unique holds']
    exact mapping m
  plans := by
    intro d' m named holds'
    rw [← holds.unique holds']
    exact plans m named

theorem Ends.consistent (ends : i.Ends text result) : i.Consistent text result := by
  cases ends with
  | unreadable unread exitCode stdout =>
      refine ⟨Or.inr (Or.inr exitCode), iff_of_true exitCode unread, ?_, fun _ => stdout, ?_, ?_⟩
      · refine iff_of_false (by rw [exitCode]; decide) ?_
        rintro ⟨d, holds, _⟩
        exact unread d holds
      · exact fun d m holds => absurd holds (unread d)
      · exact fun d m named holds => absurd holds (unread d)
  | rejected d problem holds resolution exitCode stdout =>
      have refused : ∀ m, resolve d ≠ .ok m := by simp [resolution]
      exact .of_holds holds (Or.inr ⟨exitCode, Or.inl ⟨problem, resolution⟩⟩) (fun _ => stdout)
        (fun m success => absurd success (refused m))
        fun m named success => absurd success (refused m)
  | resolved d m holds resolution command exitCode stdout =>
      refine .of_holds holds (Or.inl ⟨exitCode, not_fails_of_resolve resolution command⟩)
        (fun failed => absurd exitCode failed) ?_ ?_
      · intro m' success _
        rw [resolution] at success
        cases success
        exact stdout
      · intro m' named _ plan
        rw [command] at plan
        cases plan
  | planned d m named holds resolution command complete exitCode prints =>
      refine .of_holds holds
        (Or.inl ⟨exitCode, fun fails => complete ((fails_iff_lacks resolution command).mp fails)⟩)
        (fun failed => absurd exitCode failed) ?_ ?_
      · intro m' _ other
        rw [command] at other
        cases other
      · exact prints.tells resolution command
  | lacking d m named holds resolution command lacks exitCode stdout prints =>
      refine .of_holds holds
        (Or.inr ⟨exitCode, (fails_iff_lacks resolution command).mpr lacks⟩) (fun _ => stdout) ?_ ?_
      · intro m' _ other
        rw [command] at other
        cases other
      · exact prints.tells resolution command

end Consistency

/-- Whatever the words ask for and whatever the document holds, what a run leaves is consistent; the
families that it is about are those whose names the words give. -/
theorem run_is_consistent (words : List String) (i : Invocation) (asked : read words = .ok i)
    (text : Option String) :
    i.Consistent text (i.run text) ∧
      ∀ named, i.command = .plan named →
        ∃ general own, grammar.select words = .ok general ∧
          planGrammar.select general.words = .ok own ∧
            named.map Family.name = own.values "--family" :=
  ⟨(ends_run i text).consistent, fun _ plan => named_of_read asked plan⟩

/-- A document of an enumeration with one variant. -/
def singleText (name : String) : String :=
  "\x7b\"name\": \"" ++ name ++ "\", \"underlying_type\": \x7b\"kind\": \"u8\"\x7d, " ++
    "\"variants\": [\x7b\"name\": \"A\"\x7d]\x7d"

def single (name : String) : EnumDecl where
  name := name
  integerType := { kind := .u8 }
  variants := [{ name := "A" }]

def singleMapping (name : String) : Mapping where
  enumName := name
  integerType := { kind := .u8 }
  variants := [{ name := "A", value := 0, alternatives := [] }]
  isExhaustive := false

theorem resolve_single (name : String) : resolve (single name) = .ok (singleMapping name) := by cbv

def defaultValueWords : List String :=
  ["plan", "s.json", "--family", "default_value", "--family", "default_value"]

def defaultValueTwice : Invocation where
  command := .plan [.defaultValue, .defaultValue]
  source := .file "s.json"

theorem read_defaultValueWords : read defaultValueWords = .ok defaultValueTwice := by
  decide +kernel

theorem lacks_single (name : String) :
    Lacks (singleMapping name) [.defaultValue, .defaultValue] :=
  ⟨.defaultValue, by decide, _, rfl⟩

theorem holds_single : Holds (some (singleText "E")) (single "E") := ⟨_, rfl, by cbv⟩

/-- A family that is named twice is told of once, and the run fails. -/
theorem run_is_consistent_single :
    read defaultValueWords = .ok defaultValueTwice ∧
      (defaultValueTwice.run (some (singleText "E"))).exitCode = 1 ∧
      (defaultValueTwice.run (some (singleText "E"))).stdout = "" ∧
        ∃ r : Report, r.Agrees (singleMapping "E") [.defaultValue, .defaultValue] ∧
          lineFeeds (defaultValueTwice.run (some (singleText "E"))).stderr =
            r.unavailable.length := by
  obtain ⟨consistent, _⟩ :=
    run_is_consistent _ _ read_defaultValueWords (some (singleText "E"))
  have code := consistent.failed.mpr ⟨_, holds_single,
    Or.inr ⟨_, _, resolve_single "E", rfl, lacks_single "E"⟩⟩
  have silent := consistent.silent (by rw [code]; decide)
  obtain ⟨r, tells⟩ := consistent.plans _ _ _ holds_single (resolve_single "E") rfl
  have names : (single "E").NamesInLine := ⟨by decide, by decide⟩
  have lines := tells.inLines.mpr (tells.unbroken names)
  refine ⟨read_defaultValueWords, code, silent, r, tells.agrees, ?_⟩
  rw [tells.stderr, lineFeeds_append, lines]
  exact Nat.zero_add _

/-- A name that ends in a line feed breaks the line on the family: there is one family without a
plan, and there are two lines. -/
theorem broken_name_breaks_line :
    read defaultValueWords = .ok defaultValueTwice ∧
      Holds (some (singleText "E\\n")) (single "E\n") ∧
      resolve (single "E\n") = .ok (singleMapping "E\n") ∧
      (unavailableFamilies (singleMapping "E\n") [.defaultValue, .defaultValue]).length = 1 ∧
      (defaultValueTwice.run (some (singleText "E\\n"))).stderr =
        "error[IE102]: default_value: " ++
          "Default value of `E\n` requires a variant marked `default`\n" ∧
      lineFeeds (defaultValueTwice.run (some (singleText "E\\n"))).stderr = 2 := by
  have holds : Holds (some (singleText "E\\n")) (single "E\n") := ⟨_, rfl, by cbv⟩
  have lacks := lacks_single "E\n"
  have resolution := resolve_single "E\n"
  have stderr : (defaultValueTwice.run (some (singleText "E\\n"))).stderr =
      "error[IE102]: default_value: " ++
        "Default value of `E\n` requires a variant marked `default`\n" := by
    rw [run_of_holds holds]
    change (defaultValueTwice.runPlan [.defaultValue, .defaultValue] _).stderr = _
    rw [runPlan_of_lacks resolution lacks]
    decide
  refine ⟨read_defaultValueWords, holds, resolution, by decide, stderr, ?_⟩
  rw [stderr]
  decide

end Invocation

end IntegerEnum
