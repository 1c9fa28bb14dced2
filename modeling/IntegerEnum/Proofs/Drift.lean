import IntegerEnum.CommandLine.Publish
import IntegerEnum.Proofs.PrintedText
import IntegerEnum.Proofs.Trees

/-! # Publishing and drift

A folder of texts is checked by what can be read in it: each publication has its text there, or its
file is missing or stale, and each other contract file is an orphan. Writing puts the texts of the
publications into the folder one after another and touches nothing else, so it leaves a folder that
has no drift but the orphans it had before. -/
set_option autoImplicit false

namespace IntegerEnum

namespace Publication

/-! ## Files of publications -/

theorem isContractFile_fileName (p : Publication) : isContractFile p.fileName = true := by
  rw [isContractFile, List.isSuffixOf_iff_suffix]
  exact ⟨p.name.toList, by simp [fileName, fileEnding]⟩

/-- The double point, which leads up, ends otherwise. -/
theorem ne_up_of_isContractFile {name : String} (ending : isContractFile name = true) :
    name ≠ ".." := by
  rintro rfl
  exact absurd ending (by decide)

theorem fileName_ne_up (p : Publication) : p.fileName ≠ ".." :=
  ne_up_of_isContractFile p.isContractFile_fileName

theorem distinct_fileNames : (all.map fileName).Nodup := by decide

/-- The text is printed, so it has line feeds only. -/
theorem carriageReturn_not_mem_text (p : Publication) : '\r' ∉ p.text.toList := by
  intro member
  have plain : Text.Plain p.text := (Json.plain_indented p.toJson).append (by decide)
  exact absurd (plain '\r' member) (by decide)

variable {t t' : Tree} {folder : Path} {place : Place}

theorem read_pathIn (folderOf : t.TextFolder folder place) (p : Publication) {text : String} :
    t.read (p.pathIn folder) = .ok text ↔
      t.node? (place ++ [p.fileName]) = some (.file text) :=
  folderOf.read_child p.fileName_ne_up

/-! ## Checking -/

/-- Where the file of a publication differs from it, by what can be read there. -/
def difference (t : Tree) (folder : Path) (p : Publication) : Option Drift :=
  match t.read (p.pathIn folder) with
  | .ok text => if text = p.text then none else some (.stale (p.pathIn folder))
  | .error _ => some (.missing (p.pathIn folder))

theorem difference_eq_none {p : Publication} :
    p.difference t folder = none ↔ t.read (p.pathIn folder) = .ok p.text := by
  unfold difference
  cases t.read (p.pathIn folder) <;> simp

theorem drift?_eq (folderOf : t.TextFolder folder place) (p : Publication) :
    p.drift? t folder = .ok (p.difference t folder) := by
  have located := folderOf.locate_child p.fileName_ne_up
  rcases folderOf.node?_cases p.fileName with absent | ⟨text, found, plain⟩
  · simp [drift?, difference, pathIn, Tree.at?, Tree.read, located, absent]
  · have same : Text.sameLines text p.text = decide (text = p.text) := by
      simp [Text.sameLines, Text.unifyLines_of_not_mem plain]
    simp [drift?, difference, pathIn, Tree.at?, Tree.read, located, found, same]

theorem driftsOf_eq (folderOf : t.TextFolder folder place) : ∀ ps : List Publication,
    driftsOf t folder ps = .ok (ps.filterMap (difference t folder)) := by
  intro ps
  induction ps with
  | nil => rfl
  | cons p rest ih =>
      rw [driftsOf, drift?_eq folderOf p, ih]
      cases found : p.difference t folder <;> simp [found, Except.map]

theorem drifts_eq (folderOf : t.TextFolder folder place) :
    drifts t folder =
      .ok (all.filterMap (difference t folder) ++ (orphans t folder).map .orphan) := by
  rw [drifts, driftsOf_eq folderOf]
  rfl

theorem mem_orphans {name : String} : name ∈ orphans t folder ↔
    name ∈ t.list folder ∧ isContractFile name = true ∧ name ∉ all.map fileName := by
  simp [orphans, List.mem_mergeSort]

/-- No contract file belongs to no publication. -/
def NoOrphan (t : Tree) (folder : Path) : Prop :=
  ∀ name ∈ t.list folder, isContractFile name = true → name ∈ all.map fileName

/-- Every publication is in its file, and there is no other contract file. -/
structure UpToDate (t : Tree) (folder : Path) : Prop where
  current : ∀ p ∈ all, t.read (p.pathIn folder) = .ok p.text
  noOrphan : NoOrphan t folder

theorem drifts_eq_nil (folderOf : t.TextFolder folder place) :
    drifts t folder = .ok [] ↔ UpToDate t folder := by
  rw [drifts_eq folderOf]
  constructor
  · intro none
    obtain ⟨noDifference, noOrphans⟩ := List.append_eq_nil_iff.mp (Except.ok.inj none)
    refine ⟨fun p listed => ?_, fun name there ending => ?_⟩
    · exact difference_eq_none.mp (List.filterMap_eq_nil_iff.mp noDifference p listed)
    · refine Decidable.byContradiction fun foreign => ?_
      have orphan := mem_orphans.mpr ⟨there, ending, foreign⟩
      rw [List.map_eq_nil_iff.mp noOrphans] at orphan
      cases orphan
  · intro upToDate
    have noDifference : all.filterMap (difference t folder) = [] :=
      List.filterMap_eq_nil_iff.mpr fun p listed =>
        difference_eq_none.mpr (upToDate.current p listed)
    have noOrphans : orphans t folder = [] := by
      refine List.eq_nil_iff_forall_not_mem.mpr fun name orphan => ?_
      obtain ⟨there, ending, foreign⟩ := mem_orphans.mp orphan
      exact foreign (upToDate.noOrphan name there ending)
    rw [noDifference, noOrphans]
    rfl

/-- Sorted names do not depend on the order they come in. -/
theorem sorted_eq_of_perm {names others : List String} (same : names.Perm others) :
    (names.mergeSort fun a b => a ≤ b) = others.mergeSort fun a b => a ≤ b := by
  have sorted : ∀ names : List String,
      (names.mergeSort fun a b => a ≤ b).Pairwise fun a b => decide (a ≤ b) = true :=
    List.pairwise_mergeSort
      (fun a b c => by simpa using fun ab bc => String.le_trans ab bc)
      (fun a b => by simpa using String.le_total a b)
  refine List.Perm.eq_of_pairwise ?_ (sorted names) (sorted others) ?_
  · intro a b _ _ ab ba
    exact String.le_antisymm (of_decide_eq_true ab) (of_decide_eq_true ba)
  · exact (List.mergeSort_perm ..).trans (same.trans (List.mergeSort_perm ..).symm)

/-- Two folders of texts with the same contract files. -/
def SameContractFiles (t t' : Tree) (folder : Path) : Prop :=
  ∀ name, isContractFile name = true → t'.read (folder.child name) = t.read (folder.child name)

section SameContractFiles
variable {place' : Place}

theorem SameContractFiles.orphans_eq (same : SameContractFiles t t' folder)
    (folderOf : t.TextFolder folder place) (folderOf' : t'.TextFolder folder place') :
    orphans t' folder = orphans t folder := by
  apply sorted_eq_of_perm
  apply (List.perm_ext_iff_of_nodup (folderOf'.nodup_list.filter _)
    (folderOf.nodup_list.filter _)).mpr
  intro name
  rw [List.mem_filter, List.mem_filter]
  refine and_congr_left fun orphan => ?_
  have contract : isContractFile name = true := (Bool.and_eq_true_iff.mp orphan).1
  have inside := ne_up_of_isContractFile contract
  rw [folderOf.mem_list inside, folderOf'.mem_list inside, same name contract]

theorem SameContractFiles.drifts_eq (same : SameContractFiles t t' folder)
    (folderOf : t.TextFolder folder place) (folderOf' : t'.TextFolder folder place') :
    drifts t' folder = drifts t folder := by
  have differences : difference t' folder = difference t folder := by
    funext p
    unfold difference pathIn
    rw [same p.fileName p.isContractFile_fileName]
  rw [Publication.drifts_eq folderOf, Publication.drifts_eq folderOf', differences,
    same.orphans_eq folderOf folderOf']

end SameContractFiles

/-! ## Publishing -/

/-- The second tree is the first one with the files of some publications written into a folder. -/
structure PublishedInto (t : Tree) (place : Place) (ps : List Publication) (t' : Tree) : Prop where
  published : ∀ p ∈ ps, t'.node? (place ++ [p.fileName]) = some (.file p.text)
  untouched : ∀ other, (∀ p ∈ ps, other ≠ place ++ [p.fileName]) → t'.node? other = t.node? other

theorem PublishedInto.cons {p : Publication} {ps : List Publication}
    (later : PublishedInto (t.put (place ++ [p.fileName]) (.file p.text)) place ps t')
    (fresh : p.fileName ∉ ps.map fileName) : PublishedInto t place (p :: ps) t' := by
  have own : place ++ [p.fileName] ≠ [] := by simp
  constructor
  · intro q listed
    rcases List.mem_cons.mp listed with rfl | member
    · rw [later.untouched, Tree.node?_put_self _ own]
      intro other member same
      have named : q.fileName = other.fileName := by simpa using same
      exact fresh (named ▸ List.mem_map_of_mem member)
    · exact later.published q member
  · intro other apart
    rw [later.untouched other fun q member => apart q (List.mem_cons_of_mem p member)]
    exact Tree.node?_put_of_ne _ (apart p List.mem_cons_self).symm

/-- Each step writes one file; the folder stays one of texts, so the next step succeeds too. -/
theorem publishEach_run : ∀ {ps : List Publication} {t : Tree}, t.TextFolder folder place →
    (ps.map fileName).Nodup →
    ∃ t', publishEach t folder ps = .ok t' ∧ t'.TextFolder folder place ∧
      PublishedInto t place ps t' := by
  intro ps
  induction ps with
  | nil => exact fun {t} folderOf _ => ⟨t, rfl, folderOf, ⟨nofun, fun _ _ => rfl⟩⟩
  | cons p rest ih =>
      intro t folderOf distinct
      obtain ⟨fresh, distinctRest⟩ := List.nodup_cons.mp distinct
      obtain ⟨t', run, folderOf', published⟩ :=
        ih (folderOf.put p.carriageReturn_not_mem_text) distinctRest
      refine ⟨t', ?_, folderOf', published.cons fresh⟩
      simp only [publishEach, pathIn, folderOf.write_child p.fileName_ne_up, run]

/-- Files that are up to date are written as they are. -/
theorem publishEach_of_current (folderOf : t.TextFolder folder place) :
    ∀ {ps : List Publication},
      (∀ p ∈ ps, t.node? (place ++ [p.fileName]) = some (.file p.text)) →
      publishEach t folder ps = .ok t := by
  intro ps
  induction ps with
  | nil => exact fun _ => rfl
  | cons p rest ih =>
      intro current
      have found := current p List.mem_cons_self
      simp only [publishEach, pathIn, folderOf.write_child p.fileName_ne_up,
        Tree.put_of_node? (by simp) found]
      exact ih fun q member => current q (List.mem_cons_of_mem p member)

theorem publish_eq (folderOf : t.TextFolder folder place) :
    publish t folder = publishEach t folder all := by
  simp only [publish, Tree.ensureFolder_of_isFolder folderOf.isFolder]

/-- Writing adds no orphan and takes none away. -/
theorem PublishedInto.noOrphan_iff (published : PublishedInto t place all t')
    (folderOf : t.TextFolder folder place) (folderOf' : t'.TextFolder folder place) :
    NoOrphan t' folder ↔ NoOrphan t folder := by
  refine forall_congr' fun name => ?_
  by_cases registered : name ∈ all.map fileName
  · exact iff_of_true (fun _ _ => registered) fun _ _ => registered
  · have apart : ∀ p ∈ all, place ++ [name] ≠ place ++ [p.fileName] := by
      intro p listed same
      have named : name = p.fileName := by simpa using same
      exact registered (named ▸ List.mem_map_of_mem listed)
    rw [folderOf.list_eq, folderOf'.list_eq, Tree.mem_names, Tree.mem_names,
      published.untouched _ apart]

theorem PublishedInto.upToDate_iff (published : PublishedInto t place all t')
    (folderOf : t.TextFolder folder place) (folderOf' : t'.TextFolder folder place) :
    UpToDate t' folder ↔ NoOrphan t folder := by
  rw [← published.noOrphan_iff folderOf folderOf']
  constructor
  · exact UpToDate.noOrphan
  · exact fun noOrphan =>
      ⟨fun p listed => (read_pathIn folderOf' p).mpr (published.published p listed), noOrphan⟩

end Publication

namespace Publishing

open Publication

variable {t t' : Tree} {folder : Path} {place : Place}

/-- A result whose exit code tells whether something holds. -/
structure Verdict (result : CommandResult) (holds : Prop) : Prop where
  success : result.exitCode = 0 ↔ holds
  failure : result.exitCode = 1 ↔ ¬ holds

theorem Verdict.of_iff {result : CommandResult} {holds holds' : Prop}
    (verdict : Verdict result holds) (same : holds ↔ holds') : Verdict result holds' :=
  ⟨verdict.success.trans same, verdict.failure.trans (not_congr same)⟩

theorem verdict_checked (drifts : List Drift) : Verdict (checked drifts) (drifts = []) := by
  cases drifts <;> constructor <;> simp [checked]

theorem perform_check (folderOf : t.TextFolder folder place) :
    ∃ result, perform t (.check folder) = .ok (result, t) ∧ Verdict result (UpToDate t folder) := by
  have found := drifts_eq folderOf
  refine ⟨checked _, by rw [perform, found]; rfl, ?_⟩
  have upToDate := drifts_eq_nil folderOf
  rw [found, Except.ok.injEq] at upToDate
  exact (verdict_checked _).of_iff upToDate

/-- What a check of a folder of texts does: it leaves all files as they are, its exit code tells
whether the folder is up to date, and its result depends on the contract files alone. -/
structure Checks (t : Tree) (folder : Path) : Prop where
  verdict : ∃ result,
    perform t (.check folder) = .ok (result, t) ∧ Verdict result (UpToDate t folder)
  contractFilesOnly : ∀ (t' : Tree) (place' : Place), t'.TextFolder folder place' →
    SameContractFiles t t' folder → ∃ result,
      perform t (.check folder) = .ok (result, t) ∧ perform t' (.check folder) = .ok (result, t')

/-- What writing into a folder of texts leaves: every publication in its file and all else as it
was, so that writing again changes nothing and a check finds the orphans of before at most. -/
structure Renews (t : Tree) (folder : Path) (place : Place) (t' : Tree) : Prop where
  published : PublishedInto t place Publication.all t'
  again : perform t' (.write folder) = .ok (written folder, t')
  verdict : ∃ result,
    perform t' (.check folder) = .ok (result, t') ∧ Verdict result (NoOrphan t folder)

theorem writing_and_checking_fit (t : Tree) (folder : Path) (place : Place)
    (folderOf : t.TextFolder folder place) :
    Checks t folder ∧
      ∃ t', perform t (.write folder) = .ok (written folder, t') ∧ Renews t folder place t' := by
  refine ⟨⟨perform_check folderOf, fun other place' folderOf' same => ?_⟩, ?_⟩
  · refine ⟨_, by rw [perform, drifts_eq folderOf]; rfl, ?_⟩
    rw [perform, same.drifts_eq folderOf folderOf', drifts_eq folderOf]
    rfl
  · obtain ⟨t', run, folderOf', published⟩ := publishEach_run folderOf distinct_fileNames
    have again : publish t' folder = .ok t' := by
      rw [publish_eq folderOf', publishEach_of_current folderOf' published.published]
    refine ⟨t', by rw [perform, publish_eq folderOf, run]; rfl, published, ?_, ?_⟩
    · rw [perform, again]
      rfl
    · obtain ⟨result, checked, verdict⟩ := perform_check folderOf'
      exact ⟨result, checked, verdict.of_iff (published.upToDate_iff folderOf folderOf')⟩

/-- A folder outside the working folder, with a file of another kind and a contract file of no
publication. -/
def withOrphan : Tree where
  nodes := [
    (["home"], .folder),
    (["out"], .folder),
    (["out", "notes.txt"], .file "kept\n"),
    (["out", "old.schema.json"], .file "[]\n")]
  here := ["home"]

def outside : Path := ⟨.top, ["out"]⟩

theorem textFolder_withOrphan : withOrphan.TextFolder outside ["out"] where
  located := rfl
  isThere := rfl
  distinct := by decide
  texts := by
    intro name listed
    have known : name = "notes.txt" ∨ name = "old.schema.json" := by
      simpa [withOrphan, Tree.names, Tree.nameIn] using listed
    rcases known with rfl | rfl
    · exact ⟨"kept\n", rfl, by decide⟩
    · exact ⟨"[]\n", rfl, by decide⟩

/-- Writing there leaves the note as it was, and the check still fails. -/
theorem writing_and_checking_fit_withOrphan :
    withOrphan.TextFolder outside ["out"] ∧ ∃ t' result,
      perform withOrphan (.write outside) = .ok (written outside, t') ∧
      t'.node? ["out", "notes.txt"] = some (.file "kept\n") ∧
      perform t' (.check outside) = .ok (result, t') ∧ result.exitCode = 1 := by
  refine ⟨textFolder_withOrphan, ?_⟩
  obtain ⟨_, t', run, renews⟩ := writing_and_checking_fit withOrphan _ _ textFolder_withOrphan
  obtain ⟨result, checked, verdict⟩ := renews.verdict
  refine ⟨t', result, run, ?_, checked, verdict.failure.mpr (by unfold NoOrphan; decide)⟩
  rw [renews.published.untouched _ (by decide)]
  rfl

end Publishing

end IntegerEnum
