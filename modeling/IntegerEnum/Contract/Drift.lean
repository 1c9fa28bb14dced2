import IntegerEnum.Contract.Publication
import IntegerEnum.Files
import IntegerEnum.Text

/-! # Published files and their drift

`publish` writes every publication to its file in a folder. `drifts` tells where a folder differs
from what would be published: files that are missing, files whose content is not the current one,
and contract files that belong to no publication. -/
set_option autoImplicit false

namespace IntegerEnum

inductive Drift where
  | missing (path : Path)
  | stale (path : Path)
  | orphan (name : String)
  deriving DecidableEq, Inhabited

def Drift.message : Drift → String
  | missing path => s!"ERROR: Missing schema file: {path.text}"
  | stale path => s!"ERROR: Schema drift detected in {path.text}"
  | orphan name => s!"Orphaned schema {name}"

namespace Publication

def pathIn (p : Publication) (folder : Path) : Path := folder.child p.fileName

/-- The ending of the names of contract files. -/
def fileEnding : String := ".schema.json"

def isContractFile (name : String) : Bool := fileEnding.toList.isSuffixOf name.toList

def drift? (t : Tree) (folder : Path) (p : Publication) : Except PathError (Option Drift) :=
  let path := p.pathIn folder
  match t.at? path with
  | none => .ok (some (.missing path))
  | some .folder => .error ⟨.isFolder, path⟩
  | some (.file text) =>
    .ok (if Text.sameLines text p.text then none else some (.stale path))

def driftsOf (t : Tree) (folder : Path) : List Publication → Except PathError (List Drift)
  | [] => .ok []
  | p :: rest =>
    match p.drift? t folder with
    | .error problem => .error problem
    | .ok drift => (driftsOf t folder rest).map (drift.toList ++ ·)

/-- The contract files in a folder that belong to no publication, in order. -/
def orphans (t : Tree) (folder : Path) : List String :=
  ((t.list folder).filter fun name =>
    isContractFile name && name ∉ all.map fileName).mergeSort fun a b => a ≤ b

def drifts (t : Tree) (folder : Path) : Except PathError (List Drift) :=
  (driftsOf t folder all).map (· ++ (orphans t folder).map .orphan)

def publishEach (t : Tree) (folder : Path) : List Publication → Except PathError Tree
  | [] => .ok t
  | p :: rest =>
    match t.write (p.pathIn folder) p.text with
    | .error problem => .error problem
    | .ok t => publishEach t folder rest

/-- Makes the folder if need be and writes all files. -/
def publish (t : Tree) (folder : Path) : Except PathError Tree :=
  match t.ensureFolder folder with
  | .error problem => .error problem
  | .ok t => publishEach t folder all

end Publication

end IntegerEnum
