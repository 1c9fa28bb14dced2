import IntegerEnum.Dictionary

/-! # Files

The files that programs read and write: paths, and the trees that they lead through. -/
set_option autoImplicit false

namespace IntegerEnum

/-! ## Paths

A path is a root and the names below it. Empty names and single points say nothing and are dropped
when a path is read; a double point is kept, since where it leads depends on the files. -/

/-- Where a path starts. Two slashes are a place of their own; more are as good as one. -/
inductive PathRoot where
  | here | top | twoSlashes
  deriving DecidableEq, Inhabited

namespace PathRoot

def text : PathRoot → String
  | here => ""
  | top => "/"
  | twoSlashes => "//"

def ofChars : List Char → PathRoot
  | '/' :: '/' :: '/' :: _ => top
  | '/' :: '/' :: _ => twoSlashes
  | '/' :: _ => top
  | _ => here

end PathRoot

structure Path where
  root : PathRoot := .here
  names : List String := []
  deriving DecidableEq, Inhabited

namespace Path

/-- The parts between the slashes, empty ones included. -/
def parts : List Char → List (List Char)
  | [] => [[]]
  | c :: rest =>
    if c = '/' then [] :: parts rest
    else match parts rest with
      | [] => [[c]]
      | part :: others => (c :: part) :: others

def isName (part : String) : Bool := part ≠ "" && part ≠ "."

def ofText (text : String) : Path where
  root := PathRoot.ofChars text.toList
  names := ((parts text.toList).map String.ofList).filter isName

def text (p : Path) : String :=
  match p.root, p.names with
  | .here, [] => "."
  | root, names => root.text ++ String.intercalate "/" names

def child (p : Path) (name : String) : Path := { p with names := p.names ++ [name] }

end Path

/-! ## Trees

The files and folders below the top, which itself is always there, and the working folder. A place
is the list of names that leads from the top to a node. `locate` follows a path, double points
included, to its place; every node on the way has to be a folder, and the top lies in itself. -/

inductive Node where
  | file (text : String)
  | folder
  deriving DecidableEq, Inhabited

abbrev Place := List String

structure Tree where
  nodes : Dictionary Place Node := []
  /-- The place of the working folder. -/
  here : Place := []
  deriving Inhabited

/-- Why a path cannot be used as it is meant to. -/
inductive PathProblem where
  | missing | taken | notFolder | isFolder
  deriving DecidableEq, Inhabited

structure PathError where
  problem : PathProblem
  path : Path
  deriving DecidableEq, Inhabited

def PathError.message (e : PathError) : String :=
  let reason := match e.problem with
    | .missing => "[Errno 2] No such file or directory"
    | .taken => "[Errno 17] File exists"
    | .notFolder => "[Errno 20] Not a directory"
    | .isFolder => "[Errno 21] Is a directory"
  s!"{reason}: '{e.path.text}'"

namespace Tree

def node? (t : Tree) : Place → Option Node
  | [] => some .folder
  | place => t.nodes.find? place

def put (t : Tree) (place : Place) (node : Node) : Tree :=
  { t with nodes := t.nodes.put place node }

def remove (t : Tree) (place : Place) : Tree :=
  { t with nodes := t.nodes.filter fun entry => entry.1 ≠ place }

/-- The name of a node that lies directly in a folder. -/
def nameIn (place : Place) (entry : Place) : Option String :=
  if entry.dropLast = place then entry.getLast? else none

/-- The names of everything that lies directly in a folder. -/
def names (t : Tree) (place : Place) : List String :=
  t.nodes.filterMap fun entry => nameIn place entry.1

def start (t : Tree) : PathRoot → Place
  | .here => t.here
  | .top | .twoSlashes => []

def locateFrom (t : Tree) (place : Place) : List String → Except PathProblem Place
  | [] => .ok place
  | name :: rest =>
    match t.node? place with
    | none => .error .missing
    | some (.file _) => .error .notFolder
    | some .folder =>
      locateFrom t (if name = ".." then place.dropLast else place ++ [name]) rest

def locate (t : Tree) (path : Path) : Except PathProblem Place :=
  t.locateFrom (t.start path.root) path.names

def at? (t : Tree) (path : Path) : Option Node :=
  match t.locate path with
  | .error _ => none
  | .ok place => t.node? place

def isFolder (t : Tree) (path : Path) : Bool := t.at? path = some .folder

/-- The names in a folder; a path that leads to none has no names. -/
def list (t : Tree) (path : Path) : List String :=
  match t.locate path with
  | .error _ => []
  | .ok place => if t.node? place = some .folder then t.names place else []

def read (t : Tree) (path : Path) : Except PathError String :=
  match t.locate path with
  | .error problem => .error ⟨problem, path⟩
  | .ok place =>
    match t.node? place with
    | none => .error ⟨.missing, path⟩
    | some .folder => .error ⟨.isFolder, path⟩
    | some (.file text) => .ok text

/-- Writes a file into a folder that is there already, over any file of the same name. -/
def write (t : Tree) (path : Path) (text : String) : Except PathError Tree :=
  match t.locate path with
  | .error problem => .error ⟨problem, path⟩
  | .ok place =>
    if t.node? place = some .folder then .error ⟨.isFolder, path⟩
    else .ok (t.put place (.file text))

def addFolder (t : Tree) (path : Path) : Except PathProblem Tree :=
  match t.locate path with
  | .error problem => .error problem
  | .ok place => if (t.node? place).isSome then .error .taken else .ok (t.put place .folder)

/-- Makes one folder; one that is there already will do. -/
def ensureLast (t : Tree) (path : Path) : Except PathError Tree :=
  match t.addFolder path with
  | .ok t => .ok t
  | .error problem => if t.isFolder path then .ok t else .error ⟨problem, path⟩

/-- The names of the path from the last one up. -/
def ensureUp (t : Tree) (root : PathRoot) : List String → Except PathError Tree
  | [] => t.ensureLast ⟨root, []⟩
  | name :: up =>
    let path : Path := ⟨root, (name :: up).reverse⟩
    match t.addFolder path with
    | .error .missing =>
      match t.ensureUp root up with
      | .error problem => .error problem
      | .ok t => t.ensureLast path
    | _ => t.ensureLast path

/-- Makes a folder together with the folders it lies in. -/
def ensureFolder (t : Tree) (path : Path) : Except PathError Tree :=
  t.ensureUp path.root path.names.reverse

end Tree

end IntegerEnum
