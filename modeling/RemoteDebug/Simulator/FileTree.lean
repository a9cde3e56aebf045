import RemoteDebug.Config.Reading

/-!
# A simulated tree of files

Directories and plain files, by the names that lead to them from the root. A path is a text with
slashes; it is followed name by name from where the user is, and each name but the last has to lead
to a directory. A name is bounded in length and holds no character zero, and so does a path.
-/

namespace RemoteDebug.Simulator

/-- The names that lead to a file or a directory from the root. -/
abbrev Place : Type :=
  List String

/-- Why a path cannot be followed. -/
inductive PathFault where
  /-- Something on the way is missing. -/
  | missing
  /-- Something on the way stands in the way, or the path is none. -/
  | refused
deriving DecidableEq, Repr

/-- The system's text for a fault. -/
def PathFault.text : PathFault → String
  | missing => "No such file or directory"
  | refused => "Not a file that can be used so"

/-- A tree of files, and where the user is in it. -/
structure FileTree where
  home : Place := ["home"]
  directories : List Place := [["home"]]
  files : List (Place × ByteArray) := []

namespace FileTree

/-- The most bytes of a name. -/
def nameLimit : Nat :=
  255

/-- The most bytes of a path. -/
def pathLimit : Nat :=
  4095

/-- Whether a place is a directory. -/
def isDirectory (tree : FileTree) (place : Place) : Bool :=
  place.isEmpty || tree.directories.contains place

/-- The content of a plain file. -/
def content? (tree : FileTree) (place : Place) : Option ByteArray :=
  tree.files.lookup place

/-! ## Following a path -/

/-- The names in a path. -/
def namesOf (path : String) : List String :=
  (path.toList.splitOnP (· == '/')).map String.ofList

/-- Where a path starts. -/
def startOf (tree : FileTree) (path : String) : Place :=
  if path.startsWith "/" then [] else tree.home

/-- The place to which a name leads. -/
def enter (tree : FileTree) (place : Place) (name : String) : Except PathFault Place :=
  if !tree.isDirectory place then
    .error (if (tree.content? place).isSome then .refused else .missing)
  else if name = "" ∨ name = "." then .ok place
  else if name = ".." then .ok place.dropLast
  else if nameLimit < name.utf8ByteSize then .error .refused
  else .ok (place ++ [name])

/-- Whether a text is a path. -/
def isPath (path : String) : Bool :=
  !path.toList.contains '\x00' && path.utf8ByteSize ≤ pathLimit

/-- The place to which a path leads; there need not be anything. -/
def resolve (tree : FileTree) (path : String) : Except PathFault Place :=
  if path = "" then .error .missing
  else if !isPath path then .error .refused
  else (namesOf path).foldlM tree.enter (tree.startOf path)

/-! ## Reading and writing -/

/-- What is found at a path. -/
def find (tree : FileTree) (path : String) : Config.Found :=
  match tree.resolve path with
  | .error .missing => .nothing
  | .error .refused => .unreadable PathFault.refused.text
  | .ok place =>
    match tree.content? place with
    | some content => .bytes content
    | none => if tree.isDirectory place then .unreadable PathFault.refused.text else .nothing

/-- The tree with a file at a place. -/
def putFile (tree : FileTree) (place : Place) (content : ByteArray) : FileTree :=
  { tree with files := (place, content) :: tree.files.filter fun file => file.1 ≠ place }

/-- The tree with a directory at a place. -/
def putDirectory (tree : FileTree) (place : Place) : FileTree :=
  if tree.isDirectory place then tree
  else { tree with directories := place :: tree.directories }

/-- An operation that changes the tree, also if it fails. -/
abbrev Change : Type → Type :=
  ExceptT PathFault (StateM FileTree)

/-- Writes a file. -/
def write (path : String) (content : ByteArray) : Change Unit := do
  let tree ← get
  let place ← liftExcept (tree.resolve path)
  if tree.isDirectory place then throw .refused
  set (tree.putFile place content)

/-- Makes the directories that names lead to, one after the other. -/
def makeAlong (place : Place) : List String → Change Unit
  | [] => return
  | name :: rest => do
    let tree ← get
    let place ← liftExcept (tree.enter place name)
    if (tree.content? place).isSome then throw .refused
    set (tree.putDirectory place)
    makeAlong place rest

/-- Makes the directories in which the last name of a path lies. -/
def makeParents (path : String) : Change Unit := do
  if !isPath path then throw .refused
  let names := (namesOf path).filter fun name => name ≠ "" ∧ name ≠ "."
  makeAlong ((← get).startOf path) names.dropLast

/-- Writes a file, and makes the directories in which it lies. -/
def writeMaking (path : String) (content : ByteArray) : Change Unit := do
  makeParents path
  write path content

/-- Saves a configuration at a path. -/
def save (tree : FileTree) (path : String) (config : Config) : Except Error Unit × FileTree :=
  let (result, after) := (writeMaking path config.text.toUTF8).run tree
  (result.mapError fun fault => .io fault.text, after)

end FileTree

end RemoteDebug.Simulator
