import MockCluster.Files.Access
import MockCluster.Files.Path
import MockCluster.KeyedList

/-!
Files and directories below a working directory, as a finite map from locations.

A location is the list of names that leads from the working directory down to an entry; it begins
with `..` for what lies outside, of which only the directories upwards are known.
-/

namespace MockCluster

inductive FileEntry where
  | file (bytes : ByteArray)
  | directory

abbrev FileLocation := List String

structure FileTree where
  workingDirectory : String
  entries : List (FileLocation × FileEntry)

namespace FileTree

/-- The directories that are always there. -/
def isOutside (location : FileLocation) : Bool :=
  location.all (· = "..") || location = ["/"]

def find? (tree : FileTree) (location : FileLocation) : Option FileEntry :=
  if isOutside location then some .directory else tree.entries.lookup location

def set (tree : FileTree) (location : FileLocation) (entry : FileEntry) : FileTree :=
  { tree with entries := KeyedList.put location entry tree.entries }

def erase (tree : FileTree) (location : FileLocation) : FileTree :=
  { tree with entries := tree.entries.filter fun pair => pair.1 ≠ location }

def step (here : FileLocation) (name : String) : FileLocation :=
  if name = "." then here
  else if name = ".." then
    if here = ["/"] then here
    else if here.all (· = "..") then here ++ [".."]
    else here.dropLast
  else here ++ [name]

def follow (tree : FileTree) (here : FileLocation) : List String → Except FileFault FileLocation
  | [] => .ok here
  | name :: rest =>
    match tree.find? here with
    | none => .error .notFound
    | some (.file _) => .error .notDirectory
    | some .directory =>
      if name.utf8ByteSize > 255 then .error .nameTooLong
      else follow tree (step here name) rest

def belowWorkingDirectory (tree : FileTree) (path : List Char) : Option (List Char) :=
  let here := tree.workingDirectory.toList
  if path = here then some []
  else if (here ++ ['/']).isPrefixOf path then some (path.drop (here.length + 1))
  else none

def locate (tree : FileTree) (path : String) : Except FileFault (FileLocation × Bool) :=
  let chars := path.toList
  if chars = [] then .error .notFound
  else if '\x00' ∈ chars then .error .nulInPath
  else
    let (start, pieces) :=
      match tree.belowWorkingDirectory chars with
      | some rest => (([] : FileLocation), FilePath.split rest)
      | none =>
        if FilePath.isAbsolute path then (["/"], FilePath.split chars)
        else ([], FilePath.split chars)
    let names := (pieces.filter (· ≠ [])).map String.ofList
    (tree.follow start names).map fun location =>
      (location, pieces.getLast? = some [])

def contains (tree : FileTree) (path : String) : Bool :=
  match tree.locate path with
  | .error _ => false
  | .ok (location, slash) =>
    match tree.find? location with
    | some .directory => true
    | some (.file _) => !slash
    | none => false

def read (tree : FileTree) (path : String) : Except FileFault ByteArray := do
  let (location, slash) ← tree.locate path
  match tree.find? location with
  | some .directory => .error .isDirectory
  | some (.file bytes) => if slash then .error .notDirectory else .ok bytes
  | none => .error .notFound

/-- A path that ends in a slash names no file that could be written. -/
def write (tree : FileTree) (path : String) (bytes : ByteArray) : Except FileFault FileTree := do
  let (location, slash) ← tree.locate path
  match tree.find? location with
  | some .directory => .error .isDirectory
  | _ => if slash then .error .isDirectory else .ok (tree.set location (.file bytes))

def rename (tree : FileTree) (source target : String) : Except FileFault FileTree := do
  let (old, _) ← tree.locate source
  let (new, slash) ← tree.locate target
  match tree.find? old with
  | none => .error .notFound
  | some .directory => .error .isDirectory
  | some (.file bytes) =>
    if slash then .error .notDirectory
    else
      match tree.find? new with
      | some .directory => .error .isDirectory
      | _ => .ok (if old = new then tree else (tree.erase old).set new (.file bytes))

def copy (tree : FileTree) (source target : String) : Except FileFault FileTree :=
  match tree.read source with
  | .error .isDirectory => .error .notRegular
  | .error fault => .error fault
  | .ok bytes => tree.write target bytes

def remove (tree : FileTree) (path : String) : Except FileFault FileTree := do
  let (location, slash) ← tree.locate path
  match tree.find? location with
  | none => .error .notFound
  | some .directory => .error .isDirectory
  | some (.file _) => if slash then .error .notDirectory else .ok (tree.erase location)

/-- Runs a change, which is all or nothing. -/
def change (f : FileTree → Except FileFault FileTree) : StateM FileTree (Except FileFault Unit) :=
  fun tree =>
    match f tree with
    | .ok next => (.ok (), next)
    | .error fault => (.error fault, tree)

instance : FileAccess (StateM FileTree) where
  fileExists path := fun tree => (tree.contains path, tree)
  readBytes path := fun tree => (tree.read path, tree)
  writeBytes path bytes := change (·.write path bytes)
  rename source target := change (·.rename source target)
  copy source target := change (·.copy source target)
  remove path := change (·.remove path)

def place (tree : FileTree) (path : String) (entry : FileEntry) : FileTree :=
  let names := ((FilePath.split path.toList).filter fun piece =>
    !FilePath.leadsNowhere piece).map String.ofList
  let above := (List.range names.length).map fun n => names.take n
  let tree := above.foldl (fun tree location =>
    if (tree.find? location).isNone then tree.set location .directory else tree) tree
  if isOutside names then tree else tree.set names entry

def listing (tree : FileTree) : List (FileLocation × FileEntry) :=
  (tree.entries.filter fun pair => pair.1.head? ≠ some ".." && pair.1.head? ≠ some "/").mergeSort
    fun a b => !b.1.lex a.1 fun x y => decide (x < y)

end FileTree

end MockCluster
