import FlowRunner.Backend.Effect
import FlowRunner.Text.Cut

/-!
# Files in memory

A tree of files and directories under a working directory. Paths are followed name by name from
there; what lies above the working directory, or starts at the root, is another directory of which
nothing is known.
-/

namespace FlowRunner

/-- Files and directories by the names that lead to them; a directory has no content. -/
structure FileTree where
  entries : List (List String × Option ByteArray)

namespace FileTree

/-- An empty working directory. -/
def empty : FileTree := ⟨[]⟩

instance : Inhabited FileTree := ⟨empty⟩

/-- What a path leads to. -/
inductive Place
  | file (names : List String) (content : ByteArray)
  | directory (names : List String)
  /-- A directory outside of the tree. -/
  | outside
  /-- A name that is free in a directory that exists; `asDirectory` when a slash follows it. -/
  | free (names : List String) (asDirectory : Bool)

/-- What stands under some names, if anything does. -/
def entry? (tree : FileTree) (names : List String) : Option Place :=
  if names.isEmpty then some (.directory [])
  else
    match tree.entries.lookup names with
    | some (some content) => some (.file names content)
    | some none => some (.directory names)
    | none => none

/-- Follows names from a place. -/
def follow (tree : FileTree) : (start : Place) → List String → Except FileError Place
  | place, [] => .ok place
  | .file .., _ :: _ => .error .notDirectory
  | .free names _, rest =>
    if rest.all (·.isEmpty) then .ok (.free names true) else .error .notFound
  | .outside, name :: rest =>
    if name.isEmpty || name == "." || name == ".." then tree.follow .outside rest
    else .error .notFound
  | .directory names, name :: rest =>
    if name.isEmpty || name == "." then tree.follow (.directory names) rest
    else if name == ".." then
      tree.follow (if names.isEmpty then .outside else .directory names.dropLast) rest
    else if 255 < name.utf8ByteSize then .error .nameTooLong
    else
      match tree.entry? (names ++ [name]) with
      | some place => tree.follow place rest
      | none => tree.follow (.free (names ++ [name]) false) rest

/-- What a path leads to. -/
def locate (tree : FileTree) (path : String) : Except FileError Place :=
  if path.toList.contains (Char.ofNat 0) then .error .nulInName
  else if path.isEmpty then .error .notFound
  else if 4095 < path.utf8ByteSize then .error .nameTooLong
  else
    match (Text.splitOn '/' path.toList).map String.ofList with
    | "" :: rest => tree.follow .outside rest
    | names => tree.follow (.directory []) names

/-- Sets what stands under some names. -/
def set (tree : FileTree) (names : List String) (content : Option ByteArray) : FileTree :=
  ⟨(tree.entries.filter fun entry => entry.1 != names) ++ [(names, content)]⟩

/-- The content of a file. -/
def read (tree : FileTree) (path : String) : Except FileError ByteArray :=
  match tree.locate path with
  | .error e => .error e
  | .ok (.file _ content) => .ok content
  | .ok (.directory _) => .error .isDirectory
  | .ok .outside => .error .isDirectory
  | .ok (.free ..) => .error .notFound

/-- Replaces the content of a file, which is made when its directory is there. -/
def write (tree : FileTree) (path : String) (content : ByteArray) :
    Except FileError Unit × FileTree :=
  match tree.locate path with
  | .error e => (.error e, tree)
  | .ok (.file names _) => (.ok (), tree.set names (some content))
  | .ok (.free names false) => (.ok (), tree.set names (some content))
  | .ok (.free _ true) => (.error .isDirectory, tree)
  | .ok (.directory _) => (.error .isDirectory, tree)
  | .ok .outside => (.error .isDirectory, tree)

/-- The kind of what stands at a path. -/
def kind? (tree : FileTree) (path : String) : Option FileKind :=
  match tree.locate path with
  | .ok (.file ..) => some .file
  | .ok (.directory _) => some .directory
  | .ok .outside => some .directory
  | _ => none

/-- The last of some names, when they lead into a directory of the tree itself. -/
def childOf? (directory names : List String) : Option String :=
  if names.dropLast == directory then names.getLast? else none

/-- The names in a directory. -/
def list (tree : FileTree) (path : String) : Except FileError (List String) :=
  match tree.locate path with
  | .error e => .error e
  | .ok (.directory names) => .ok (tree.entries.filterMap fun entry => childOf? names entry.1)
  | .ok .outside => .ok []
  | .ok (.file ..) => .error .notDirectory
  | .ok (.free ..) => .error .notFound

/-- Makes the directories that lead to some names. -/
def withParents (tree : FileTree) (names : List String) : FileTree :=
  (List.range names.length).foldl (fun soFar count =>
    let parent := names.take count
    if (soFar.entry? parent).isSome then soFar else soFar.set parent none) tree

/-- Puts a file or a directory into the tree, with the directories that lead to it. -/
def place (tree : FileTree) (path : String) (content : Option ByteArray) : FileTree :=
  let names := ((Text.splitOn '/' path.toList).map String.ofList).filter fun name =>
    !(name.isEmpty || name == ".")
  if names.isEmpty then tree else (tree.withParents names).set names content

/-- The files with their paths, in the order of the paths. -/
def files (tree : FileTree) : List (String × ByteArray) :=
  let found := tree.entries.filterMap fun entry =>
    entry.2.map fun content => ("/".intercalate entry.1, content)
  found.mergeSort fun a b => decide (a.1 ≤ b.1)

end FileTree

end FlowRunner
