import TrafficGate.Files.Path
import TrafficGate.Table

/-!
# Files

A working directory and everything below it, as a value, with the operations that the program needs
and the errors that they end in.  Of the file system around it only what every system has is known:
the directories above, the usual ones below the root, and a few files.

* `Files.locate`: where a path leads, when every directory on the way exists.
* `Files.readText`, `Files.makeDirectories`, `Files.place`, `Files.ensure`, `Files.replace`,
  `Files.remove`.
-/

namespace TrafficGate

/-- Why a file operation fails. -/
inductive FileError where
  | notFound | alreadyExists | notDirectory | isDirectory | busy | notText | tooLong | holdsNul
  deriving DecidableEq, Repr, Inhabited

/-- The wording of the error. -/
def FileError.message : FileError → String
  | .notFound => "No such file or directory (os error 2)"
  | .busy => "Device or resource busy (os error 16)"
  | .alreadyExists => "File exists (os error 17)"
  | .notDirectory => "Not a directory (os error 20)"
  | .isDirectory => "Is a directory (os error 21)"
  | .tooLong => "File name too long (os error 36)"
  | .notText => "stream did not contain valid UTF-8"
  | .holdsNul => "file name contained an unexpected NUL byte"

/-- What stands under a path. -/
inductive FileNode where
  | directory
  | file (content : ByteArray)
  deriving Inhabited

instance : DecidableEq FileNode
  | .directory, .directory => isTrue rfl
  | .directory, .file _ => isFalse nofun
  | .file _, .directory => isFalse nofun
  | .file a, .file b =>
    match ByteArray.instDecidableEq a b with
    | isTrue h => isTrue (congrArg _ h)
    | isFalse h => isFalse fun e => h (FileNode.file.inj e)

/-- Everything below the working directory, each file and directory under its path from there.  What
is made elsewhere stands under its path from the root, or under one that leads upwards first. -/
structure Files where
  nodes : Table FileNode := Table.empty
  /-- The path of the working directory from the root. -/
  home : String := "/tmp/.tmp000000"
  deriving DecidableEq, Inhabited

/-- Where a path leads: to a directory that was walked into, or to a name in a directory, with or
without a slash behind it. -/
inductive Place where
  | here (directory : List String)
  | entry (directory : List String) (name : String) (slash : Bool)
  deriving DecidableEq, Repr, Inhabited

namespace Files

/-- The key of a row of names; a row from the root starts with an empty one. -/
def key (names : List String) : String := "/".intercalate names

/-- The directories that every system has below its root. -/
def usualDirectories : List String :=
  ["bin", "boot", "dev", "etc", "home", "lib", "media", "mnt", "opt", "proc", "root", "run", "sbin",
   "srv", "sys", "tmp", "usr", "var"]

/-- The row of names is the working directory, or leads upwards from it. -/
def isUpward (names : List String) : Bool := names.all (· = "..")

/-- The files that every system has, and how they start: the empty device, users and hosts. -/
def usualFiles : List (List String × String) :=
  [(["", "dev", "null"], ""), (["", "etc", "passwd"], "root:x:0:0:root:/root:/bin/sh\n"),
   (["", "etc", "hosts"], "127.0.0.1\tlocalhost\n")]

/-- What stands around the working directory. -/
def around (names : List String) : Option FileNode :=
  if isUpward names then some .directory
  else match names with
    | [""] => some .directory
    | ["", name] => if usualDirectories.contains name then some .directory else none
    | names => (usualFiles.lookup names).map fun text => .file text.toUTF8

/-- Nothing can be made in the directory of processes. -/
def isSealed (directory : List String) : Bool := directory = ["", "proc"]

/-- What stands under a row of names: what was put there, or else what stands around the working
directory, which is the row without names. -/
def at? (files : Files) (names : List String) : Option FileNode :=
  (files.nodes.get? (key names)).or (around names)

/-- The directory above a directory; the root is above itself. -/
def above (directory : List String) : List String :=
  if isUpward directory then directory ++ [".."]
  else if directory = [""] then directory
  else directory.dropLast

/-- The most bytes that a name takes up. -/
def nameLimit : Nat := 255

/-- The most bytes that a path takes up. -/
def pathLimit : Nat := 4095

/-- Walks into a directory. -/
def enter (files : Files) (directory : List String) (name : String) :
    Except FileError (List String) :=
  if name = "." then .ok directory
  else if name = ".." then .ok (above directory)
  else if nameLimit < name.utf8ByteSize then .error .tooLong
  else match files.at? (directory ++ [name]) with
    | none => .error .notFound
    | some (.file _) => .error .notDirectory
    | some .directory => .ok (directory ++ [name])

/-- Where a path leads.  The empty path leads nowhere. -/
def locate (files : Files) (path : String) : Except FileError Place :=
  if path.toList.contains '\x00' then .error .holdsNul
  else if pathLimit < path.utf8ByteSize then .error .tooLong
  else if path = "" then .error .notFound
  else do
    let names := Path.names path
    let start := if Path.isAbsolute path then [""] else []
    let directory ← names.dropLast.foldlM files.enter start
    match names.getLast? with
    | none => return .here directory
    | some "." => return .here directory
    | some ".." => return .here (above directory)
    | some name =>
      if nameLimit < name.utf8ByteSize then throw .tooLong
      else return .entry directory name (Path.endsWithSlash path)

/-- What stands under a path. -/
def nodeAt (files : Files) (path : String) : Except FileError FileNode := do
  match ← files.locate path with
  | .here _ => return .directory
  | .entry directory name slash =>
    match files.at? (directory ++ [name]) with
    | none => throw .notFound
    | some .directory => return .directory
    | some (.file content) => if slash then throw .notDirectory else return .file content

/-- A directory stands under the path. -/
def isDirectory (files : Files) (path : String) : Bool :=
  match files.nodeAt path with
  | .ok .directory => true
  | _ => false

/-- The text of the file under a path. -/
def readText (files : Files) (path : String) : Except FileError String := do
  match ← files.nodeAt path with
  | .directory => throw .isDirectory
  | .file content =>
    match String.fromUTF8? content with
    | some text => return text
    | none => throw .notText

/-- The files with a node under a row of names. -/
def put (files : Files) (names : List String) (node : FileNode) : Files :=
  { files with nodes := files.nodes.insert (key names) node }

/-- Makes one directory, where nothing stands yet. -/
def makeDirectory (files : Files) (path : String) : Except FileError Files := do
  match ← files.locate path with
  | .here _ => throw .alreadyExists
  | .entry directory name _ =>
    match files.at? (directory ++ [name]) with
    | some _ => throw .alreadyExists
    | none =>
      if isSealed directory then throw .notFound
      else return files.put (directory ++ [name]) .directory

/-- An error in making a directory does not count where one stands. -/
def settle (files : Files) (path : String) (e : FileError) : Except FileError Unit :=
  if files.isDirectory path then .ok () else .error e

/-- Makes the first directory of an ascent, and those above it that are missing.  What has been made
before an error stays. -/
def makeAscent (files : Files) : List String → Except FileError Unit × Files
  | [] => (.ok (), files)
  | path :: above =>
    if path = "" then (.ok (), files)
    else match files.makeDirectory path with
      | .ok files => (.ok (), files)
      | .error .notFound =>
        match files.makeAscent above with
        | (.error e, files) => (.error e, files)
        | (.ok (), files) =>
          match files.makeDirectory path with
          | .ok files => (.ok (), files)
          | .error e => (files.settle path e, files)
      | .error e => (files.settle path e, files)

/-- Makes a directory and the missing ones above it. -/
def makeDirectories (files : Files) (path : String) : Except FileError Unit × Files :=
  files.makeAscent (Path.ascent path)

/-- Puts a node under the path, and makes the missing directories above it. -/
def place (files : Files) (path : String) (node : FileNode) : Except FileError Files := do
  let directory := match node with
    | .directory => path
    | .file _ => (Path.parent? path).getD ""
  let (made, files) := files.makeDirectories directory
  made
  match ← files.locate path with
  | .here _ => return files
  | .entry directory name _ => return files.put (directory ++ [name]) node

/-- Makes an empty file under the path unless a file is there. -/
def ensure (files : Files) (path : String) : Except FileError Files := do
  match ← files.locate path with
  | .here _ => throw .isDirectory
  | .entry directory name slash =>
    if slash then throw .isDirectory
    match files.at? (directory ++ [name]) with
    | some .directory => throw .isDirectory
    | some (.file _) => return files
    | none =>
      if isSealed directory then throw .notFound
      else return files.put (directory ++ [name]) (.file ByteArray.empty)

/-- The path from the root of a new file with a name of ten characters. -/
def draftPath (files : Files) (directory : String) : String :=
  let base := if Path.isAbsolute directory then directory else Path.child files.home directory
  Path.child base ".tmp000000"

/-- Puts a text under the path at one stroke: it is written to a new file in the directory `beside`,
which then takes the place of what stood under the path. -/
def replace (files : Files) (beside path text : String) : Except FileError Files := do
  if pathLimit < (files.draftPath beside).utf8ByteSize then throw .tooLong
  match ← files.nodeAt beside with
  | .file _ => throw .notDirectory
  | .directory =>
    match ← files.locate path with
    | .here _ => throw .busy
    | .entry directory name slash =>
      if slash then throw .notDirectory
      match files.at? (directory ++ [name]) with
      | some .directory => throw .isDirectory
      | _ => return files.put (directory ++ [name]) (.file text.toUTF8)

/-- The files without what stands under the path, if anything does. -/
def remove (files : Files) (path : String) : Files :=
  match files.locate path with
  | .ok (.entry directory name _) =>
    let gone := directory ++ [name]
    let kept := files.nodes.entries.filter fun (k, _) => !gone.isPrefixOf (Text.pieces '/' k)
    { files with nodes := Table.ofList kept }
  | _ => files

/-- Every path below the working directory, sorted as texts; directories end with a slash. -/
def tree (files : Files) : List String :=
  let below := files.nodes.entries.filter fun (path, _) =>
    (Text.pieces '/' path).head?.all fun first => first ≠ "" ∧ first ≠ ".."
  let shown := below.map fun (path, node) =>
    match node with
    | .directory => path ++ "/"
    | .file _ => path
  (Table.ofList (shown.map fun path => (path, ()))).keys

end Files

end TrafficGate
