import TrafficGate.Files
import TrafficGate.Json.Wire
import TrafficGate.Store
import TrafficGate.Text.Blank

/-!
# Store — File

Properties kept in a file, as a JSON object of texts.  Reading and writing hold a lock file beside it.
A batch is a change of what the file says, and the new text takes the place of the old one at one
stroke; a file that cannot be read is never written.
-/

namespace TrafficGate

/-- A property file at a path, among files. -/
structure FileStore where
  path : String
  files : Files
  deriving DecidableEq, Inhabited

namespace FileStore

/-- A property file at a path, and the files then.  Missing directories above it are made, the file
itself is not. -/
def open? (files : Files) (path : String) : Except FileError FileStore × Files :=
  let (made, files) := files.makeDirectories ((Path.parent? path).getD "")
  (made.map fun _ => ⟨path, files⟩, files)

/-- The lock file beside a property file. -/
def lockPath (path : String) : String := Path.withName path ((Path.name? path).getD "" ++ ".lock")

/-- Holds the lock, which makes its file. -/
def lock (store : FileStore) : Except FileError FileStore :=
  (store.files.ensure (lockPath store.path)).map fun files => { store with files }

/-- What the text of a property file says: nothing if it is blank. -/
def decode (path text : String) : Except StoreError Properties :=
  if Text.trim text = "" then .ok Table.empty
  else match (Json.parse text).bind Properties.ofJson? with
    | some properties => .ok properties
    | none => .error (.corrupt (path ++ ": not a JSON object of texts"))

/-- What the property file says: nothing if there is none. -/
def read (store : FileStore) : Except StoreError Properties :=
  match store.files.readText store.path with
  | .ok text => decode store.path text
  | .error .notFound => .ok Table.empty
  | .error e => .error (.io e.message)

/-- The directory in which the new text is prepared. -/
def directory (path : String) : String :=
  match Path.parent? path with
  | some directory => if directory = "" then "." else directory
  | none => "."

/-- Writes properties into the file. -/
def write (store : FileStore) (properties : Properties) : Except FileError FileStore :=
  (store.files.replace (directory store.path) store.path (Json.renderTable properties)).map
    fun files => { store with files }

/-- Reads every property, under the lock. -/
def load (store : FileStore) : Except StoreError Properties × FileStore :=
  match store.lock with
  | .error e => (.error (.io e.message), store)
  | .ok store => (store.read, store)

/-- What is logged when a batch has been written. -/
def updated (path : String) (count : Nat) : Log.Entry where
  level := .debug
  source := .propertyFile
  message := "Property file updated"
  fields := [("path", .shown path), ("operations", .count count)]

/-- Applies a batch, under the lock.  An empty batch does not touch anything. -/
def apply (store : FileStore) (batch : List Write) :
    Except StoreError Unit × FileStore × List Log.Entry :=
  if batch.isEmpty then (.ok (), store, [])
  else match store.lock with
    | .error e => (.error (.io e.message), store, [])
    | .ok store =>
      match store.read with
      | .error e => (.error e, store, [])
      | .ok properties =>
        match store.write (Write.applyAll properties batch) with
        | .error e => (.error (.io e.message), store, [])
        | .ok store => (.ok (), store, [updated store.path batch.length])

end FileStore

instance : Store FileStore where
  load := FileStore.load
  apply := FileStore.apply

end TrafficGate
