import Gradebook.Command.Database.OpenOptions

/-! Where the store lives. A database URL names a file, or the memory of the program. What is found at the
path of the file decides whether there is a store to work on, and how it was opened whether the store
can be changed. -/

namespace Gradebook.Command

/-- The names on the way from the root to a file. -/
abbrev Path := List String

/-- The place of a store. -/
structure Database where
  path : Path
  access : Access
  deriving DecidableEq, Repr

namespace Database

/-- The file systems of the engine. -/
def systems : List String := ["unix", "unix-none", "unix-dotfile", "unix-excl", "memdb"]

/-- The path of a name in a directory. A single dot stands for the directory, and two dots for the one
above it. -/
def resolve (directory : Path) (name : String) : Path :=
  let start : Path := if name.toList.head? = some '/' then [] else directory
  ((Text.splitChars '/' name.toList).map String.ofList).foldl (fun path name =>
    if name = "" ∨ name = "." then path
    else if name = ".." then path.dropLast
    else path ++ [name]) start

/-- The database that a URL names, if a path in it begins in a directory. A file without a name is one in
memory. -/
def ofUrl (directory : Path) (url : String) : Except Store.Error Database := do
  let cs := url.toList
  let cs := withoutStart "sqlite://".toList cs.length cs
  let cs := withoutStart "sqlite:".toList cs.length cs
  let (place, tail) := Text.cutAt '?' cs
  let name ← (Text.readUtf8 (decodedBytes place)).mapError fun flaw => misconfigured flaw.message
  let parameters := assignments (tail.getD [])
  let opening : OpenOptions ← parameters.foldlM (fun w (name, value) =>
    w.take (readParameter name) (readParameter value)) {}
  let (name, opening) ← readName opening name
  match opening.system with
  | none => pure ()
  | some system => if systems.contains system then pure () else throw (refused 1 ("no such vfs: " ++ system))
  let inMemory :=
    opening.access.inMemory || opening.system == some "memdb" || name == ":memory:" || name.isEmpty
  pure ⟨resolve directory name, { opening.access with inMemory }⟩

end Database

inductive Content where
  | unreachable
  | missing
  | empty
  | foreign
  | store (store : Store)
  deriving DecidableEq, Repr

namespace Database

/-- How many bytes the name of a file may have, so that a name beside it can have eight more. -/
def maxNameLength : Nat := 247

/-- What there is once the file was opened. -/
def found (d : Database) (content : Content) : Content :=
  if (d.path.getLast?.getD "").utf8ByteSize > maxNameLength then .unreachable
  else if content = .missing ∧ d.access.creates ∧ !d.access.readOnly then .empty
  else content

/-- The store in a database, or a fresh one where there is none yet, and whether it can only be read. -/
def openStore (d : Database) (fresh : Store) (content : Content) : Except Store.Error (Store × Bool) :=
  if d.access.inMemory then
    if d.access.readOnly then .error .readOnlyTables else .ok (fresh, false)
  else
    match d.found content with
    | .unreachable => .error .cannotOpen
    | .missing => .error .cannotOpen
    | .foreign => .error .notStore
    | .empty =>
      if d.access.immutable then .error .readOnlyTables
      else if d.access.readOnly then .error .readOnlyFile
      else .ok (fresh, false)
    | .store store => .ok (store, d.access.readOnly || d.access.immutable)

/-- What is left at the path of a database. -/
def leave (d : Database) (content : Content) : Option (Path × Content) :=
  if d.access.inMemory then none else some (d.path, content)

end Database

end Gradebook.Command
