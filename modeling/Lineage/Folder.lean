import Lineage.Ident

/-! # Files

    Reading and writing whole files is all that is asked of a file system.
    `Files` says it for any monad, so that the same program runs over the real
    files of a machine and over a `Folder`, a value that holds the files of
    one directory.

    A folder knows its own files and nothing outside of them.  A path leads to
    a file of the folder when, its `.` steps dropped, one name is left; a path
    that is empty, ends in a slash, passes through another directory, or is
    too long for a name leads nowhere. -/

namespace Lineage

/-- Reading and writing whole files. -/
structure Files (m : Type → Type) where
  /-- The bytes of a file, if it can be read. -/
  read : String → m (Option ByteArray)
  /-- Makes the text the content of a file, and says whether that succeeded. -/
  write : String → String → m Bool

/-- The files of one directory, by name. -/
abbrev Folder := Table ByteArray

namespace Folder

/-- The steps of a path, between its slashes. -/
def steps (path : String) : List String := go path.toList []
where
  /-- Cuts at slashes; `step` holds the current step, last character first. -/
  go : List Char → List Char → List String
    | [], step => [String.ofList step.reverse]
    | c :: cs, step => if c = '/' then String.ofList step.reverse :: go cs [] else go cs (c :: step)

/-- The longest name of a file, in bytes. -/
def longestName : Nat := 255

/-- The file of the folder that a path leads to. -/
def fileAt? (path : String) : Option String :=
  let ss := steps path
  let inner := ss.dropLast
  match ss.getLast? with
  | none => none
  | some name =>
      if name ∈ ["", ".", ".."] || name.utf8ByteSize > longestName || name.contains '\x00' then none
      else if inner.head? = some "" then none
      else if inner.all (fun s => s = "." || s = "") then some name
      else none

/-- The bytes of the file that a path leads to. -/
def read? (folder : Folder) (path : String) : Option ByteArray :=
  (fileAt? path).bind fun name => folder[name]?

/-- The text of the file that a path leads to. -/
def text? (folder : Folder) (path : String) : Option String :=
  (folder.read? path).bind String.fromUTF8?

/-- The folder once a text was written to the file that a path leads to. -/
def write? (folder : Folder) (path : String) (text : String) : Option Folder :=
  (fileAt? path).map fun name => folder.insert name text.toUTF8

/-- A folder as a place to read from and write to. -/
def files : Files (StateM Folder) where
  read path := return (← get).read? path
  write path text := do
    match (← get).write? path text with
    | some folder => set folder; return true
    | none => return false

end Folder

end Lineage
