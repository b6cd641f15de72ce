import DocCatalog.Files.Access
/-!
# Replacing files

A file is replaced as a whole or not at all: the new text is written beside it and then put in its
place.

* `WriteError`: why a file could not be replaced.
* `Fault`, `Device`: a step that the device refuses, or none.
* `Tree.target`: where a file can be put.
* `Tree.stageOn`: the temporary file, as far as it gets.
* `Tree.rename`: puts one file in the place of another.
* `Tree.replaceOn`: the tree with a new text in a file. The file keeps its mode.
* `Tree.replace`: the same on a device that refuses nothing.
-/

namespace DocCatalog

inductive WriteError where
  | createDirectory (directory : String) (cause : FileError)
  | stage (directory : String) (cause : FileError)
  | replace (path : String) (cause : FileError)
  deriving DecidableEq, Repr

namespace WriteError

def message : WriteError → String
  | .createDirectory directory _ => "failed to create directory " ++ directory
  | .stage directory _ => "failed to write a temporary file in " ++ directory
  | .replace path _ => "failed to replace " ++ path

/-- The causes, the nearest first. -/
def causes : WriteError → List String
  | .createDirectory _ cause | .stage _ cause => [cause.text]
  | .replace _ cause => ["failed to persist temporary file: " ++ cause.text, cause.text]

end WriteError

/-- A step of a replacement that the device refuses. -/
inductive Fault where
  /-- Of the directories, those of the lowest levels are not made. -/
  | directories (levels : Nat)
  | create
  /-- This much has been written. -/
  | write (written : Content)
  | setMode
  | flush
  | rename
  deriving DecidableEq, Repr

/-- The fault of a device, with the error that it gives. A second one would not be met, as nothing is
tried behind the first. -/
abbrev Device := Option (Fault × FileError)

namespace Tree

/-! ## The file that is replaced

A path may lead to a directory or through a file, and then there is no place to put a file in. -/

/-- The mode of a file that was not there before. -/
def newFileMode : Nat := 0o644

/-- The mode of the file at a place. -/
def modeAt (t : Tree) (place : Place) : Nat :=
  match t.fileAt? place with
  | some f => f.mode
  | none => newFileMode

/-- The mode that a file at the end of a path keeps. -/
def modeOf (t : Tree) (path : String) : Nat :=
  match t.locate path with
  | .ok place => t.modeAt place
  | .error _ => newFileMode

/-- The place of a file that is to be put at the end of a path. Only a name at its end is a place for
a file, and not that of a directory. -/
def target (t : Tree) (path : String) : Except FileError Place := do
  match (Path.named path).getLast? with
  | some (.into _) =>
    let place ← t.walk [] (Path.named path)
    if Path.endsInSlash path then .error .notDirectory
    else if t.get? place == some .directory then .error .isDirectory
    else .ok place
  | _ =>
    let _ ← t.walk [] (Path.named path).dropLast
    .error .busy

/-! ## The temporary file

It stands beside the file that it is to replace, so that putting it there is one step. -/

/-- A name that is none of the given ones, being longer. -/
def freshName (taken : List String) : String :=
  ".tmp" ++ String.ofList (List.replicate ((taken.map String.length).foldr max 0) '0')

/-- The name of a temporary file. Nothing in the tree has it, and no part of the path. -/
def temporaryName (t : Tree) (path : String) : String :=
  freshName (t.entries.flatMap Prod.fst ++ Path.pieces path)

/-- Puts the file at a place in the place of what is at the end of a path. -/
def rename (t : Tree) (source : Place) (path : String) : Except FileError Tree := do
  let place ← t.target path
  match t.get? source with
  | some e => .ok ((t.erase source).put place e)
  | none => .error .notFound

/-! ## Replacing

Each step may be refused. The temporary file is removed again then, and the file is as it was. -/

/-- The mode of a temporary file, which is its owner's alone. -/
def temporaryMode : Nat := 0o600

/-- Makes the directories for a file, as far as the device does. -/
def makeDirectoriesOn (device : Device) (t : Tree) (path : String) :
    Tree × Option FileError :=
  match device with
  | some (.directories levels, cause) =>
    ((t.makeFirst ((Path.ancestors path).drop levels)).1, some cause)
  | _ => t.makeDirectories path

/-- The temporary file with a text and a mode: it is created, written, given its mode and flushed. -/
def stageOn (device : Device) (t : Tree) (temporary : Place) (text : String)
    (mode : Nat) : Tree × Option FileError :=
  match device with
  | some (.create, cause) => (t, some cause)
  | some (.write written, cause) => (t.put temporary (.file ⟨written, temporaryMode⟩), some cause)
  | some (.setMode, cause) => (t.put temporary (.file ⟨.text text, temporaryMode⟩), some cause)
  | some (.flush, cause) => (t.put temporary (.file ⟨.text text, mode⟩), some cause)
  | _ => (t.put temporary (.file ⟨.text text, mode⟩), none)

def renameOn (device : Device) (t : Tree) (source : Place) (path : String) :
    Except FileError Tree :=
  match device with
  | some (.rename, cause) => .error cause
  | _ => t.rename source path

/-- The tree with a text in the file at the end of a path, and what kept it from being written.
Directories above it are made even then, and the temporary file is removed. -/
def replaceOn (device : Device) (t : Tree) (path text : String) :
    Tree × Option WriteError :=
  let directory := Path.parent path
  match t.makeDirectoriesOn device directory with
  | (t, some cause) => (t, some (.createDirectory directory cause))
  | (t, none) =>
    match t.locate directory with
    | .error cause => (t, some (.stage directory cause))
    | .ok place =>
      let temporary := place ++ [t.temporaryName path]
      match t.stageOn device temporary text (t.modeOf path) with
      | (staged, some cause) => (staged.erase temporary, some (.stage directory cause))
      | (staged, none) =>
        match staged.renameOn device temporary path with
        | .ok t => (t, none)
        | .error cause => (staged.erase temporary, some (.replace path cause))

/-- The tree with a text in the file at the end of a path, on a device that refuses nothing. -/
def replace (t : Tree) (path text : String) : Tree × Option WriteError :=
  t.replaceOn none path text

end Tree

end DocCatalog
