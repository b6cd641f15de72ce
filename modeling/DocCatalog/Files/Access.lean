import DocCatalog.Files.Tree
/-!
# Access to files

Reading and writing along paths. A way leads through directories only.

* `FileError`: why an access fails.
* `locate`: the place to which a path leads. Nothing needs to be there.
* `readText`, `isFile`, `isDirectory`: what is at the end of a path.
* `makeDirectory`, `makeDirectories`: new directories, without and with those above them.
-/

namespace DocCatalog

inductive FileError where
  | notFound
  | busy
  | exists
  | notDirectory
  | isDirectory
  | notText
  /-- The device refuses, in its own words. -/
  | refused (reason : String)
  deriving DecidableEq, Repr

def FileError.text : FileError → String
  | .notFound => "No such file or directory (os error 2)"
  | .busy => "Device or resource busy (os error 16)"
  | .exists => "File exists (os error 17)"
  | .notDirectory => "Not a directory (os error 20)"
  | .isDirectory => "Is a directory (os error 21)"
  | .notText => "stream did not contain valid UTF-8"
  | .refused reason => reason

def Content.readText : Content → Except FileError String
  | .text s => .ok s
  | .bytes _ => .error .notText

namespace Tree

/-! ## Ways -/

/-- The place to which a way leads. A step is taken from a directory. -/
def walk (t : Tree) (place : Place) : List Path.Step → Except FileError Place
  | [] => .ok place
  | step :: steps =>
    match t.get? place with
    | some .directory => walk t (step.from place) steps
    | some (.file _) => .error .notDirectory
    | none => .error .notFound

def locate (t : Tree) (path : String) : Except FileError Place := t.walk [] (Path.steps path)

/-- What is at the end of a path. -/
def entryAt (t : Tree) (path : String) : Except FileError Entry := do
  match t.get? (← t.locate path) with
  | some e => .ok e
  | none => .error .notFound

def isFile (t : Tree) (path : String) : Bool :=
  match t.entryAt path with
  | .ok (.file _) => true
  | _ => false

def isDirectory (t : Tree) (path : String) : Bool :=
  match t.entryAt path with
  | .ok .directory => true
  | _ => false

/-! ## Reading -/

def readText (t : Tree) (path : String) : Except FileError String := do
  match ← t.entryAt path with
  | .file f => f.content.readText
  | .directory => .error .isDirectory

/-! ## Directories

Directories are made from the top down. Those that have been made stay if one further down cannot
be. -/

/-- Makes a directory in one that is there, to which the way leads. -/
def makeDirectory (t : Tree) (path : String) : Except FileError Tree := do
  let place ← t.walk [] (Path.named path)
  match t.get? place with
  | some _ => .error .exists
  | none => .ok (t.put place .directory)

/-- Makes the first of the given directories, after those behind it that are missing. Also gives the
tree if something keeps a directory from being made, with those that have been made. -/
def makeFirst (t : Tree) : (ancestors : List String) → Tree × Option FileError
  | [] => (t, some .notFound)
  | path :: above =>
    match t.makeDirectory path with
    | .ok made => (made, none)
    | .error .notFound =>
      match makeFirst t above with
      | (started, some e) => (started, some e)
      | (started, none) =>
        match started.makeDirectory path with
        | .ok made => (made, none)
        | .error e => (started, if started.isDirectory path then none else some e)
    | .error e => (t, if t.isDirectory path then none else some e)

/-- Makes a directory with all directories above it. It may be there already. -/
def makeDirectories (t : Tree) (path : String) : Tree × Option FileError :=
  t.makeFirst (Path.ancestors path)

end Tree

end DocCatalog
