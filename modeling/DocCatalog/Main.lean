import DocCatalog.CommandLine.Program
/-!
# The program itself

Takes a picture of the files of the project around the working directory, calls the program on it, and
writes what has changed.
-/

namespace DocCatalog.Disk

/-- The place of an absolute path. -/
def placeOf (path : String) : Place := (Path.components path).drop 1

/-- The entries below a directory. Links are not followed. -/
partial def entriesBelow (directory : String) : IO (List (Place × Entry)) := do
  let real ← IO.FS.realPath directory
  let mut entries := []
  for child in ← real.readDir do
    let path := Path.join directory child.fileName
    match (← child.path.symlinkMetadata).type with
    | .dir => entries := (placeOf path, .directory) :: (← entriesBelow path) ++ entries
    | .file =>
      let bytes ← IO.FS.readBinFile path
      let file : File := ⟨.ofBytes bytes.toList, Tree.newFileMode⟩
      entries := (placeOf path, .file file) :: entries
    | _ => pure ()
  return entries

/-- The directories at and above a path, with the markers in them. -/
def markedAncestors (path : String) : IO Tree := do
  let mut t : Tree := {}
  for directory in Path.ancestors path do
    if directory != "/" then t := t.put (placeOf directory) .directory
    for marker in Project.markers do
      let file := Path.join directory marker
      let isThere ← try discard (IO.FS.readBinFile file); pure true catch _ => pure false
      if isThere then t := t.put (placeOf file) (.file ⟨.text "", Tree.newFileMode⟩)
  return t

/-- The tree that the program sees. -/
def picture (workingDirectory : String) : IO Tree := do
  let t ← markedAncestors workingDirectory
  match Project.findRoot? t workingDirectory with
  | none => return t
  | some root =>
    let place := placeOf root
    let above := t.entries.filter fun e => !place.isPrefixOf e.1
    return ⟨(place, .directory) :: (← entriesBelow root) ++ above⟩

/-- Writes the files that are new or have another content. -/
def writeChanges (before after : Tree) : IO Unit := do
  for (place, entry) in after.entries do
    if before.get? place != some entry then
      match entry with
      | .directory => IO.FS.createDirAll place.text
      | .file ⟨.text s, _⟩ =>
        IO.FS.createDirAll (Path.parent place.text)
        IO.FS.writeFile place.text s
      | .file _ => pure ()

end DocCatalog.Disk

open DocCatalog in
/-- Calls the program on the project around the working directory. -/
def main (arguments : List String) : IO UInt32 := do
  let workingDirectory := (← IO.currentDir).toString
  let before ← Disk.picture workingDirectory
  let outcome := CommandLine.call before workingDirectory (CommandLine.programName :: arguments)
  Disk.writeChanges before outcome.tree
  IO.print outcome.stdout
  IO.eprint outcome.stderr
  return outcome.exitCode.toUInt32
