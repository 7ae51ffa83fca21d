import Copybook.CommandLine
import Std.Time.Format

/-!
The command as a program. It knows the files below the working directory and the directories above it:
all of them are read before the call, and what the call has changed is written after it. -/
namespace Copybook
namespace Main

def toPath (place : Files.Place) : String := String.ofList ('/' :: Text.join ['/'] place)

/-- Reads what the entries of a directory hold. Links are passed over unless they lead to files. -/
partial def readEntries (place : Files.Place) : List IO.FS.DirEntry → Files.Tree → IO Files.Tree
  | [], tree => return tree
  | entry :: rest, tree => do
    let here := place ++ [entry.fileName.toList]
    let isLink := (← entry.path.symlinkMetadata).type == .symlink
    if ← entry.path.isDir then
      if isLink then readEntries place rest tree
      else
        let below ← readEntries here (← entry.path.readDir).toList (tree.plant .directory here)
        readEntries place rest below
    else match ← (IO.FS.readBinFile entry.path).toBaseIO with
      | .ok bytes => readEntries place rest (tree.plant (.file bytes.toList) here)
      | .error _ => readEntries place rest tree

def readFiles : IO Files.Tree := do
  let here ← IO.currentDir
  let working := (here.components.filter fun name => !name.isEmpty).map String.toList
  let tree : Files.Tree := ⟨working, []⟩
  readEntries working (← here.readDir).toList (tree.plant .directory working)

def writeFiles (before after : Files.Tree) : IO Unit := do
  let changed := after.nodes.filter fun entry => before.node? entry.1 != some entry.2
  for (place, node) in changed do
    match node with
    | .directory => IO.FS.createDirAll (toPath place)
    | .file content => IO.FS.writeBinFile (toPath place) ⟨content.toArray⟩

def seconds (milliseconds : Nat) : Text :=
  let hundredths := (milliseconds + 5) / 10
  Text.ofNat (hundredths / 100) ++ ['.'] ++ Text.padLeft '0' 2 (Text.ofNat (hundredths % 100))

def timeStamp : IO Text := do
  return ((← Std.Time.PlainDateTime.now).format "uuuu-MM-dd HH:mm:ss,SSS").toList

def breakage (session : CommandLine.Session) : Text :=
  match session.ending with
  | .broken fault => (fault.message.getD "unusable value") ++ ['\n']
  | _ => []

/-- How deeply documents may be nested; nothing here depends on the number. -/
def depth : Json.Depth := ⟨1000, by decide⟩

def run (words : List String) : IO UInt32 := do
  let before ← readFiles
  let start ← IO.monoMsNow
  let session := CommandLine.call depth (words.map String.toList) before
  writeFiles before session.files
  let time ← timeStamp
  let taken := seconds ((← IO.monoMsNow) - start)
  IO.print (String.ofList session.output)
  IO.eprint (String.ofList (session.errorOutput time taken ++ breakage session))
  return UInt32.ofNat session.ending.exitCode

end Main
end Copybook

def main (words : List String) : IO UInt32 := Copybook.Main.run words
