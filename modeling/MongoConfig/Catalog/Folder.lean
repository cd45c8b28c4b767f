import MongoConfig.Catalog.Error
import MongoConfig.Text.Split
/-! Folders of files: what a path leads to. A path is walked step by step, and only what lies in the
folder is known.
-/

namespace MongoConfig.Catalog

def isInPlace (step : List Char) : Bool :=
  step = [] || step = ['.']

def isUpward (step : List Char) : Bool :=
  step = ['.', '.']

/-- Adds a step to those that lead to a place. A step upward takes the last one back. -/
def addStep (steps : List String) (step : List Char) : List String :=
  if isInPlace step then steps
  else if isUpward step then steps.dropLast
  else steps ++ [String.ofList step]

/-- The steps that are left of a path in the end. -/
def pathSteps (path : String) : List String :=
  (Text.pieces '/' path.toList).foldl addStep []

/-- The files below a folder and the folders in it, each with the path that leads to it. -/
structure Folder where
  files : List (String × List UInt8) := []
  folders : List String := []
deriving Repr

/-- Where a path leads. -/
inductive Place where
  | folder (steps : List String)
  | file (bytes : List UInt8)
  | outside
deriving DecidableEq, Repr

namespace Folder

def fileAt? (folder : Folder) (steps : List String) : Option (List UInt8) :=
  (folder.files.find? fun file => pathSteps file.1 = steps).map (·.2)

/-- The greatest length of a name in a folder, in bytes. -/
def maxNameBytes : Nat :=
  255

/-- The least length of a path that is too long, in bytes. -/
def pathLimitBytes : Nat :=
  4096

/-- Goes on to a name in the folder that the steps lead to. -/
def enter (folder : Folder) (steps : List String) (name : List Char) : Except FileFault Place :=
  let target := addStep steps name
  if maxNameBytes < (String.ofList name).utf8ByteSize then
    .error .nameTooLong
  else
    match folder.fileAt? target with
    | some bytes => .ok (.file bytes)
    | none =>
        if folder.folders.any fun path => pathSteps path = target then
          .ok (.folder target)
        else
          .error .missing

/-- Goes one step from a place. No step leads on from a file, not even one that stays. -/
def move (folder : Folder) : Place → List Char → Except FileFault Place
  | .file _, _ => .error .notADirectory
  | .outside, step => if isInPlace step || isUpward step then .ok .outside else .error .missing
  | .folder steps, step =>
      if isInPlace step then
        .ok (.folder steps)
      else if isUpward step then
        .ok (if steps.isEmpty then .outside else .folder steps.dropLast)
      else
        folder.enter steps step

/-- Where a path leads that starts in the folder, or outside of it if the path is absolute. -/
def follow (folder : Folder) (path : String) : Except FileFault Place :=
  if '\x00' ∈ path.toList then
    .error .zeroByte
  else if path = "" then
    .error .missing
  else if pathLimitBytes ≤ path.utf8ByteSize then
    .error .nameTooLong
  else
    (Text.pieces '/' path.toList).foldlM folder.move
      (if path.startsWith "/" then .outside else .folder [])

/-- The bytes of the file that a path leads to. -/
def read (folder : Folder) (path : String) : Except FileFault (List UInt8) := do
  match ← folder.follow path with
  | .file bytes => .ok bytes
  | .folder _ => .error .directory
  | .outside => .error .directory

end Folder

end MongoConfig.Catalog
