import DetectionFlow.Failure
import DetectionFlow.Text.Split

/-!
# The disk

Files with their bytes, the folders that they stand in, and the current folder. A path is followed
part by part from the current folder or from the root, so that a path through a file or through a
folder that is missing leads nowhere, even if it turns back right away. Names and whole paths have a
greatest length, and no path holds the character that ends texts.

Main functions: `Disk.read`, `Disk.write` and `Disk.makeFolders`.
-/

namespace DetectionFlow

/-! ## Paths -/

/-- A path as it is given. -/
structure Path where
  /-- What it starts from: nothing, which is the current folder, or the slashes of the root. -/
  root : String
  parts : List String
  deriving DecidableEq

namespace Path

/-- The slashes that a path starts with. Exactly two of them are kept. -/
def rootOf : List Char → String
  | '/' :: '/' :: '/' :: _ => "/"
  | '/' :: '/' :: _ => "//"
  | '/' :: _ => "/"
  | _ => ""

/-- A path from a text. Empty parts and single dots count for nothing. -/
def ofString (s : String) : Path :=
  ⟨rootOf s.toList,
    ((Text.splitAt '/' s.toList).map String.ofList).filter fun p => p ≠ "" && p ≠ "."⟩

/-- A path as a text. -/
def shown (p : Path) : String :=
  if p.root.isEmpty && p.parts.isEmpty then "."
  else p.root ++ String.intercalate "/" p.parts

/-- One path followed by another, which may start anew. -/
def join (p q : Path) : Path := if q.root.isEmpty then ⟨p.root, p.parts ++ q.parts⟩ else q

/-- The path without its last part. -/
def parent (p : Path) : Path := ⟨p.root, p.parts.dropLast⟩

end Path

/-! ## The disk -/

/-- Where a file or a folder stands: the names from the root down. -/
abbrev Place := List String

/-- What the program sees of a disk. -/
structure Disk where
  /-- The current folder. -/
  folder : Path
  files : List (Place × List UInt8)
  /-- The folders that were made. -/
  made : List Place

namespace Disk

def fileAt? (d : Disk) (at_ : Place) : Option (List UInt8) :=
  (d.files.find? (·.1 = at_)).map (·.2)

def isFile (d : Disk) (at_ : Place) : Bool := (d.fileAt? at_).isSome

/-- A folder stands here: one that was made, or one above a folder or a file. -/
def isFolder (d : Disk) (at_ : Place) : Bool :=
  at_.isPrefixOf d.folder.parts || d.made.any (at_.isPrefixOf ·) ||
    d.files.any fun f => at_.isPrefixOf f.1.dropLast

/-- The most bytes of a name, and of a path. -/
def longestName : Nat := 255

def longestPath : Nat := 4095

/-- Follows the parts of a path. Each of them is looked up in a folder. -/
def follow (d : Disk) : Place → List String → Except DiskError Place
  | at_, [] => .ok at_
  | at_, part :: rest =>
    if d.isFolder at_ then
      if longestName < part.utf8ByteSize then .error .tooLong
      else d.follow (if part = ".." then at_.dropLast else at_ ++ [part]) rest
    else if d.isFile at_ then .error .notFolder
    else .error .absent

/-- The place that a path leads to. Nothing needs to stand there yet. -/
def placeOf (d : Disk) (p : Path) : Except DiskError Place :=
  if p.shown.contains '\x00' then .error .nullCharacter
  else if longestPath < p.shown.utf8ByteSize then .error .tooLong
  else d.follow (if p.root.isEmpty then d.folder.parts else []) p.parts

/-- Something stands where the path leads to. A path that is too long is not even looked for. -/
def has (d : Disk) (p : Path) : Except DiskError Bool :=
  match d.placeOf p with
  | .ok at_ => .ok (d.isFile at_ || d.isFolder at_)
  | .error .tooLong => .error .tooLong
  | .error _ => .ok false

def hasFolder (d : Disk) (p : Path) : Bool :=
  match d.placeOf p with
  | .ok at_ => d.isFolder at_
  | .error _ => false

/-- The bytes of a file. -/
def read (d : Disk) (p : Path) : Except DiskError (List UInt8) := do
  let at_ ← d.placeOf p
  if d.isFolder at_ then .error .isFolder
  else match d.fileAt? at_ with
    | some bytes => .ok bytes
    | none => .error .absent

/-! ## Changes -/

/-- Makes a single folder where nothing stands yet. -/
def makeFolder (d : Disk) (p : Path) : Except DiskError Disk := do
  let at_ ← d.placeOf p
  if d.isFile at_ || d.isFolder at_ then .error .taken
  else return { d with made := d.made ++ [at_] }

/-- Makes a folder unless it is there. -/
def ensureFolder (d : Disk) (p : Path) : Except DiskError Disk :=
  match d.makeFolder p with
  | .ok d => .ok d
  | .error e => if d.hasFolder p then .ok d else .error e

/-- Makes the folder of some parts, in reverse, and all folders above it that are missing. -/
def makeFolders (root : String) : List String → Disk → Except DiskError Disk
  | [], d => d.ensureFolder ⟨root, []⟩
  | last :: above, d =>
    let p : Path := ⟨root, (last :: above).reverse⟩
    match d.makeFolder p with
    -- The folder above is missing too, and is made first.
    | .error .absent => do (← makeFolders root above d).ensureFolder p
    | _ => d.ensureFolder p

/-- Puts a file where the path leads to, in a folder that is there. -/
def put (d : Disk) (p : Path) (bytes : List UInt8) : Except DiskError Disk := do
  let at_ ← d.placeOf p
  if d.isFolder at_ then .error .isFolder
  else if d.isFile at_ then
    return { d with files := d.files.map fun f => if f.1 = at_ then (at_, bytes) else f }
  else return { d with files := d.files ++ [(at_, bytes)] }

/-- Makes the folder that a file is to stand in. -/
def prepare (d : Disk) (p : Path) : Except DiskError Disk :=
  makeFolders p.root p.parent.parts.reverse d

/-- Writes a text to a file. Folders on the way to it are made. -/
def write (d : Disk) (p : Path) (s : String) : Except DiskError Disk := do
  (← d.prepare p).put p (Text.Utf8.encode s)

end Disk
end DetectionFlow
