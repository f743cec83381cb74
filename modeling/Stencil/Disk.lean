import Stencil.Text.Utf8

/-!
# Disks

Files with their bytes, and folders. A path is the list of names from the top of the disk; it may
hold `..`, which is followed where the path is used. There are no links, so that no two places share
a file, and whatever is there may be read and written.
-/

namespace Stencil

/-- The names from the top of the disk. -/
abbrev Path := List Text

inductive FileError where
  | notFound
  | isFolder
  | notFolder
  | alreadyExists
  deriving DecidableEq, Repr

namespace Path

def up : Text := text ".."

/-- The names of a path as it is written; empty ones and single dots say nothing. -/
def names (s : Text) : List Text :=
  (Text.splitOn '/' s).filter fun name => !name.isEmpty && name != [chr '.']

/-- Whether a written path starts at the top of the disk. -/
def isAbsolute (s : Text) : Bool := s.head? == some (chr '/')

/-- The path that is written as `s`, seen from a folder. -/
def seenFrom (folder : Path) (s : Text) : Path :=
  if isAbsolute s then names s else folder ++ names s

/-- What a written path starts with: exactly two slashes are kept, more are one. -/
def lead (s : Text) : Text :=
  match (s.takeWhile (· == chr '/')).length with
  | 0 => []
  | 2 => text "//"
  | _ => ['/']

/-- The path without `..`; above the top there is nothing. -/
def resolve (p : Path) : Path :=
  p.foldl (fun done name => if name == up then done.dropLast else done ++ [name]) []

def toText (p : Path) : Text := '/' :: Text.join ['/'] p

/-- A path below another one as it is written. -/
def relativeText (p : Path) : Text := Text.join ['/'] p

/-- Order of names: by the first character that differs, a shorter name first. -/
def nameLess : Text → Text → Bool
  | _, [] => false
  | [], _ :: _ => true
  | a :: s, b :: t => a.toNat < b.toNat || (a == b && nameLess s t)

/-- Order of paths: by the first name that differs, a shorter path first. -/
def le : Path → Path → Bool
  | [], _ => true
  | _ :: _, [] => false
  | a :: p, b :: q => nameLess a b || (a == b && le p q)

/-- How a path below the written path `s` is written; the place itself is a single dot. -/
def below (s : Text) (p : Path) : Text :=
  match lead s, names s ++ p with
  | [], [] => ['.']
  | start, all => start ++ relativeText all

/-- The ending of a name from its last dot on, if there is something on both sides of it. -/
def suffix (name : Text) : Text :=
  let ending := (name.reverse.takeWhile (· != chr '.')).reverse
  let stem := name.length - ending.length
  if 1 < stem && !ending.isEmpty then '.' :: ending else []

end Path

/-- The files with their bytes, and the folders that were made. -/
structure Disk where
  files : List (Path × Bytes)
  folders : List Path

namespace Disk

def empty : Disk := ⟨[], []⟩

/-! ## Looking -/

/-- The bytes of the file at a path without `..`. -/
def bytes? (disk : Disk) (p : Path) : Option Bytes := disk.files.lookup p

/-- Whether a path without `..` is a file. -/
def isFileAt (disk : Disk) (p : Path) : Bool := (disk.bytes? p).isSome

/-- Whether a path without `..` is a folder: the top, one that was made, or one with contents. -/
def isFolderAt (disk : Disk) (p : Path) : Bool :=
  !disk.isFileAt p &&
    (p.isEmpty || disk.folders.contains p ||
      disk.files.any (fun f => p.isPrefixOf f.1) || disk.folders.any p.isPrefixOf)

/-- Follows the names of a path from a folder on. All but the last one have to be folders. -/
def follow (disk : Disk) (here : Path) : Path → Except FileError Path
  | [] => .ok here
  | name :: rest =>
    if disk.isFileAt here then .error .notFolder
    else if !disk.isFolderAt here then .error .notFound
    else disk.follow (if name == Path.up then here.dropLast else here ++ [name]) rest

def isFolder (disk : Disk) (p : Path) : Bool :=
  match disk.follow [] p with
  | .ok q => disk.isFolderAt q
  | .error _ => false

def isFile (disk : Disk) (p : Path) : Bool :=
  match disk.follow [] p with
  | .ok q => disk.isFileAt q
  | .error _ => false

def isThere (disk : Disk) (p : Path) : Bool := disk.isFile p || disk.isFolder p

def readBytes (disk : Disk) (p : Path) : Except FileError Bytes := do
  let q ← disk.follow [] p
  match disk.bytes? q with
  | some bytes => return bytes
  | none => .error (if disk.isFolderAt q then .isFolder else .notFound)

/-! ## Changing -/

/-- The files with new bytes for one of them. -/
def setBytes (p : Path) (bytes : Bytes) : List (Path × Bytes) → List (Path × Bytes)
  | [] => [(p, bytes)]
  | (q, old) :: files =>
    if q == p then (p, bytes) :: files else (q, old) :: setBytes p bytes files

/-- Writes a file at a path without `..`. -/
def writeAt (disk : Disk) (p : Path) (bytes : Bytes) : Disk :=
  { disk with files := setBytes p bytes disk.files }

/-- Makes a folder at a path without `..`. -/
def addFolder (disk : Disk) (p : Path) : Disk := { disk with folders := disk.folders ++ [p] }

/-- Removes a file, or a folder with all it holds. The folder around it stays. -/
def remove (disk : Disk) (p : Path) : Disk where
  files := disk.files.filter fun f => !p.isPrefixOf f.1
  folders := disk.folders.filter (!p.isPrefixOf ·) ++ [p.dropLast]

/-- Makes a folder and the folders around it, as far as they are missing. -/
def makeFolders (disk : Disk) (here : Path) : Path → Except FileError Disk
  | [] => if disk.isFileAt here then .error .alreadyExists else .ok (disk.addFolder here)
  | name :: rest =>
    if disk.isFileAt here then .error .notFolder
    else
      (if disk.isFolderAt here then disk else disk.addFolder here).makeFolders
        (if name == Path.up then here.dropLast else here ++ [name]) rest

end Disk

end Stencil
