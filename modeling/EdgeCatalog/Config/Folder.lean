import EdgeCatalog.Config.File

/-! A directory with the files beneath it, and what a path leads to from there. Around the directory
nothing is known but the directories that it is in. -/
namespace EdgeCatalog.Config

/-- The files and directories by the parts of their names. -/
structure Folder where
  entries : List (List String × File) := []

namespace Folder

/-- Where a path has led to. -/
inductive Place
  /-- A directory in the folder; the folder itself has no parts. -/
  | beneath (parts : List String)
  /-- A directory that the folder is in. -/
  | around
  | file (content : ByteArray)

/-- The directory that another one is in. -/
def parent : List String → Place
  | [] => .around
  | parts => .beneath parts.dropLast

/-- What a name in a directory of the folder stands for. -/
def child (f : Folder) (parts : List String) : Except FileFault Place :=
  match f.entries.lookup parts with
  | some (.content bytes) => .ok (.file bytes)
  | some (.unreadable .directory) => .ok (.beneath parts)
  | some (.unreadable cause) => .error cause
  | none =>
    if f.entries.any fun (name, _) => parts.isPrefixOf name then .ok (.beneath parts)
    else .error .missing

/-- Goes on by one part of a path, which only directories have. -/
def step (f : Folder) (place : Place) (part : String) : Except FileFault Place :=
  match place with
  | .file _ => .error .notDirectory
  | .around => if part ∈ ["", ".", ".."] then .ok .around else .error .missing
  | .beneath parts =>
    if part = "" ∨ part = "." then .ok place
    else if part = ".." then .ok (parent parts)
    else f.child (parts ++ [part])

/-- What a path leads to. -/
def follow (f : Folder) (path : String) : Except FileFault Place :=
  match Text.segments '/' path with
  | "" :: parts => parts.foldlM f.step (if parts.isEmpty then .beneath [] else .around)
  | parts => parts.foldlM f.step (.beneath [])

/-- The file under a path. -/
def file (f : Folder) (path : String) : File :=
  match f.follow path with
  | .ok (.file bytes) => .content bytes
  | .ok _ => .unreadable .directory
  | .error cause => .unreadable cause

end Folder

end EdgeCatalog.Config
