import Obd2.Transport.Logging

/-! A file system in memory.

Files are numbered, and a path is a name of one. What is written is in the file at once. Nothing
fails but what cannot be done: a file that has no such name, and a new name on another device. The
clocks are free: the time at every write is given. -/
namespace Obd2

structure MemoryFiles where
  contents : Nat → Text
  names : Path → Option Nat
  /-- The number of the next new file. -/
  next : Nat
  device : Path → Nat
  /-- The time after so many writes. -/
  time : Nat → Nat
  writes : Nat
  started : Text

namespace MemoryFiles

/-- No files, and one device. -/
def empty : MemoryFiles := ⟨fun _ => [], fun _ => none, 0, fun _ => 0, fun _ => 0, 0, []⟩

def setContents (n : Nat) (text : Text) (files : MemoryFiles) : MemoryFiles :=
  {files with contents := fun m => if m = n then text else files.contents m}

def setName (path : Path) (n : Option Nat) (files : MemoryFiles) : MemoryFiles :=
  {files with names := fun p => if p = path then n else files.names p}

def create (path : Path) (files : MemoryFiles) : Except IoError Nat × MemoryFiles :=
  match files.names path with
  | some n => (.ok n, files.setContents n [])
  | none => (.ok files.next, {(files.setContents files.next []).setName path (some files.next) with next := files.next + 1})

def openAppend (path : Path) (files : MemoryFiles) : Except IoError Nat × MemoryFiles :=
  match files.names path with
  | some n => (.ok n, files)
  | none => create path files

def writeAll (n : Nat) (text : Text) (files : MemoryFiles) : Except IoError Unit × MemoryFiles :=
  (.ok (), {files.setContents n (files.contents n ++ text) with writes := files.writes + 1})

def rename (path newPath : Path) (files : MemoryFiles) : Except IoError Unit × MemoryFiles :=
  match files.names path with
  | none => (.error "No such file or directory", files)
  | some n =>
    if files.device path = files.device newPath then (.ok (), (files.setName path none).setName newPath (some n))
    else (.error "Invalid cross-device link", files)

def readToString (path : Path) (files : MemoryFiles) : Except IoError Text :=
  match files.names path with
  | some n => .ok (files.contents n)
  | none => .error "No such file or directory"

instance : FileSystem MemoryFiles where
  Writer := Nat
  create := create
  openAppend := openAppend
  writeAll := writeAll
  flush _ files := (.ok (), files)
  close _ files := files
  createDirAll _ files := (.ok (), files)
  rename := rename
  readToString := readToString
  now files := files.time files.writes
  utcNow files := files.started

end MemoryFiles

end Obd2
