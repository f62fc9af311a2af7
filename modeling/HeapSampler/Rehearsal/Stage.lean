import HeapSampler.Rehearsal.Shell

/-!
# The stage of a rehearsal

A rehearsal plays in a file tree with the programs that can be started, a description of two
processes, an empty working directory, and whatever is set up below the stage's own directory.
-/

namespace HeapSampler.Rehearsal

namespace Stage

/-- The stage's own directory. -/
def root : Location := [Bytes.ofString "@"]

/-- The moment at which rehearsals begin. -/
def opening : Instant := ⟨1000 * Duration.nanosPerSecond⟩

/-- The tree with a file; directories on the way to it are made. -/
def withFile (t : FileTree) (place : Location) (names : List Bytes) (content : Bytes) : FileTree :=
  let t := t.ensureDirs place names.dropLast
  match t.write (FileTree.pathOf (names.reverse ++ place)) content with
  | .ok t => t
  | .error _ => t

/-- A memory map with a heap. -/
def ownMap : String :=
  "55d0c0a00000-55d0c0a21000 rw-p 00000000 00:00 0                          [heap]\n"

/-- The process number of a process that has ended and not been waited for. -/
def endedPid : UInt32 := 3141590

/-- The names of a path. -/
def names (s : String) : List Bytes :=
  (Path.ofString s).names

/-- The stage before anything is set up on it. -/
def bare : FileTree :=
  let t : FileTree := FileTree.empty
  let t := ["usr/bin", "bin", "proc", "etc", "tmp", "dev", "@/cwd"].foldl
    (fun t dir => t.ensureDirs [] (names dir)) t
  let t := Shell.programs.foldl (fun t name =>
    ["usr/bin/", "bin/"].foldl (fun t dir => withFile t [] (names (dir ++ name)) []) t) t
  let maps := fun (pid : UInt32) => names ("proc/" ++ Decimal.text pid.toNat ++ "/maps")
  let t := withFile t [] (maps monitorPid) (Bytes.ofString ownMap)
  let t := withFile t [] (maps endedPid) []
  { t with workingDir := Bytes.ofString "cwd" :: root }

/-- A change to what is set up on the stage. -/
inductive Change where
  /-- A directory with all directories on the way to it. -/
  | dir (path : Path)
  /-- A file with all directories on the way to it. -/
  | file (path : Path) (content : Bytes)
  /-- The removal of whatever is there. -/
  | remove (path : Path)
  deriving DecidableEq, Repr

/-- The tree after a change to what is set up. -/
def setUp (t : FileTree) : Change → FileTree
  | .dir path => t.ensureDirs root path.names
  | .file path content => withFile t root path.names content
  | .remove path => t.dropAll (path.names.reverse ++ root)

/-- The tree after changes to what is set up. -/
def setUpAll (t : FileTree) (changes : List Change) : FileTree :=
  changes.foldl setUp t

/-- Everything on the stage but the working directory itself. -/
def listing (t : FileTree) : List (Bytes × Option Bytes) :=
  (t.listing root).filter fun p => p != (Bytes.ofString "cwd/", none)

end Stage

end HeapSampler.Rehearsal
