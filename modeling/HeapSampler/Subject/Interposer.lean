import HeapSampler.Error
import HeapSampler.Host.Environment
import HeapSampler.Host.FileTree
import HeapSampler.Settings.Basic

/-!
# The interposer

A library that is loaded into the subject before its own, found on a search path and set up
through the subject's environment. Values that the caller has set win over the settings.
-/

namespace HeapSampler

/-- The byte between the directories of a search path. -/
def searchPathSeparator : UInt8 := 0x3A

/-- The places where a search path would have a file. Empty entries of the path are passed over. -/
def searchPathPlaces (searchPath : Bytes) (file : String) : List Path :=
  ((searchPath.splitOn searchPathSeparator).filter (!·.isEmpty)).map fun dir =>
    (⟨dir⟩ : Path) / file

/-- The first file on the search path that has the interposer's name. -/
def findInterposer (t : FileTree) (env : Environment) (s : SubjectSettings) :
    Except MonitorError Path :=
  let found := do
    let searchPath ← env.get? (Bytes.ofString s.searchVariable)
    (searchPathPlaces searchPath s.interposer).find? t.isFile
  match found with
  | some library => .ok library
  | none => .error (.interposerMissing s.interposer s.searchVariable)

/-- What the subject's interposer has been told. The values are shown as text, whatever bytes they
are. -/
structure Interposer where
  library : Path
  /-- The output file; `%p` in it stands for the process number. -/
  outfile : String
  depth : String
  shift : String
  deriving DecidableEq, Repr

namespace Interposer

/-- The variable with the interposer's output file. -/
def outfileVariable : Bytes := Bytes.ofString "MALLOC_INTERPOSE_OUTFILE"

/-- The variable with the depth of recorded call stacks. -/
def depthVariable : Bytes := Bytes.ofString "MALLOC_INTERPOSE_DEPTH"

/-- The variable with the interposer's shift. -/
def shiftVariable : Bytes := Bytes.ofString "MALLOC_INTERPOSE_SHIFT"

/-- The variable with the libraries that are loaded first. -/
def preloadVariable : Bytes := Bytes.ofString "LD_PRELOAD"

/-- The environment of the subject, and what it tells the interposer. -/
def install (env : Environment) (library outputDir : Path) (s : SubjectSettings) :
    Interposer × Environment :=
  let (outfile, env) := env.setDefault outfileVariable (outputDir / s.outfileTemplate).bytes
  let (depth, env) :=
    env.setDefault depthVariable (Bytes.ofString (Decimal.text s.depth.toNat))
  let (shift, env) :=
    env.setDefault shiftVariable (Bytes.ofString (Decimal.text s.shift.toNat))
  let env := env.set preloadVariable library.bytes
  (⟨library, outfile.lossyText, depth.lossyText, shift.lossyText⟩, env)

/-- A text with something in the place of every `%p`. -/
def fill (replacement : List Char) : List Char → List Char
  | [] => []
  | '%' :: 'p' :: rest => replacement ++ fill replacement rest
  | c :: rest => c :: fill replacement rest

/-- The interposer's output file for a process. -/
def outfileFor (i : Interposer) (pid : UInt32) : String :=
  String.ofList (fill (Decimal.digits pid.toNat) i.outfile.toList)

end Interposer

end HeapSampler
