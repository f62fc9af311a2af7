import HeapSampler.Host.FileTree
import HeapSampler.Settings.Decode
import HeapSampler.Settings.Encode

/-!
# Settings in files

Settings are loaded from one file, or from several that are laid over each other, later files over
earlier ones. Loaded settings are always repaired.
-/

namespace HeapSampler.Settings

open Toml

/-- The settings in a file. -/
def load (t : FileTree) (p : Path) : Except SettingsError Settings := do
  let text ← (t.readText p).mapError .io
  match Entries.parse? text >>= decode with
  | some s => return s.repaired
  | none => throw .notDecodable

/-- The document in a file, if there is such a file. -/
def readLayer (t : FileTree) (p : Path) : Except SettingsError (Option Entries) := do
  if t.contains p then
    let text ← (t.readText p).mapError .io
    match Entries.parse? text with
    | some es => return some es
    | none => throw .notParsable
  else return none

/-- The documents in those of the files that exist, laid over each other. -/
def mergeLayers (t : FileTree) (lower : Entries) : List Path → Except SettingsError Entries
  | [] => .ok lower
  | p :: ps => do
    match ← readLayer t p with
    | some es => mergeLayers t (Entries.over lower es) ps
    | none => mergeLayers t lower ps

/-- The settings in those of the files that exist. The merged document is written out and read
again, so it must be one that can be written. -/
def loadLayers (t : FileTree) (ps : List Path) : Except SettingsError Settings := do
  let merged ← mergeLayers t [] ps
  match Entries.ofStatements? merged.toStatements >>= decode with
  | some s => return s.repaired
  | none => throw .notDecodable

/-- The file tree with settings saved in a file. -/
def save (s : Settings) (t : FileTree) (p : Path) : Except SettingsError FileTree := do
  match s.encode with
  | none => throw .notEncodable
  | some text => (t.write p (Bytes.ofString text)).mapError .io

end HeapSampler.Settings
