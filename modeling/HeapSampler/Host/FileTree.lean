import HeapSampler.Host.Errno
import HeapSampler.Host.Path

/-!
# Files and directories

A file tree lists its files and directories by location. Every entry lies in a directory of the
tree: the type carries this as `rooted`. Paths are resolved name by name from the root or from the
working directory, and each operation fails with the error number that the system gives for the
first thing in its way. Failing operations change nothing.
-/

namespace HeapSampler

/-- A place in the file tree: its names from the innermost outwards. The root has none. -/
abbrev Location := List Bytes

/-- What lies at a location. -/
inductive Node where
  | directory
  | file (content : Bytes)
  deriving DecidableEq, Repr

/-- The directories and files of a tree with their locations. -/
abbrev Nodes := List (Location × Node)

/-- Every listed node has a name and lies in the root or in a listed directory. -/
def Rooted (nodes : Nodes) : Prop :=
  ∀ p ∈ nodes, ∃ name parent, p.1 = name :: parent ∧
    (parent = [] ∨ nodes.lookup parent = some .directory)

/-- The files and directories below the root, and the directory that relative paths start from. -/
structure FileTree where
  nodes : Nodes
  workingDir : Location
  rooted : Rooted nodes
  deriving DecidableEq

namespace FileTree

/-! ## Nodes -/

/-- The tree with nothing below its root. -/
def empty : FileTree := ⟨[], [], by simp [Rooted]⟩

/-- What lies at a location. -/
def node? (t : FileTree) (l : Location) : Option Node :=
  if l.isEmpty then some .directory else t.nodes.lookup l

/-- Something lies right in the directory at a location. -/
def hasEntries (t : FileTree) (l : Location) : Bool :=
  t.nodes.any fun p => match p.1 with
    | [] => false
    | _ :: parent => parent == l

theorem lookup_filter (nodes : Nodes) (keep : Location → Bool) (q : Location) :
    (nodes.filter fun p => keep p.1).lookup q = if keep q then nodes.lookup q else none := by
  induction nodes with
  | nil => simp
  | cons p ps ih =>
    obtain ⟨r, n⟩ := p
    by_cases hk : keep r = true
    · rw [List.filter_cons_of_pos (by simpa using hk), List.lookup_cons, List.lookup_cons, ih]
      cases hq : q == r with
      | true => rw [eq_of_beq hq, hk]; rfl
      | false => rfl
    · rw [List.filter_cons_of_neg (by simpa using hk), List.lookup_cons, ih]
      cases hq : q == r with
      | true => rw [eq_of_beq hq, if_neg hk, if_neg hk]
      | false => rfl

/-- Entries are rooted only in directories, so a location that is none has no entries. -/
theorem parent_ne {nodes : Nodes} (hr : Rooted nodes) {l : Location}
    (hne : l ≠ []) (hl : nodes.lookup l ≠ some .directory) {p : Location × Node} (hp : p ∈ nodes)
    {name : Bytes} {parent : Location} (h : p.1 = name :: parent) : parent ≠ l := by
  rintro rfl
  obtain ⟨name', parent', h', hd⟩ := hr p hp
  rw [h] at h'
  cases h'
  exact hd.elim hne hl

/-- A node may be put at a new location in a directory, or in place of a file. -/
theorem rooted_put {nodes : Nodes} (hr : Rooted nodes) (name : Bytes)
    (parent : Location) (n : Node) (hl : nodes.lookup (name :: parent) ≠ some .directory)
    (hp : parent = [] ∨ nodes.lookup parent = some .directory) :
    Rooted ((name :: parent, n) :: nodes.filter fun p => p.1 != name :: parent) := by
  have keep (q : Location) (hq : q ≠ name :: parent)
      (h : q = [] ∨ nodes.lookup q = some .directory) :
      q = [] ∨ ((name :: parent, n) :: nodes.filter fun p => p.1 != name :: parent).lookup q =
        some .directory := by
    refine h.imp_right fun h => ?_
    rw [List.lookup_cons, beq_eq_false_iff_ne.2 hq, lookup_filter nodes (· != name :: parent)]
    simp [hq, h]
  intro p hp'
  rcases List.mem_cons.1 hp' with rfl | hmem
  · refine ⟨name, parent, rfl, keep parent ?_ hp⟩
    intro h
    have := congrArg List.length h
    simp at this
  · have hmem := (List.mem_filter.1 hmem).1
    obtain ⟨name', parent', h, hd⟩ := hr p hmem
    exact ⟨name', parent', h, keep parent' (parent_ne hr (by simp) hl hmem h) hd⟩

/-- Locations may be removed together if whatever lies in a removed one is removed too. -/
theorem rooted_filter {nodes : Nodes} (hr : Rooted nodes) (keep : Location → Bool)
    (hk : ∀ p ∈ nodes, ∀ name parent, p.1 = name :: parent → keep p.1 = true →
      parent = [] ∨ keep parent = true) :
    Rooted (nodes.filter fun p => keep p.1) := by
  intro p hp
  obtain ⟨hmem, hkeep⟩ := List.mem_filter.1 hp
  obtain ⟨name, parent, h, hd⟩ := hr p hmem
  refine ⟨name, parent, h, ?_⟩
  rcases hk p hmem name parent h hkeep with hroot | hparent
  · exact .inl hroot
  · exact hd.imp_right fun hd => by rw [lookup_filter]; simp [hparent, hd]

/-- The tree with a node put at a location that is not a directory, in one that is. -/
def put (t : FileTree) (name : Bytes) (parent : Location) (n : Node)
    (hl : t.nodes.lookup (name :: parent) ≠ some .directory)
    (hp : parent = [] ∨ t.nodes.lookup parent = some .directory) : FileTree :=
  { t with
    nodes := (name :: parent, n) :: t.nodes.filter fun p => p.1 != name :: parent
    rooted := rooted_put t.rooted name parent n hl hp }

/-- The tree without the node at a location that has no entries. -/
def drop (t : FileTree) (l : Location) (h : t.hasEntries l = false) : FileTree :=
  { t with
    nodes := t.nodes.filter fun p => p.1 != l
    rooted := by
      refine rooted_filter t.rooted (· != l) fun p hp name parent hpar _ => .inr ?_
      have := List.any_eq_false.1 h p hp
      simpa [hpar] using this }

/-- The tree without a location and everything below it. -/
def dropAll (t : FileTree) (l : Location) : FileTree :=
  { t with
    nodes := t.nodes.filter fun p => !l.isSuffixOf p.1
    rooted := by
      refine rooted_filter t.rooted (fun q => !l.isSuffixOf q) fun p _ name parent hpar h => .inr ?_
      simp only [Bool.not_eq_true', ← Bool.not_eq_true, List.isSuffixOf_iff_suffix] at h ⊢
      exact fun hs => h (hpar ▸ hs.trans (List.suffix_cons name parent)) }

/-! ## Paths -/

/-- The longest path that the system takes, in bytes. -/
def maxPath : Nat := 4095

/-- The longest name that the system takes, in bytes. -/
def maxName : Nat := 255

/-- What is wrong with a path before any name of it is looked at. -/
def checkPath (p : Path) : Except IoError Unit :=
  if p.bytes.contains 0 then .error .nulInPath
  else if p.bytes.isEmpty then .error (.system .noEntry)
  else if p.bytes.length > maxPath then .error (.system .nameTooLong)
  else .ok ()

/-- A name can be looked up at a location: it is a directory, and the name is not too long. -/
def checkStep (t : FileTree) (here : Location) (name : Bytes) : Except IoError Unit :=
  match t.node? here with
  | some .directory =>
    if name.length > maxName then .error (.system .nameTooLong) else .ok ()
  | some (.file _) => .error (.system .notDirectory)
  | none => .error (.system .noEntry)

/-- Where one name leads from a location. -/
def step (t : FileTree) (here : Location) (name : Bytes) : Except IoError Location := do
  t.checkStep here name
  if name = Path.dot then return here
  else if name = Path.dotDot then return here.tail
  else if (t.node? (name :: here)).isSome then return name :: here
  else throw (.system .noEntry)

/-- The location that a path starts from. -/
def start (t : FileTree) (p : Path) : Location :=
  if p.isAbsolute then [] else t.workingDir

/-- The location of what a path names. -/
def locate (t : FileTree) (p : Path) : Except IoError Location := do
  checkPath p
  p.names.foldlM t.step (t.start p)

/-- What a path names, with its location. A path that ends in a slash names a directory. -/
def find (t : FileTree) (p : Path) : Except IoError (Location × Node) := do
  let l ← t.locate p
  match t.node? l with
  | some .directory => return (l, .directory)
  | some (.file content) =>
    if p.endsInSlash then throw (.system .notDirectory) else return (l, .file content)
  | none => throw (.system .noEntry)

/-- The directory that holds what a path names, and the last name of the path; the root has no
name. -/
def locateParent (t : FileTree) (p : Path) : Except IoError (Location × Option Bytes) := do
  checkPath p
  let parent ← p.names.dropLast.foldlM t.step (t.start p)
  return (parent, p.names.getLast?)

/-! ## Questions -/

/-- The path names something. -/
def contains (t : FileTree) (p : Path) : Bool :=
  match t.find p with
  | .ok _ => true
  | .error _ => false

/-- The path names a directory. -/
def isDir (t : FileTree) (p : Path) : Bool :=
  match t.find p with
  | .ok (_, .directory) => true
  | _ => false

/-- The path names a file. -/
def isFile (t : FileTree) (p : Path) : Bool :=
  match t.find p with
  | .ok (_, .file _) => true
  | _ => false

/-- The content of a file. -/
def read (t : FileTree) (p : Path) : Except IoError Bytes := do
  match ← t.find p with
  | (_, .directory) => throw (.system .isDirectory)
  | (_, .file content) => return content

/-- The content of a file that must be text. -/
def readText (t : FileTree) (p : Path) : Except IoError String := do
  match (← t.read p).text? with
  | some text => return text
  | none => throw .notText

/-- A location as an absolute path. -/
def pathOf (l : Location) : Path :=
  if l.isEmpty then ⟨[Path.slash]⟩ else ⟨l.reverse.flatMap (Path.slash :: ·)⟩

/-- The absolute path of the working directory. -/
def currentDir (t : FileTree) : Except IoError Path :=
  match t.node? t.workingDir with
  | some .directory => .ok (pathOf t.workingDir)
  | _ => .error (.system .noEntry)

/-! ## Changes -/

/-- The tree with a new directory. Its parent must exist, and nothing may have its name. -/
def createDir (t : FileTree) (p : Path) : Except IoError FileTree := do
  let (parent, last) ← t.locateParent p
  match last with
  | none => throw (.system .alreadyExists)
  | some name =>
    t.checkStep parent name
    if name = Path.dot ∨ name = Path.dotDot then throw (.system .alreadyExists)
    else if hl : t.nodes.lookup (name :: parent) = none then
      if hp : parent = [] ∨ t.nodes.lookup parent = some .directory then
        return t.put name parent .directory (by simp [hl]) hp
      else throw (.system .notDirectory)
    else throw (.system .alreadyExists)

/-- The tree without a directory, which must be empty. -/
def removeDir (t : FileTree) (p : Path) : Except IoError FileTree := do
  let (parent, last) ← t.locateParent p
  match last with
  | none => throw (.system .busy)
  | some name =>
    t.checkStep parent name
    if name = Path.dot then throw (.system .invalidArgument)
    else if name = Path.dotDot then throw (.system .notEmpty)
    else
      match t.node? (name :: parent) with
      | none => throw (.system .noEntry)
      | some (.file _) => throw (.system .notDirectory)
      | some .directory =>
        if h : t.hasEntries (name :: parent) = false then return t.drop (name :: parent) h
        else throw (.system .notEmpty)

/-- The tree with a file's content replaced, or with a new file of that content. -/
def write (t : FileTree) (p : Path) (content : Bytes) : Except IoError FileTree := do
  let (parent, last) ← t.locateParent p
  match last with
  | none => throw (.system .isDirectory)
  | some name =>
    t.checkStep parent name
    if p.endsInSlash ∨ name = Path.dot ∨ name = Path.dotDot then throw (.system .isDirectory)
    else if hl : t.nodes.lookup (name :: parent) = some .directory then
      throw (.system .isDirectory)
    else if hp : parent = [] ∨ t.nodes.lookup parent = some .directory then
      return t.put name parent (.file content) hl hp
    else throw (.system .notDirectory)

/-! ## Whole subtrees -/

/-- The tree with all directories of a path below a location, as far as nothing is in the way. -/
def ensureDirs (t : FileTree) (here : Location) : List Bytes → FileTree
  | [] => t
  | name :: names =>
    match t.createDir (pathOf (name :: here)) with
    | .ok t => t.ensureDirs (name :: here) names
    | .error _ => t.ensureDirs (name :: here) names

/-- Everything below a location, with paths relative to it, in the order of their bytes. The path
of a directory ends in a slash. -/
def listing (t : FileTree) (root : Location) : List (Bytes × Option Bytes) :=
  let below := t.nodes.filterMap fun (l, node) =>
    if root.isSuffixOf l && l != root then
      let names := (l.take (l.length - root.length)).reverse
      let shown := (names.intersperse [Path.slash]).flatten
      match node with
      | .directory => some (shown ++ [Path.slash], none)
      | .file content => some (shown, some content)
    else none
  below.mergeSort fun a b => Bytes.le a.1 b.1

end FileTree

end HeapSampler
