import HeapSampler.Text.Utf8

/-!
# Paths

A path is a byte string. Joining keeps the text of both sides; two paths are the same path when
they agree name by name, whatever extra slashes and single dots they are written with.
-/

namespace HeapSampler

/-- A path of the file system, as it was written. -/
structure Path where
  bytes : Bytes
  deriving DecidableEq, Repr

namespace Path

/-- The byte that separates the names of a path. -/
def slash : UInt8 := 0x2F

/-- The name of the directory itself. -/
def dot : Bytes := [0x2E]

/-- The name of the parent directory. -/
def dotDot : Bytes := [0x2E, 0x2E]

/-- The path written as a text. -/
def ofString (s : String) : Path :=
  ⟨Bytes.ofString s⟩

/-- The path starts at the root. -/
def isAbsolute (p : Path) : Bool :=
  p.bytes.head? == some slash

/-- The path is written with a slash at its end. -/
def endsInSlash (p : Path) : Bool :=
  p.bytes.getLast? == some slash

/-- A path below another: an absolute path stands for itself, any other is appended after exactly
one slash. Nothing else about the two texts changes. -/
def join (base p : Path) : Path :=
  if p.isAbsolute then p
  else if base.bytes.isEmpty || base.endsInSlash then ⟨base.bytes ++ p.bytes⟩
  else ⟨base.bytes ++ slash :: p.bytes⟩

/-- The names of a path in order, single and double dots included. -/
def names (p : Path) : List Bytes :=
  (p.bytes.splitOn slash).filter (!·.isEmpty)

/-- What a path means: whether it starts at the root, whether it starts with a single dot that
marks it as relative, and its names without any other single dot. -/
def meaning (p : Path) : Bool × Bool × List Bytes :=
  let leadingDot := !p.isAbsolute && p.names.head? == some dot
  (p.isAbsolute, leadingDot, p.names.filter (· != dot))

/-- The two paths agree name by name. -/
def sameAs (p q : Path) : Bool :=
  p.meaning == q.meaning

/-- The text of a path that is UTF-8. -/
def text? (p : Path) : Option String :=
  p.bytes.text?

instance : HDiv Path String Path where
  hDiv base name := base.join (Path.ofString name)

end Path

end HeapSampler
