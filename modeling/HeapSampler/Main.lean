import HeapSampler.Rehearsal.Performance

/-!
# The command line of a rehearsal

The arguments are those of the program itself. The machine on which it is rehearsed is described on
standard input, one thing a line: `dir PATH`, `file PATH TEXT` and `rm PATH` set up the stage, and
`env NAME=VALUE` defines a variable. What the run leaves below its directories is printed, and its
exit status is the program's own.
-/

namespace HeapSampler.Rehearsal

/-- A line of the description of a machine. -/
inductive Line where
  | change (c : Stage.Change)
  | define (name value : Bytes)
  deriving DecidableEq, Repr

/-- The text up to the first occurrence of a character, and the text behind it. -/
def cutAt (c : Char) (s : String) : String × String :=
  let cs := s.toList
  (String.ofList (cs.takeWhile (· != c)), String.ofList ((cs.dropWhile (· != c)).drop 1))

/-- A line of the description. Lines of any other form say nothing. -/
def Line.parse? (line : String) : Option Line :=
  let (word, rest) := cutAt ' ' line
  match word with
  | "dir" => some (.change (.dir (Path.ofString rest)))
  | "rm" => some (.change (.remove (Path.ofString rest)))
  | "file" =>
    let (path, content) := cutAt ' ' rest
    some (.change (.file (Path.ofString path) (Bytes.ofString (content ++ "\n"))))
  | "env" =>
    let (name, value) := cutAt '=' rest
    some (.define (Bytes.ofString name) (Bytes.ofString value))
  | _ => none

/-- The files and the environment that lines describe. -/
def describedBy (lines : List Line) : FileTree × Environment :=
  lines.foldl (fun (t, env) line =>
    match line with
    | .change c => (Stage.setUp t c, env)
    | .define name value => (t, env.set name value)) (Stage.bare, .empty)

/-- An entry of a listing as it is printed. -/
def entryLine (entry : Bytes × Option Bytes) : String :=
  match entry with
  | (path, none) => path.lossyText
  | (path, some content) => path.lossyText ++ ": " ++ Quoted.ofBytes content

/-- The lines of a stream without their ends. -/
partial def readLines (input : IO.FS.Stream) (sofar : Array String) : IO (Array String) := do
  let line ← input.getLine
  if line.isEmpty then return sofar
  readLines input (sofar.push (String.ofList (line.toList.filter (· != '\n'))))

end HeapSampler.Rehearsal

open HeapSampler.Rehearsal in
/-- Rehearses the program with the arguments on the machine that standard input describes. -/
def main (arguments : List String) : IO UInt32 := do
  let lines ← readLines (← IO.getStdin) #[]
  let (files, env) := describedBy (lines.toList.filterMap Line.parse?)
  match performProgram files arguments env with
  | none =>
    IO.eprintln "The run did not end."
    return 1
  | some performance =>
    for entry in performance.tree do
      IO.println (entryLine entry)
    if let some line := performance.error then
      IO.eprintln line
    return UInt32.ofNat performance.exit
