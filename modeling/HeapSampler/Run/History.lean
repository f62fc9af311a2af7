/-!
# The history of a run

The iterations of a run are numbered from one. An iteration is claimed before it is known whether
it will produce a sample, and handed back when it does not.
-/

namespace HeapSampler

/-- The result of one freeze, measure and thaw cycle. -/
structure Sample where
  iteration : UInt32
  pages : UInt64
  artifact : String
  deriving DecidableEq, Repr

/-- What a run has recorded so far. Sizes and artifacts are in the order of their samples. -/
structure History where
  iteration : UInt32
  peak : UInt64
  sizes : List UInt64
  artifacts : List String
  deriving DecidableEq, Repr

namespace History

/-- The history of a run that has recorded nothing. -/
def empty : History := ⟨0, 0, [], []⟩

/-- The next iteration, claimed. -/
def begin (h : History) : UInt32 × History :=
  (h.iteration + 1, { h with iteration := h.iteration + 1 })

/-- The history with the last claimed iteration handed back. -/
def rollback (h : History) : History :=
  { h with iteration := h.iteration - 1 }

/-- The history with a sample at its end. -/
def record (h : History) (s : Sample) : History :=
  { h with
    peak := max h.peak s.pages
    sizes := h.sizes ++ [s.pages]
    artifacts := h.artifacts ++ [s.artifact] }

end History

end HeapSampler
