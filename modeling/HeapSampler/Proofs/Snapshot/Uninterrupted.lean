import HeapSampler.Proofs.Selection

/-!
# Snapshots are not torn

While a snapshot is taken nobody looks at whether the monitor has been asked to stop. An interrupt that
comes meanwhile therefore changes nothing: with all interrupts erased, those that have come and those that
will, the snapshot has the same result and leads to the same session, in which they are erased again
(`take_uninterrupted`).
-/

namespace HeapSampler

variable {σ α : Type}

/-! ## Erasing interrupts -/

/-- The happening is something else than an interrupt. -/
def Happening.isOther : Happening → Bool
  | .interrupt => false
  | _ => true

/-- The reply with no interrupt meanwhile. -/
def Reply.uninterrupted (r : Reply σ α) : Reply σ α :=
  { r with happenings := r.happenings.filter Happening.isOther }

/-- The collaborators, who reply as they do with no interrupt meanwhile. -/
def Collaborators.uninterrupted (c : Collaborators σ) : Collaborators σ where
  request target scene := (c.request target scene).uninterrupted
  observe scene := (c.observe scene).uninterrupted
  heapRange pid scene := (c.heapRange pid scene).uninterrupted
  classify pid iteration artifact heap scene := (c.classify pid iteration artifact heap scene).uninterrupted
  oversleep := c.oversleep

/-- The session with no interrupt, neither so far nor later. -/
def Session.uninterrupted (s : Session σ) : Session σ :=
  { s with cancelled := false, agenda := s.agenda.filter fun p => p.2.isOther }

/-- All but interrupts. -/
def Selection.others : Selection where
  keeps := Happening.isOther
  ends _ := rfl

theorem Session.only_others (s : Session σ) : s.only .others = s.uninterrupted := by
  have inbox : s.inbox.filter (fun _ => true) = s.inbox := List.filter_eq_self.2 fun _ _ => rfl
  have trace : s.trace.filter (fun p => p.2.told .others) = s.trace :=
    List.filter_eq_self.2 fun p _ => by cases p.2 <;> rfl
  have stopped : (s.cancelled && false) = false := Bool.and_false _
  simp only [only, uninterrupted, Selection.others, Happening.isOther] at trace ⊢
  rw [inbox, trace, stopped]

namespace Snapshot

/-- A snapshot goes with interrupts as it goes without. -/
theorem take_uninterrupted (c : Collaborators σ) (p : SnapshotPlan) (pid : UInt32) (s : Session σ) :
    take c.uninterrupted p pid s.uninterrupted = ((take c p pid s).1, (take c p pid s).2.uninterrupted) := by
  rw [← s.only_others, ← Session.only_others]
  exact take_only .others c p pid s

end Snapshot

end HeapSampler
