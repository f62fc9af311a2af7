import Mathlib.Data.List.Chain
import HeapSampler.Settings.Basic

/-!
# Repairing settings

Loaded settings are repaired: pauses that are no time at all get another length, and of mount candidates that follow
one another and are the same path only the first stays. Repaired settings are usable (`repaired_usable`), and usable
settings are left as they are (`Usable.repaired_eq`), so repairing them once more changes nothing. A search for the
first element that passes a test is not misled by what was dropped, as long as what stays in the place of an element
passes when the element does (`find?_dedupAdjacent`).
-/

namespace HeapSampler

/-! ## Repeated neighbours -/

section Neighbours

variable {α : Type} {same : α → α → Bool} {passes : α → Bool} {kept : α} {xs : List α}

/-- The elements that equal the element before them, each with the one that stays in its place. -/
def droppedAdjacent (same : α → α → Bool) : List α → List (α × α)
  | [] => []
  | x :: xs =>
    let rec after (kept : α) : List α → List (α × α)
      | [] => []
      | y :: ys => if same kept y then (kept, y) :: after kept ys else after y ys
    after x xs

theorem isChain_after (kept : α) (xs : List α) :
    (kept :: dedupAdjacent.after same kept xs).IsChain fun x y => same x y = false := by
  induction xs generalizing kept with
  | nil => exact .singleton kept
  | cons x xs ih =>
    rw [dedupAdjacent.after]
    by_cases repeated : same kept x = true
    · rw [if_pos repeated]
      exact ih kept
    · rw [if_neg repeated]
      exact .cons_cons (Bool.eq_false_iff.2 repeated) (ih x)

/-- No neighbours are left that are the same. -/
theorem isChain_dedupAdjacent (xs : List α) : (dedupAdjacent same xs).IsChain fun x y => same x y = false := by
  cases xs with
  | nil => exact .nil
  | cons x xs => exact isChain_after x xs

theorem after_of_isChain (chain : (kept :: xs).IsChain fun x y => same x y = false) :
    dedupAdjacent.after same kept xs = xs := by
  induction xs generalizing kept with
  | nil => rfl
  | cons x xs ih =>
    obtain ⟨other, chain⟩ := List.isChain_cons_cons.1 chain
    rw [dedupAdjacent.after, if_neg (Bool.eq_false_iff.1 other), ih chain]

/-- Where no neighbours are the same, nothing is dropped. -/
theorem dedupAdjacent_of_isChain (chain : xs.IsChain fun x y => same x y = false) : dedupAdjacent same xs = xs := by
  cases xs with
  | nil => rfl
  | cons x xs => rw [dedupAdjacent, after_of_isChain chain]

theorem mem_after {x : α} (found : x ∈ dedupAdjacent.after same kept xs) : x ∈ xs := by
  induction xs generalizing kept with
  | nil => cases found
  | cons y ys ih =>
    rw [dedupAdjacent.after] at found
    split at found
    · exact List.mem_cons_of_mem y (ih found)
    · rcases List.mem_cons.1 found with rfl | behind
      · exact List.mem_cons_self
      · exact List.mem_cons_of_mem y (ih behind)

theorem mem_dedupAdjacent {x : α} (found : x ∈ dedupAdjacent same xs) : x ∈ xs := by
  cases xs with
  | nil => cases found
  | cons y ys =>
    rcases List.mem_cons.1 found with rfl | behind
    · exact List.mem_cons_self
    · exact List.mem_cons_of_mem y (mem_after behind)

theorem same_of_mem_droppedAfter {pair : α × α} (found : pair ∈ droppedAdjacent.after same kept xs) :
    same pair.1 pair.2 = true := by
  induction xs generalizing kept with
  | nil => cases found
  | cons x xs ih =>
    rw [droppedAdjacent.after] at found
    split at found
    next repeated =>
      rcases List.mem_cons.1 found with rfl | found
      · exact repeated
      · exact ih found
    · exact ih found

/-- What is dropped is the same as what stays in its place. -/
theorem same_of_mem_dropped {pair : α × α} (found : pair ∈ droppedAdjacent same xs) : same pair.1 pair.2 = true := by
  cases xs with
  | nil => cases found
  | cons x xs => exact same_of_mem_droppedAfter found

/-- Behind an element that does not pass, nothing is dropped that would have passed. -/
theorem find?_after (missed : passes kept = false)
    (covered : ∀ pair ∈ droppedAdjacent.after same kept xs, passes pair.2 = true → passes pair.1 = true) :
    (dedupAdjacent.after same kept xs).find? passes = xs.find? passes := by
  induction xs generalizing kept with
  | nil => rfl
  | cons x xs ih =>
    rw [droppedAdjacent.after] at covered
    rw [dedupAdjacent.after]
    by_cases repeated : same kept x = true
    · rw [if_pos repeated] at covered ⊢
      have missedToo : ¬ passes x = true := by
        intro passed
        rw [covered (kept, x) List.mem_cons_self passed] at missed
        cases missed
      rw [List.find?_cons_of_neg missedToo]
      exact ih missed fun pair found => covered pair (List.mem_cons_of_mem _ found)
    · rw [if_neg repeated] at covered ⊢
      by_cases passed : passes x = true
      · rw [List.find?_cons_of_pos passed, List.find?_cons_of_pos passed]
      · rw [List.find?_cons_of_neg passed, List.find?_cons_of_neg passed]
        exact ih (Bool.eq_false_iff.2 passed) covered

/-- The first element that passes a test is never dropped, if what stays in the place of another passes with it. -/
theorem find?_dedupAdjacent
    (covered : ∀ pair ∈ droppedAdjacent same xs, passes pair.2 = true → passes pair.1 = true) :
    (dedupAdjacent same xs).find? passes = xs.find? passes := by
  cases xs with
  | nil => rfl
  | cons x xs =>
    rw [dedupAdjacent]
    by_cases passed : passes x = true
    · rw [List.find?_cons_of_pos passed, List.find?_cons_of_pos passed]
    · rw [List.find?_cons_of_neg passed, List.find?_cons_of_neg passed]
      exact find?_after (Bool.eq_false_iff.2 passed) covered

end Neighbours

namespace Settings

/-! ## Usable settings -/

/-- What holds of a duration and of the other one holds of the repaired one. -/
theorem orElseZero_either {P : Duration → Prop} {d fallback : Duration} (own : P d) (other : P fallback) :
    P (orElseZero d fallback) := by
  unfold orElseZero
  split
  · exact other
  · exact own

/-- Pauses that are repaired are not empty. -/
theorem orElseZero_pos (d : Duration) {fallback : Duration} (some : 0 < fallback.nanos) :
    0 < (orElseZero d fallback).nanos := by
  unfold orElseZero
  split
  · exact some
  next other => exact Nat.pos_of_ne_zero fun none => other (beq_iff_eq.2 none)

theorem orElseZero_of_pos {d : Duration} (some : 0 < d.nanos) (fallback : Duration) : orElseZero d fallback = d := by
  have other : ¬ d.isZero = true := fun zero => Nat.ne_of_gt some (beq_iff_eq.1 zero)
  rw [orElseZero, if_neg other]

/-- Settings that a run can use: its pauses take time, and no mount candidate is tried twice in a row. -/
structure Usable (s : Settings) : Prop where
  pause : 0 < s.groups.pollInterval.nanos
  poll : 0 < s.subject.livenessPoll.nanos
  apart : s.groups.mountCandidates.IsChain fun p q => p.sameAs q = false

theorem repaired_usable (s : Settings) : Usable s.repaired where
  pause := orElseZero_pos _ (by decide)
  poll := orElseZero_pos _ (by decide)
  apart := isChain_dedupAdjacent _

/-- Settings that can be used need no repair. -/
theorem Usable.repaired_eq {s : Settings} (usable : Usable s) : s.repaired = s := by
  obtain ⟨⟨candidates, leaf, pause, timeout, retries⟩, ⟨interposer, searched, file, poll, template, depth, shift⟩, output⟩ := s
  have pause : orElseZero pause (.ofMillis 1) = pause := orElseZero_of_pos usable.pause _
  have poll : orElseZero poll SubjectSettings.default.livenessPoll = poll := orElseZero_of_pos usable.poll _
  have candidates : dedupAdjacent Path.sameAs candidates = candidates := dedupAdjacent_of_isChain usable.apart
  rw [repaired]
  dsimp only
  rw [pause, poll, candidates]

/-- Repaired settings need no repair. -/
theorem repaired_idem (s : Settings) : s.repaired.repaired = s.repaired :=
  (repaired_usable s).repaired_eq

end Settings

end HeapSampler
