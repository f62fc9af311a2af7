import HeapSampler.Proofs.Files
import HeapSampler.Proofs.Settings.Repair
import HeapSampler.Proofs.Toml.Numbers
import HeapSampler.Settings.Files

/-!
# How long the durations of a file are

Durations are whole numbers of milliseconds or seconds, and the numbers of a file are signed 64-bit numbers. So a
pause is never longer than so many milliseconds, and a timeout never longer than so many seconds, which is one second
less than the clock can hold (`load_bounded`). That is all that is known of them but that pauses are not empty.
-/

namespace HeapSampler.Settings

open Toml

/-- The largest whole number of a file. -/
def maxNumber : Nat := 0x7FFFFFFFFFFFFFFF

/-- What is known of the durations that were loaded. -/
structure Bounded (s : Settings) : Prop where
  pause : 0 < s.groups.pollInterval.nanos
  poll : s.subject.livenessPoll.nanos ≤ maxNumber * Duration.nanosPerMilli
  timeout : s.groups.transitionTimeout.nanos ≤ maxNumber * Duration.nanosPerSecond

/-! ## Sections -/

/-- All whole numbers in a section are signed 64-bit numbers. -/
def Section.Sized (s : Section) : Prop :=
  ∀ name place v, s name place = .value v → v.Sized

theorem Section.find_sized {es : Entries} (sized : es.Sized) {name : String} {s : Section}
    (found : Section.find es name = some s) : s.Sized := by
  unfold Section.find at found
  split at found
  · cases found
    rintro name place v ⟨⟩
  next form inner looked =>
    cases found
    intro name place v said
    unfold Section.ofEntries at said
    split at said <;> cases said
    next value =>
    cases sized.lookup looked with
    | table _ all =>
      cases all _ (mem_of_lookup value) with
      | value sized => exact sized
  · cases found
  next v looked =>
    have valued : v.Sized := by
      cases sized.lookup looked with
      | value sized => exact sized
    split at found
    next fields =>
      cases found
      intro name place v said
      unfold Section.ofFields at said
      split at said <;> cases said
      next value =>
      cases valued with
      | inlineTable all => exact all _ (mem_of_lookup value)
    next items =>
      cases found
      intro name place v said
      unfold Section.ofItems at said
      split at said <;> cases said
      next value =>
      cases valued with
      | array all => exact all v (List.mem_of_getElem? value)
    · cases found
      rintro name place v ⟨⟩
    · cases found

/-- A setting that is read from a section has what its default has and every value that a document may say. -/
theorem Section.get_cases {α : Type} {s : Section} (sized : s.Sized) {P : α → Prop} {name : String} {place : Nat}
    {read : Value → Option α} {fallback a : α} (reads : ∀ v, v.Sized → read v = some a → P a) (default : P fallback)
    (got : s.get name place read fallback = some a) : P a := by
  unfold Section.get at got
  split at got
  next v said => exact reads v (sized name place v said) got
  · cases got
  · cases got
    exact default

/-! ## Durations -/

theorem asNat_le {v : Value} {n : Nat} (sized : v.Sized) (read : asNat v = some n) : n ≤ maxNumber := by
  unfold asNat at read
  split at read
  next m =>
    cases sized with
    | integer fits =>
      have below : m < 0x8000000000000000 := of_decide_eq_true (Bool.and_eq_true_iff.1 fits).2
      split at read <;> cases read
      rw [maxNumber]
      omega
  · cases read

theorem asMillis_le {v : Value} {d : Duration} (sized : v.Sized) (read : asMillis v = some d) :
    d.nanos ≤ maxNumber * Duration.nanosPerMilli := by
  obtain ⟨n, number, rfl⟩ := Option.map_eq_some_iff.1 read
  exact Nat.mul_le_mul_right _ (asNat_le sized number)

theorem asSeconds_le {v : Value} {d : Duration} (sized : v.Sized) (read : asSeconds v = some d) :
    d.nanos ≤ maxNumber * Duration.nanosPerSecond := by
  obtain ⟨n, number, rfl⟩ := Option.map_eq_some_iff.1 read
  exact Nat.mul_le_mul_right _ (asNat_le sized number)

theorem decodeGroups_timeout {s : Section} (sized : s.Sized) {g : GroupSettings} (decoded : decodeGroups s = some g) :
    g.transitionTimeout.nanos ≤ maxNumber * Duration.nanosPerSecond := by
  obtain ⟨candidates, -, decoded⟩ := Option.bind_eq_some_iff.1 decoded
  obtain ⟨leaf, -, decoded⟩ := Option.bind_eq_some_iff.1 decoded
  obtain ⟨pause, -, decoded⟩ := Option.bind_eq_some_iff.1 decoded
  obtain ⟨timeout, got, decoded⟩ := Option.bind_eq_some_iff.1 decoded
  obtain ⟨retries, -, same⟩ := Option.bind_eq_some_iff.1 decoded
  cases same
  exact Section.get_cases (P := fun d => d.nanos ≤ _) sized (fun _ => asSeconds_le) (by decide) got

theorem decodeSubject_poll {s : Section} (sized : s.Sized) {g : SubjectSettings} (decoded : decodeSubject s = some g) :
    g.livenessPoll.nanos ≤ maxNumber * Duration.nanosPerMilli := by
  obtain ⟨interposer, -, decoded⟩ := Option.bind_eq_some_iff.1 decoded
  obtain ⟨searched, -, decoded⟩ := Option.bind_eq_some_iff.1 decoded
  obtain ⟨output, -, decoded⟩ := Option.bind_eq_some_iff.1 decoded
  obtain ⟨poll, got, decoded⟩ := Option.bind_eq_some_iff.1 decoded
  obtain ⟨template, -, decoded⟩ := Option.bind_eq_some_iff.1 decoded
  obtain ⟨depth, -, decoded⟩ := Option.bind_eq_some_iff.1 decoded
  obtain ⟨shift, -, same⟩ := Option.bind_eq_some_iff.1 decoded
  cases same
  exact Section.get_cases (P := fun d => d.nanos ≤ _) sized (fun _ => asMillis_le) (by decide) got

/-- The durations in a file that was loaded are no longer than its numbers let them be. -/
theorem load_bounded {t : FileTree} {p : Path} {s : Settings} (loaded : load t p = .ok s) : Bounded s := by
  obtain ⟨text, -, loaded⟩ := FileTree.bind_eq_ok.1 loaded
  split at loaded
  next said decoded =>
    cases loaded
    obtain ⟨es, parsed, decoded⟩ := Option.bind_eq_some_iff.1 decoded
    have sized := Entries.parse?_sized parsed
    obtain ⟨groups, foundGroups, decoded⟩ := Option.bind_eq_some_iff.1 decoded
    obtain ⟨g, decodedGroups, decoded⟩ := Option.bind_eq_some_iff.1 decoded
    obtain ⟨subject, foundSubject, decoded⟩ := Option.bind_eq_some_iff.1 decoded
    obtain ⟨u, decodedSubject, decoded⟩ := Option.bind_eq_some_iff.1 decoded
    obtain ⟨output, -, decoded⟩ := Option.bind_eq_some_iff.1 decoded
    obtain ⟨o, -, same⟩ := Option.bind_eq_some_iff.1 decoded
    cases same
    have timeout := decodeGroups_timeout (Section.find_sized sized foundGroups) decodedGroups
    have poll := decodeSubject_poll (Section.find_sized sized foundSubject) decodedSubject
    exact ⟨orElseZero_pos _ (by decide), orElseZero_either (P := fun d => d.nanos ≤ _) poll (by decide), timeout⟩
  · cases loaded

end HeapSampler.Settings
