import HeapSampler.Freezer.Transition
import HeapSampler.Proofs.Acts

/-!
# What a transition does to the freezer

A transition asks the freezer for its target and for nothing else, and it succeeds with the first
look that shows the target. `Attempt` says so of the events of a transition, for every freezer, every
policy and every clock; `run_attempts` proves it by induction on the looks that are left.
-/

namespace HeapSampler.Transition

variable {σ : Type} {c : Collaborators σ} {target : FreezeState} {p : TransitionPolicy}
  {s s' : Session σ} {r : Except Stop Unit}

/-- Asks for a state and waits for it. -/
def ask (c : Collaborators σ) (target : FreezeState) (p : TransitionPolicy) (looks retries : Nat) : Act σ Unit := do
  Act.request c target
  let deadline ← Act.deadlineIn p.timeout
  await c target p looks retries deadline

theorem run_eq_ask : run c target p = ask c target p p.maxLooks p.retries.toNat := rfl

/-- A pause and a look at the freezer. -/
def look (c : Collaborators σ) (p : TransitionPolicy) (s : Session σ) :
    Except Stop (Option FreezeState) × Session σ :=
  Act.observe c (Act.sleep c p.pause s).2

/-- What follows a pause and a look. -/
theorem await_succ (looks retries : Nat) (deadline : Instant) (s : Session σ) :
    await c target p (looks + 1) retries deadline s =
      match look c p s with
      | (.error stop, t) => (.error stop, t)
      | (.ok answer, t) =>
        if answer = some target then (.ok (), t)
        else if t.now < deadline then await c target p looks retries deadline t
        else match retries with
          | 0 => (.error (.error (.freezerStuck target)), t)
          | retries + 1 => ask c target p looks retries t := by
  have slept : Act.sleep c p.pause s = (.ok (), (Act.sleep c p.pause s).2) := rfl
  rw [await.eq_def]
  simp only
  rw [Act.bind_ok slept]
  rcases seen : look c p s with ⟨stop | answer, t⟩
  · exact Act.bind_error seen
  · have here : (Act.now : Act σ Instant) t = (.ok t.now, t) := rfl
    rw [Act.bind_ok (show Act.observe c (Act.sleep c p.pause s).2 = (.ok answer, t) from seen)]
    simp only
    by_cases settled : answer = some target
    · rw [if_pos settled, if_pos settled]
      rfl
    · rw [if_neg settled, if_neg settled, Act.bind_ok here]
      by_cases early : t.now < deadline
      · rw [if_pos early, if_pos early]
      · rw [if_neg early, if_neg early]
        cases retries <;> rfl

/-- What follows a request. -/
theorem ask_eq (looks retries : Nat) (s : Session σ) :
    ask c target p looks retries s =
      match Act.request c target s with
      | (.error stop, t) => (.error stop, t)
      | (.ok (), t) =>
        if t.now.nanos + p.timeout.nanos < Instant.limit then
          await c target p looks retries (t.now.later p.timeout) t
        else (.error (.fault .instantOverflow), t) := by
  rw [ask]
  rcases asked : Act.request c target s with ⟨stop | ⟨⟨⟩⟩, t⟩
  · exact Act.bind_error asked
  · rw [Act.bind_ok asked]
    have set := Act.deadlineIn_apply p.timeout t
    by_cases fits : t.now.nanos + p.timeout.nanos < Instant.limit
    · rw [if_pos fits] at set
      rw [Act.bind_ok set]
      simp only
      rw [if_pos fits]
    · rw [if_neg fits] at set
      rw [Act.bind_error set]
      simp only
      rw [if_neg fits]

/-- The event belongs to a transition: a request for its target or a look. -/
def Serves (target : FreezeState) (e : Event) : Prop :=
  (∃ accepted, e = .requested target accepted) ∨ ∃ answer, e = .observed answer

/-- The events of a transition that waits for its target: a look that shows the target is the last
event of a wait that succeeds, and a wait that stops has seen no such look. -/
structure Waits (target : FreezeState) (r : Except Stop Unit) (es : List Event) : Prop where
  serves : ∀ e ∈ es, Serves target e
  settled : r = .ok () → ∃ before, es = before ++ [.observed (some (some target))] ∧
    .observed (some (some target)) ∉ before
  unsettled : r ≠ .ok () → .observed (some (some target)) ∉ es

/-- The events of a transition: a request, then a wait in which the request may be repeated. -/
def Attempt (target : FreezeState) (r : Except Stop Unit) (es : List Event) : Prop :=
  ∃ accepted rest, es = .requested target accepted :: rest ∧ Waits target r rest

theorem Waits.stopped (stop : Stop) : Waits target (.error stop) [] :=
  ⟨by simp, by simp, by simp⟩

theorem Waits.found : Waits target (.ok ()) [.observed (some (some target))] :=
  ⟨fun e found => .inr ⟨_, List.mem_singleton.1 found⟩, fun _ => ⟨[], rfl, by simp⟩, by simp⟩

/-- A wait may begin with any event of its transition but the look that shows the target. -/
theorem Waits.cons {e : Event} {es : List Event} (serves : Serves target e)
    (other : e ≠ .observed (some (some target))) (rest : Waits target r es) : Waits target r (e :: es) where
  serves := by
    intro f found
    rcases List.mem_cons.1 found with rfl | found
    · exact serves
    · exact rest.serves f found
  settled := by
    intro ended
    obtain ⟨before, rfl, fresh⟩ := rest.settled ended
    exact ⟨e :: before, rfl, by simp [other.symm, fresh]⟩
  unsettled := by
    intro failed
    have fresh := rest.unsettled failed
    simp [other.symm, fresh]

/-- What asking adds, given what the wait after it adds. -/
theorem ask_attempts {looks retries : Nat}
    (waits : ∀ {deadline : Instant} {t s' : Session σ} {r : Except Stop Unit},
      await c target p looks retries deadline t = (r, s') → ∃ es, t.Adds es s' ∧ Waits target r es)
    (ran : ask c target p looks retries s = (r, s')) : ∃ es, s.Adds es s' ∧ Attempt target r es := by
  obtain ⟨stop, refused, rfl⟩ | ⟨⟨⟩, t, accepted, ran⟩ := Act.bind_cases ran
  · exact ⟨_, Act.call_adds refused, _, _, rfl, .stopped stop⟩
  · have asked := Act.call_adds accepted
    obtain ⟨stop, overflow, rfl⟩ | ⟨deadline, u, set, ran⟩ := Act.bind_cases ran
    · rw [Act.deadlineIn_apply] at overflow
      cases congrArg Prod.snd overflow
      exact ⟨_, asked, _, _, rfl, .stopped stop⟩
    · rw [Act.deadlineIn_apply] at set
      cases congrArg Prod.snd set
      obtain ⟨es, added, waited⟩ := waits ran
      exact ⟨_, asked.trans added, _, _, rfl, waited⟩

theorem await_waits {looks retries : Nat} {deadline : Instant}
    (ran : await c target p looks retries deadline s = (r, s')) : ∃ es, s.Adds es s' ∧ Waits target r es := by
  induction looks generalizing s r s' retries deadline with
  | zero =>
    cases ran
    exact ⟨[], .refl s, .stopped _⟩
  | succ looks ih =>
    rw [await_succ] at ran
    rcases seen : look c p s with ⟨stop | answer, t⟩ <;> rw [seen] at ran <;> simp only at ran
    · cases ran
      exact ⟨_, (Act.sleep_adds c p.pause s).trans (Act.call_adds seen),
        .cons (.inr ⟨_, rfl⟩) (by simp [Except.toOption]) (.stopped stop)⟩
    have looked := (Act.sleep_adds c p.pause s).trans (Act.call_adds seen)
    by_cases settled : answer = some target
    · rw [if_pos settled] at ran
      cases ran
      subst settled
      exact ⟨_, looked, .found⟩
    have other : Event.observed (some answer) ≠ .observed (some (some target)) := by simp [settled]
    rw [if_neg settled] at ran
    by_cases early : t.now < deadline
    · rw [if_pos early] at ran
      obtain ⟨es, added, waited⟩ := ih ran
      exact ⟨_, looked.trans added, .cons (.inr ⟨_, rfl⟩) other waited⟩
    rw [if_neg early] at ran
    cases retries with
    | zero =>
      cases ran
      exact ⟨_, looked, .cons (.inr ⟨_, rfl⟩) other (.stopped _)⟩
    | succ retries =>
      obtain ⟨es, added, accepted, rest, rfl, waited⟩ := ask_attempts ih ran
      exact ⟨_, looked.trans added, .cons (.inr ⟨_, rfl⟩) other (.cons (.inl ⟨_, rfl⟩) (by simp) waited)⟩

/-- Whatever the freezer does, a transition makes an attempt at its target and leaves the history
alone. -/
theorem run_attempts (ran : run c target p s = (r, s')) : ∃ es, s.Adds es s' ∧ Attempt target r es :=
  ask_attempts await_waits ran

namespace Attempt

variable {es : List Event}

theorem serves (attempt : Attempt target r es) : ∀ e ∈ es, Serves target e := by
  obtain ⟨accepted, rest, rfl, waits⟩ := attempt
  intro e found
  rcases List.mem_cons.1 found with rfl | found
  · exact .inl ⟨_, rfl⟩
  · exact waits.serves e found

/-- A transition that succeeds ends with the only look that showed its target. -/
theorem settled (attempt : Attempt target (.ok ()) es) :
    ∃ accepted between, es = .requested target accepted :: (between ++ [.observed (some (some target))]) ∧
      .observed (some (some target)) ∉ between := by
  obtain ⟨accepted, rest, rfl, waits⟩ := attempt
  obtain ⟨between, rfl, fresh⟩ := waits.settled rfl
  exact ⟨accepted, between, rfl, fresh⟩

/-- A transition that stops has not seen its target. -/
theorem unsettled {stop : Stop} (attempt : Attempt target (.error stop) es) :
    .observed (some (some target)) ∉ es := by
  obtain ⟨accepted, rest, rfl, waits⟩ := attempt
  simpa using waits.unsettled (by simp)

end Attempt

end HeapSampler.Transition
