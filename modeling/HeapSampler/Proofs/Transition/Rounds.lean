import HeapSampler.Proofs.Transition.Schedule

/-!
# The rounds of a transition

A transition goes in rounds: a request, and then looks at the freezer. On a clock that only pauses move,
the rounds are a fixed schedule; on any other they take longer, but they stay rounds. Whatever the
freezer does and however the clock goes on, a round is given up for the next one after a look and after
its timeout, the freezer counts as stuck after all rounds only, and there are no more looks than on
the schedule (`run_in_rounds`).
-/

namespace HeapSampler

/-! ## How many looks are left -/

namespace TransitionPolicy

variable {p : TransitionPolicy} {now later deadline : Instant}

/-- How often the freezer is looked at, at most, until a deadline. -/
def looksUntil (p : TransitionPolicy) (now deadline : Instant) : Nat :=
  max 1 ((deadline.nanos - now.nanos) ⌈/⌉ p.pause.nanos)

/-- How often the freezer is looked at, at most, with so many repetitions left after a deadline. -/
def looksLeft (p : TransitionPolicy) (retries : Nat) (now deadline : Instant) : Nat :=
  retries * p.looksPerRequest + p.looksUntil now deadline

theorem looksLeft_pos (p : TransitionPolicy) (retries : Nat) (now deadline : Instant) :
    0 < p.looksLeft retries now deadline := by
  have one : 1 ≤ p.looksUntil now deadline := Nat.le_max_left _ _
  rw [looksLeft]
  omega

/-- A look before the deadline uses up one of those that are left. -/
theorem looksLeft_of_early (pause : 0 < p.pause.nanos) (paused : now.nanos + p.pause.nanos ≤ later.nanos)
    (early : later < deadline) (retries : Nat) : p.looksLeft retries later deadline < p.looksLeft retries now deadline := by
  have left : 0 < deadline.nanos - later.nanos := Nat.sub_pos_of_lt early
  have fewer : (deadline.nanos - later.nanos) ⌈/⌉ p.pause.nanos < (deadline.nanos - now.nanos) ⌈/⌉ p.pause.nanos := by
    have reached : ∀ m, deadline.nanos - now.nanos ≤ p.pause.nanos * m →
        (deadline.nanos - later.nanos) ⌈/⌉ p.pause.nanos + 1 ≤ m := by
      intro m enough
      cases m with
      | zero => omega
      | succ m =>
        rw [Nat.mul_succ] at enough
        have rest : deadline.nanos - later.nanos ≤ p.pause.nanos * m := by omega
        exact Nat.succ_le_succ ((ceilDiv_le_iff_le_mul pause).2 rest)
    exact reached _ ((ceilDiv_le_iff_le_mul pause).1 (Nat.le_refl _))
  have some : 0 < (deadline.nanos - later.nanos) ⌈/⌉ p.pause.nanos := by
    apply Nat.pos_of_ne_zero
    intro none
    have nothing := (ceilDiv_le_iff_le_mul pause).1 (Nat.le_of_eq none)
    omega
  rw [looksLeft, looksLeft, looksUntil, looksUntil]
  omega

/-- A new request brings back as many looks as a repetition counts for. -/
theorem looksLeft_of_asked (pause : 0 < p.pause.nanos) (retries : Nat) (now : Instant) :
    p.looksLeft retries now (now.later p.timeout) = (retries + 1) * p.looksPerRequest := by
  have whole : (now.later p.timeout).nanos - now.nanos = p.timeout.nanos := by
    show now.nanos + p.timeout.nanos - now.nanos = p.timeout.nanos
    omega
  rw [looksLeft, looksUntil, whole, looksPerRequest_eq pause, Nat.succ_mul]

/-- The look after which a request is repeated was one of those that were left. -/
theorem looksLeft_of_late (p : TransitionPolicy) (retries : Nat) (now deadline : Instant) :
    (retries + 1) * p.looksPerRequest < p.looksLeft (retries + 1) now deadline := by
  have one : 1 ≤ p.looksUntil now deadline := Nat.le_max_left _ _
  rw [looksLeft]
  omega

theorem maxLooks_eq (pause : 0 < p.pause.nanos) :
    p.maxLooks = (p.retries.toNat + 1) * max 1 (p.timeout.nanos ⌈/⌉ p.pause.nanos) := by
  rw [maxLooks, looksPerRequest_eq pause]

end TransitionPolicy

namespace Transition

/-! ## Rounds -/

/-- A request and the looks that follow it, each with its moment. -/
structure Round where
  asked : Instant
  accepted : Bool
  looks : List (Instant × Option (Option FreezeState))

namespace Round

/-- What a round notes. -/
def timeline (target : FreezeState) (round : Round) : List (Instant × Event) :=
  (round.asked, .requested target round.accepted) :: round.looks.map fun l => (l.1, .observed l.2)

/-- The last dealing of a round with the freezer failed. -/
def broken (round : Round) : Bool :=
  match round.looks.getLast? with
  | some (_, answer) => answer.isNone
  | none => !round.accepted

/-- A round is given up for the next: it has had a look, and its timeout has passed. -/
def GivesWay (timeout : Duration) (round next : Round) : Prop :=
  round.looks ≠ [] ∧ round.asked.later timeout ≤ next.asked

end Round

/-- The freezer itself answers a dealing with it by a failure. -/
def FailsWith {σ : Type} (c : Collaborators σ) (target : FreezeState) (stop : Stop) : Prop :=
  (∃ scene, (c.request target scene).result = .error stop) ∨ ∃ scene, (c.observe scene).result = .error stop

/-- How a transition ends after its rounds, at a moment, with so many repetitions allowed. -/
inductive Outcome {σ : Type} (c : Collaborators σ) (target : FreezeState) (timeout : Duration) (retries : Nat)
    (rounds : List Round) (now : Instant) : Except Stop Unit → Prop where
  /-- The last look shows the target. -/
  | settled (last : Round) (moment : Instant) (ends : rounds.getLast? = some last)
      (seen : last.looks.getLast? = some (moment, some (some target))) : Outcome c target timeout retries rounds now (.ok ())
  /-- The last dealing with the freezer fails, and its failure is passed on. -/
  | failed (last : Round) (stop : Stop) (ends : rounds.getLast? = some last) (broken : last.broken = true)
      (said : FailsWith c target stop) : Outcome c target timeout retries rounds now (.error stop)
  /-- The clock cannot hold the deadline of the last request. -/
  | overflow (last : Round) (ends : rounds.getLast? = some last) (accepted : last.accepted = true)
      (unseen : last.looks = []) : Outcome c target timeout retries rounds now (.error (.fault .instantOverflow))
  /-- All rounds are used up, and all their timeouts have passed. -/
  | stuck (last : Round) (ends : rounds.getLast? = some last) (looked : last.looks ≠ [])
      (all : rounds.length = retries + 1)
      (passed : ∀ first ∈ rounds.head?, first.asked.nanos + (retries + 1) * timeout.nanos ≤ now.nanos) :
      Outcome c target timeout retries rounds now (.error (.error (.freezerStuck target)))

/-- Rounds in order, one given up for the next, and the end of the transition after them. -/
structure Orderly {σ : Type} (c : Collaborators σ) (target : FreezeState) (timeout : Duration) (retries : Nat)
    (rounds : List Round) (now : Instant) (r : Except Stop Unit) : Prop where
  spaced : rounds.IsChain (Round.GivesWay timeout)
  few : rounds.length ≤ retries + 1
  outcome : Outcome c target timeout retries rounds now r

/-- How often the freezer is looked at in some rounds. -/
def looksIn (rounds : List Round) : Nat :=
  (rounds.map fun round => round.looks.length).sum

variable {σ : Type} {c : Collaborators σ} {target : FreezeState} {p : TransitionPolicy} {timeout : Duration}
  {s s' t : Session σ} {r : Except Stop Unit} {retries looks : Nat} {round first : Round} {rounds : List Round}
  {now deadline : Instant}

theorem Outcome.cons (outcome : Outcome c target timeout retries (first :: rounds) now r)
    (gives : round.GivesWay timeout first) :
    Outcome c target timeout (retries + 1) (round :: first :: rounds) now r := by
  cases outcome with
  | settled last moment ends seen => exact .settled last moment (List.getLast?_cons_cons.trans ends) seen
  | failed last stop ends broken said => exact .failed last stop (List.getLast?_cons_cons.trans ends) broken said
  | overflow last ends accepted unseen => exact .overflow last (List.getLast?_cons_cons.trans ends) accepted unseen
  | stuck last ends looked all passed =>
    apply Outcome.stuck last (List.getLast?_cons_cons.trans ends) looked (congrArg (· + 1) all)
    rintro _ ⟨⟩
    have after : round.asked.nanos + timeout.nanos ≤ first.asked.nanos := gives.2
    have rest := passed first rfl
    rw [Nat.succ_mul]
    omega

theorem Orderly.cons (orderly : Orderly c target timeout retries (first :: rounds) now r)
    (gives : round.GivesWay timeout first) :
    Orderly c target timeout (retries + 1) (round :: first :: rounds) now r where
  spaced := .cons_cons gives orderly.spaced
  few := Nat.succ_le_succ orderly.few
  outcome := orderly.outcome.cons gives

/-- The only round so far is the last. -/
theorem Orderly.single (outcome : Outcome c target timeout retries [round] now r) :
    Orderly c target timeout retries [round] now r :=
  ⟨.singleton round, Nat.succ_le_succ (Nat.zero_le retries), outcome⟩

/-! ## What a look and a request take -/

/-- A look comes a pause later, if not later still. -/
theorem le_look (c : Collaborators σ) (p : TransitionPolicy) (t : Session σ) :
    t.now.nanos + p.pause.nanos ≤ (look c p t).2.now.nanos := by
  have woke : c.wakes t.state (t.now.later p.pause) ≤ (Act.sleep c p.pause t).2.now :=
    Session.le_advanceTo t _
  have looked : (look c p t).2.now = _ := Act.call_now c.observe .observed _
  rw [looked]
  change t.now.nanos + p.pause.nanos + _ ≤ _ at woke
  show _ ≤ (Act.sleep c p.pause t).2.now.nanos + _
  omega

/-! ## A transition goes in rounds -/

/-- A round with another look. -/
def Round.look (round : Round) (seen : Instant × Option (Option FreezeState)) : Round :=
  { round with looks := round.looks ++ [seen] }

/-- From one session to another a round went on with some looks, and others may have followed it. -/
def GoesOn (c : Collaborators σ) (target : FreezeState) (timeout : Duration) (looks retries : Nat) (round : Round) (s : Session σ)
    (r : Except Stop Unit) (s' : Session σ) : Prop :=
  ∃ (seen : List (Instant × Option (Option FreezeState))) (later : List Round),
    s'.timeline = s.timeline ++ (seen.map (fun l => (l.1, .observed l.2)) ++ later.flatMap (Round.timeline target)) ∧
    seen.length + looksIn later ≤ looks ∧
    Orderly c target timeout retries ({ round with looks := round.looks ++ seen } :: later) s'.now r

/-- From one session to another there were some rounds, the first from the beginning. -/
def SetsOut (c : Collaborators σ) (target : FreezeState) (timeout : Duration) (looks retries : Nat) (s : Session σ) (r : Except Stop Unit)
    (s' : Session σ) : Prop :=
  ∃ (first : Round) (later : List Round), first.asked = s.now ∧
    s'.timeline = s.timeline ++ (first :: later).flatMap (Round.timeline target) ∧
    looksIn (first :: later) ≤ looks ∧ Orderly c target timeout retries (first :: later) s'.now r

section Steps

variable {moment : Instant} {answer : Option (Option FreezeState)}
  (noted : t.timeline = s.timeline ++ [(moment, .observed answer)])
include noted

/-- A look that ends the transition ends its last round. -/
theorem GoesOn.last (outcome : Outcome c target timeout retries [round.look (moment, answer)] t.now r) :
    GoesOn c target timeout (looks + 1) retries round s r t := by
  refine ⟨[(moment, answer)], [], noted, ?_, .single outcome⟩
  show 1 + 0 ≤ looks + 1
  omega

/-- After a look in vain the round goes on, -/
theorem GoesOn.look (rest : GoesOn c target timeout looks retries (round.look (moment, answer)) t r s') :
    GoesOn c target timeout (looks + 1) retries round s r s' := by
  obtain ⟨seen, later, notes, few, orderly⟩ := rest
  refine ⟨(moment, answer) :: seen, later, ?_, ?_, ?_⟩
  · rw [notes, noted, List.append_assoc]
    rfl
  · rw [List.length_cons]
    omega
  · have grown : (round.look (moment, answer)).looks ++ seen = round.looks ++ (moment, answer) :: seen :=
      List.append_assoc round.looks [_] seen
    rw [← grown]
    exact orderly

/-- or, when its timeout has passed, gives way to the next one. -/
theorem GoesOn.next (passed : round.asked.later timeout ≤ t.now)
    (rest : SetsOut c target timeout looks retries t r s') :
    GoesOn c target timeout (looks + 1) (retries + 1) round s r s' := by
  obtain ⟨first, later, begins, notes, few, orderly⟩ := rest
  refine ⟨[(moment, answer)], first :: later, ?_, ?_, orderly.cons ⟨by simp, ?_⟩⟩
  · rw [notes, noted, List.append_assoc]
    rfl
  · rw [List.length_singleton]
    omega
  · rw [begins]
    exact passed

end Steps

/-- What asking makes of a wait: the first of its rounds. -/
theorem ask_setsOut
    (waits : ∀ {round : Round} {deadline : Instant} {t s' : Session σ} {r : Except Stop Unit},
      round.asked.later p.timeout ≤ deadline → p.looksLeft retries t.now deadline ≤ looks →
      await c target p looks retries deadline t = (r, s') → GoesOn c target p.timeout looks retries round t r s')
    (pause : 0 < p.pause.nanos) (enough : (retries + 1) * p.looksPerRequest ≤ looks)
    (ran : ask c target p looks retries s = (r, s')) : SetsOut c target p.timeout looks retries s r s' := by
  have noted := Act.call_timeline (c.request target) (fun answer => .requested target answer.isSome) s
  have later := Act.call_now (c.request target) (fun answer => .requested target answer.isSome) s
  rw [← Act.request] at noted later
  rw [ask_eq] at ran
  rcases asked : Act.request c target s with ⟨stop | ⟨⟨⟩⟩, t⟩ <;> rw [asked] at ran noted later <;> simp only at ran
  · cases ran
    have said : (c.request target s.scene).result = .error stop := congrArg Prod.fst asked
    exact ⟨⟨s.now, false, []⟩, [], rfl, noted, Nat.zero_le looks, .single (.failed _ stop rfl rfl (.inl ⟨s.scene, said⟩))⟩
  by_cases fits : t.now.nanos + p.timeout.nanos < Instant.limit
  · rw [if_pos fits] at ran
    have due : s.now.later p.timeout ≤ t.now.later p.timeout := by
      rw [show t.now = _ from later]
      show s.now.nanos + p.timeout.nanos ≤ s.now.nanos + _ + p.timeout.nanos
      omega
    have left := TransitionPolicy.looksLeft_of_asked pause retries t.now
    have rest : GoesOn c target p.timeout looks retries ⟨s.now, true, []⟩ t r s' := waits due (left ▸ enough) ran
    obtain ⟨seen, rounds, notes, few, orderly⟩ := rest
    refine ⟨⟨s.now, true, seen⟩, rounds, rfl, ?_, few, orderly⟩
    rw [notes, show t.timeline = _ from noted, List.append_assoc]
    rfl
  · rw [if_neg fits] at ran
    cases ran
    exact ⟨⟨s.now, true, []⟩, [], rfl, noted, Nat.zero_le looks, .single (.overflow _ rfl rfl rfl)⟩

/-- A wait for the deadline of a round goes on with it. The induction is on the looks that are left, of which
there are enough on every clock. -/
theorem await_goesOn (pause : 0 < p.pause.nanos) (due : round.asked.later p.timeout ≤ deadline)
    (enough : p.looksLeft retries s.now deadline ≤ looks)
    (ran : await c target p looks retries deadline s = (r, s')) : GoesOn c target p.timeout looks retries round s r s' := by
  induction looks generalizing s r s' retries deadline round with
  | zero =>
    have some := p.looksLeft_pos retries s.now deadline
    omega
  | succ looks ih =>
    have noted := look_timeline c p s
    have paused := le_look c p s
    rw [await_succ] at ran
    rcases seen : look c p s with ⟨stop | answer, t⟩ <;> rw [seen] at ran noted paused <;> simp only at ran noted paused
    · cases ran
      have said : (c.observe (Act.sleep c p.pause s).2.scene).result = .error stop := congrArg Prod.fst seen
      exact .last noted (.failed _ stop rfl (by simp [Round.broken, Round.look, Except.toOption]) (.inr ⟨_, said⟩))
    by_cases settled : answer = some target
    · rw [if_pos settled] at ran
      cases ran
      subst settled
      exact .last noted (.settled _ (Act.sleep c p.pause s).2.now rfl (by simp [Round.look, Except.toOption]))
    rw [if_neg settled] at ran
    by_cases early : t.now < deadline
    · rw [if_pos early] at ran
      have fewer := TransitionPolicy.looksLeft_of_early pause paused early retries
      exact .look noted (ih due (by omega) ran)
    rw [if_neg early] at ran
    have passed : round.asked.later p.timeout ≤ t.now := Nat.le_trans due (Nat.le_of_not_lt early)
    cases retries with
    | zero =>
      cases ran
      refine .last noted (.stuck _ rfl (by simp [Round.look]) rfl ?_)
      rintro _ ⟨⟩
      rw [Nat.zero_add, Nat.one_mul]
      exact passed
    | succ retries =>
      have fewer := p.looksLeft_of_late retries s.now deadline
      exact .next noted passed (ask_setsOut ih pause (by omega) ran)

/-! ## Enough looks -/

/-- Asking makes no difference between waits that are the same. -/
theorem ask_congr {looks' : Nat}
    (same : ∀ t : Session σ, await c target p looks retries (t.now.later p.timeout) t =
      await c target p looks' retries (t.now.later p.timeout) t) :
    ask c target p looks retries s = ask c target p looks' retries s := by
  rw [ask_eq, ask_eq]
  rcases Act.request c target s with ⟨stop | ⟨⟨⟩⟩, t⟩
  · rfl
  · simp only [same t]

/-- More looks than are left on any clock make no difference. -/
theorem await_enough {looks' : Nat} (pause : 0 < p.pause.nanos) (enough : p.looksLeft retries s.now deadline ≤ looks)
    (enough' : p.looksLeft retries s.now deadline ≤ looks') :
    await c target p looks retries deadline s = await c target p looks' retries deadline s := by
  induction looks generalizing looks' s retries deadline with
  | zero =>
    have some := p.looksLeft_pos retries s.now deadline
    omega
  | succ looks ih =>
    obtain ⟨looks', rfl⟩ : ∃ k, looks' = k + 1 := by
      have some := p.looksLeft_pos retries s.now deadline
      exact Nat.exists_eq_succ_of_ne_zero (by omega)
    have paused := le_look c p s
    rw [await_succ, await_succ]
    rcases seen : look c p s with ⟨stop | answer, t⟩
    · rfl
    rw [seen] at paused
    simp only at paused ⊢
    split
    · rfl
    split
    · next early =>
      have fewer := TransitionPolicy.looksLeft_of_early pause paused early retries
      exact ih (by omega) (by omega)
    cases retries with
    | zero => rfl
    | succ retries =>
      have fewer := p.looksLeft_of_late retries s.now deadline
      apply ask_congr
      intro u
      have left := TransitionPolicy.looksLeft_of_asked pause retries u.now
      exact ih (by omega) (by omega)

/-! ## The whole transition -/

/-- A transition goes in rounds, on whatever clock. -/
structure InRounds (c : Collaborators σ) (target : FreezeState) (p : TransitionPolicy) (s : Session σ)
    (rounds : List Round) : Prop where
  /-- The rounds are all that is noted. -/
  timeline : (run c target p s).2.timeline = s.timeline ++ rounds.flatMap (Round.timeline target)
  /-- The first request is made at once. -/
  first : rounds.head?.map Round.asked = some s.now
  /-- There are at most as many rounds as the policy allows, each given up for the next after a look and
  after its timeout; and whatever the result is, one of the ways to end explains it. -/
  orderly : Orderly c target p.timeout p.retries.toNat rounds (run c target p s).2.now (run c target p s).1
  /-- There are no more looks than on the schedule, -/
  looks : looksIn rounds ≤ (p.retries.toNat + 1) * max 1 (p.timeout.nanos ⌈/⌉ p.pause.nanos)
  /-- and it is not for want of looks that there are no more. -/
  bounded : ∀ looks, (p.retries.toNat + 1) * max 1 (p.timeout.nanos ⌈/⌉ p.pause.nanos) ≤ looks →
    ask c target p looks p.retries.toNat s = run c target p s

/-- **The rounds of a transition.** Whatever the freezer does and however long the pauses and its answers take,
for every policy with a pause the transition goes in rounds and comes to an end. -/
theorem run_in_rounds (c : Collaborators σ) (target : FreezeState) (p : TransitionPolicy) (s : Session σ)
    (pause : 0 < p.pause.nanos) : ∃ rounds, InRounds c target p s rounds := by
  have total := TransitionPolicy.maxLooks_eq pause
  have enough {t : Session σ} {looks : Nat} (more : p.maxLooks ≤ looks) :
      p.looksLeft p.retries.toNat t.now (t.now.later p.timeout) ≤ looks := by
    rw [TransitionPolicy.looksLeft_of_asked pause]
    exact more
  have ran : ask c target p p.maxLooks p.retries.toNat s = ((run c target p s).1, (run c target p s).2) := rfl
  obtain ⟨first, later, begins, notes, few, orderly⟩ :=
    ask_setsOut (await_goesOn pause) pause (Nat.le_refl p.maxLooks) ran
  refine ⟨first :: later, notes, congrArg some begins, orderly, total ▸ few, ?_⟩
  intro looks more
  rw [← total] at more
  rw [run_eq_ask]
  apply ask_congr
  intro t
  exact await_enough pause (enough more) (enough (Nat.le_refl _))

/-- Every round makes one request, and nobody else does. -/
theorem requestsOn_rounds (target : FreezeState) (rounds : List Round) :
    requestsOn (rounds.flatMap (Round.timeline target)) = rounds.map fun round => (round.asked, target) := by
  induction rounds with
  | nil => rfl
  | cons round rounds ih =>
    have own : requestsOn (round.timeline target) = [(round.asked, target)] := by
      simp [requestsOn, Round.timeline, Event.request?]
    rw [List.flatMap_cons, requestsOn, List.filterMap_append, ← requestsOn, ← requestsOn, own, ih]
    rfl

/-- A machine that obeys the third request only, on which requests, looks and pauses all take longer than they
should. -/
def sluggish : Collaborators (Nat × FreezeState) :=
  let obeying := Collaborators.obeyingFrom 3
  { obeying with
    request := fun target scene => { obeying.request target scene with elapsed := .ofMillis 3 }
    observe := fun scene => { obeying.observe scene with elapsed := .ofMillis 1 }
    oversleep := fun state _ => .ofMillis (state.1 + 4) }

/-- It counts as stuck after two rounds of one look each, twenty-one milliseconds after the first request. -/
theorem run_in_rounds_sluggish :
    0 < brief.pause.nanos ∧ ∃ rounds, InRounds sluggish .frozen brief thawedAt rounds ∧ rounds.length = 2 ∧
      run sluggish .frozen brief thawedAt =
        (.error (.error (.freezerStuck .frozen)), (run sluggish .frozen brief thawedAt).2) ∧
      (run sluggish .frozen brief thawedAt).2.now.nanos = thawedAt.now.nanos + 21000000 := by
  have pause : 0 < brief.pause.nanos := by decide
  obtain ⟨rounds, goes⟩ := run_in_rounds sluggish .frozen brief thawedAt pause
  refine ⟨pause, rounds, goes, ?_, rfl, rfl⟩
  have requests : (requestsOn (run sluggish .frozen brief thawedAt).2.timeline).length = 2 := rfl
  rw [goes.timeline, show thawedAt.timeline = [] from rfl, List.nil_append, requestsOn_rounds, List.length_map] at requests
  exact requests

end Transition

end HeapSampler
