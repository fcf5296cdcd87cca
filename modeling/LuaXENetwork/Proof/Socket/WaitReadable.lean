import LuaXENetwork.Socket.WaitReadable

/-! `WaitReadable` and `ReceiveBytes` neither wait without an end nor much past their budgets. -/

namespace LuaXENetwork

/-! ## One `WaitReadable` -/

/-- The wait ends before its time, and is not taken up again. -/
def Poll.Ends (poll : Poll) : Prop :=
  (∃ after, poll.answer = .ready after) ∨ ∃ after error, poll.answer = .failed after error ∧ error ≠ wsaEIntr

theorem le_pollEnd (now after : Nat) (wait : Int) : now ≤ pollEnd now wait after := by
  rw [pollEnd]
  split <;> omega

section Poll

variable {timeoutMs : Int} (budget : 0 ≤ timeoutMs) {started : Nat}
include budget

theorem pollWait_some {now : Nat} {wait : Int} (left : pollWait timeoutMs started now = some wait) :
    0 < wait ∧ wait ≤ BaseSock.maxInt ∧ wait ≤ timeoutMs - ((now - started) / millisecond : Nat) := by
  rw [pollWait, if_pos budget] at left
  dsimp only at left
  split at left
  · cases left
  · obtain rfl := Option.some.inj left
    simp only [BaseSock.maxInt]
    omega

/-- A wait that is given what is left of the budget ends less than a millisecond after it. -/
theorem pollEnd_lt {now after : Nat} {wait : Int} (begun : started ≤ now)
    (left : pollWait timeoutMs started now = some wait) :
    pollEnd now wait after < started + (timeoutMs.toNat + 1) * millisecond := by
  obtain ⟨positive, -, within⟩ := pollWait_some budget left
  have asked := Nat.min_le_right after (wait.toNat * millisecond)
  rw [pollEnd, if_pos positive.le]
  simp only [millisecond] at within asked ⊢
  omega

theorem pollOut_eq {now : Nat} {wait : Int} (left : pollWait timeoutMs started now = some wait) :
    pollOut now wait = ⟨some false, [wait], pollEnd now wait (wait.toNat * millisecond)⟩ := by
  obtain ⟨positive, -⟩ := pollWait_some budget left
  rw [pollOut, if_pos positive.le, pollEnd, if_pos positive.le, Nat.min_self]

theorem le_of_pollWait_none {now : Nat} (spent : pollWait timeoutMs started now = none)
    (begun : started ≤ now) : started + timeoutMs.toNat * millisecond ≤ now := by
  rw [pollWait, if_pos budget] at spent
  dsimp only at spent
  split at spent
  · simp only [millisecond] at *
    omega
  · cases spent

/-- What the loop of `WaitReadable` can come to: the budget is spent before a wait; a wait is the last one;
or it is interrupted, and the loop goes on from where that leaves it. -/
inductive Polled (timeoutMs : Int) (started : Nat) : Nat → List Poll → Readiness → Prop
  | spent {now : Nat} (pause : Nat) {polls : List Poll}
      (paused : (∀ poll ∈ polls, poll.pause = 0) → pause = 0)
      (none_left : pollWait timeoutMs started (now + pause) = none) :
      Polled timeoutMs started now polls ⟨some false, [], now + pause⟩
  | ended {now after : Nat} (pause : Nat) {polls : List Poll} {wait : Int} (readable : Bool)
      (paused : (∀ poll ∈ polls, poll.pause = 0) → pause = 0)
      (left : pollWait timeoutMs started (now + pause) = some wait)
      (whole : (∀ poll ∈ polls, ¬ poll.Ends) → after = wait.toNat * millisecond) :
      Polled timeoutMs started now polls ⟨some readable, [wait], pollEnd (now + pause) wait after⟩
  | again {now after : Nat} {poll : Poll} {polls : List Poll} {wait : Int} {rest : Readiness}
      (left : pollWait timeoutMs started (now + poll.pause) = some wait)
      (polled : Polled timeoutMs started (pollEnd (now + poll.pause) wait after) polls rest) :
      Polled timeoutMs started now (poll :: polls) { rest with waits := wait :: rest.waits }

theorem pollLoop_polled (now : Nat) (polls : List Poll) :
    Polled timeoutMs started now polls (pollLoop timeoutMs started now polls) := by
  induction polls generalizing now with
  | nil =>
      rw [pollLoop]
      cases left : pollWait timeoutMs started now with
      | none => exact .spent 0 (fun _ => rfl) left
      | some wait =>
          dsimp only
          rw [pollOut_eq budget left]
          exact .ended 0 false (fun _ => rfl) left fun _ => rfl
  | cons poll polls ih =>
      have paused : (∀ other ∈ poll :: polls, other.pause = 0) → poll.pause = 0 :=
        fun all => all poll List.mem_cons_self
      rw [pollLoop]
      cases left : pollWait timeoutMs started (now + poll.pause) with
      | none => exact .spent poll.pause paused left
      | some wait =>
          have ended (readable : Bool) (after : Nat) (ends : poll.Ends) :
              Polled timeoutMs started now (poll :: polls)
                ⟨some readable, [wait], pollEnd (now + poll.pause) wait after⟩ :=
            .ended poll.pause readable paused left fun none_ends =>
              absurd ends (none_ends poll List.mem_cons_self)
          cases answer : poll.answer with
          | ready after => exact ended true after (.inl ⟨after, answer⟩)
          | timedOut =>
              dsimp only
              rw [pollOut_eq budget left]
              exact .ended poll.pause false paused left fun _ => rfl
          | failed after error =>
              dsimp only
              split
              · exact .again left (ih _)
              · rename_i other
                exact ended false after (.inr ⟨after, error, answer, other⟩)

end Poll

namespace Polled

variable {timeoutMs : Int} {started now : Nat} {polls : List Poll} {readiness : Readiness}
  (polled : Polled timeoutMs started now polls readiness) (budget : 0 ≤ timeoutMs)
include polled

theorem returns : readiness.readable ≠ none := by
  induction polled with
  | spent => exact Option.some_ne_none _
  | ended pause readable => exact Option.some_ne_none _
  | again left polled ih => exact ih

include budget

theorem waits_positive : ∀ wait ∈ readiness.waits, 0 < wait ∧ wait ≤ BaseSock.maxInt := by
  induction polled with
  | spent => simp
  | ended pause readable paused left whole =>
      obtain ⟨positive, bounded, -⟩ := pollWait_some budget left
      intro wait member
      obtain rfl := List.mem_singleton.mp member
      exact ⟨positive, bounded⟩
  | again left polled ih =>
      obtain ⟨positive, bounded, -⟩ := pollWait_some budget left
      intro wait member
      cases member with
      | head => exact ⟨positive, bounded⟩
      | tail _ later => exact ih wait later

theorem now_lt (paused : ∀ poll ∈ polls, poll.pause = 0) (begun : started ≤ now)
    (early : now < started + (timeoutMs.toNat + 1) * millisecond) :
    readiness.now < started + (timeoutMs.toNat + 1) * millisecond := by
  induction polled with
  | spent pause still none_left =>
      rw [still paused]
      exact early
  | ended pause readable still left whole => exact pollEnd_lt budget (begun.trans (Nat.le_add_right _ _)) left
  | again left polled ih =>
      rename_i now after poll polls wait rest
      have begun_before := begun.trans (Nat.le_add_right now poll.pause)
      exact ih (fun other member => paused other (.tail _ member)) (begun_before.trans (le_pollEnd _ _ _))
        (pollEnd_lt budget begun_before left)

omit budget in
theorem started_le : now ≤ readiness.now := by
  induction polled with
  | spent => exact Nat.le_add_right _ _
  | ended pause readable => exact (Nat.le_add_right _ _).trans (le_pollEnd _ _ _)
  | again left polled ih => exact ((Nat.le_add_right _ _).trans (le_pollEnd _ _ _)).trans ih

/-- Unless a wait ends before its time, the budget is used up. -/
theorem le_now (small : timeoutMs ≤ BaseSock.maxInt) (begun : started ≤ now)
    (none_ends : ∀ poll ∈ polls, ¬ poll.Ends) : started + timeoutMs.toNat * millisecond ≤ readiness.now := by
  induction polled with
  | spent pause still none_left =>
      exact le_of_pollWait_none budget none_left (begun.trans (Nat.le_add_right _ _))
  | ended pause readable still left whole =>
      rename_i now after polls wait
      have begun_before := begun.trans (Nat.le_add_right now pause)
      obtain ⟨positive, -⟩ := pollWait_some budget left
      rw [whole none_ends, pollEnd, if_pos positive.le, Nat.min_self]
      rw [pollWait, if_pos budget] at left
      dsimp only at left
      split at left
      · cases left
      · have all := Option.some.inj left
        simp only [BaseSock.maxInt, millisecond] at *
        omega
  | again left polled ih =>
      rename_i now after poll polls wait rest
      have begun_before := begun.trans (Nat.le_add_right now poll.pause)
      exact ih (begun_before.trans (le_pollEnd _ _ _)) fun other member => none_ends other (.tail _ member)

end Polled

section Budget

variable {budget : Int} (positive : 0 ≤ budget) (closed : Bool) (polls : List Poll) (now : Nat)
include positive

theorem waitReadable_returns : (waitReadable closed budget polls now).readable ≠ none := by
  rw [waitReadable]
  split
  · exact Option.some_ne_none _
  · exact (pollLoop_polled positive now polls).returns

theorem waitReadable_waits :
    ∀ wait ∈ (waitReadable closed budget polls now).waits, 0 < wait ∧ wait ≤ BaseSock.maxInt := by
  rw [waitReadable]
  split
  · simp
  · exact (pollLoop_polled positive now polls).waits_positive positive

theorem waitReadable_lt (paused : ∀ poll ∈ polls, poll.pause = 0) :
    (waitReadable closed budget polls now).now < now + (budget.toNat + 1) * millisecond := by
  have early : now < now + (budget.toNat + 1) * millisecond := by
    simp only [millisecond]
    omega
  rw [waitReadable]
  split
  · exact early
  · exact (pollLoop_polled positive now polls).now_lt positive paused (Nat.le_refl _) early

/-- An open socket is waited for until the budget is used up, unless a wait ends before its time. -/
theorem le_waitReadable_spent (small : budget ≤ BaseSock.maxInt) (none_ends : ∀ poll ∈ polls, ¬ poll.Ends) :
    now + budget.toNat * millisecond ≤ (waitReadable false budget polls now).now :=
  (pollLoop_polled positive now polls).le_now positive small (Nat.le_refl _) none_ends

theorem le_waitReadable : now ≤ (waitReadable closed budget polls now).now := by
  rw [waitReadable]
  split
  · exact Nat.le_refl _
  · exact (pollLoop_polled positive now polls).started_le

end Budget

/-! ## The rounds of `ReceiveBytes` -/

/-- Data, the end of the stream or an error is there. -/
def TimedRound.Shows (round : TimedRound) : Prop :=
  round.canRecv ≠ some 0 ∨ round.peek = .ok 0 ∨ ∃ error, round.peek = .error error ∧ error ≠ wsaeWouldBlock

/-- Only waits take time. What is reported ready is there to be found, and so is what a wait failed with, but
for a number of times; a socket is marked closed only when there is nothing more to wait for. -/
structure Honest (closed : Bool) (rounds : Nat → TimedRound) : Prop where
  paused : ∀ n, ∀ poll ∈ (rounds n).polls, poll.pause = 0
  ready : ∀ n, ∀ poll ∈ (rounds n).polls, (∃ after, poll.answer = .ready after) → (rounds (n + 1)).Shows
  failed : ∃ last, ∀ n, last ≤ n → ∀ poll ∈ (rounds n).polls,
    (∃ after error, poll.answer = .failed after error ∧ error ≠ wsaEIntr) → (rounds (n + 1)).Shows
  shut : closed = true → ∀ n, (rounds n).Shows

section Rounds

variable {maxRecv timeoutMs : Nat} {closed : Bool} {deadline now : Nat} {round : TimedRound}

def Leaves (step : WaitStep) : Prop := step ≠ .paced ∧ step ≠ .parked

theorem waitChecked_goes_on (some_time : timeoutMs ≠ 0) {canRecv : Nat} {expired : Bool}
    (goes_on : ¬ Leaves (AcceptedSocket.waitChecked maxRecv timeoutMs canRecv expired)) :
    expired = false ∧
      (AcceptedSocket.waitChecked maxRecv timeoutMs canRecv expired = .parked → canRecv = 0) := by
  have leaving {step : WaitStep} (left : step ≠ .paced ∧ step ≠ .parked) (goes_on : ¬ Leaves step) : False :=
    goes_on left
  unfold AcceptedSocket.waitChecked at *
  by_cases enough : if maxRecv ≠ 0 then maxRecv ≤ canRecv else 0 < canRecv
  · rw [if_pos enough] at goes_on
    exact (leaving (by simp) goes_on).elim
  rw [if_neg enough] at goes_on ⊢
  by_cases late : timeoutMs ≠ 0 ∧ expired = true
  · rw [if_pos late] at goes_on
    exact (leaving (by simp) goes_on).elim
  rw [if_neg late]
  refine ⟨Bool.eq_false_iff.mpr fun expired => late ⟨some_time, expired⟩, fun parks => ?_⟩
  by_cases some_data : 0 < canRecv
  · rw [if_pos some_data] at parks
    cases parks
  · omega

variable (maxRecv timeoutMs) in
theorem waitRound_checked (round : WaitRound) :
    (∃ closed, AcceptedSocket.waitRound maxRecv timeoutMs round = .gaveUp closed) ∨
    ∃ canRecv, round.canRecv = some canRecv ∧
      (canRecv = 0 → round.peek ≠ .ok 0 ∧ ∀ error, round.peek = .error error → error = wsaeWouldBlock) ∧
      AcceptedSocket.waitRound maxRecv timeoutMs round =
        AcceptedSocket.waitChecked maxRecv timeoutMs canRecv round.expired := by
  unfold AcceptedSocket.waitRound
  split
  · exact .inl ⟨false, rfl⟩
  · exact .inl ⟨true, rfl⟩
  · rename_i error nothing failed
    split
    · rename_i blocked
      refine .inr ⟨0, nothing, fun _ => ⟨by simp [failed], fun other same => ?_⟩, rfl⟩
      rw [failed] at same
      cases same
      exact blocked
    · exact .inl ⟨false, rfl⟩
  · rename_i canRecv counted not_closed not_failed
    refine .inr ⟨canRecv, counted, fun nothing => ?_, rfl⟩
    subst nothing
    exact ⟨fun same => not_closed same rfl, fun error same => (not_failed error same rfl).elim⟩

/-- A round goes on only before the deadline, and waits only where there is nothing to be found. -/
theorem waitRound_goes_on (some_time : timeoutMs ≠ 0) {step : WaitStep}
    (stepped : AcceptedSocket.waitRound maxRecv timeoutMs (round.untimed deadline now) = step)
    (goes_on : ¬ Leaves step) : now < deadline ∧ (step = .parked → ¬ round.Shows) := by
  subst stepped
  rcases waitRound_checked maxRecv timeoutMs (round.untimed deadline now) with
    ⟨closed, gave_up⟩ | ⟨canRecv, counted, nothing, checked⟩
  · rw [gave_up] at goes_on
    exact absurd ⟨by simp, by simp⟩ goes_on
  · rw [checked] at goes_on ⊢
    obtain ⟨early, parks⟩ := waitChecked_goes_on some_time goes_on
    refine ⟨not_le.mp (of_decide_eq_false early), fun parked => ?_⟩
    obtain rfl := parks parked
    obtain ⟨open_still, blocked⟩ := nothing rfl
    rintro (more | ended | ⟨error, failed, other⟩)
    · exact more counted
    · exact open_still ended
    · exact other (blocked error failed)

variable (maxRecv closed deadline now round) in
theorem timedRound_cases (some_time : timeoutMs ≠ 0) :
    Leaves (timedRound maxRecv timeoutMs closed deadline now round).1 ∧
      (timedRound maxRecv timeoutMs closed deadline now round).2 = ⟨some false, [], now⟩ ∨
    now < deadline ∧ timedRound maxRecv timeoutMs closed deadline now round =
      (.paced, ⟨some false, [], now + millisecond⟩) ∨
    now < deadline ∧ ¬ round.Shows ∧ timedRound maxRecv timeoutMs closed deadline now round =
      (.parked, waitReadable closed (parkMs timeoutMs deadline now) round.polls now) := by
  rw [timedRound]
  cases stepped : AcceptedSocket.waitRound maxRecv timeoutMs (round.untimed deadline now) with
  | gaveUp shut => exact .inl ⟨⟨by simp, by simp⟩, rfl⟩
  | ready count => exact .inl ⟨⟨by simp, by simp⟩, rfl⟩
  | paced =>
      have early := (waitRound_goes_on some_time stepped (by simp [Leaves])).1
      exact .inr (.inl ⟨early, rfl⟩)
  | parked =>
      obtain ⟨early, nothing⟩ := waitRound_goes_on some_time stepped (by simp [Leaves])
      exact .inr (.inr ⟨early, nothing rfl, rfl⟩)

theorem parkMs_bounds (some_time : timeoutMs ≠ 0) (small : timeoutMs ≤ BaseSock.maxInt)
    (early : now < deadline) (soon : deadline ≤ now + timeoutMs * millisecond) :
    0 ≤ parkMs timeoutMs deadline now ∧ parkMs timeoutMs deadline now ≤ BaseSock.maxInt ∧
      deadline ≤ now + (parkMs timeoutMs deadline now).toNat * millisecond ∧
      now + (parkMs timeoutMs deadline now).toNat * millisecond < deadline + millisecond := by
  have left : 0 < ((deadline : Int) - now + (millisecond - 1)) / millisecond := by
    simp only [millisecond]
    omega
  rw [parkMs, if_pos some_time]
  dsimp only
  rw [if_pos left]
  simp only [BaseSock.maxInt, millisecond] at *
  omega

end Rounds

section Run

variable {maxRecv timeoutMs : Nat} {closed : Bool} {started : Nat} {rounds : Nat → TimedRound}

theorem nextStart_of_leaves {ended : WaitStep × Readiness} (leaves : Leaves ended.1) :
    nextStart ended = none := by
  obtain ⟨step, wait⟩ := ended
  cases step with
  | gaveUp shut => rfl
  | ready count => rfl
  | paced => exact absurd rfl leaves.1
  | parked => exact absurd rfl leaves.2

theorem nextStart_parked {budget : Int} (positive : 0 ≤ budget) (polls : List Poll) (now : Nat) :
    nextStart (.parked, waitReadable closed budget polls now) =
      some (waitReadable closed budget polls now).now := by
  obtain ⟨readable, returned⟩ :=
    Option.ne_none_iff_exists'.mp (waitReadable_returns positive closed polls now)
  rw [nextStart, returned, Option.map_some]

/-- The loop leaves with a round, or goes on behind it with the deadline ahead. -/
theorem roundStart_succ (some_time : timeoutMs ≠ 0) (small : timeoutMs ≤ BaseSock.maxInt) {n now : Nat}
    (comes : roundStart maxRecv timeoutMs closed started rounds n = some now) (begun : started ≤ now) :
    Leaves (timedRound maxRecv timeoutMs closed (started + timeoutMs * millisecond) now (rounds n)).1 ∨
    now < started + timeoutMs * millisecond ∧
      (roundStart maxRecv timeoutMs closed started rounds (n + 1) = some (now + millisecond) ∨
        ¬ (rounds n).Shows ∧ roundStart maxRecv timeoutMs closed started rounds (n + 1) =
          some (waitReadable closed (parkMs timeoutMs (started + timeoutMs * millisecond) now)
            (rounds n).polls now).now) := by
  rw [roundStart, comes, Option.bind_some]
  rcases timedRound_cases maxRecv closed (started + timeoutMs * millisecond) now (rounds n) some_time with
    ⟨leaves, -⟩ | ⟨early, paced⟩ | ⟨early, nothing, parked⟩
  · exact .inl leaves
  · exact .inr ⟨early, .inl (by rw [paced]; rfl)⟩
  · have budget := parkMs_bounds some_time small early (by omega)
    exact .inr ⟨early, .inr ⟨nothing, by rw [parked, nextStart_parked budget.1]⟩⟩

section Honest

variable (some_time : timeoutMs ≠ 0) (small : timeoutMs ≤ BaseSock.maxInt) (honest : Honest closed rounds)
include some_time small honest

theorem roundStart_bounds {n now : Nat}
    (comes : roundStart maxRecv timeoutMs closed started rounds n = some now) :
    started ≤ now ∧ now < started + (timeoutMs + 2) * millisecond := by
  induction n generalizing now with
  | zero =>
      obtain rfl := Option.some.inj comes
      simp only [millisecond]
      omega
  | succ n ih =>
      cases before : roundStart maxRecv timeoutMs closed started rounds n with
      | none => simp [roundStart, before] at comes
      | some earlier =>
          obtain ⟨begun, -⟩ := ih before
          rcases roundStart_succ some_time small before begun with leaves | ⟨early, slept | ⟨-, waited⟩⟩
          · rw [roundStart, before, Option.bind_some, nextStart_of_leaves leaves] at comes
            cases comes
          · obtain rfl := Option.some.inj (slept.symm.trans comes)
            simp only [millisecond] at early ⊢
            omega
          · obtain rfl := Option.some.inj (waited.symm.trans comes)
            obtain ⟨positive, -, -, reaches⟩ := parkMs_bounds some_time small early (by omega)
            have ends := waitReadable_lt positive closed (rounds n).polls earlier (honest.paused n)
            have later := le_waitReadable positive closed (rounds n).polls earlier
            simp only [millisecond] at early reaches ends later ⊢
            omega

/-- A wait is over with the deadline past, or with something to be found in the next round. -/
theorem waitReadable_shows {n now : Nat} (nothing : ¬ (rounds n).Shows)
    (early : now < started + timeoutMs * millisecond) (begun : started ≤ now)
    (shown : ∀ poll ∈ (rounds n).polls,
      (∃ after error, poll.answer = .failed after error ∧ error ≠ wsaEIntr) → (rounds (n + 1)).Shows) :
    started + timeoutMs * millisecond ≤
      (waitReadable closed (parkMs timeoutMs (started + timeoutMs * millisecond) now)
        (rounds n).polls now).now ∨
    (rounds (n + 1)).Shows := by
  have still_open : closed = false := Bool.eq_false_iff.mpr fun shut => nothing (honest.shut shut n)
  by_cases ends : ∃ poll ∈ (rounds n).polls, poll.Ends
  · obtain ⟨poll, member, ready | failed⟩ := ends
    · exact .inr (honest.ready n poll member ready)
    · exact .inr (shown poll member failed)
  · have none_ends : ∀ poll ∈ (rounds n).polls, ¬ poll.Ends :=
      fun poll member ended => ends ⟨poll, member, ended⟩
    obtain ⟨positive, bounded, reaches, -⟩ := parkMs_bounds some_time small early (by omega)
    rw [still_open]
    exact .inl (reaches.trans (le_waitReadable_spent positive (rounds n).polls now bounded none_ends))

section Never

variable (never : ∀ n now, roundStart maxRecv timeoutMs closed started rounds n = some now →
  ¬ Leaves (timedRound maxRecv timeoutMs closed (started + timeoutMs * millisecond) now (rounds n)).1)
include never

/-- Two rounds take a millisecond, once every failure of a wait shows. -/
theorem roundStart_advances {n now : Nat}
    (comes : roundStart maxRecv timeoutMs closed started rounds n = some now)
    (shown : ∀ poll ∈ (rounds n).polls,
      (∃ after error, poll.answer = .failed after error ∧ error ≠ wsaEIntr) → (rounds (n + 1)).Shows) :
    ∃ later, roundStart maxRecv timeoutMs closed started rounds (n + 2) = some later ∧
      now + millisecond ≤ later := by
  have goes_on {m time : Nat} (comes : roundStart maxRecv timeoutMs closed started rounds m = some time) :=
    (roundStart_succ some_time small comes (roundStart_bounds some_time small honest comes).1).resolve_left
      (never m time comes)
  have begun := (roundStart_bounds some_time small honest comes).1
  obtain ⟨early, slept | ⟨nothing, waited⟩⟩ := goes_on comes
  · obtain ⟨early_next, slept_next | ⟨-, waited_next⟩⟩ := goes_on slept
    · exact ⟨_, slept_next, Nat.le_add_right _ _⟩
    · obtain ⟨positive, -⟩ := parkMs_bounds some_time small early_next (by omega)
      exact ⟨_, waited_next, le_waitReadable positive closed _ _⟩
  · obtain ⟨positive, -⟩ := parkMs_bounds some_time small early (by omega)
    have later := le_waitReadable positive closed (rounds n).polls now
    obtain ⟨early_next, slept_next | ⟨nothing_next, -⟩⟩ := goes_on waited
    · exact ⟨_, slept_next, Nat.add_le_add_right later _⟩
    · rcases waitReadable_shows some_time small honest nothing early begun shown with late | shows
      · exact absurd early_next (not_lt.mpr late)
      · exact absurd shows nothing_next

theorem roundStart_far {last : Nat} (shown : ∀ n, last ≤ n → ∀ poll ∈ (rounds n).polls,
      (∃ after error, poll.answer = .failed after error ∧ error ≠ wsaEIntr) → (rounds (n + 1)).Shows)
    (k : Nat) : ∃ now, roundStart maxRecv timeoutMs closed started rounds (last + 2 * k) = some now ∧
      started + k * millisecond ≤ now := by
  have reached (n : Nat) : ∃ now, roundStart maxRecv timeoutMs closed started rounds n = some now := by
    induction n with
    | zero => exact ⟨started, rfl⟩
    | succ n ih =>
        obtain ⟨now, comes⟩ := ih
        rcases roundStart_succ some_time small comes (roundStart_bounds some_time small honest comes).1 with
          leaves | ⟨-, slept | ⟨-, waited⟩⟩
        · exact absurd leaves (never n now comes)
        · exact ⟨_, slept⟩
        · exact ⟨_, waited⟩
  induction k with
  | zero =>
      obtain ⟨now, comes⟩ := reached last
      refine ⟨now, comes, ?_⟩
      rw [Nat.zero_mul]
      exact (roundStart_bounds some_time small honest comes).1
  | succ k ih =>
      obtain ⟨now, comes, far⟩ := ih
      obtain ⟨later, further, advanced⟩ := roundStart_advances some_time small honest never comes
        (shown _ (Nat.le_add_right _ _))
      refine ⟨later, further, ?_⟩
      rw [Nat.succ_mul]
      omega

end Never

variable (maxRecv started) in
theorem exists_leaves : ∃ n now, roundStart maxRecv timeoutMs closed started rounds n = some now ∧
    Leaves (timedRound maxRecv timeoutMs closed (started + timeoutMs * millisecond) now (rounds n)).1 := by
  by_contra none_leaves
  have never (n now : Nat) (comes : roundStart maxRecv timeoutMs closed started rounds n = some now) :
      ¬ Leaves (timedRound maxRecv timeoutMs closed (started + timeoutMs * millisecond) now (rounds n)).1 :=
    fun leaves => none_leaves ⟨n, now, comes, leaves⟩
  obtain ⟨last, shown⟩ := honest.failed
  obtain ⟨now, comes, far⟩ := roundStart_far some_time small honest never shown timeoutMs
  rcases roundStart_succ some_time small comes (roundStart_bounds some_time small honest comes).1 with
    leaves | ⟨early, -⟩
  · exact never _ now comes leaves
  · exact absurd early (not_lt.mpr far)

end Honest

/-! ## The same loop without the clock -/

variable (maxRecv timeoutMs closed) in
theorem timedRound_step (deadline now : Nat) (round : TimedRound) :
    (timedRound maxRecv timeoutMs closed deadline now round).1 =
      AcceptedSocket.waitRound maxRecv timeoutMs (round.untimed deadline now) := by
  rw [timedRound]
  cases AcceptedSocket.waitRound maxRecv timeoutMs (round.untimed deadline now) <;> rfl

theorem waitLoop_passes {n now : Nat}
    (comes : roundStart maxRecv timeoutMs closed started rounds n = some now) :
    ∃ passed : List WaitRound, passed.length = n ∧ ∀ rest,
      AcceptedSocket.waitLoop maxRecv timeoutMs (passed ++ rest) =
        AcceptedSocket.waitLoop maxRecv timeoutMs rest := by
  induction n generalizing now with
  | zero => exact ⟨[], rfl, fun rest => rfl⟩
  | succ n ih =>
      cases before : roundStart maxRecv timeoutMs closed started rounds n with
      | none => simp [roundStart, before] at comes
      | some earlier =>
          obtain ⟨passed, length, passes⟩ := ih before
          refine ⟨passed ++ [(rounds n).untimed (started + timeoutMs * millisecond) earlier],
            by simp [length], fun rest => ?_⟩
          rw [List.append_assoc, passes, List.singleton_append, AcceptedSocket.waitLoop]
          rw [roundStart, before, Option.bind_some] at comes
          have step := timedRound_step maxRecv timeoutMs closed
            (started + timeoutMs * millisecond) earlier (rounds n)
          have goes_on (leaves : Leaves (timedRound maxRecv timeoutMs closed
              (started + timeoutMs * millisecond) earlier (rounds n)).1) : False := by
            rw [nextStart_of_leaves leaves] at comes
            cases comes
          rw [step] at goes_on
          generalize AcceptedSocket.waitRound maxRecv timeoutMs _ = step at goes_on ⊢
          cases step with
          | gaveUp shut => exact (goes_on ⟨by simp, by simp⟩).elim
          | ready count => exact (goes_on ⟨by simp, by simp⟩).elim
          | paced => rfl
          | parked => rfl

/-- `ReceiveBytes` returns, with the rounds that the clock made of what Winsock answered. -/
theorem receiveBytes_returns (some_time : timeoutMs ≠ 0) (small : timeoutMs ≤ BaseSock.maxInt)
    (honest : Honest closed rounds) (maxRecv started : Nat) :
    ∃ waits : List WaitRound, ∀ s : AcceptedSocket, s.waits = waits →
      (s.receiveBytes maxRecv timeoutMs).1 ≠ none := by
  obtain ⟨n, now, comes, leaves⟩ := exists_leaves maxRecv started some_time small honest
  obtain ⟨passed, -, passes⟩ := waitLoop_passes comes
  refine ⟨passed ++ [(rounds n).untimed (started + timeoutMs * millisecond) now], fun s given => ?_⟩
  rw [timedRound_step] at leaves
  rw [AcceptedSocket.receiveBytes, given, passes, AcceptedSocket.waitLoop]
  generalize AcceptedSocket.waitRound maxRecv timeoutMs _ = step at leaves ⊢
  cases step with
  | gaveUp shut => exact Option.some_ne_none _
  | ready count => exact Option.some_ne_none _
  | paced => exact absurd rfl leaves.1
  | parked => exact absurd rfl leaves.2

end Run

/-- Every wait of a `WaitReadable` with a budget has an end, and it returns in less than a millisecond more;
a `ReceiveBytes` with a timeout waits so each time, and leaves its loop in less than two. -/
theorem waits_end :
    (∀ (closed : Bool) (timeoutMs : Int) (polls : List Poll) (started : Nat), 0 ≤ timeoutMs →
      (∀ wait ∈ (waitReadable closed timeoutMs polls started).waits, 0 < wait ∧ wait ≤ BaseSock.maxInt) ∧
      (waitReadable closed timeoutMs polls started).readable ≠ none ∧
      ((∀ poll ∈ polls, poll.pause = 0) → (waitReadable closed timeoutMs polls started).now <
        started + (timeoutMs.toNat + 1) * millisecond)) ∧
    ∀ (maxRecv timeoutMs : Nat) (closed : Bool) (started : Nat) (rounds : Nat → TimedRound),
      1 ≤ timeoutMs → timeoutMs ≤ BaseSock.maxInt → Honest closed rounds →
      (∀ n now, roundStart maxRecv timeoutMs closed started rounds n = some now →
        ∀ wait ∈ (timedRound maxRecv timeoutMs closed (started + timeoutMs * millisecond) now
          (rounds n)).2.waits, 0 < wait ∧ wait ≤ BaseSock.maxInt) ∧
      ∃ n now, roundStart maxRecv timeoutMs closed started rounds n = some now ∧
        Leaves (timedRound maxRecv timeoutMs closed (started + timeoutMs * millisecond) now (rounds n)).1 ∧
        now < started + (timeoutMs + 2) * millisecond := by
  constructor
  · intro closed timeoutMs polls started budget
    exact ⟨waitReadable_waits budget closed polls started, waitReadable_returns budget closed polls started,
      waitReadable_lt budget closed polls started⟩
  · intro maxRecv timeoutMs closed started rounds some_ms small honest
    have some_time : timeoutMs ≠ 0 := by omega
    constructor
    · intro n now comes
      have begun := (roundStart_bounds some_time small honest comes).1
      rcases timedRound_cases maxRecv closed (started + timeoutMs * millisecond) now (rounds n) some_time with
        ⟨-, left⟩ | ⟨-, paced⟩ | ⟨early, -, parked⟩
      · rw [left]
        simp
      · rw [paced]
        simp
      · rw [parked]
        obtain ⟨positive, -⟩ := parkMs_bounds some_time small early (by omega)
        exact waitReadable_waits positive closed (rounds n).polls now
    · obtain ⟨n, now, comes, leaves⟩ := exists_leaves maxRecv started some_time small honest
      exact ⟨n, now, comes, leaves, (roundStart_bounds some_time small honest comes).2⟩

/-- A peer that sends nothing, and two waits that are interrupted. -/
theorem waits_end_silent :
    (waitReadable false 5 [⟨0, .failed 1500000 wsaEIntr⟩, ⟨0, .failed 0 wsaEIntr⟩] 7).now <
      7 + (5 + 1) * millisecond ∧
    ∃ n now, roundStart 3 5 false 7 (fun _ => ⟨some 0, .error wsaeWouldBlock, []⟩) n = some now ∧
      Leaves (timedRound 3 5 false (7 + 5 * millisecond) now ⟨some 0, .error wsaeWouldBlock, []⟩).1 ∧
      now < 7 + (5 + 2) * millisecond := by
  constructor
  · apply (waits_end.1 false 5 [⟨0, .failed 1500000 wsaEIntr⟩, ⟨0, .failed 0 wsaEIntr⟩] 7 (by decide)).2.2
    simp
  · apply (waits_end.2 3 5 false 7 (fun _ => ⟨some 0, .error wsaeWouldBlock, []⟩) (by decide) (by decide) ?_).2
    exact ⟨by simp, by simp, ⟨0, by simp⟩, by simp⟩

end LuaXENetwork
