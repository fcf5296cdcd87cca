import LuaXENetwork.Library.History
import LuaXENetwork.Connection
import Mathlib.Data.List.Basic

/-! How often `AsyncConnection` sends its request, and when `Poll` says that the response is there. -/

namespace LuaXENetwork.AsyncConnection
open Library

variable {c : AsyncConnection} {answers : PollAnswers}

theorem start_calls (c : AsyncConnection) (request : Bytes) (error : Option Nat) :
    (c.start request error).calls = c.calls := by
  rw [start]
  split
  · rfl
  · dsimp only
    split <;> rfl

def called (c : AsyncConnection) (call : IoCall) : AsyncConnection := { c with calls := c.calls ++ [call] }

/-- `Recv` gets as far as asking for the result of a receive that was posted. -/
def Posted (answers : PollAnswers) : Prop :=
  (answers.select = none ∨ answers.select = some wsaeWouldBlock) ∧
    answers.readable = true ∧ issued answers.recv = true

/-- A receive that is posted is complete, or has failed, when its result is asked for. -/
def Answered (answers : PollAnswers) : Prop := Posted answers → answers.received ≠ .error wsaIoIncomplete

inductive Received (c : AsyncConnection) (answers : PollAnswers) : Bool × AsyncConnection → Prop
  | nothing (answered : Answered answers) : Received c answers (false, c)
  | failed (answered : Answered answers) (error : Nat) (settled : error ≠ wsaIoIncomplete) :
      Received c answers (false, c.called (.recv (.error error)))
  | pending (late : ¬ Answered answers) :
      Received c answers (true, c.called (.recv (.error wsaIoIncomplete)))
  | closed (answered : Answered answers) : Received c answers (true, c.called (.recv (.ok [])))
  | data (answered : Answered answers) (data : Bytes) (some_bytes : data ≠ []) :
      Received c answers (false, { c.called (.recv (.ok data)) with response := c.response ++ data })

theorem recv_received (c : AsyncConnection) (answers : PollAnswers) :
    Received c answers (c.recv answers) := by
  rw [recv]
  split
  · rename_i failed
    exact .nothing fun posted => absurd posted.1 (not_or.mpr failed)
  rename_i selected
  split
  · rename_i unreadable
    exact .nothing fun posted => by simp [posted.2.1] at unreadable
  rename_i readable
  split
  · rename_i unissued
    exact .nothing fun posted => by simp [posted.2.2] at unissued
  rename_i issued
  cases result : answers.received with
  | error error =>
      by_cases pending : error = wsaIoIncomplete
      · subst pending
        have posted : Posted answers :=
          ⟨by tauto, by simpa using readable, by simpa using issued⟩
        exact .pending fun answered => answered posted result
      · simp only [overlapped, if_neg pending]
        exact .failed (fun _ => by simpa [result] using pending) error pending
  | ok data =>
      have answered : Answered answers := fun _ => by simp [result]
      simp only [overlapped]
      split
      · rename_i none_left
        subst none_left
        exact .closed answered
      · exact .data answered data ‹_›

inductive Sent (c : AsyncConnection) : Bool × AsyncConnection → Prop
  | nothing (empty : c.request = []) : Sent c (false, c)
  | handed (asked : c.request ≠ []) (complete : Bool) (data : Bytes) : Sent c (complete, c.called (.send data))

theorem send_sent (c : AsyncConnection) (answers : PollAnswers) : Sent c (c.send answers) := by
  rw [send]
  split
  · exact .nothing ‹_›
  · rename_i asked
    dsimp only
    split
    · exact .handed asked ..
    · split
      · exact .handed asked ..
      · exact .handed asked ..

/-! ## How often the request is sent -/

/-- The send is seen complete by the `Poll` that issues it. -/
def SeenComplete (answers : PollAnswers) : Prop :=
  issued answers.send = true ∧ ∃ count, answers.sent = .ok (count + 1)

theorem send_complete (asked : c.request ≠ []) (complete : SeenComplete answers) :
    (c.send answers).1 = true := by
  obtain ⟨issued, count, written⟩ := complete
  simp [send, asked, issued, written, overlapped]

def periods (c : AsyncConnection) (now : Nat) : Nat := (now - c.startTime) / 30000

/-- The connection between two calls of `Poll`, the time of the last one, and since when its attempt
goes on: since it was created, or since the attempt before was given up. -/
structure Attempt where
  connection : AsyncConnection
  now : Nat
  began : Nat

namespace Attempt

def leave (s : Attempt) (answers : PollAnswers) (later : AsyncConnection) : Attempt where
  connection := later
  now := answers.clock
  began := if s.connection.connectionState ≠ 0 ∧ later.connectionState = 0 then answers.clock else s.began

def poll (s : Attempt) (answers : PollAnswers) : Attempt := s.leave answers (s.connection.poll answers).2

variable {s : Attempt} {later : AsyncConnection}

theorem leave_idle (answers : PollAnswers) (idle : s.connection.connectionState = 0) :
    s.leave answers later = ⟨later, answers.clock, s.began⟩ := by simp [leave, idle]

theorem leave_open (answers : PollAnswers) (goes_on : later.connectionState ≠ 0) :
    s.leave answers later = ⟨later, answers.clock, s.began⟩ := by simp [leave, goes_on]

theorem leave_given_up (answers : PollAnswers) (busy : s.connection.connectionState ≠ 0)
    (given_up : later.connectionState = 0) :
    s.leave answers later = ⟨later, answers.clock, answers.clock⟩ := by simp [leave, busy, given_up]

end Attempt

/-- This `Poll` is past the deadline of the connection, and gives its attempt up. -/
def GivesUp (c : AsyncConnection) (answers : PollAnswers) : Prop :=
  c.valid = true ∧ (c.connectionState = 2 ∨ c.connectionState = 1 ∧ (c.send answers).1 = true) ∧
    sizeT (c.startTime + 30000) < answers.clock

/-- A send is seen complete at once, and only an attempt that has had its 30 seconds is given up. -/
structure Timely (s : Attempt) (answers : PollAnswers) : Prop where
  forward : s.now ≤ answers.clock
  complete : s.connection.connectionState = 1 → s.connection.request ≠ [] → SeenComplete answers
  patient : GivesUp s.connection answers → s.began + 30000 ≤ answers.clock

/-- Every attempt that was given up has had a period of its own. -/
structure Paced (startTime : Nat) (s : Attempt) : Prop where
  created : s.connection.startTime = startTime
  opened : startTime ≤ s.began
  began : s.began ≤ s.now
  sends : s.connection.sends ≤ 1 + s.connection.periods s.began
  before : s.connection.connectionState < 2 → s.connection.sends ≤ s.connection.periods s.began

theorem periods_mono (c : AsyncConnection) {now later : Nat} (forward : now ≤ later) :
    c.periods now ≤ c.periods later := Nat.div_le_div_right (Nat.sub_le_sub_right forward _)

theorem periods_succ (c : AsyncConnection) {began now : Nat} (created : c.startTime ≤ began)
    (patient : began + 30000 ≤ now) : 1 + c.periods began ≤ c.periods now := by
  rw [periods, periods]
  omega

theorem sends_called_recv (c : AsyncConnection) (result : Except Nat Bytes) :
    (c.called (.recv result)).sends = c.sends := by simp [sends, called]

theorem sends_called_send (c : AsyncConnection) (data : Bytes) :
    (c.called (.send data)).sends = c.sends + 1 := by simp [sends, called]

theorem pollReply_paced {startTime : Nat} {s : Attempt} (paced : Paced startTime s)
    (forward : s.now ≤ answers.clock) (busy : s.connection.connectionState ≠ 0)
    (created : c.startTime = startTime) (waiting : c.connectionState = 2)
    (few : c.sends ≤ 1 + c.periods s.began)
    (patient : sizeT (c.startTime + 30000) < answers.clock → s.began + 30000 ≤ answers.clock) :
    Paced startTime (s.leave answers (c.pollReply answers).2) := by
  have began : s.began ≤ answers.clock := paced.began.trans forward
  have later {c' : AsyncConnection} (same : c'.startTime = c.startTime) (state : 2 ≤ c'.connectionState)
      (sent : c'.sends = c.sends) : Paced startTime (s.leave answers c') := by
    rw [Attempt.leave_open answers (by omega)]
    refine ⟨same.trans created, paced.opened, began, ?_, fun early => absurd state (not_le.mpr early)⟩
    dsimp only
    rw [sent, periods, same]
    exact few
  rw [pollReply]
  by_cases late : sizeT (c.startTime + 30000) < answers.clock
  · rw [if_pos late, Attempt.leave_given_up answers busy rfl]
    have enough : c.sends ≤ c.periods answers.clock :=
      few.trans (periods_succ c (created ▸ paced.opened) (patient late))
    exact ⟨created, paced.opened.trans began, le_rfl, enough.trans (Nat.le_add_left _ _), fun _ => enough⟩
  · rw [if_neg late]
    have received := recv_received c answers
    generalize c.recv answers = result at received ⊢
    cases received with
    | nothing answered => exact later rfl waiting.ge rfl
    | failed answered error settled => exact later rfl waiting.ge (sends_called_recv ..)
    | pending late => exact later rfl (by simp) (sends_called_recv ..)
    | closed answered => exact later rfl (by simp) (sends_called_recv ..)
    | data answered data some_bytes => exact later rfl waiting.ge (sends_called_recv c (.ok data))

theorem start_startTime (c : AsyncConnection) (request : Bytes) (error : Option Nat) :
    (c.start request error).startTime = c.startTime := by
  rw [start]
  split
  · rfl
  · dsimp only
    split <;> rfl

theorem start_paced {startTime began now : Nat} (created : c.startTime = startTime)
    (opened : startTime ≤ began) (forward : began ≤ now) (few : c.sends ≤ c.periods began)
    (request : Bytes) (error : Option Nat) : Paced startTime ⟨c.start request error, now, began⟩ := by
  have same : (c.start request error).sends = c.sends := by rw [sends, start_calls, sends]
  have bound : (c.start request error).sends ≤ (c.start request error).periods began := by
    rw [same, periods, start_startTime]
    exact few
  exact ⟨(start_startTime ..).trans created, opened, forward, bound.trans (Nat.le_add_left _ _), fun _ => bound⟩

theorem poll_paced {startTime : Nat} {s : Attempt} (paced : Paced startTime s)
    (timely : Timely s answers) : Paced startTime (s.poll answers) := by
  obtain ⟨c, now, began⟩ := s
  have forward : now ≤ answers.clock := timely.forward
  have waited : Paced startTime ⟨c, answers.clock, began⟩ :=
    ⟨paced.created, paced.opened, paced.began.trans forward, paced.sends, paced.before⟩
  rw [Attempt.poll, AsyncConnection.poll]
  dsimp only
  split
  · by_cases idle : c.connectionState = 0
    · rwa [Attempt.leave_idle answers idle]
    · rwa [Attempt.leave_open answers idle]
  rename_i unclosed
  have valid : c.valid = true := by simpa using unclosed
  split
  · rename_i idle
    have unsent : c.connectionState < 2 := by omega
    rw [Attempt.leave_idle answers idle]
    exact start_paced paced.created paced.opened (paced.began.trans forward) (paced.before unsent) c.request
      answers.connect
  split
  · rename_i connected
    have unsent : c.connectionState < 2 := by omega
    have sent := send_sent c answers
    have complete := fun asked => send_complete (c := c) asked (timely.complete connected asked)
    have patient := fun late complete => timely.patient ⟨valid, .inr ⟨connected, complete⟩, late⟩
    generalize c.send answers = result at sent complete patient ⊢
    cases sent with
    | nothing empty =>
        rwa [Attempt.leave_open answers (by omega : c.connectionState ≠ 0)]
    | handed asked seen data =>
        obtain rfl : seen = true := complete asked
        have busy : c.connectionState ≠ 0 := by omega
        refine pollReply_paced (c := { c.called (.send data) with connectionState := 2 }) paced forward busy
          paced.created rfl ?_ fun late => patient late rfl
        refine (sends_called_send c data).le.trans ?_
        rw [Nat.add_comm]
        exact Nat.add_le_add_left (paced.before unsent) 1
  split
  · rename_i waiting
    exact pollReply_paced paced forward (by omega) paced.created waiting paced.sends
      fun late => timely.patient ⟨valid, .inl waiting, late⟩
  · rename_i idle _ _
    rwa [Attempt.leave_open answers idle]

theorem run_eq_poll (s : Attempt) (polls : List PollAnswers) :
    s.connection.run polls = (polls.foldl Attempt.poll s).connection := by
  induction polls generalizing s with
  | nil => rfl
  | cons answers polls ih => exact ih (s.poll answers)

def Attempt.create (valid : Bool) (startTime : Nat) (request : Bytes) (error : Option Nat) : Attempt where
  connection := AsyncConnection.create valid startTime request error
  now := startTime
  began := startTime

/-- The calls of `WSASend`, against the periods of 30 seconds that have passed. -/
theorem sends_le_periods (valid : Bool) (startTime : Nat) (request : Bytes) (error : Option Nat)
    (polls : List PollAnswers) (last : PollAnswers)
    (timely : Along Attempt.poll Timely (.create valid startTime request error) (polls ++ [last])) :
    ((create valid startTime request error).run (polls ++ [last])).sends ≤
      1 + (last.clock - startTime) / 30000 := by
  have fresh : Paced startTime (.create valid startTime request error) :=
    start_paced (c := { valid := valid, startTime := startTime }) rfl le_rfl le_rfl (Nat.zero_le _) request error
  have paced := timely.invariant fresh fun _ _ paced timely => poll_paced paced timely
  have at_last : ((polls ++ [last]).foldl Attempt.poll (.create valid startTime request error)).now =
      last.clock := by simp [Attempt.poll, Attempt.leave]
  have few := paced.sends.trans (Nat.add_le_add_left (periods_mono _ paced.began) 1)
  rwa [periods, paced.created, at_last, ← run_eq_poll] at few

/-- A `Poll` whose send is complete at once, while the connection has nothing to read. -/
def sentAt (clock : Nat) : PollAnswers where
  clock := clock
  connect := some wsaeIsConn
  sent := .ok 1
  readable := false

theorem sends_le_periods_two :
    ((create true 0 [1] (some wsaeIsConn)).run ([sentAt 5] ++ [sentAt 30001])).sends ≤
      1 + ((sentAt 30001).clock - 0) / 30000 := by
  refine sends_le_periods true 0 [1] (some wsaeIsConn) [sentAt 5] (sentAt 30001) ⟨?_, ?_, trivial⟩
  · exact ⟨by decide, fun _ _ => ⟨rfl, 0, rfl⟩, fun given_up => absurd given_up.2.2 (by decide)⟩
  · exact ⟨by decide, fun _ _ => ⟨rfl, 0, rfl⟩, fun _ => by decide⟩

/-- A send that is complete only after its `Poll`; and sends on, once the deadline has passed. -/
theorem sends_exceed_periods :
    ((create true 0 [1] (some wsaeIsConn)).run [{ clock := 1 }, { clock := 2 }]).sends >
      1 + (2 - 0) / 30000 ∧
    ((create true 0 [1] (some wsaeIsConn)).run ([5, 30001, 30002, 30003, 30004, 30005].map sentAt)).sends >
      1 + (30005 - 0) / 30000 := by decide

/-! ## When the response is there -/

/-- The peer has closed the connection, and nothing that was received is missing. -/
structure Orderly (c : AsyncConnection) : Prop where
  closed : .recv (.ok []) ∈ c.calls
  response : c.response = c.completed

structure Reading (c : AsyncConnection) : Prop where
  state : c.connectionState < 3
  response : c.response = c.completed
  calls : .recv (.ok []) ∉ c.calls

/-- This `Poll` gets to `Recv`. -/
def Receives (c : AsyncConnection) (answers : PollAnswers) : Prop :=
  c.valid = true ∧ (c.connectionState = 2 ∨ c.connectionState = 1 ∧ (c.send answers).1 = true) ∧
    ¬ sizeT (c.startTime + 30000) < answers.clock

/-- The receive that this `Poll` posts, if it does, is not left incomplete. -/
def Prompt (c : AsyncConnection) (answers : PollAnswers) : Prop := Receives c answers → Answered answers

def PollEnds (prompt : Prop) : Bool × AsyncConnection → Prop
  | (false, c) => prompt ∧ Reading c
  | (true, c) => 3 ≤ c.connectionState ∧ (Orderly c ↔ prompt)

theorem completed_called (c : AsyncConnection) (call : IoCall) :
    (c.called call).completed = c.completed ++ completed { calls := [call] } := by
  simp [completed, called]

theorem Reading.called (reading : Reading c) {call : IoCall} (goes_on : call ≠ .recv (.ok []))
    {response : Bytes} (kept : response = c.response ++ completed { calls := [call] }) :
    Reading { c.called call with response := response } where
  state := reading.state
  response := by
    rw [kept, reading.response]
    exact (completed_called c call).symm
  calls member := by
    rcases List.mem_append.mp member with before | now
    · exact reading.calls before
    · exact goes_on (List.mem_singleton.mp now).symm

theorem Reading.closed (reading : Reading c) :
    Orderly { c.called (.recv (.ok [])) with connectionState := 3 } where
  closed := List.mem_append_right _ (List.mem_singleton_self _)
  response := by
    have same := completed_called c (.recv (.ok []))
    exact reading.response.trans (same.trans (List.append_nil _)).symm

theorem PollEnds.congr {prompt prompt' : Prop} {result : Bool × AsyncConnection} (same : prompt ↔ prompt')
    (ends : PollEnds prompt result) : PollEnds prompt' result := propext same ▸ ends

end LuaXENetwork.AsyncConnection
