import LuaXENetwork.Library.Except
import LuaXENetwork.Proof.Dial.Transcript
import LuaXENetwork.Request.Timeouts

/-! The seconds that a timeout of the option table comes to. -/

namespace LuaXENetwork
open Library Dialing

/-! ## The table -/

inductive TimeoutOption where
  | connect
  | send
  | receive

/-- The number under a name, as a string or not. -/
def HoldsInteger (lua : LuaLibrary) (table : LuaValue) (name : String) (v : Int) : Prop :=
  (table.getField name).number? lua = some (.finite v)

namespace TimeoutOption

/-- The table gives the option a value. Two later names of the receive timeout would override it. -/
def Given (lua : LuaLibrary) (table : LuaValue) (v : Int) : TimeoutOption → Prop
  | connect => HoldsInteger lua table "connect_timeout_ms" v
  | send => HoldsInteger lua table "send_timeout_ms" v
  | receive => HoldsInteger lua table "receive_timeout_ms" v ∧
      (table.getField "read_timeout_ms").isNumber lua = false ∧
      (table.getField "timeout_ms").isNumber lua = false

def milliseconds (options : HttpRequestOptions) : TimeoutOption → Int
  | connect => options.connectTimeoutMs
  | send => options.sendTimeoutMs
  | receive => options.receiveTimeoutMs

end TimeoutOption

/-- A Lua integer as `ReadRequestOptions` leaves it. -/
def narrowedMs (v : Int) : Int := max 1000 (toInt32 (LuaNumber.finite v).toInteger)

section Table

variable {lua : LuaLibrary} {table : LuaValue} {name : String}

theorem requestInteger_holds {v : Int} (holds : HoldsInteger lua table name v) (fallback : Int) :
    requestInteger lua table name fallback = (LuaNumber.finite v).toInteger := by
  unfold HoldsInteger at holds
  simp [requestInteger, LuaValue.isNumber, LuaValue.toInteger, holds]

theorem requestInteger_fallback (absent : (table.getField name).isNumber lua = false)
    (fallback : Int) : requestInteger lua table name fallback = fallback := by
  simp [requestInteger, absent]

theorem toInt32_toInt32 (n : Int) : toInt32 (toInt32 n) = toInt32 n := by
  unfold toInt32
  omega

theorem milliseconds_given {options : HttpRequestOptions} {v : Int} {which : TimeoutOption}
    (given : which.Given lua table v)
    (connect : options.connectTimeoutMs =
      max 1000 (toInt32 (requestInteger lua table "connect_timeout_ms" 30000)))
    (send : options.sendTimeoutMs =
      max 1000 (toInt32 (requestInteger lua table "send_timeout_ms" 60000)))
    (receive : options.receiveTimeoutMs =
      max 1000 (toInt32 (requestInteger lua table "timeout_ms" (toInt32 (requestInteger lua table
        "read_timeout_ms" (toInt32 (requestInteger lua table "receive_timeout_ms" 300000))))))) :
    which.milliseconds options = narrowedMs v := by
  cases which with
  | connect => rw [TimeoutOption.milliseconds, connect, requestInteger_holds given, narrowedMs]
  | send => rw [TimeoutOption.milliseconds, send, requestInteger_holds given, narrowedMs]
  | receive =>
      obtain ⟨holds, read, timeout⟩ := given
      rw [TimeoutOption.milliseconds, receive, requestInteger_fallback timeout,
        requestInteger_fallback read, toInt32_toInt32, toInt32_toInt32, requestInteger_holds holds,
        narrowedMs]

theorem readRequestOptions_milliseconds {platform : Platform} {index : Nat}
    {options : HttpRequestOptions} {v : Int} {which : TimeoutOption} (some_table : index ≠ 0)
    (isTable : table.isTable = true) (given : which.Given lua table v)
    (read : readRequestOptions lua platform index table = .ok options) :
    which.milliseconds options = narrowedMs v := by
  unfold readRequestOptions at read
  rw [if_neg (by simp [some_table, isTable])] at read
  simp only at read
  by_cases none : requestString lua table "proxy" = []
  · simp only [none, if_true, pure_bind, pure_eq_ok] at read
    subst read
    exact milliseconds_given given rfl rfl rfl
  · simp only [if_neg none, bind_eq_ok, map_eq_ok, pure_eq_ok] at read
    obtain ⟨proxy, -, rfl⟩ := read
    exact milliseconds_given given rfl rfl rfl

end Table

/-! ## The socket -/

theorem timeoutSeconds_eq (milliseconds : Int) : timeoutSeconds milliseconds = seconds milliseconds := rfl

/-- Both of `Dial`'s uses of its timeouts are `StepBudget::Arm`. -/
theorem dial_eq (platform : Platform) (options : DialOptions) (answers : TlsAnswers) :
    dial platform options answers = (do
      let started ← clock
      arm options started
      reach platform options started
      if !options.ssl then return { secure := false }
      else secureConnection platform options answers started) := by
  simp only [dial, arm, bind_assoc]

namespace TimeoutOption

/-- The seconds that the socket is given for the option, whenever it is. -/
def Hands (options : HttpRequestOptions) (seconds : Nat) : TimeoutOption → Prop
  | connect => ∀ host port started w,
      let armed := (arm (dialOptions host port options) started).run w
      armed.1 = .ok () ∧ armed.2.socket.sendTimeoutSeconds = seconds ∧
        armed.2.socket.recvTimeoutSeconds = seconds
  | send => ∀ elapsedMs s, ∃ armed, armSend options elapsedMs s = .ok armed ∧
      armed.sendTimeoutSeconds = seconds
  | receive => ∀ elapsedMs s, ∃ armed, armReceive options elapsedMs s = .ok armed ∧
      armed.recvTimeoutSeconds = seconds

theorem hands_iff {options : HttpRequestOptions} (unlimited : options.totalTimeoutMs = 0) (n : Nat)
    (which : TimeoutOption) :
    which.Hands options n ↔ (n : Int) = seconds (which.milliseconds options) := by
  have positive (ms : Int) : 0 < seconds ms := by
    rw [seconds]
    omega
  have whole (ms : Int) (current : Nat) : (BaseSock.newTimeout current (seconds ms) : Int) = seconds ms := by
    rw [newTimeout_seconds current (positive ms), Int.toNat_of_nonneg (positive ms).le]
  have bounded (configured elapsedMs : Int) :
      boundedTimeout options configured elapsedMs = .ok configured := by
    rw [boundedTimeout, if_pos (by omega)]
  cases which with
  | connect =>
      have armed (host : WString) (port : Int) (started : Nat) :
          arm (dialOptions host port options) started = setTimeouts (seconds options.connectTimeoutMs) := by
        simp [arm, remaining, dialOptions, unlimited]
      constructor
      · intro hands
        have sends := (hands [] 0 0 { socket := {} }).2.1
        rw [armed] at sends
        exact sends ▸ whole options.connectTimeoutMs _
      · intro same host port started w
        rw [armed]
        refine ⟨rfl, ?_, ?_⟩
        · exact Int.ofNat_inj.mp ((whole options.connectTimeoutMs _).trans same.symm)
        · exact Int.ofNat_inj.mp ((whole options.connectTimeoutMs _).trans same.symm)
  | send =>
      constructor
      · intro hands
        obtain ⟨armed, arms, sends⟩ := hands 0 {}
        rw [armSend, bounded] at arms
        obtain rfl := Except.ok.inj arms
        exact sends ▸ whole options.sendTimeoutMs _
      · intro same elapsedMs s
        refine ⟨_, by rw [armSend, bounded]; rfl, ?_⟩
        exact Int.ofNat_inj.mp ((whole options.sendTimeoutMs _).trans same.symm)
  | receive =>
      constructor
      · intro hands
        obtain ⟨armed, arms, receives⟩ := hands 0 {}
        rw [armReceive, bounded] at arms
        obtain rfl := Except.ok.inj arms
        exact receives ▸ whole options.receiveTimeoutMs _
      · intro same elapsedMs s
        refine ⟨_, by rw [armReceive, bounded]; rfl, ?_⟩
        exact Int.ofNat_inj.mp ((whole options.receiveTimeoutMs _).trans same.symm)

end TimeoutOption

/-! ## The arithmetic -/

/-- The last value that survives the rounding up. -/
def lastMs : Int := 2147482648

theorem narrowedMs_bounds (v : Int) : 1000 ≤ narrowedMs v ∧ narrowedMs v < 2 ^ 31 := by
  unfold narrowedMs toInt32
  omega

theorem narrowedMs_small {v : Int} (nonneg : 0 ≤ v) (small : v < 2 ^ 31) : narrowedMs v = max 1000 v := by
  have whole : (LuaNumber.finite v).toInteger = v := by
    simp only [LuaNumber.toInteger, Rat.floor_intCast, Rat.ceil_intCast, ite_self]
    rw [if_pos (by omega)]
  rw [narrowedMs, whole, toInt32]
  omega

theorem seconds_rounds {ms : Int} (some_ms : 0 ≤ ms) (small : ms ≤ lastMs) :
    seconds ms = max 1 ((ms + 999) / 1000) := by
  unfold lastMs at small
  rw [seconds, toInt32, Int.tdiv_eq_ediv_of_nonneg (by omega)]
  omega

/-- Behind the last value the sum is negative. -/
theorem seconds_wraps {ms : Int} (large : lastMs < ms) (int : ms < 2 ^ 31) : seconds ms = 1 := by
  unfold lastMs at large
  have negative : toInt32 (ms + 999) ≤ 0 := by
    unfold toInt32
    omega
  have none_left := Int.tdiv_le_tdiv (show (0 : Int) < 1000 by omega) negative
  rw [Int.zero_tdiv] at none_left
  rw [seconds]
  omega

theorem seconds_int {ms : Int} (some_ms : 0 ≤ ms) (int : ms < 2 ^ 31) : seconds ms ≤ 2147483 := by
  by_cases small : ms ≤ lastMs
  · rw [seconds_rounds some_ms small]
    unfold lastMs at small
    omega
  · rw [seconds_wraps (by omega) int]
    omega

/-- A call that passes the value for the option makes the socket wait that many seconds. -/
def Yields (which : TimeoutOption) (v : Int) (n : Nat) : Prop :=
  ∃ (lua : LuaLibrary) (platform : Platform) (index : Nat) (table : LuaValue)
    (options : HttpRequestOptions), index ≠ 0 ∧ table.isTable = true ∧ which.Given lua table v ∧
    readRequestOptions lua platform index table = .ok options ∧ options.totalTimeoutMs = 0 ∧
    which.Hands options n

/-- The timeout is no shorter than asked for, or as asked for by a smaller value. -/
def Honoured (which : TimeoutOption) (v : Int) : Prop :=
  ∀ n, Yields which v n → min v (2 ^ 31 - 1) ≤ 1000 * n ∧ ∀ u m, 0 ≤ u → u ≤ v → Yields which u m → m ≤ n

def timeoutTable (which : TimeoutOption) (v : Int) : LuaValue :=
  .table [(.string (ascii (match which with
    | .connect => "connect_timeout_ms"
    | .send => "send_timeout_ms"
    | .receive => "receive_timeout_ms")), .number (.finite v))]

theorem timeoutTable_given (which : TimeoutOption) (v : Int) :
    which.Given .whole (timeoutTable which v) v := by
  cases which with
  | connect => exact rfl
  | send => exact rfl
  | receive => exact ⟨rfl, rfl, rfl⟩

theorem timeoutTable_read (which : TimeoutOption) (v : Int) : ∃ options,
    readRequestOptions .whole .blank 1 (timeoutTable which v) = .ok options ∧
      options.totalTimeoutMs = 0 := by
  cases which with
  | connect => exact ⟨_, rfl, rfl⟩
  | send => exact ⟨_, rfl, rfl⟩
  | receive => exact ⟨_, rfl, rfl⟩

theorem yields_iff (which : TimeoutOption) (v : Int) (n : Nat) :
    Yields which v n ↔ (n : Int) = seconds (narrowedMs v) := by
  constructor
  · rintro ⟨lua, platform, index, table, options, some_table, isTable, given, read, unlimited, hands⟩
    rw [TimeoutOption.hands_iff unlimited, readRequestOptions_milliseconds some_table isTable given read]
      at hands
    exact hands
  · intro same
    obtain ⟨options, read, unlimited⟩ := timeoutTable_read which v
    have given := timeoutTable_given which v
    refine ⟨.whole, .blank, 1, timeoutTable which v, options, by decide, rfl, given, read, unlimited, ?_⟩
    rw [TimeoutOption.hands_iff unlimited, readRequestOptions_milliseconds (by decide) rfl given read]
    exact same

/-- A timeout is honoured up to the largest `int` that still can be rounded up. -/
theorem honoured_iff (which : TimeoutOption) {v : Int} (nonneg : 0 ≤ v) :
    Honoured which v ↔ v ≤ lastMs := by
  have int := narrowedMs_bounds v
  constructor
  · intro honoured
    by_contra large
    have some_second : 0 ≤ seconds (narrowedMs v) := by
      rw [seconds]
      omega
    have enough := (honoured (seconds (narrowedMs v)).toNat ((yields_iff which v _).mpr (by omega))).1
    by_cases fits : v < 2 ^ 31
    · rw [narrowedMs_small nonneg fits] at enough
      rw [seconds_wraps (by omega) (by omega)] at enough
      unfold lastMs at large
      omega
    · have most := seconds_int (show 0 ≤ narrowedMs v by omega) int.2
      omega
  · intro small
    have fits : v < 2 ^ 31 := by
      unfold lastMs at small
      omega
    intro n yields
    rw [yields_iff, narrowedMs_small nonneg fits,
      seconds_rounds (by omega) (by unfold lastMs at *; omega)] at yields
    refine ⟨by omega, fun u m above below yields' => ?_⟩
    rw [yields_iff, narrowedMs_small above (by omega),
      seconds_rounds (by omega) (by unfold lastMs at *; omega)] at yields'
    omega

/-- `connect_timeout_ms = 2147483647` waits for one second. -/
theorem timeout_wraps : Yields .connect 2147483647 1 ∧ ¬ Honoured .connect 2147483647 := by
  have one : Yields .connect 2147483647 1 := (yields_iff _ _ _).mpr (by decide)
  exact ⟨one, fun honoured => absurd (honoured 1 one).1 (by decide)⟩

theorem honoured_thirtySeconds : Honoured .connect 30000 :=
  (honoured_iff .connect (by decide)).mpr (by decide)

end LuaXENetwork
