import LuaXENetwork.Proof.Dial.Transcript
import LuaXENetwork.Proof.Socket.Timing

/-! The time of a SOCKS5 handshake whose timers all end by a limit, whatever the pace of the proxy. -/

namespace LuaXENetwork
open Library Dialing BaseSock

def NoLater (limit : Int) (w : DialWorld) : Prop := (w.socket.clock : Int) ≤ limit

structure Unhurried (limit : Int) (w : DialWorld) : Prop where
  calm : Calm w.socket
  noLater : NoLater limit w

/-- Whatever is sent or read next ends by the limit. -/
structure Limited (limit : Int) (w : DialWorld) : Prop extends Unhurried limit w where
  sends : ∀ data, ((w.socket.send data).2.clock : Int) ≤ limit
  receives : ∀ length minLength, ((w.socket.receive length minLength).2.clock : Int) ≤ limit

section Limited

variable {limit : Int} {options : DialOptions} {started : Nat}

theorem fail_noLater {α : Type} {done : α → DialWorld → Prop} (code : String) (message : Bytes) :
    Program.Triple (NoLater limit) (fail code message : Dialing α) done (fun _ => NoLater limit) :=
  .throw fun _ early => early

theorem fail_unhurried {α : Type} {done : α → DialWorld → Prop} (code : String) (message : Bytes) :
    Program.Triple (Unhurried limit) (fail code message : Dialing α) done (fun _ => NoLater limit) :=
  .throw fun _ unhurried => unhurried.noLater

theorem takeExact_unhurried (count : Nat) (what : String) (answer : Option Bytes) :
    Program.Triple (fun w => NoLater limit w ∧ (answer ≠ none → Calm w.socket))
      (takeExact count what answer) (fun _ => Unhurried limit) (fun _ => NoLater limit) := by
  refine (Program.Triple.look _).bind fun error => ?_
  cases answer with
  | none =>
      refine Program.Triple.via (fun _ => NoLater limit) (.change fun _ before => before.1) fun _ => ?_
      split <;> exact fail_noLater _ _
  | some data =>
      dsimp only
      split
      · exact Program.Triple.via (fun _ => NoLater limit) (.change fun _ before => before.1)
          fun _ => fail_noLater _ _
      · refine Program.Triple.via (fun _ => Unhurried limit) (.change fun w before => ?_)
          fun _ => .pure fun _ unhurried => unhurried
        exact ⟨before.2 (Option.some_ne_none data), before.1⟩

theorem connectTo_unhurried (platform : Platform) (host : WString) (port : Nat) (code : String) :
    Program.Triple (fun w => Calm w.socket ∧ (w.socket.connect.2.clock : Int) ≤ limit)
      (connectTo platform host port code) (fun _ => Unhurried limit) (fun _ => NoLater limit) := by
  refine Program.Triple.via (fun _ w => Calm w.socket ∧ (w.socket.connect.2.clock : Int) ≤ limit)
    (.change fun _ before => before) fun _ => ?_
  refine Program.Triple.via (fun _ => Unhurried limit) (.act fun w before => ?_) fun connected => ?_
  · exact ⟨connect_calm before.1, before.2⟩
  · split
    · exact (Program.Triple.look _).bind fun error => fail_unhurried _ _
    · exact .pure fun _ unhurried => unhurried

section Remaining

variable (positive : 0 < options.totalTimeoutMs) (int : -2 ^ 31 ≤ options.connectTimeoutMs)
include positive int

theorem remaining_unhurried :
    Program.Triple (Unhurried limit) (remaining options started)
      (fun left w => Unhurried limit w ∧ -2 ^ 31 ≤ left ∧
        (w.socket.clock : Int) < started + options.totalTimeoutMs ∧
        w.socket.clock + left ≤ started + options.totalTimeoutMs)
      (fun _ => NoLater limit) := by
  unfold remaining
  rw [if_neg (not_le.mpr positive)]
  refine Program.Triple.via (fun now w => w.socket.clock = now ∧ Unhurried limit w)
    (.read fun _ unhurried => ⟨rfl, unhurried⟩) fun now => ?_
  dsimp only
  split
  · refine Program.Triple.via (fun _ => NoLater limit)
      (.change fun _ before => before.2.noLater) fun _ => fail_noLater _ _
  · rename_i left
    refine .pure fun w before => ⟨before.2, ?_, ?_, ?_⟩
    · exact le_min int (by omega)
    · have shown := before.1
      omega
    · have least := min_le_right options.connectTimeoutMs (options.totalTimeoutMs - ((now : Int) - started))
      have shown := before.1
      omega

end Remaining

variable (arms : Program.Triple (Unhurried limit) (arm options started) (fun _ => Limited limit)
  (fun _ => NoLater limit))
include arms

theorem sendAll_unhurried (bytes : Bytes) (what : String) :
    Program.Triple (Unhurried limit) (sendAll options started bytes what)
      (fun _ => Unhurried limit) (fun _ => NoLater limit) := by
  refine arms.bind fun _ => ?_
  refine Program.Triple.via (fun _ => Limited limit) (.change fun _ before => { before with }) fun _ => ?_
  refine Program.Triple.via
    (fun sent w => NoLater limit w ∧ (sent ≠ none → Calm w.socket)) ?_ fun sent => ?_
  · refine .act fun w before => ⟨before.sends bytes, fun sent => ?_⟩
    exact send_calm before.calm bytes (Option.isSome_iff_ne_none.mpr sent)
  · split
    · refine Program.Triple.via (fun _ => NoLater limit) (.change fun _ before => before.1)
        fun _ => (Program.Triple.look _).bind fun error => fail_noLater _ _
    · rename_i whole
      refine .pure fun w before => ⟨before.2 ?_, before.1⟩
      rw [not_not.mp whole]
      exact Option.some_ne_none _

theorem recvExact_unhurried (count : Nat) (what : String) :
    Program.Triple (Unhurried limit) (recvExact options started count what)
      (fun _ => Unhurried limit) (fun _ => NoLater limit) := by
  unfold recvExact
  split
  · exact .pure fun _ unhurried => unhurried
  · refine arms.bind fun _ => Program.Triple.bind ?_ fun answer => takeExact_unhurried count what answer
    refine .act fun w before => ⟨before.receives count count, fun received => ?_⟩
    have ends := receive_calm before.calm count count
    generalize w.socket.receive count count = result at ends received ⊢
    obtain ⟨answer, s'⟩ := result
    cases answer with
    | none => exact absurd rfl received
    | some got =>
        have handed : Handed w.socket count got s' := ends
        exact handed.calm

variable (platform : Platform) (proxy : ProxyTarget) (host : WString) (port : Nat)

theorem chooseMethod_unhurried :
    Program.Triple (Unhurried limit) (chooseMethod platform proxy options started)
      (fun _ => Unhurried limit) (fun _ => NoLater limit) := by
  refine (sendAll_unhurried arms _ _).bind fun _ => (recvExact_unhurried arms _ _).bind fun choice => ?_
  dsimp only
  split
  · exact fail_unhurried _ _
  · split
    · exact fail_unhurried _ _
    · split
      · exact fail_unhurried _ _
      · exact .pure fun _ unhurried => unhurried

theorem authenticate_unhurried (method : UInt8) :
    Program.Triple (Unhurried limit) (authenticate platform proxy options started method)
      (fun _ => Unhurried limit) (fun _ => NoLater limit) := by
  unfold authenticate
  dsimp only
  split
  · exact .pure fun _ unhurried => unhurried
  · split
    · exact fail_unhurried _ _
    · refine (sendAll_unhurried arms _ _).bind fun _ => (recvExact_unhurried arms _ _).bind
        fun verdict => ?_
      split
      · exact fail_unhurried _ _
      · split
        · exact fail_unhurried _ _
        · exact .pure fun _ unhurried => unhurried

theorem requestConnect_unhurried :
    Program.Triple (Unhurried limit) (requestConnect platform proxy options started host port)
      (fun _ w => Unhurried limit w ∧ ∃ request, connectRequest platform proxy host port = .ok request)
      (fun _ => NoLater limit) := by
  unfold requestConnect
  rcases encoded : connectRequest platform proxy host port with error | request
  · exact fun w unhurried => unhurried.noLater
  · change Program.Triple _ (sendAll options started request "CONNECT request" >>= _) _ _
    refine (sendAll_unhurried arms _ _).bind fun _ => (recvExact_unhurried arms _ _).bind
      fun header => ?_
    dsimp only
    split
    · exact fail_unhurried _ _
    · split
      · exact fail_unhurried _ _
      · exact .pure fun _ unhurried => ⟨unhurried, request, rfl⟩

theorem boundLength_unhurried (addressType : UInt8) :
    Program.Triple (Unhurried limit) (boundLength platform proxy options started addressType)
      (fun _ => Unhurried limit) (fun _ => NoLater limit) := by
  unfold boundLength
  dsimp only
  split
  · exact .pure fun _ unhurried => unhurried
  · split
    · exact .pure fun _ unhurried => unhurried
    · split
      · refine (recvExact_unhurried arms _ _).bind fun length => ?_
        split
        · exact fail_unhurried _ _
        · exact .pure fun _ unhurried => unhurried
      · exact fail_unhurried _ _

/-- The handshake is over by the limit, and returns only if the target could be asked for. -/
theorem socks5Handshake_unhurried :
    Program.Triple (Unhurried limit) (socks5Handshake platform proxy options started host port)
      (fun _ w => Unhurried limit w ∧ ∃ request, connectRequest platform proxy host port = .ok request)
      (fun _ => NoLater limit) := by
  refine (chooseMethod_unhurried arms platform proxy).bind fun method =>
    (authenticate_unhurried arms platform proxy method).bind fun _ =>
    (requestConnect_unhurried arms platform proxy host port).bind fun addressType => ?_
  intro w before
  obtain ⟨unhurried, encoded⟩ := before
  have rest : Program.Triple (Unhurried limit) (do
      let addressLength ← boundLength platform proxy options started addressType
      let _ ← recvExact options started addressLength "CONNECT reply"
      let _ ← recvExact options started 2 "CONNECT reply"
      return ()) (fun _ => Unhurried limit) (fun _ => NoLater limit) :=
    (boundLength_unhurried arms platform proxy addressType).bind fun _ =>
      (recvExact_unhurried arms _ _).bind fun _ => (recvExact_unhurried arms _ _).bind fun _ =>
      .pure fun _ unhurried => unhurried
  exact (rest.weaken (fun _ start => start) (fun _ _ unhurried => ⟨unhurried, encoded⟩)
    fun _ _ late => late) w unhurried

end Limited

end LuaXENetwork
