import LuaXENetwork.Proof.Dial.World

/-! What a dial through a SOCKS5 proxy says, and after which answers. -/

namespace LuaXENetwork
open Library Dialing

/-- The length of a bound address: known from the ATYP, or told by an octet of its own. -/
inductive BoundAddress : UInt8 → Nat → Bytes → Prop
  | inet : BoundAddress 0x01 4 []
  | inet6 : BoundAddress 0x04 16 []
  | name (octet : UInt8) (nonempty : octet.toNat ≠ 0) : BoundAddress 0x03 octet.toNat [octet]

theorem BoundAddress.pos {addressType : UInt8} {length : Nat} {octets : Bytes}
    (bound : BoundAddress addressType length octets) : length ≠ 0 := by
  cases bound with
  | inet => decide
  | inet6 => decide
  | name octet nonempty => exact nonempty

theorem BoundAddress.small {addressType : UInt8} {length : Nat} {octets : Bytes}
    (bound : BoundAddress addressType length octets) : length < 2 ^ 32 := by
  cases bound with
  | inet => decide
  | inet6 => decide
  | name octet nonempty =>
      have below := octet.toNat_lt
      omega

/-! ## The conversation, event by event -/

section Conversation

variable (platform : Platform) (proxy : ProxyTarget) (host : WString) (port : Nat)

def chosen (method : UInt8) : List DialEvent :=
  [.connecting proxy.host proxy.port, .writing "method list" (greeting proxy),
    .received "method reply" [0x05, method]]

def authenticated : List DialEvent :=
  chosen proxy 0x02 ++ [.writing "credentials" (authentication proxy),
    .received "authentication reply" [0x01, 0x00]]

/-- What precedes a CONNECT request: no authentication was wanted, or it has succeeded. -/
def MayRequest (history : List DialEvent) : Prop :=
  history = chosen proxy 0x00 ∨ (proxy.hasCredentials = true ∧ history = authenticated proxy)

/-- The reply of success to a CONNECT request, down to the bound port. -/
def Granted (reply : List DialEvent) : Prop :=
  ∃ reserved addressType length octets address boundPort,
    BoundAddress addressType length octets ∧ address.length = length ∧ boundPort.length = 2 ∧
    reply = .received "CONNECT reply" [0x05, 0x00, reserved, addressType] ::
      (octets.map fun octet => .received "CONNECT reply" [octet]) ++
      [.received "CONNECT reply" address, .received "CONNECT reply" boundPort]

/-- The whole conversation of a proxy that has let us through. -/
def Tunnelled (history : List DialEvent) : Prop :=
  ∃ asked request reply, MayRequest proxy asked ∧
    connectRequest platform proxy host port = .ok request ∧ Granted reply ∧
    history = asked ++ .writing "CONNECT request" request :: reply

/-- What may be done after a history. -/
def Permitted (history : List DialEvent) : DialEvent → Prop
  | .connecting address addressPort => history = [] ∧ address = proxy.host ∧ addressPort = proxy.port
  | .writing _ bytes =>
      (history = [.connecting proxy.host proxy.port] ∧ bytes = greeting proxy) ∨
      (history = chosen proxy 0x02 ∧ proxy.hasCredentials = true ∧ bytes = authentication proxy) ∨
      (MayRequest proxy history ∧ connectRequest platform proxy host port = .ok bytes)
  | .tlsWriting _ => ∃ tunnel since, Tunnelled platform proxy host port tunnel ∧ history = tunnel ++ since
  | _ => True

def Talked (history : List DialEvent) (w : DialWorld) : Prop :=
  w.events = history ∧ Guarded (Permitted platform proxy host port) history

def Behaved (w : DialWorld) : Prop := Guarded (Permitted platform proxy host port) w.events

end Conversation

variable {platform : Platform} {proxy : ProxyTarget} {host : WString} {port : Nat}
  {history : List DialEvent}

theorem Talked.behaved {w : DialWorld} (talked : Talked platform proxy host port history w) :
    Behaved platform proxy host port w := by
  rw [Behaved, talked.1]
  exact talked.2

theorem record_talks {event : DialEvent} (permitted : Permitted platform proxy host port history event) :
    Program.Triple (Talked platform proxy host port history) (record event)
      (fun _ => Talked platform proxy host port (history ++ [event]))
      (fun _ => Behaved platform proxy host port) :=
  .change fun _ talked => ⟨congrArg (· ++ [event]) talked.1, talked.2.snoc permitted⟩

theorem fail_talks {α : Type} {done : α → DialWorld → Prop} (code : String) (message : Bytes) :
    Program.Triple (Talked platform proxy host port history) (fail code message : Dialing α) done
      (fun _ => Behaved platform proxy host port) := .throw fun _ talked => talked.behaved

theorem talks_of_silent {α : Type} {x : Dialing α}
    (silent : Program.Always (Moves fun _ => False) x) :
    Program.Triple (Talked platform proxy host port history) x
      (fun _ => Talked platform proxy host port history)
      (fun _ => Behaved platform proxy host port) := by
  refine Program.Triple.weaken (silent.triple fun w w' talked step => ?_) (fun _ start => start)
    (fun _ _ talked => talked) (fun _ _ talked => talked.behaved)
  obtain ⟨-, new, events, none_new⟩ := step
  obtain rfl : new = [] := List.eq_nil_iff_forall_not_mem.mpr none_new
  exact ⟨by simpa using events.trans (congrArg (· ++ []) talked.1), talked.2⟩

variable (options : DialOptions) (started : Nat)

theorem remaining_talks :
    Program.Triple (Talked platform proxy host port history) (remaining options started)
      (fun _ => Talked platform proxy host port history)
      (fun _ => Behaved platform proxy host port) := by
  unfold remaining
  split
  · exact .pure fun _ talked => talked
  · refine (talks_of_silent (.read _)).bind fun now => ?_
    dsimp only
    split
    · exact (record_talks (by trivial)).bind fun _ => fail_talks _ _
    · exact .pure fun _ talked => talked

theorem arm_talks :
    Program.Triple (Talked platform proxy host port history) (arm options started)
      (fun _ => Talked platform proxy host port history)
      (fun _ => Behaved platform proxy host port) :=
  (remaining_talks options started).bind fun _ => talks_of_silent (setTimeouts_moves _)

theorem sendAll_talks {bytes : Bytes} {what : String}
    (permitted : Permitted platform proxy host port history (.writing what bytes)) :
    Program.Triple (Talked platform proxy host port history) (sendAll options started bytes what)
      (fun _ => Talked platform proxy host port (history ++ [.writing what bytes]))
      (fun _ => Behaved platform proxy host port) := by
  refine (arm_talks options started).bind fun _ => (record_talks permitted).bind fun _ =>
    (talks_of_silent (send_moves bytes)).bind fun sent => ?_
  split
  · refine (record_talks (by trivial)).bind fun _ => ?_
    exact (talks_of_silent (.read _)).bind fun error => fail_talks _ _
  · exact .pure fun _ talked => talked

theorem takeExact_talks (count : Nat) (what : String) (answer : Option Bytes) :
    Program.Triple (Talked platform proxy host port history) (takeExact count what answer)
      (fun data w => data.length = count ∧
        Talked platform proxy host port (history ++ [.received what data]) w)
      (fun _ => Behaved platform proxy host port) := by
  refine (talks_of_silent (.read _)).bind fun error => ?_
  cases answer with
  | none =>
      refine (record_talks (by trivial)).bind fun _ => ?_
      split <;> exact fail_talks _ _
  | some data =>
      dsimp only
      split
      · exact (record_talks (by trivial)).bind fun _ => fail_talks _ _
      · rename_i exactly
        refine (record_talks (by trivial)).bind fun _ => ?_
        exact .pure fun _ talked => ⟨not_not.mp exactly, talked⟩

theorem recvExact_talks {count : Nat} (some_bytes : count ≠ 0) (what : String) :
    Program.Triple (Talked platform proxy host port history) (recvExact options started count what)
      (fun data w => data.length = count ∧
        Talked platform proxy host port (history ++ [.received what data]) w)
      (fun _ => Behaved platform proxy host port) := by
  rw [recvExact, if_neg some_bytes]
  exact (arm_talks options started).bind fun _ => (talks_of_silent (receive_moves _ _)).bind
    fun answer => takeExact_talks count what answer

theorem chooseMethod_talks :
    Program.Triple (Talked platform proxy host port [.connecting proxy.host proxy.port])
      (chooseMethod platform proxy options started)
      (fun method w => (method = 0x00 ∨ method = 0x02) ∧
        Talked platform proxy host port (chosen proxy method) w)
      (fun _ => Behaved platform proxy host port) := by
  refine (sendAll_talks options started (.inl ⟨rfl, rfl⟩)).bind fun _ => ?_
  refine (recvExact_talks options started (by decide) "method reply").bind fun choice => ?_
  refine .assume fun two => ?_
  obtain ⟨version, method, rfl⟩ := List.length_eq_two.mp two
  dsimp only [List.getD_cons_zero, List.getD_cons_succ]
  split
  · exact fail_talks _ _
  · rename_i socks5
    obtain rfl : version = 0x05 := not_not.mp socks5
    split
    · exact fail_talks _ _
    · split
      · exact fail_talks _ _
      · rename_i known
        exact .pure fun _ talked => ⟨by tauto, talked⟩

theorem authenticate_talks {method : UInt8} (known : method = 0x00 ∨ method = 0x02) :
    Program.Triple (Talked platform proxy host port (chosen proxy method))
      (authenticate platform proxy options started method)
      (fun _ w => ∃ asked, MayRequest proxy asked ∧ Talked platform proxy host port asked w)
      (fun _ => Behaved platform proxy host port) := by
  unfold authenticate
  dsimp only
  rcases known with rfl | rfl
  · rw [if_pos (by decide)]
    exact .pure fun _ talked => ⟨_, .inl rfl, talked⟩
  · rw [if_neg (by decide)]
    split
    · exact fail_talks _ _
    · rename_i given
      have credentials : proxy.hasCredentials = true := by simpa using given
      refine (sendAll_talks options started (.inr (.inl ⟨rfl, credentials, rfl⟩))).bind fun _ => ?_
      refine (recvExact_talks options started (by decide) "authentication reply").bind
        fun verdict => .assume fun two => ?_
      obtain ⟨version, status, rfl⟩ := List.length_eq_two.mp two
      split
      · exact fail_talks _ _
      · rename_i rfc1929
        obtain rfl : version = 0x01 := not_not.mp rfc1929
        split
        · exact fail_talks _ _
        · rename_i success
          obtain rfl : status = 0x00 := not_not.mp success
          refine .pure fun _ talked => ⟨_, .inr ⟨credentials, rfl⟩, ?_⟩
          simpa [authenticated] using talked

theorem requestConnect_talks {asked : List DialEvent} (may : MayRequest proxy asked) :
    Program.Triple (Talked platform proxy host port asked)
      (requestConnect platform proxy options started host port)
      (fun addressType w => ∃ request reserved,
        connectRequest platform proxy host port = .ok request ∧
        Talked platform proxy host port (asked ++ [.writing "CONNECT request" request,
          .received "CONNECT reply" [0x05, 0x00, reserved, addressType]]) w)
      (fun _ => Behaved platform proxy host port) := by
  unfold requestConnect
  rcases encoded : connectRequest platform proxy host port with error | request
  · exact fun _ talked => talked.behaved
  · refine (sendAll_talks options started (.inr (.inr ⟨may, encoded⟩))).bind fun _ => ?_
    refine (recvExact_talks options started (by decide) "CONNECT reply").bind
      fun header => .assume fun four => ?_
    obtain ⟨version, code, reserved, addressType, rfl⟩ := List.length_eq_four.mp four
    dsimp only [List.getD_cons_zero, List.getD_cons_succ]
    split
    · exact fail_talks _ _
    · rename_i socks5
      obtain rfl : version = 0x05 := not_not.mp socks5
      split
      · exact fail_talks _ _
      · rename_i success
        obtain rfl : code = 0x00 := not_not.mp success
        exact .pure fun _ talked => ⟨request, reserved, rfl, by simpa using talked⟩

theorem boundLength_talks (addressType : UInt8) :
    Program.Triple (Talked platform proxy host port history)
      (boundLength platform proxy options started addressType)
      (fun length w => ∃ octets, BoundAddress addressType length octets ∧
        Talked platform proxy host port
          (history ++ octets.map fun octet => .received "CONNECT reply" [octet]) w)
      (fun _ => Behaved platform proxy host port) := by
  unfold boundLength
  dsimp only
  split
  · rename_i inet
    exact .pure fun _ talked => ⟨[], inet ▸ .inet, by simpa using talked⟩
  · split
    · rename_i inet6
      exact .pure fun _ talked => ⟨[], inet6 ▸ .inet6, by simpa using talked⟩
    · split
      · rename_i name
        refine (recvExact_talks options started (by decide) "CONNECT reply").bind
          fun length => .assume fun one => ?_
        obtain ⟨octet, rfl⟩ := List.length_eq_one_iff.mp one
        split
        · exact fail_talks _ _
        · rename_i nonempty
          exact .pure fun _ talked => ⟨[octet], name ▸ .name octet nonempty, talked⟩
      · exact fail_talks _ _

theorem socks5Handshake_talks :
    Program.Triple (Talked platform proxy host port [.connecting proxy.host proxy.port])
      (socks5Handshake platform proxy options started host port)
      (fun _ w => ∃ tunnel, Tunnelled platform proxy host port tunnel ∧
        Talked platform proxy host port tunnel w)
      (fun _ => Behaved platform proxy host port) := by
  refine (chooseMethod_talks options started).bind fun method => .assume fun known => ?_
  refine (authenticate_talks options started known).bind fun _ =>
    .exists fun asked => .assume fun may => ?_
  refine (requestConnect_talks options started may).bind fun addressType =>
    .exists fun request => .exists fun reserved => .assume fun encoded => ?_
  refine (boundLength_talks options started addressType).bind fun length =>
    .exists fun octets => .assume fun bound => ?_
  refine (recvExact_talks options started bound.pos "CONNECT reply").bind
    fun address => .assume fun whole => ?_
  refine (recvExact_talks options started (by decide) "CONNECT reply").bind
    fun boundPort => .assume fun two => ?_
  refine .pure fun _ talked => ⟨_, ⟨asked, request, _, may, encoded,
    ⟨reserved, addressType, length, octets, address, boundPort, bound, whole, two, rfl⟩, rfl⟩, ?_⟩
  simpa using talked

/-! ## The whole dial -/

theorem connectTo_talks (code : String) :
    Program.Triple (Talked platform proxy host port [])
      (connectTo platform proxy.host proxy.port code)
      (fun _ => Talked platform proxy host port [.connecting proxy.host proxy.port])
      (fun _ => Behaved platform proxy host port) := by
  refine (record_talks (by exact ⟨rfl, rfl, rfl⟩)).bind fun _ =>
    (talks_of_silent connect_moves).bind fun connected => ?_
  split
  · exact (talks_of_silent (.read _)).bind fun error => fail_talks _ _
  · exact .pure fun _ talked => talked

/-- Behind the tunnel: since then nothing but the TLS handshake. -/
def Through (platform : Platform) (proxy : ProxyTarget) (host : WString) (port : Nat)
    (w : DialWorld) : Prop :=
  ∃ tunnel since, Tunnelled platform proxy host port tunnel ∧ w.events = tunnel ++ since ∧
    ∀ event ∈ since, event.OfHandshake

theorem Talked.through {tunnel : List DialEvent} {w : DialWorld}
    (tunnelled : Tunnelled platform proxy host port tunnel)
    (talked : Talked platform proxy host port tunnel w) :
    Through platform proxy host port w ∧ Behaved platform proxy host port w :=
  ⟨⟨tunnel, [], tunnelled, by simpa using talked.1, by simp⟩, talked.behaved⟩

theorem Tunnelled.permits {tunnel : List DialEvent}
    (tunnelled : Tunnelled platform proxy host port tunnel) {event : DialEvent}
    (kind : event.OfHandshake) (since : List DialEvent) :
    Permitted platform proxy host port (tunnel ++ since) event := by
  cases event with
  | tlsWriting token => exact ⟨tunnel, since, tunnelled, rfl⟩
  | checked => trivial
  | _ => exact kind.elim

/-- A dial that has the tunnel, and has kept to what is permitted. -/
def Dialled (platform : Platform) (proxy : ProxyTarget) (host : WString) (port : Nat)
    (w : DialWorld) : Prop :=
  Through platform proxy host port w ∧ Behaved platform proxy host port w

theorem dialled_of_adds {α : Type} {x : Dialing α}
    (adds : Program.Always (Adds DialEvent.OfHandshake) x) :
    Program.Triple (Dialled platform proxy host port) x
      (fun _ => Dialled platform proxy host port) (fun _ => Behaved platform proxy host port) := by
  refine Program.Triple.weaken (adds.triple ?_) (fun _ start => start) (fun _ _ ends => ends)
    (fun _ _ ends => ends.2)
  rintro w w' ⟨⟨tunnel, since, tunnelled, events, kind⟩, behaved⟩ ⟨new, grown, newKind⟩
  refine ⟨⟨tunnel, since ++ new, tunnelled, by rw [grown, events, List.append_assoc], ?_⟩, ?_⟩
  · intro event member
    exact (List.mem_append.mp member).elim (kind event) (newKind event)
  · rw [Behaved, grown]
    refine behaved.append fun event member later => ?_
    rw [events, List.append_assoc]
    exact tunnelled.permits (newKind event member) _

theorem remaining_dialled :
    Program.Triple (Dialled platform proxy host port) (remaining options started)
      (fun _ => Dialled platform proxy host port) (fun _ => Behaved platform proxy host port) := by
  unfold remaining
  split
  · exact .pure fun _ dialled => dialled
  · refine (dialled_of_adds (.read _)).bind fun now => ?_
    dsimp only
    split
    · have expires : Program.Triple (Dialled platform proxy host port) (record .expired)
          (fun _ => Behaved platform proxy host port) (fun _ => Behaved platform proxy host port) :=
        .change fun _ dialled => dialled.2.snoc trivial
      exact expires.bind fun _ => .throw fun _ behaved => behaved
    · exact .pure fun _ dialled => dialled

theorem concludeTls_adds (serverName : WString) (result : UInt32) :
    Program.Always (Adds DialEvent.OfHandshake) (concludeTls platform options serverName result) := by
  refine .bind (.read _) fun verifier => .bind (.read _) fun tls => ?_
  split
  · exact .throw _
  · split
    · exact .throw _
    · exact .pure _

theorem secureConnection_dialled (answers : TlsAnswers) :
    Program.Triple (Dialled platform proxy host port)
      (secureConnection platform options answers started)
      (fun _ => Dialled platform proxy host port) (fun _ => Behaved platform proxy host port) := by
  have made {f : DialWorld → DialWorld} (events : ∀ w, (f w).events = w.events) :
      Program.Always (Adds DialEvent.OfHandshake) (Program.change f : Dialing Unit) :=
    .change fun w => ⟨[], by simp [events]⟩
  unfold secureConnection
  refine (dialled_of_adds (made (by exact fun _ => rfl))).bind fun _ =>
    (remaining_dialled options started).bind fun milliseconds =>
    (dialled_of_adds (adds_of_tls (setTimeouts_moves _))).bind fun _ =>
    (dialled_of_adds (initializeTls_adds platform answers)).bind fun status => ?_
  exact dialled_of_adds (concludeTls_adds options _ status)

theorem dial_dialled (platform : Platform) (options : DialOptions) (answers : TlsAnswers) (via : options.proxy = some proxy) :
    Program.Triple (Talked platform proxy options.host options.port [])
      (dial platform options answers)
      (fun _ => Dialled platform proxy options.host options.port)
      (fun _ => Behaved platform proxy options.host options.port) := by
  unfold dial
  refine (talks_of_silent (.read _)).bind fun started =>
    (remaining_talks options started).bind fun milliseconds =>
    (talks_of_silent (setTimeouts_moves _)).bind fun _ => ?_
  rw [reach, via]
  refine Program.Triple.bind ((connectTo_talks _).bind fun _ =>
    (socks5Handshake_talks options started)) fun _ =>
    .exists fun tunnel => .assume fun tunnelled => ?_
  split
  · exact .pure fun _ talked => talked.through tunnelled
  · exact (secureConnection_dialled options started answers).weaken
      (fun _ talked => talked.through tunnelled) (fun _ _ ends => ends) (fun _ _ ends => ends)

/-- Whatever the proxy answers and wherever the run ends: each act is one that was permitted then,
and a connection is only returned through a granted tunnel, with no failure on the way. -/
theorem dial_throughProxy (platform : Platform) (options : DialOptions) (answers : TlsAnswers)
    (socket : BaseSock) (proxy : ProxyTarget) (via : options.proxy = some proxy)
    (result : Except DialError DialedConnection) (w : DialWorld)
    (run : (dial platform options answers).run { socket := socket } = (result, w)) :
    Guarded (Permitted platform proxy options.host options.port) w.events ∧
    (∀ connection, result = .ok connection → Through platform proxy options.host options.port w) := by
  have ends := dial_dialled platform options answers via { socket := socket } ⟨rfl, .nil⟩
  rw [run] at ends
  cases result with
  | error error => exact ⟨ends, nofun⟩
  | ok connection => exact ⟨ends.2, fun _ _ => ends.1⟩

def witnessProxy : ProxyTarget where
  host := [112]
  port := 1080
  remoteDns := true
  user := [117]
  password := []
  hasCredentials := true

/-- A proxy that wants the password and grants a tunnel, one byte at a time. -/
def grantingSocket : BaseSock where
  incoming := [5, 2, 1, 0, 5, 0, 0, 3, 1, 98, 0, 80]
  reads := List.replicate 12 (.done 0 (.bytes 1))

theorem dial_throughProxy_granted :
    ((dial Platform.blank { host := [97], proxy := some witnessProxy } {}).run
      { socket := grantingSocket }).1.toOption = some ⟨false⟩ ∧
    Through Platform.blank witnessProxy [97] 80
      ((dial Platform.blank { host := [97], proxy := some witnessProxy } {}).run
        { socket := grantingSocket }).2 := by
  have returns : ((dial Platform.blank { host := [97], proxy := some witnessProxy } {}).run
      { socket := grantingSocket }).1.toOption = some ⟨false⟩ := by decide +kernel
  refine ⟨returns, ?_⟩
  rcases run : (dial Platform.blank { host := [97], proxy := some witnessProxy } {}).run
      { socket := grantingSocket } with ⟨_ | connection, w⟩
  · rw [run] at returns
    exact absurd returns nofun
  · exact (dial_throughProxy _ _ _ _ witnessProxy rfl _ _ run).2 connection rfl

end LuaXENetwork
