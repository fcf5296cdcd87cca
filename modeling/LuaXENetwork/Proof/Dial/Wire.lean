import LuaXENetwork.Library.Socks5
import LuaXENetwork.Proof.Dial.ProxyUrl
import LuaXENetwork.Proof.Dial.Transcript

/-! The messages of a handshake, read by a decoder that knows only the RFCs. -/

namespace LuaXENetwork
open Library Library.Socks5 Dialing

variable (platform : Platform) (proxy : ProxyTarget) (host : WString) (port : Nat)

/-- The address that a CONNECT is to carry: the name itself, or what it was resolved to here. -/
def Destination : Address → Prop
  | .name name => proxy.remoteDns = true ∧ name = utf8 platform host
  | .inet address => proxy.remoteDns = false ∧
      (platform.inetPtonW (host.takeWhile (· ≠ 0)) = some address ∨
        platform.inetPtonW (host.takeWhile (· ≠ 0)) = none ∧ resolveLocally platform host = some address)
  | .inet6 address => proxy.remoteDns = false ∧ platform.inetPtonW (host.takeWhile (· ≠ 0)) = none ∧
      resolveLocally platform host = some address

def Decodes : DialEvent → Prop
  | .writing what bytes =>
      (what = "method list" ∧
        decodeMethods bytes = some (if proxy.hasCredentials then [0x00, 0x02] else [0x00])) ∨
      (what = "credentials" ∧ proxy.hasCredentials = true ∧
        decodeCredentials bytes = some (proxy.user, proxy.password)) ∨
      (what = "CONNECT request" ∧ ∃ address, Destination platform proxy host address ∧
        decodeRequest bytes = some ⟨0x01, address, port⟩)
  | _ => True

variable {platform proxy host port}

theorem greeting_decodes : Decodes platform proxy host port (.writing "method list" (greeting proxy)) := by
  refine .inl ⟨rfl, ?_⟩
  rw [greeting]
  split
  · rfl
  · rfl

/-- `InetPtonW` fills in an address of four bytes. -/
def InetPtonSound (platform : Platform) : Prop :=
  ∀ name address, platform.inetPtonW name = some address → address.length = 4

theorem targetAddress_encodes (sound : InetPtonSound platform) {bytes : Bytes}
    (encoded : targetAddress platform proxy host port = .ok bytes) :
    ∃ address : Address, Destination platform proxy host address ∧ address.Valid ∧
      bytes = address.encode := by
  rcases targetAddress_cases encoded with ⟨remote, some_bytes, fits, rfl⟩ | ⟨here, literal, found, rfl⟩ |
    ⟨here, none_found, resolved, found, rfl⟩
  · exact ⟨.name (utf8 platform host), ⟨remote, rfl⟩, ⟨some_bytes, fits⟩, rfl⟩
  · have four := sound _ _ found
    exact ⟨.inet literal, ⟨here, .inl found⟩, four, by rw [List.take_of_length_le four.le]; rfl⟩
  · rcases resolveLocally_length found with four | sixteen
    · exact ⟨.inet resolved, ⟨here, .inr ⟨none_found, found⟩⟩, four, by rw [if_pos four]; rfl⟩
    · refine ⟨.inet6 resolved, ⟨here, none_found, found⟩, sixteen, ?_⟩
      rw [if_neg (by omega)]
      rfl

theorem connectRequest_decodes (sound : InetPtonSound platform) (inRange : port < 65536) {bytes : Bytes}
    (encoded : connectRequest platform proxy host port = .ok bytes) :
    Decodes platform proxy host port (.writing "CONNECT request" bytes) := by
  obtain ⟨address, target, rfl⟩ := connectRequest_ok encoded
  obtain ⟨address, destination, valid, rfl⟩ := targetAddress_encodes sound target
  exact .inr (.inr ⟨rfl, address, destination, decodeRequest_encode valid 0x01 inRange⟩)

theorem authentication_decodes (user : proxy.user ≠ []) (user_fits : proxy.user.length ≤ 255)
    (password : proxy.password ≠ []) (password_fits : proxy.password.length ≤ 255) :
    decodeCredentials (authentication proxy) = some (proxy.user, proxy.password) :=
  decodeCredentials_cons user user_fits password password_fits

theorem authentication_empty (user : proxy.user ≠ []) (user_fits : proxy.user.length ≤ 255)
    (password : proxy.password = []) : decodeCredentials (authentication proxy) = none := by
  rw [authentication, password]
  exact decodeCredentials_empty user user_fits


/-! ## The conversation -/

/-- In every run, each message that is written decodes, and a name that cannot be sent is refused
before anything of the CONNECT is. -/
def SpeaksSocks5 (platform : Platform) (proxy : ProxyTarget) : Prop :=
  ∀ host port options started w, port < 65536 →
    let ends := (socks5Handshake platform proxy options started host port).run w
    Adds (Decodes platform proxy host port) w ends.2 ∧
    (proxy.remoteDns = true → ¬ (1 ≤ (utf8 platform host).length ∧ (utf8 platform host).length ≤ 255) →
      (∃ error, ends.1 = .error error) ∧
      Adds (fun event => ∀ bytes, event ≠ .writing "CONNECT request" bytes) w ends.2)

theorem decodes_answers : AllowsAnswers (Decodes platform proxy host port) := by
  constructor <;> simp [Decodes]

theorem socks5Handshake_decodes (sound : InetPtonSound platform) (inRange : port < 65536)
    (bounded : proxy.hasCredentials = true → Bounded proxy.user proxy.password)
    (given : proxy.hasCredentials = true → proxy.password ≠ []) (options : DialOptions) (started : Nat) :
    Program.Always (Moves (Decodes platform proxy host port))
      (socks5Handshake platform proxy options started host port) := by
  refine socks5Handshake_adds platform proxy options started host port {
    toAllowsAnswers := decodes_answers
    greeting := greeting_decodes
    authentication := fun credentials => ?_
    request := fun bytes encoded => connectRequest_decodes sound inRange encoded }
  obtain ⟨user, user_fits, password_fits⟩ := bounded credentials
  exact .inr (.inl ⟨rfl, credentials,
    authentication_decodes user user_fits (given credentials) password_fits⟩)

variable (port) in
theorem connectRequest_unnamed (remote : proxy.remoteDns = true)
    (unfit : ¬ (1 ≤ (utf8 platform host).length ∧ (utf8 platform host).length ≤ 255)) (bytes : Bytes) :
    connectRequest platform proxy host port ≠ .ok bytes := by
  intro encoded
  obtain ⟨address, found, -⟩ := connectRequest_ok encoded
  rcases targetAddress_cases found with ⟨-, some_bytes, fits, -⟩ | ⟨here, -⟩ | ⟨here, -⟩
  · exact unfit ⟨List.length_pos_iff.mpr some_bytes, fits⟩
  · exact nomatch here.symm.trans remote
  · exact nomatch here.symm.trans remote

theorem socks5Handshake_unnamed (unnamed : ∀ bytes, connectRequest platform proxy host port ≠ .ok bytes)
    (options : DialOptions) (started : Nat) :
    Program.Always (Moves fun event => ∀ bytes, event ≠ .writing "CONNECT request" bytes)
      (socks5Handshake platform proxy options started host port) := by
  refine socks5Handshake_adds platform proxy options started host port {
    toAllowsAnswers := by constructor <;> simp
    greeting := by simp
    authentication := by simp
    request := fun bytes encoded => absurd encoded (unnamed bytes) }

theorem socks5Handshake_refuses (unnamed : ∀ bytes, connectRequest platform proxy host port ≠ .ok bytes)
    (options : DialOptions) (started : Nat) :
    Program.Triple (fun _ => True) (socks5Handshake platform proxy options started host port)
      (fun _ _ => False) (fun _ _ => True) := by
  refine (Program.Triple.any _).bind fun method => (Program.Triple.any _).bind fun _ => ?_
  refine Program.Triple.via (fun _ _ => False) ?_ fun addressType => fun _ none => none.elim
  unfold requestConnect
  rcases encoded : connectRequest platform proxy host port with error | bytes
  · exact fun _ _ => trivial
  · exact absurd encoded (unnamed bytes)

/-! ## An empty password is sent -/

def WroteCredentials (proxy : ProxyTarget) (w : DialWorld) : Prop :=
  .writing "credentials" (authentication proxy) ∈ w.events

theorem wroteCredentials_stays {α : Type} {x : Dialing α}
    (moves : Program.Always (Moves fun _ => True) x) :
    Program.Triple (WroteCredentials proxy) x (fun _ => WroteCredentials proxy)
      (fun _ => WroteCredentials proxy) := by
  refine moves.triple fun w w' wrote step => ?_
  obtain ⟨-, new, events, -⟩ := step
  rw [WroteCredentials, events]
  exact List.mem_append_left new wrote

variable (platform proxy host port) in
theorem allowsMessages_any : AllowsMessages platform proxy host port fun _ => True := by
  constructor
  · constructor <;> simp
  all_goals simp

variable {options : DialOptions} {started : Nat}

theorem sendAll_wrote {stream : Bytes} :
    Program.Triple (Ready options started stream)
      (sendAll options started (authentication proxy) "credentials") (fun _ => WroteCredentials proxy)
      (fun _ => WroteCredentials proxy) := by
  refine Program.Triple.bind (arm_ready.weaken (fun _ ready => ready) (fun _ _ _ => trivial)
    fun _ _ none => none.elim) fun _ => ?_
  refine Program.Triple.via (fun _ => WroteCredentials proxy) (.change fun w _ => ?_) fun _ => ?_
  · simp [WroteCredentials]
  refine wroteCredentials_stays (.bind (send_moves _) fun sent => ?_)
  split
  · exact .bind (record_moves trivial) fun _ => .bind (.read _) fun _ => fail_moves _ _
  · exact .pure _

variable (platform host port) in
theorem socks5Handshake_wrote (given : proxy.hasCredentials = true) :
    Program.Triple (Ready options started [0x05, 0x02])
      (socks5Handshake platform proxy options started host port) (fun _ => WroteCredentials proxy)
      (fun _ => WroteCredentials proxy) := by
  have asked := chooseMethod_carried (carrier_ready options started) platform proxy
    (show (0x02 : UInt8) = 0x00 ∨ (0x02 : UInt8) = 0x02 from .inr rfl) []
  have allows := allowsMessages_any platform proxy host port
  refine Program.Triple.bind (asked.weaken (fun _ ready => ready) (fun _ _ ends => ends)
    fun _ _ none => none.elim) fun method => .assume fun chosen => ?_
  subst chosen
  refine Program.Triple.via (fun _ => WroteCredentials proxy) ?_ fun _ => ?_
  · unfold authenticate
    dsimp only
    rw [if_neg (by decide), if_neg (by simp [given])]
    refine sendAll_wrote.bind fun _ => wroteCredentials_stays
      (.bind (recvExact_moves options started allows.toAllowsAnswers _ _) fun verdict => ?_)
    split
    · exact fail_moves _ _
    · split
      · exact fail_moves _ _
      · exact .pure _
  · exact wroteCredentials_stays
      (.bind (requestConnect_moves platform proxy options started host port allows) fun _ =>
        .bind (boundLength_moves platform proxy options started allows.toAllowsAnswers _) fun _ =>
        .bind (recvExact_moves options started allows.toAllowsAnswers _ _) fun _ =>
        .bind (recvExact_moves options started allows.toAllowsAnswers _ _) fun _ => .pure _)

/-- The world of a proxy that asks for the credentials, and then falls silent. -/
def askingWorld : DialWorld where
  socket := { isOpen := true, incoming := [5, 2], reads := [.done 3 (.bytes 2)] }

theorem askingWorld_ready : Ready {} 0 [0x05, 0x02] askingWorld where
  incoming := rfl
  calm := ⟨rfl, rfl⟩
  flowing := ⟨rfl, rfl, by simpa [askingWorld] using ⟨3, 1, rfl⟩, by simp [askingWorld], by simp [askingWorld]⟩
  begun := Nat.zero_le _
  inTime := ⟨by decide, nofun, by decide, by decide⟩

theorem not_speaksSocks5 (bounded : Bounded proxy.user proxy.password)
    (given : proxy.hasCredentials = true) (empty : proxy.password = []) :
    ¬ SpeaksSocks5 platform proxy := by
  intro speaks
  obtain ⟨⟨new, events, decodes⟩, -⟩ := speaks [] 0 {} 0 askingWorld (by decide)
  have wrote := socks5Handshake_wrote platform [] 0 given askingWorld askingWorld_ready
  have member : .writing "credentials" (authentication proxy) ∈ new := by
    rcases run : (socks5Handshake platform proxy {} 0 [] 0).run askingWorld with ⟨error | _, w⟩
    all_goals
      rw [run] at wrote events
      exact events.trans (List.nil_append new) ▸ wrote
  rcases decodes _ member with ⟨other, -⟩ | ⟨-, -, decoded⟩ | ⟨other, -⟩
  · exact absurd other (by decide)
  · exact nomatch (authentication_empty bounded.1 bounded.2.1 empty).symm.trans decoded
  · exact absurd other (by decide)

/-- The whole conversation is well formed just when no empty password is to be sent. -/
theorem speaksSocks5_iff (sound : InetPtonSound platform) {url : Bytes}
    (accepted : parseProxyUrl platform url = .ok proxy) :
    SpeaksSocks5 platform proxy ↔ (proxy.hasCredentials = true → proxy.password ≠ []) := by
  constructor
  · intro speaks given empty
    exact not_speaksSocks5 (parseProxyUrl_bounded accepted given) given empty speaks
  · intro given host port options started w inRange
    refine ⟨(socks5Handshake_decodes sound inRange (parseProxyUrl_bounded accepted) given options
      started w).events, fun remote unfit => ?_⟩
    have unnamed (bytes : Bytes) := connectRequest_unnamed port remote unfit bytes
    refine ⟨?_, (socks5Handshake_unnamed unnamed options started w).events⟩
    have refuses := socks5Handshake_refuses unnamed options started w trivial
    rcases run : (socks5Handshake platform proxy options started host port).run w with ⟨error | _, w'⟩
    all_goals rw [run] at refuses
    · exact ⟨error, rfl⟩
    · exact refuses.elim

theorem speaksSocks5_iff_password :
    SpeaksSocks5 .blank ⟨wide "h", 1, true, ascii "u", ascii "p", true⟩ :=
  (speaksSocks5_iff (show InetPtonSound .blank from fun _ _ found => by cases found)
    (show parseProxyUrl .blank (ascii "socks5h://u:p@h:1") = .ok _ by decide)).mpr
    fun _ => by decide

/-- `socks5://u@h:1` is accepted, and its credentials go out with a password length of zero. -/
theorem speaksSocks5_noPassword :
    parseProxyUrl .blank (ascii "socks5://u@h:1") =
      .ok ⟨wide "h", 1, false, ascii "u", [], true⟩ ∧
    ¬ SpeaksSocks5 .blank ⟨wide "h", 1, false, ascii "u", [], true⟩ :=
  ⟨by decide, not_speaksSocks5 ⟨by decide, by decide, by decide⟩ rfl rfl⟩

end LuaXENetwork
