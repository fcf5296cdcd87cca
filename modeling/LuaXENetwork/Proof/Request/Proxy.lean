import LuaXENetwork.Proof.Dial.Socks5
import LuaXENetwork.Proof.Request.EntryPoints

/-! A call whose options name a proxy never reaches the target any other way. -/

namespace LuaXENetwork
open Library Dialing

/-! ## What a dial through a proxy connects to -/

def DialEvent.Later : DialEvent → Prop
  | .connecting .. => False
  | _ => True

theorem DialEvent.OfProxy.later {event : DialEvent} (kind : event.OfProxy) : event.Later := by
  cases event <;> trivial

theorem DialEvent.OfHandshake.later {event : DialEvent} (kind : event.OfHandshake) : event.Later := by
  cases event <;> trivial

/-- The record starts with a connection to the proxy, and has no other. -/
def ConnectedFirst (proxy : ProxyTarget) (w : DialWorld) : Prop :=
  ∃ since, w.events = .connecting proxy.host proxy.port :: since ∧ ∀ event ∈ since, event.Later

variable {proxy : ProxyTarget} {options : DialOptions} {platform : Platform}

theorem ConnectedFirst.adds {allowed : DialEvent → Prop} (later : ∀ event, allowed event → event.Later)
    {w w' : DialWorld} (first : ConnectedFirst proxy w) (adds : Adds allowed w w') :
    ConnectedFirst proxy w' := by
  obtain ⟨since, events, kinds⟩ := first
  obtain ⟨new, grown, newKinds⟩ := adds
  refine ⟨since ++ new, by rw [grown, events, List.cons_append], fun event member => ?_⟩
  rcases List.mem_append.mp member with member | member
  · exact kinds event member
  · exact later event (newKinds event member)

theorem connectedFirst_of_adds {α : Type} {allowed : DialEvent → Prop} {x : Dialing α}
    (adds : Program.Always (Adds allowed) x) (later : ∀ event, allowed event → event.Later) :
    Program.Triple (ConnectedFirst proxy) x (fun _ => ConnectedFirst proxy)
      (fun _ => ConnectedFirst proxy) :=
  adds.triple fun _ _ first step => first.adds later step

theorem remaining_unused (started : Nat) {failed : DialError → DialWorld → Prop} :
    Program.Triple (fun w => w.socket.clock = started ∧ w.events = []) (remaining options started)
      (fun _ w => w.events = []) failed := by
  rintro w ⟨rfl, none⟩
  unfold remaining
  by_cases unlimited : options.totalTimeoutMs ≤ 0
  · rw [if_pos unlimited]
    exact none
  · have left : ¬ options.totalTimeoutMs - ((w.socket.clock : Int) - w.socket.clock) ≤ 0 := by omega
    simp only [if_neg unlimited, clock, Program.run_bind, Program.run_read, if_neg left]
    exact none

theorem connectTo_first (code : String) :
    Program.Triple (fun w => w.events = []) (connectTo platform proxy.host proxy.port code)
      (fun _ => ConnectedFirst proxy) (fun _ => ConnectedFirst proxy) := by
  refine Program.Triple.via (fun _ => ConnectedFirst proxy) ?_ fun _ => ?_
  · intro w none
    exact ⟨[], by simp [none], by simp⟩
  · have silent : Program.Always (Moves fun _ => False) (do
        let connected ← Dialing.connect
        if !connected then
          let error ← lastError
          fail code (dialErrorText platform proxy.host proxy.port error)
        else return ()) := by
      refine .bind connect_moves fun connected => ?_
      split
      · exact .bind (.read _) fun _ => fail_moves _ _
      · exact .pure _
    exact connectedFirst_of_adds (silent.weaken fun _ _ moves => moves.events) fun _ no => no.elim

theorem secureConnection_first (answers : TlsAnswers) (started : Nat) :
    Program.Triple (ConnectedFirst proxy) (secureConnection platform options answers started)
      (fun _ => ConnectedFirst proxy) (fun _ => ConnectedFirst proxy) := by
  have handshake {α : Type} {x : Dialing α} (adds : Program.Always (Adds DialEvent.OfHandshake) x) :
      Program.Triple (ConnectedFirst proxy) x (fun _ => ConnectedFirst proxy)
        (fun _ => ConnectedFirst proxy) := connectedFirst_of_adds adds fun _ kind => kind.later
  unfold secureConnection
  refine (handshake (.change fun w => ⟨[], by simp⟩)).bind fun _ => ?_
  refine ((remaining_moves trivial options started).triple
    fun _ _ first step => first.adds (fun _ kind => kind) step.events).bind fun _ => ?_
  refine (handshake (adds_of_tls (setTimeouts_moves _))).bind fun _ => ?_
  refine (handshake (initializeTls_adds platform answers)).bind fun status => ?_
  exact handshake (concludeTls_adds options _ status)

variable (platform) in
theorem dial_first (via : options.proxy = some proxy) (answers : TlsAnswers) (started : Nat) :
    Program.Triple (fun w => w.socket.clock = started ∧ w.events = []) (dial platform options answers)
      (fun _ => ConnectedFirst proxy) (fun _ => ConnectedFirst proxy) := by
  unfold dial
  refine Program.Triple.via (fun now w => w.socket.clock = now ∧ w.events = []) ?_ fun now => ?_
  · rintro w ⟨-, none⟩
    exact ⟨rfl, none⟩
  refine (remaining_unused now).bind fun milliseconds => ?_
  refine Program.Triple.via (fun _ w => w.events = []) (.change fun _ none => none) fun _ => ?_
  refine Program.Triple.via (fun _ => ConnectedFirst proxy) ?_ fun _ => ?_
  · rw [reach, via]
    refine (connectTo_first _).bind fun _ => connectedFirst_of_adds ?_ fun _ => DialEvent.OfProxy.later
    exact (socks5Handshake_moves platform proxy options now options.host options.port).weaken
      fun _ _ moves => moves.events
  · split
    · exact .pure fun _ first => first
    · exact secureConnection_first answers now

/-! ## The calls -/

/-- `Dial` is given the proxy, and in every run connects to the proxy first and to nothing else. -/
structure DialsProxy (platform : Platform) (options : DialOptions) (proxy : ProxyTarget) : Prop where
  handed : options.proxy = some proxy
  connects : ∀ answers socket,
    ConnectedFirst proxy ((dial platform options answers).run { socket := socket }).2

theorem dialsProxy_of_handed (via : options.proxy = some proxy) : DialsProxy platform options proxy where
  handed := via
  connects answers socket := by
    have ends := dial_first platform via answers socket.clock { socket := socket }
      ⟨rfl, rfl⟩
    rcases run : (dial platform options answers).run { socket := socket } with ⟨error | _, w⟩
    all_goals
      rw [run] at ends
      exact ends

namespace NetworkCall

variable {lua : LuaLibrary}

/-- The call dials the proxy that `ParseProxyUrl` makes of its option. -/
def KeepsToProxy (lua : LuaLibrary) (platform : Platform) (call : NetworkCall) (dial : DialOptions) :
    Prop :=
  ∃ url proxy, (call.optionTable.getField "proxy").toString? lua = some url ∧
    parseProxyUrl platform url = .ok proxy ∧ DialsProxy platform dial proxy

theorem keepsToProxy_iff {call : NetworkCall} (wellFormed : call.WellFormed lua)
    (given : (call.optionTable.getField "proxy").isNil = false) {dial : DialOptions}
    (reaches : dialOf lua platform call = .ok dial) :
    KeepsToProxy lua platform call dial ↔ call.isConnectWithPort = false ∧
      ∃ url, (call.optionTable.getField "proxy").toString? lua = some url ∧ url ≠ [] := by
  constructor
  · rintro ⟨url, proxy, text, parsed, dials⟩
    refine ⟨?_, url, text, fun none => parseProxyUrl_nil proxy (none ▸ parsed)⟩
    cases call with
    | hostPortTable entry host port table =>
        rcases hostPortTable_dialsFrom wellFormed.1 wellFormed.2.1 wellFormed.2.2 reaches with
          ⟨rfl, name, rfl⟩ | ⟨other, -⟩
        · exact nomatch dials.handed
        · cases entry <;> first | rfl | contradiction
    | _ => rfl
  · rintro ⟨reads, url, text, some_text⟩
    obtain ⟨options, read, same⟩ := dialOf_readFrom wellFormed reads reaches
    have string : requestString lua call.optionTable "proxy" = url := by rw [requestString, text]; rfl
    obtain ⟨proxy, parsed⟩ := read.parsed (string ▸ some_text)
    refine ⟨url, proxy, text, string ▸ parsed, dialsProxy_of_handed ?_⟩
    rw [same, read.proxy proxy parsed]

theorem keepsToProxy_iff_get :
    KeepsToProxy .whole .blank (.get (.string (ascii "http://h/")) (.table
      [(.string (ascii "proxy"), .string (ascii "socks5://p:1"))]))
      { host := wide "h", port := 80, proxy := some ⟨wide "p", 1, false, [], [], false⟩ } :=
  (keepsToProxy_iff (show NetworkCall.WellFormed .whole (.get _ (.table _)) from rfl) rfl
    (show dialOf .whole .blank (.get (.string (ascii "http://h/")) (.table
      [(.string (ascii "proxy"), .string (ascii "socks5://p:1"))])) = .ok _ by decide)).mpr
    ⟨rfl, ascii "socks5://p:1", rfl, by decide⟩

/-- `get("http://h/", {proxy = true})` connects to the target itself. -/
theorem keepsToProxy_dropped :
    dialOf .whole .blank (.get (.string (ascii "http://h/")) (.table
      [(.string (ascii "proxy"), .boolean true)])) = .ok { host := wide "h", port := 80 } ∧
    ((dial .blank { host := wide "h", port := 80 } {}).run { socket := {} }).2.events =
      [.connecting (wide "h") 80] ∧
    ¬ KeepsToProxy .whole .blank (.get (.string (ascii "http://h/")) (.table
      [(.string (ascii "proxy"), .boolean true)])) { host := wide "h", port := 80 } :=
  ⟨by decide, rfl, fun ⟨_, _, text, _⟩ => nomatch text⟩

end NetworkCall
end LuaXENetwork
