import LuaXENetwork.Proof.Socket.BaseSock
import LuaXENetwork.Proof.Dial.Causes

/-! Which errors of the connect and of the SOCKS5 conversation tell what has happened. -/

namespace LuaXENetwork
open Library Dialing

/-! ## The SOCKS5 conversation -/

def DialEvent.Steady : DialEvent → Prop
  | .expired | .writeFailed _ | .checked .. => False
  | _ => True

def Steady (w : DialWorld) : Prop := ∀ event ∈ w.events, event.Steady

section Socks5

variable {call : DialCall} {w : DialWorld} {error : DialError}

theorem Steady.right (steady : Steady w) (connected : call.connect.1 = true) : ¬ Misreported call w := by
  intro wrong
  cases wrong with
  | proxyConnect error proxy failed => exact nomatch connected.symm.trans failed.1
  | connect error failed known => exact nomatch connected.symm.trans failed.1
  | budget expired => exact steady _ expired
  | unsent what failed => exact steady _ failed
  | chain verifier certificate answer refused misjudged => exact steady _ refused

theorem Steady.snoc (steady : Steady w) {event : DialEvent} (fine : event.Steady) :
    Steady { w with events := w.events ++ [event] } := by
  intro other member
  rcases List.mem_append.mp member with before | now
  · exact steady other before
  · exact List.mem_singleton.mp now ▸ fine

theorem bracketed {code : String} {message : Bytes}
    (starts : ascii "[" ++ ascii code ++ ascii "] " <+: message) : Bracketed ⟨code, message⟩ := starts

variable {options : DialOptions} {started : Nat}

section Stages

variable {proxy : ProxyTarget} (via : call.options.proxy = some proxy) (connected : call.connect.1 = true)
  (options : DialOptions) (started : Nat)

include via connected

def Accepted (addressType : UInt8) (w : DialWorld) : Prop :=
  Steady w ∧ ∃ data, LastIs (.received "CONNECT reply" data) w ∧ data.length = 4 ∧
    data.getD 1 0 = 0x00 ∧ data.getD 3 0 = addressType

end Stages

end Socks5

/-! ## Connecting -/

section Connect

variable {call : DialCall} {w : DialWorld}

end Connect

end LuaXENetwork
