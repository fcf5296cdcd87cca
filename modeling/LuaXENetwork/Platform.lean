import LuaXENetwork.Text

namespace LuaXENetwork

/-! Error codes of Win32 and Winsock. -/

def errorTimeout : Nat := 1460
def errorInvalidHandle : Nat := 6
def wsaIoPending : Nat := 997
def wsaIoIncomplete : Nat := 996
def wsaeWouldBlock : Nat := 10035
def wsaeConnReset : Nat := 10054
def wsaeTimedOut : Nat := 10060

inductive AddressFamily where
  | inet
  | inet6
  | other
deriving DecidableEq, Repr

/-- One result of `GetAddrInfoW`: its family and the bytes of its address, if it has one. -/
structure AddrInfo where
  family : AddressFamily
  address : Option Bytes
deriving DecidableEq, Repr

/-- The Win32 functions whose answers depend on their arguments alone during one call. -/
structure Platform where
  multiByteToWideChar : Bytes → WString
  wideCharToMultiByte : WString → Bytes
  inetPtonW : WString → Option Bytes
  inetPton : AddressFamily → Bytes → Option Bytes
  inetNtop : Bytes → Option Bytes
  getAddrInfoW : WString → Option (List AddrInfo)
  formatMessage : Nat → Option Bytes

/-- A machine that knows no names and no messages. -/
def Platform.blank : Platform where
  multiByteToWideChar text := text.map fun b => b.toUInt16
  wideCharToMultiByte text := text.map fun c => c.toUInt8
  inetPtonW _ := none
  inetPton _ _ := none
  inetNtop _ := none
  getAddrInfoW _ := none
  formatMessage _ := none

end LuaXENetwork
