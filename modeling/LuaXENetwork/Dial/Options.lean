import LuaXENetwork.Platform

namespace LuaXENetwork

structure ProxyTarget where
  host : WString
  port : Nat
  remoteDns : Bool
  user : Bytes
  password : Bytes
  hasCredentials : Bool
deriving DecidableEq, Repr

structure DialOptions where
  host : WString := []
  port : Nat := 80
  ssl : Bool := false
  sni : WString := []
  proxy : Option ProxyTarget := none
  caFile : Bytes := []
  tlsVerify : Bool := true
  tlsCheckRevocation : Bool := true
  connectTimeoutMs : Int := 30000
  totalTimeoutMs : Int := 0
deriving DecidableEq, Repr

structure DialError where
  code : String
  message : Bytes
deriving DecidableEq, Repr

/-- `Utf8` and `WideFromUtf8`, which answer an empty text themselves. -/
def utf8 (platform : Platform) (text : WString) : Bytes :=
  if text = [] then [] else platform.wideCharToMultiByte text

def wideFromUtf8 (platform : Platform) (text : Bytes) : WString :=
  if text = [] then [] else platform.multiByteToWideChar text

end LuaXENetwork
