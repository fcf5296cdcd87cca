import LuaXENetwork.Lua
import LuaXENetwork.Dial.ProxyUrl

namespace LuaXENetwork

structure HttpRequestOptions where
  connectTimeoutMs : Int := 30000
  sendTimeoutMs : Int := 60000
  receiveTimeoutMs : Int := 300000
  totalTimeoutMs : Int := 0
  maxResponseBytes : Nat := 64 * 1024 * 1024
  bufferSize : Nat := 16384
  requestIndex : Nat := 0
  returnResponse : Bool := false
  ssl : Option Bool := none
  sni : WString := []
  caFile : Bytes := []
  tlsVerify : Bool := true
  tlsCheckRevocation : Bool := true
  proxy : Option ProxyTarget := none
deriving DecidableEq, Repr

def HttpRequestOptions.useSsl (options : HttpRequestOptions) (port : Int) : Bool :=
  options.ssl.getD (port == 443)

section Fields

variable (lua : LuaLibrary) (table : LuaValue) (name : String)

def requestInteger (fallback : Int) : Int :=
  if (table.getField name).isNumber lua then (table.getField name).toInteger lua else fallback

def requestOptionalBoolean : Option Bool :=
  match table.getField name with
  | .boolean b => some b
  | _ => none

def requestBoolean (fallback : Bool) : Bool := (requestOptionalBoolean table name).getD fallback

def requestString : Bytes := ((table.getField name).toString? lua).getD []

end Fields

/-- `ReadRequestOptions` on the argument in slot `index`; slot 0 means there is no table. -/
def readRequestOptions (lua : LuaLibrary) (platform : Platform) (index : Nat) (table : LuaValue) :
    Except DialError HttpRequestOptions :=
  if index = 0 ∨ table.isTable = false then .ok {}
  else do
    let options : HttpRequestOptions := {}
    let connectTimeoutMs :=
      toInt32 (requestInteger lua table "connect_timeout_ms" options.connectTimeoutMs)
    let sendTimeoutMs := toInt32 (requestInteger lua table "send_timeout_ms" options.sendTimeoutMs)
    let receiveTimeoutMs :=
      toInt32 (requestInteger lua table "receive_timeout_ms" options.receiveTimeoutMs)
    let receiveTimeoutMs := toInt32 (requestInteger lua table "read_timeout_ms" receiveTimeoutMs)
    let receiveTimeoutMs := toInt32 (requestInteger lua table "timeout_ms" receiveTimeoutMs)
    let totalTimeoutMs := toInt32 (requestInteger lua table "total_timeout_ms" options.totalTimeoutMs)
    let proxyUrl := requestString lua table "proxy"
    let proxy ← if proxyUrl = [] then pure none else some <$> parseProxyUrl platform proxyUrl
    return {
      connectTimeoutMs := max 1000 connectTimeoutMs
      sendTimeoutMs := max 1000 sendTimeoutMs
      receiveTimeoutMs := max 1000 receiveTimeoutMs
      totalTimeoutMs := max 0 totalTimeoutMs
      maxResponseBytes :=
        (max 1 (requestInteger lua table "max_response_bytes" options.maxResponseBytes)).toNat
      bufferSize :=
        (min (max (requestInteger lua table "buffer_size" options.bufferSize) 1024) 1048576).toNat
      requestIndex := index
      returnResponse := requestBoolean table "return_response" false
      ssl := requestOptionalBoolean table "ssl"
      sni := wideFromUtf8 platform (requestString lua table "sni")
      caFile := requestString lua table "ca_file"
      tlsVerify := requestBoolean table "tls_verify" true
      tlsCheckRevocation := requestBoolean table "tls_revoke" true
      proxy := proxy }

/-- `ReadOptions`: what `ReadRequestOptions` throws becomes a Lua error. -/
def readOptions (lua : LuaLibrary) (platform : Platform) (index : Nat) (table : LuaValue) :
    Except LuaFailure HttpRequestOptions :=
  match readRequestOptions lua platform index table with
  | .ok options => .ok options
  | .error error => .error (.error error.message)

/-- The `DialOptions` that `ResolveHttpRequest` and `ConnectionContext` fill in. -/
def dialOptions (host : WString) (port : Int) (options : HttpRequestOptions) : DialOptions where
  host := host
  port := (port % 65536).toNat
  ssl := options.useSsl port
  sni := options.sni
  proxy := options.proxy
  caFile := options.caFile
  tlsVerify := options.tlsVerify
  tlsCheckRevocation := options.tlsCheckRevocation
  connectTimeoutMs := options.connectTimeoutMs
  totalTimeoutMs := options.totalTimeoutMs

end LuaXENetwork
