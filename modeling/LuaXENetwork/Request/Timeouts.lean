import LuaXENetwork.Http.Exchange
import LuaXENetwork.Socket.BaseSock

/-! The timeouts that `ResolveHttpRequest` gives to its socket. -/

namespace LuaXENetwork

def timeoutSeconds (milliseconds : Int) : Int :=
  max 1 ((toInt32 (milliseconds + 999)).tdiv 1000)

section Timeouts

variable (options : HttpRequestOptions) (elapsedMs : Int) (s : BaseSock)

def armSend : Except Bytes BaseSock := do
  let sendTimeout ← boundedTimeout options options.sendTimeoutMs elapsedMs
  return s.setSendTimeoutSeconds (timeoutSeconds sendTimeout)

def armReceive : Except Bytes BaseSock := do
  let receiveTimeout ← boundedTimeout options options.receiveTimeoutMs elapsedMs
  return s.setRecvTimeoutSeconds (timeoutSeconds receiveTimeout)

end Timeouts

end LuaXENetwork
