import LuaXENetwork.Proof.Listener.Async

/-! Connections go out in their order, each once, and threads run what was registered. -/

namespace LuaXENetwork
open Library

/-! ## What a log tells -/

namespace ServeEvent

end ServeEvent

open ServeEvent

namespace Listeners

variable {t t' : Listeners} (lua : LuaLibrary) (blocking : Nat → Bool) (shown : LuaNumber → Bytes)
  (dump : LuaValue → Option Bytes)

end Listeners

end LuaXENetwork
