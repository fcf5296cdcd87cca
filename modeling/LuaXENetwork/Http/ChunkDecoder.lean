import LuaXENetwork.Text

namespace LuaXENetwork
open Library

structure HttpChunkDecoder where
  buffer : Bytes
  remaining : Option Nat
  finished : Bool
  maximum : Nat
deriving DecidableEq, Repr

namespace HttpChunkDecoder

def fresh (maximum : Nat) : HttpChunkDecoder := ⟨[], none, false, maximum⟩

def complete (d : HttpChunkDecoder) : Bool := d.finished

/-- The part of a size line before its extension. -/
def sizeText (line : Bytes) : Bytes :=
  let text := trimAscii line
  trimAscii (match find (ascii ";") text with
    | none => text
    | some extension => text.take extension)

/-- The size that a size line announces; zero ends the body. -/
def chunkSize (maximum : Nat) (line : Bytes) : Except Bytes Nat :=
  if sizeText line = [] then .error (ascii "empty HTTP chunk size")
  else match stoull 16 (sizeText line) with
    | .error what => .error what
    | .ok (size, used) =>
        if used ≠ (sizeText line).length then
          .error (ascii "invalid HTTP chunk size: " ++ sizeText line)
        else if maximum < size then .error (ascii "HTTP chunk exceeds max_response_bytes")
        else .ok size

/-- The `while (!finished)` loop of `Feed`. -/
def drain (d : HttpChunkDecoder) : Except Bytes (List Bytes × HttpChunkDecoder) :=
  if d.finished then .ok ([], d)
  else match d.remaining with
    | none =>
        match _found : find crlf d.buffer with
        | none => .ok ([], d)
        | some lineEnd =>
            match chunkSize d.maximum (d.buffer.take lineEnd) with
            | .error what => .error what
            | .ok 0 => .ok ([], { d with buffer := d.buffer.drop (lineEnd + 2), finished := true })
            | .ok (size + 1) =>
                drain { d with buffer := d.buffer.drop (lineEnd + 2), remaining := some (size + 1) }
    | some size =>
        if d.buffer.length < sizeT (size + 2) then .ok ([], d)
        else if _ends : (d.buffer.drop size).take 2 = crlf then do
          let (chunks, d') ← drain { d with buffer := d.buffer.drop (size + 2), remaining := none }
          return (d.buffer.take size :: chunks, d')
        else .error (ascii "HTTP chunk missing terminator")
termination_by d.buffer.length
decreasing_by
  · have := add_length_le_of_find _found
    simp only [List.length_drop, crlf, List.length_cons, List.length_nil] at *
    omega
  · have := congrArg List.length _ends
    simp only [List.length_take, List.length_drop, crlf, List.length_cons, List.length_nil] at *
    omega

def feed (d : HttpChunkDecoder) (data : Bytes) : Except Bytes (List Bytes × HttpChunkDecoder) :=
  if sizeT (d.maximum + 1024 * 1024) < (d.buffer ++ data).length then
    .error (ascii "chunked response exceeded max_response_bytes while buffering")
  else drain { d with buffer := d.buffer ++ data }

/-- One `Feed` per piece, as the receive loop calls it; the first throw ends it. -/
def feedAll (d : HttpChunkDecoder) : List Bytes → Except Bytes (List Bytes × HttpChunkDecoder)
  | [] => .ok ([], d)
  | piece :: pieces => do
      let (chunks, d') ← feed d piece
      let (later, d'') ← feedAll d' pieces
      return (chunks ++ later, d'')

end HttpChunkDecoder
end LuaXENetwork
