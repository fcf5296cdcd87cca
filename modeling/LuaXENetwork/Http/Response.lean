import LuaXENetwork.Text

namespace LuaXENetwork
open Library

abbrev HeaderList := List (Bytes × Bytes)

structure HttpResponse where
  body : Bytes := []
  rawHeaders : Bytes := []
  version : Bytes := []
  reason : Bytes := []
  headers : HeaderList := []
  status : Int := 0
  bytesReceived : Nat := 0
  elapsedMs : Int := 0
deriving DecidableEq, Repr

/-! ## `std::istringstream` extraction -/

/-- `>> std::string`: the word, and the stream after it; no word sets the fail bit. -/
def extractWord (stream : Bytes) : Option (Bytes × Bytes) :=
  let unspaced := stream.dropWhile isSpace
  if unspaced = [] then none
  else some (unspaced.takeWhile (!isSpace ·), unspaced.dropWhile (!isSpace ·))

/-- `>> int`: the number, and the stream after it. A text without digits reads as 0 and a number
out of range as the nearest `int`; both set the fail bit, which `none` in the stream stands for. -/
def extractInt (stream : Bytes) : Int × Option Bytes :=
  match readNumeral 10 stream with
  | none => (0, none)
  | some numeral =>
      let value : Int := if numeral.negative then -numeral.magnitude else numeral.magnitude
      if value < -2 ^ 31 then (-2 ^ 31, none)
      else if 2 ^ 31 ≤ value then (2 ^ 31 - 1, none)
      else (value, some (stream.drop numeral.used))

/-- `std::getline`. -/
def getLine (stream : Bytes) : Bytes := stream.takeWhile (· != 10)

structure StatusLine where
  version : Bytes
  status : Int
  reason : Bytes
deriving DecidableEq, Repr

/-- `status >> version >> status`, then `getline` into the reason. -/
def readStatusLine (line : Bytes) : StatusLine :=
  match extractWord line with
  | none => ⟨[], 0, []⟩
  | some (version, stream) =>
      match extractInt stream with
      | (status, none) => ⟨version, status, []⟩
      | (status, some stream) => ⟨version, status, getLine stream⟩

/-! ## The header block -/

def parseHeaderLine (line : Bytes) : Option (Bytes × Bytes) :=
  match find (ascii ":") line with
  | none => none
  | some colon => some (lowerAscii (trimAscii (line.take colon)), trimAscii (line.drop (colon + 1)))

def parseResponseHeaders (block : Bytes) (response : HttpResponse) : Except Bytes HttpResponse :=
  let firstEnd := find crlf block
  let statusLine := match firstEnd with
    | none => block
    | some finish => block.take finish
  let status := readStatusLine statusLine
  if ¬ ascii "HTTP/" <+: status.version ∨ status.status < 100 ∨ 999 < status.status then
    .error (ascii "invalid HTTP response status line: " ++ statusLine)
  else
    let rest := match firstEnd with
      | none => []
      | some finish => block.drop (finish + 2)
    .ok { response with
      rawHeaders := block
      version := status.version
      status := status.status
      reason := trimAscii status.reason
      headers := response.headers ++ (cursorLines rest).filterMap parseHeaderLine }

def responseHeader (response : HttpResponse) (name : Bytes) : Bytes :=
  match response.headers.find? (·.1 == name) with
  | none => []
  | some (_, value) => value

end LuaXENetwork
