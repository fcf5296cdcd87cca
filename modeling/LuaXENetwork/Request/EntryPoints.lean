import LuaXENetwork.Http.Builder
import LuaXENetwork.Request.Options

/-! The five functions that dial: `request`, `send`, `get`, `download` and `connect`. -/

namespace LuaXENetwork
open Library

/-- A call of `ResolveHttpRequest`. -/
structure HttpCall where
  host : WString
  port : Int
  request : Bytes
  options : HttpRequestOptions
deriving DecidableEq, Repr

section Arguments

variable (lua : LuaLibrary) (platform : Platform)

/-- `if (lua_isnumber(...)) Port = lua_tointeger(...)`. -/
def readPort (value : LuaValue) (fallback : Int) : Int :=
  if value.isNumber lua then toInt32 (value.toInteger lua) else fallback

/-- `luaL_checkstring`. -/
def checkString (args : List LuaValue) (index : Nat) : Except LuaFailure Bytes :=
  match (argument args index).toString? lua with
  | some text => .ok text
  | none => .error (.error (ascii "bad argument #" ++ toText index ++ ascii " (string expected)"))

/-- The `host` field of the table form. -/
def hostField (table : LuaValue) : Except LuaFailure Bytes :=
  match table.getField "host" with
  | .string host => .ok (cString host)
  | _ => .error (.error (ascii "request.host is not a string"))

def webRequestImpl (forceResponseTable : Bool) (args : List LuaValue) :
    Except LuaFailure HttpCall := do
  let first := argument args 1
  let second := argument args 2
  let (host, port, requestIndex) ←
    if first.isString = true ∧ 1 < args.length then
      let port :=
        if second.isNumber lua then readPort lua second 443
        else if second.isTable then readPort lua (second.getField "port") 443
        else 443
      let requestIndex :=
        if 3 ≤ args.length ∧ (argument args 3).isTable then 3
        else if second.isNumber lua = false ∧ second.isTable then 2
        else 0
      pure ((first.toString? lua).getD [], port, requestIndex)
    else if first.isTable then do
      let host ← hostField first
      pure (host, readPort lua (first.getField "port") 443, 1)
    else throw (.error (ascii "missing 'host' parameter"))
  let builderIndex := if requestIndex = 0 then args.length else requestIndex
  let request ←
    requestBuilder lua (host ++ ascii ":" ++ toText port) (argument args builderIndex)
  let options ← readOptions lua platform requestIndex (argument args requestIndex)
  return {
    host := wideFromUtf8 platform host
    port := port
    request := request
    options := { options with returnResponse := forceResponseTable || options.returnResponse } }

def webRequest (args : List LuaValue) : Except LuaFailure HttpCall :=
  webRequestImpl lua platform false args

def webRequestDetailed (args : List LuaValue) : Except LuaFailure HttpCall :=
  webRequestImpl lua platform true args

end Arguments

/-! ## URLs -/

structure ParsedHttpUrl where
  host : Bytes
  path : Bytes
  port : Int
  ssl : Bool
deriving DecidableEq, Repr

/-- The host and the port of an authority. -/
def splitHttpAuthority (authority : Bytes) (port : Int) : Except Bytes (Bytes × Int) :=
  if authority.head? = some 91 then
    match find (ascii "]") authority with
    | none => .error (ascii "invalid bracketed IPv6 URL")
    | some closing =>
        let host := (authority.take closing).drop 1
        if closing + 1 < authority.length then
          if authority[closing + 1]? = some 58 then do
            let port ← stoi (authority.drop (closing + 2))
            return (host, port)
          else .error (ascii "invalid URL authority")
        else .ok (host, port)
  else
    match findLast 58 authority with
    | none => .ok (authority, port)
    | some colon =>
        if find (ascii ":") authority = some colon then do
          let port ← stoi (authority.drop (colon + 1))
          return (authority.take colon, port)
        else .ok (authority, port)

def parseHttpUrl (url : Bytes) : Except Bytes ParsedHttpUrl := do
  let (ssl, rest) ←
    if ascii "http://" <+: url then pure (false, url.drop 7)
    else if ascii "https://" <+: url then pure (true, url.drop 8)
    else throw (ascii "URL must use http:// or https://")
  let (authority, path) := match find (ascii "/") rest with
    | none => (rest, ascii "/")
    | some slash => (rest.take slash, rest.drop slash)
  let (host, port) ← splitHttpAuthority authority (if ssl then 443 else 80)
  if host = [] ∨ port ≤ 0 ∨ 65535 < port then throw (ascii "invalid URL host or port")
  return ⟨host, path, port, ssl⟩

def httpHostHeader (target : ParsedHttpUrl) : Bytes :=
  let host :=
    if (find (ascii ":") target.host).isSome then ascii "[" ++ target.host ++ ascii "]"
    else target.host
  if (target.ssl = true ∧ target.port = 443) ∨ (target.ssl = false ∧ target.port = 80) then host
  else host ++ ascii ":" ++ toText target.port

section Simple

variable (lua : LuaLibrary) (platform : Platform)

/-- What `get` and `download` share: the URL, the options in a slot, and the request. -/
def simpleRequest (accept : String) (optionsSlot : Nat) (args : List LuaValue) (url : Bytes) :
    Except LuaFailure HttpCall := do
  let target ← match parseHttpUrl url with
    | .ok target => pure target
    | .error what => throw (.error what)
  let table := argument args optionsSlot
  let options ← readOptions lua platform (if table.isTable then optionsSlot else 0) table
  return {
    host := wideFromUtf8 platform target.host
    port := target.port
    request := ascii "GET " ++ target.path ++ ascii " HTTP/1.1" ++ crlf ++ ascii "Accept: "
      ++ ascii accept ++ crlf ++ ascii "Accept-Encoding: identity" ++ crlf
      ++ ascii "Connection: close" ++ crlf ++ ascii "Host: " ++ httpHostHeader target ++ headerEnd
    options := { options with ssl := some (options.ssl.getD target.ssl) } }

def webRequestSimpleGET (args : List LuaValue) : Except LuaFailure HttpCall := do
  let url ← checkString lua args 1
  simpleRequest lua platform "text/html" 2 args url

def webRequestSimpleDownload (args : List LuaValue) : Except LuaFailure HttpCall := do
  let url ← checkString lua args 1
  match parseHttpUrl url with
  | .error what => throw (.error what)
  | .ok _ => do
      let _localPath ← checkString lua args 2
      simpleRequest lua platform "*/*" 3 args url

/-! ## Connections -/

/-- What the constructor of `ConnectionContext` settles before its `Dial`. -/
structure ConnectCall where
  dial : DialOptions
  block : Bool
deriving DecidableEq, Repr

/-- The `block` field of an option table. -/
def blockField (table : LuaValue) : Bool :=
  match table.getField "block" with
  | .boolean block => block
  | _ => true

def connectionContext (args : List LuaValue) : Except LuaFailure ConnectCall := do
  let first := argument args 1
  let second := argument args 2
  let (host, port, block, optionsIndex) ←
    if first.isString = true ∧ 1 < args.length then
      let host := (first.toString? lua).getD []
      if second.isNumber lua then
        pure (host, readPort lua second 443, (argument args 3).toBoolean, 0)
      else if second.isTable then
        pure (host, readPort lua (second.getField "port") 443, blockField second, 2)
      else match second with
        | .boolean block => pure (host, 443, block, 0)
        | _ => pure (host, 443, true, 0)
    else if first.isTable then do
      let host ← hostField first
      pure (host, readPort lua (first.getField "port") 443, blockField first, 1)
    else throw (.error (ascii "missing 'host' parameter"))
  let options ← readOptions lua platform optionsIndex (argument args optionsIndex)
  return ⟨dialOptions (wideFromUtf8 platform host) port options, block⟩

end Simple

end LuaXENetwork
