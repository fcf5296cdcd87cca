import LuaXENetwork.Proof.Request.EntryPoints
import LuaXENetwork.Proof.Request.Url

/-! The `Host` values of `request` and `send` beside those of `get` and `download`. -/

namespace LuaXENetwork
open Library

/-- The `Host` value that `WebRequestImpl` gives the builder. -/
def requestHost (host : Bytes) (port : Int) : Bytes := host ++ ascii ":" ++ toText port

/-- Two `Host` values that an authority reader takes for the same endpoint. -/
def SameEndpoint (ssl : Bool) (left right : Bytes) : Prop :=
  ∃ host port, splitHttpAuthority left (defaultPort ssl) = .ok (host, port) ∧
    splitHttpAuthority right (defaultPort ssl) = .ok (host, port)

/-- No colon, and a bracket in front is closed at the end and not before. -/
def Unambiguous (host : Bytes) : Prop :=
  58 ∉ host ∧ (host.head? = some 91 → ∃ inside, 93 ∉ inside ∧ host = 91 :: inside ++ [93])

/-! ## Reading both back -/

section Reading

variable {host : Bytes} {port default : Int}

theorem requestHost_eq (host : Bytes) (port : Int) : requestHost host port = host ++ 58 :: toText port := by
  rw [requestHost, List.append_assoc]
  rfl

theorem Unambiguous.written (plain : Unambiguous host) : ∃ name, HostText name host := by
  by_cases opened : host.head? = some 91
  · obtain ⟨inside, closed, rfl⟩ := plain.2 opened
    exact ⟨inside, .literal closed⟩
  · exact ⟨host, .name plain.1 opened⟩

theorem SplitsInto.bracketed {authority : Bytes} (splits : SplitsInto default authority host port)
    (opened : authority.head? = some 91) :
    93 ∉ host ∧ ∃ behind, authority = 91 :: host ++ 93 :: behind ∧ ∀ b ∈ behind.head?, b = 58 := by
  cases splits with
  | bare written =>
      cases written with
      | name noColon unbracketed => exact absurd opened unbracketed
      | literal closed => exact ⟨closed, [], rfl, by simp⟩
  | @port _ text number _ written single read =>
      cases written with
      | name noColon unbracketed =>
          cases host with
          | nil => simp at opened
          | cons b host => exact absurd opened unbracketed
      | literal closed => exact ⟨closed, 58 :: number, by simp, by simp⟩
  | colons unbracketed several => exact absurd opened unbracketed

/-- The text before the first closing bracket. -/
theorem before_bracket {before before' after after' : Bytes} (absent : 93 ∉ before) (absent' : 93 ∉ before')
    (same : before ++ 93 :: after = before' ++ 93 :: after') : before = before' ∧ after = after' := by
  have first : find [93] (before ++ 93 :: after) = some before.length := find_append_cons absent [] after
  have second : find [93] (before' ++ 93 :: after') = some before'.length := find_append_cons absent' [] after'
  rw [same, second] at first
  obtain ⟨front, back⟩ := List.append_inj same (Option.some.inj first).symm
  exact ⟨front, (List.cons.inj back).2⟩

theorem sameEndpoint_of_unambiguous {ssl : Bool} {path : Bytes} (range : 1 ≤ port ∧ port ≤ 65535)
    (plain : Unambiguous host) :
    SameEndpoint ssl (requestHost host port) (httpHostHeader ⟨host, path, port, ssl⟩) := by
  obtain ⟨name, written⟩ := plain.written
  refine ⟨name, port, ?_, ?_⟩
  · rw [requestHost_eq]
    exact split_of_splitsInto (.port written (.inr (notMem_toText range.1 rfl)) (stoi_toText range))
  · rw [httpHostHeader_eq, if_neg plain.1]
    exact split_of_splitsInto (SplitsInto.printed ssl written range)

theorem unambiguous_of_sameEndpoint {ssl : Bool} {path : Bytes} (range : 1 ≤ port ∧ port ≤ 65535)
    (same : SameEndpoint ssl (requestHost host port) (httpHostHeader ⟨host, path, port, ssl⟩)) :
    Unambiguous host := by
  obtain ⟨name, port', first, second⟩ := same
  rw [requestHost_eq] at first
  rw [httpHostHeader_eq] at second
  have splits := splitsInto_of_split first
  by_cases opened : host.head? = some 91
  · obtain ⟨rest, rfl⟩ := List.head?_eq_some_iff.mp opened
    obtain ⟨absent, behind, whole, next⟩ := splits.bracketed rfl
    have tail : rest ++ 58 :: toText port = name ++ 93 :: behind := (List.cons.inj whole).2
    have digits : 93 ∉ toText port := notMem_toText range.1 rfl
    have closed : 93 ∈ rest := by
      have member : 93 ∈ rest ++ 58 :: toText port := by
        rw [tail]
        simp
      simpa [digits] using member
    obtain ⟨inside, after, rfl, early⟩ := List.eq_append_cons_of_mem closed
    have split : inside ++ 93 :: (after ++ 58 :: toText port) = name ++ 93 :: behind := by
      simpa using tail
    obtain ⟨rfl, rfl⟩ := before_bracket early absent split
    by_cases colon : 58 ∈ 91 :: (inside ++ 93 :: after)
    · simp only [if_pos colon] at second
      obtain ⟨-, behind, whole', -⟩ := (splitsInto_of_split second).bracketed rfl
      have split' : (91 :: inside) ++ 93 :: (after ++ 93 :: portSuffix ssl port) = inside ++ 93 :: behind := by
        simpa using (List.cons.inj whole').2
      have length := congrArg List.length (before_bracket (by simpa using early) absent split').1
      simp at length
    · refine ⟨colon, fun _ => ⟨inside, early, ?_⟩⟩
      cases after with
      | nil => rfl
      | cons b after =>
          obtain rfl : b = 58 := next b rfl
          simp at colon
  · refine ⟨fun colon => ?_, fun is => absurd is opened⟩
    have unbracketed : (host ++ 58 :: toText port).head? ≠ some 91 := by
      obtain ⟨b, bs, rfl⟩ := List.exists_cons_of_ne_nil (List.ne_nil_of_mem colon)
      simpa using opened
    have several : 1 < (host ++ 58 :: toText port).count 58 := by
      have one := List.count_pos_iff.mpr colon
      rw [List.count_append, List.count_cons_self]
      omega
    rw [split_colons unbracketed several] at first
    obtain ⟨rfl, rfl⟩ := Prod.mk.inj (Except.ok.inj first)
    simp only [if_pos colon] at second
    obtain ⟨-, behind, whole, -⟩ := (splitsInto_of_split second).bracketed rfl
    simp at whole

end Reading

/-! ## The requests -/

section Wire

variable {lua : LuaLibrary} {platform : Platform} {args : List LuaValue} {call : HttpCall}

/-- The host that a call of `request` or `send` names. -/
def requestedHost (lua : LuaLibrary) (args : List LuaValue) : Bytes :=
  if (argument args 1).isString then ((argument args 1).toString? lua).getD []
  else match (argument args 1).getField "host" with
    | .string host => cString host
    | _ => []

/-- The caller gave the whole request. -/
def SentVerbatim (lua : LuaLibrary) (args : List LuaValue) (request : Bytes) : Prop :=
  ∃ index, (argument args index).toString? lua = some request

def HostLine (request value : Bytes) : Prop :=
  ∃ before after, request = before ++ crlf ++ ascii "Host: " ++ value ++ crlf ++ after

theorem hostLine_built (line version headers body value : Bytes) :
    HostLine (line ++ (version ++ crlf) ++ ascii "Host: " ++ value ++ crlf ++ headers ++ body) value :=
  ⟨line ++ version, headers ++ body, by simp only [List.append_assoc]⟩

theorem requestBuilder_hostLine {value : LuaValue} {host request : Bytes}
    (built : requestBuilder lua host value = .ok request) :
    value.toString? lua = some request ∨ HostLine request host := by
  cases value with
  | string s => exact .inl (congrArg some (Except.ok.inj built))
  | number n => exact .inl (congrArg some (Except.ok.inj built))
  | table entries =>
      right
      simp only [requestBuilder, bind_eq_ok, pure_eq_ok] at built
      obtain ⟨headers, -, rfl⟩ := built
      cases (LuaValue.table entries).getField "version" <;> exact hostLine_built _ _ _ _ _
  | _ => cases built

theorem requestedHost_string (string : (argument args 1).isString = true) :
    requestedHost lua args = ((argument args 1).toString? lua).getD [] := by
  rw [requestedHost, if_pos string]

theorem requestedHost_table {host : Bytes} (table : (argument args 1).isTable = true)
    (field : hostField (argument args 1) = .ok host) : requestedHost lua args = host := by
  rw [requestedHost, NetworkCall.isString_of_isTable table, if_neg (by simp)]
  unfold hostField at field
  cases named : (argument args 1).getField "host" with
  | string name =>
      rw [named] at field
      exact Except.ok.inj field
  | _ =>
      rw [named] at field
      cases field

theorem webRequestImpl_hostLine {force : Bool} (built : webRequestImpl lua platform force args = .ok call) :
    SentVerbatim lua args call.request ∨ HostLine call.request (requestHost (requestedHost lua args) call.port) := by
  have wires {host request : Bytes} {port : Int} {index : Nat}
      (printed : requestBuilder lua (host ++ ascii ":" ++ toText port) (argument args index) = .ok request) :
      SentVerbatim lua args request ∨ HostLine request (requestHost host port) :=
    (requestBuilder_hostLine printed).imp (fun verbatim => ⟨index, verbatim⟩) id
  unfold webRequestImpl at built
  simp only at built
  by_cases string : (argument args 1).isString = true ∧ 1 < args.length
  · simp only [if_pos string, pure_bind, bind_eq_ok, pure_eq_ok] at built
    obtain ⟨request, printed, options, -, rfl⟩ := built
    rw [requestedHost_string string.1]
    exact wires printed
  · rw [if_neg string] at built
    by_cases table : (argument args 1).isTable = true
    · simp only [if_pos table, pure_bind, bind_eq_ok, pure_eq_ok] at built
      obtain ⟨host, field, request, printed, options, -, rfl⟩ := built
      rw [requestedHost_table table field]
      exact wires printed
    · rw [if_neg table] at built
      cases built

/-- The `Host` line of `request` and `send` names the endpoint that the one of `get` and `download` would, just
when the host has no colon and no bracket inside. -/
theorem hostValue_sameEndpoint_iff {force : Bool} (built : webRequestImpl lua platform force args = .ok call)
    (range : 1 ≤ call.port ∧ call.port ≤ 65535) :
    (SentVerbatim lua args call.request ∨
      HostLine call.request (requestHost (requestedHost lua args) call.port)) ∧
    ∀ ssl path, SameEndpoint ssl (requestHost (requestedHost lua args) call.port)
        (httpHostHeader ⟨requestedHost lua args, path, call.port, ssl⟩) ↔
      Unambiguous (requestedHost lua args) :=
  ⟨webRequestImpl_hostLine built, fun _ _ =>
    ⟨unambiguous_of_sameEndpoint range, sameEndpoint_of_unambiguous range⟩⟩

end Wire

theorem hostValue_sameEndpoint_name :
    ∃ call, webRequestDetailed .whole .blank [.string (ascii "h"), .number (.finite 8080), .table []] = .ok call ∧
      HostLine call.request (ascii "h:8080") ∧
      SameEndpoint false (ascii "h:8080") (httpHostHeader ⟨ascii "h", ascii "/", 8080, false⟩) := by
  refine ⟨_, rfl, ⟨ascii "GET / HTTP/1.1", ascii "Accept: */*\r\n\r\n", by decide⟩, ?_⟩
  have plain : Unambiguous (ascii "h") := ⟨by decide, fun opened => absurd opened (by decide)⟩
  exact ((hostValue_sameEndpoint_iff (show webRequestImpl .whole .blank true
    [.string (ascii "h"), .number (.finite 8080), .table []] = .ok _ from rfl) (by decide)).2 false _).mpr plain

/-- `request("::1", 443, {})` writes `Host: ::1:443`. -/
theorem hostValue_literal_unbracketed :
    (∃ call, webRequestDetailed .whole .blank [.string (ascii "::1"), .number (.finite 443), .table []] = .ok call ∧
      HostLine call.request (ascii "::1:443")) ∧
    splitHttpAuthority (ascii "::1:443") 443 = .ok (ascii "::1:443", 443) ∧
    splitHttpAuthority (httpHostHeader ⟨ascii "::1", ascii "/", 443, true⟩) 443 = .ok (ascii "::1", 443) ∧
    ¬ ∀ host port ssl path, 1 ≤ port → port ≤ 65535 →
      SameEndpoint ssl (requestHost host port) (httpHostHeader ⟨host, path, port, ssl⟩) := by
  refine ⟨⟨_, rfl, ascii "GET / HTTP/1.1", ascii "Accept: */*\r\n\r\n", by decide⟩, by decide, by decide, fun same => ?_⟩
  obtain ⟨host, port, first, second⟩ := same (ascii "::1") 443 true (ascii "/") (by decide) (by decide)
  have first' : splitHttpAuthority (ascii "::1:443") 443 = .ok (ascii "::1:443", 443) := by decide
  have second' : splitHttpAuthority (ascii "[::1]") 443 = .ok (ascii "::1", 443) := by decide
  obtain ⟨rfl, -⟩ := Prod.mk.inj (Except.ok.inj (first'.symm.trans first))
  have differ : ascii "::1" ≠ ascii "::1:443" := by decide
  exact differ (congrArg Prod.fst (Except.ok.inj (second'.symm.trans second)))

end LuaXENetwork
