import LuaXENetwork.Proof.Request.EntryPoints

/-! The port that a call names, and the port that it dials. -/

namespace LuaXENetwork
open Library NetworkCall

/-- The value that `request`, `send` and `connect` take for the port. -/
def portArgument (lua : LuaLibrary) (args : List LuaValue) : LuaValue :=
  let first := argument args 1
  let second := argument args 2
  if first.isString = true ∧ 1 < args.length then
    if second.isNumber lua then second
    else if second.isTable then second.getField "port"
    else .nil
  else first.getField "port"

/-- The slot that the call reads its options from, 0 if from none. -/
def optionsSlot (lua : LuaLibrary) (args : List LuaValue) (entry : EntryPoint) : Nat :=
  let second := argument args 2
  if (argument args 1).isString = true ∧ 1 < args.length then
    if entry ≠ .connect ∧ 3 ≤ args.length ∧ (argument args 3).isTable then 3
    else if second.isNumber lua = false ∧ second.isTable then 2
    else 0
  else 1

/-- The option table has no boolean `ssl`. -/
def SslUnsaid (lua : LuaLibrary) (args : List LuaValue) (entry : EntryPoint) : Prop :=
  ∀ b, (argument args (optionsSlot lua args entry)).getField "ssl" ≠ .boolean b

/-- Both ports are the integer, and it is 443 only with TLS. -/
structure PortKept (dial : DialOptions) (v : Int) : Prop where
  port : (dial.port : Int) = v
  tls : dial.port = 443 → dial.ssl = true

section Calls

variable {lua : LuaLibrary} {platform : Platform} {args : List LuaValue}

theorem readOptions_unsaid {index : Nat} {options : HttpRequestOptions}
    (unsaid : ∀ b, (argument args index).getField "ssl" ≠ .boolean b)
    (read : readOptions lua platform index (argument args index) = .ok options) : options.ssl = none := by
  rw [readOptions_ok] at read
  by_cases given : index ≠ 0 ∧ (argument args index).isTable = true
  · rw [(readRequestOptions_readFrom given.1 given.2 read).ssl, requestOptionalBoolean]
    cases said : (argument args index).getField "ssl" with
    | boolean b => exact absurd said (unsaid b)
    | _ => rfl
  · rw [readRequestOptions, if_pos (by simpa [Classical.or_iff_not_imp_left] using given)] at read
    obtain rfl := Except.ok.inj read
    rfl

theorem readPort_nil : readPort lua .nil 443 = 443 := rfl

/-- The dial options of a call are on the port of its argument, and say nothing of TLS. -/
def DialsPort (lua : LuaLibrary) (args : List LuaValue) (dial : DialOptions) : Prop :=
  ∃ host options, options.ssl = none ∧
    dial = dialOptions host (readPort lua (portArgument lua args) 443) options

theorem DialsPort.of_read {entry : EntryPoint} {index : Nat} {host : WString} {port : Int}
    (options : HttpRequestOptions) (unsaid : SslUnsaid lua args entry)
    (read : readOptions lua platform index (argument args index) = .ok options)
    (slot : index = optionsSlot lua args entry)
    (same : port = readPort lua (portArgument lua args) 443) :
    DialsPort lua args (dialOptions host port options) :=
  ⟨host, options, readOptions_unsaid (slot ▸ unsaid) read, by rw [same]⟩

theorem connectionContext_port {call : ConnectCall} (unsaid : SslUnsaid lua args .connect)
    (h : connectionContext lua platform args = .ok call) : DialsPort lua args call.dial := by
  unfold connectionContext at h
  simp only at h
  split_ifs at h with string number second first
  · simp only [pure_bind, bind_eq_ok, pure_eq_ok] at h
    obtain ⟨options, read, rfl⟩ := h
    exact .of_read options unsaid read (by simp [optionsSlot, string, number])
      (by simp [portArgument, string, number])
  · simp only [pure_bind, bind_eq_ok, pure_eq_ok] at h
    obtain ⟨options, read, rfl⟩ := h
    exact .of_read options unsaid read (by simp [optionsSlot, string, number, second])
      (by simp [portArgument, string, number, second])
  · have none : portArgument lua args = .nil := by simp [portArgument, string, number, second]
    split at h
    all_goals
      simp only [pure_bind, bind_eq_ok, pure_eq_ok] at h
      obtain ⟨options, read, rfl⟩ := h
      exact .of_read options unsaid read (by simp [optionsSlot, string, second]) (by rw [none, readPort_nil])
  · simp only [pure_bind, bind_eq_ok, pure_eq_ok] at h
    obtain ⟨name, -, options, read, rfl⟩ := h
    exact .of_read options unsaid read (by rw [optionsSlot, if_neg string]) (by rw [portArgument, if_neg string])
  · cases h

theorem webRequestImpl_port {entry : EntryPoint} (http : entry ≠ .connect) {force : Bool}
    {call : HttpCall} (unsaid : SslUnsaid lua args entry)
    (h : webRequestImpl lua platform force args = .ok call) : DialsPort lua args (dialOfHttp call) := by
  unfold webRequestImpl at h
  simp only at h
  by_cases string : (argument args 1).isString = true ∧ 1 < args.length
  · simp only [if_pos string, pure_bind, bind_eq_ok, pure_eq_ok] at h
    obtain ⟨request, -, options, read, rfl⟩ := h
    refine DialsPort.of_read options unsaid read ?_ ?_
    · simp only [optionsSlot, if_pos string, ne_eq, http, not_false_eq_true, true_and]
    · rw [portArgument, if_pos string]
      split_ifs <;> rfl
  · rw [if_neg string] at h
    split_ifs at h
    · simp only [pure_bind, bind_eq_ok, pure_eq_ok] at h
      obtain ⟨name, -, request, -, options, read, rfl⟩ := h
      exact DialsPort.of_read options unsaid read (by rw [optionsSlot, if_neg string])
        (by rw [portArgument, if_neg string])
    · cases h

theorem dialOfEntry_port {entry : EntryPoint} {dial : DialOptions} (unsaid : SslUnsaid lua args entry)
    (reaches : dialOfEntry lua platform args entry = .ok dial) : DialsPort lua args dial := by
  cases entry with
  | request =>
      obtain ⟨call, built, rfl⟩ := map_eq_ok.mp reaches
      exact webRequestImpl_port (by decide) unsaid built
  | send =>
      obtain ⟨call, built, rfl⟩ := map_eq_ok.mp reaches
      exact webRequestImpl_port (by decide) unsaid built
  | connect =>
      obtain ⟨call, built, rfl⟩ := map_eq_ok.mp reaches
      exact connectionContext_port unsaid built

end Calls

/-! ## Which integers are ports -/

theorem toInteger_port {v : Int} (port : 0 ≤ v ∧ v ≤ 65535) :
    toInt32 (LuaNumber.finite v).toInteger = v := by
  have whole : (LuaNumber.finite v).toInteger = v := by
    simp only [LuaNumber.toInteger, Rat.floor_intCast, Rat.ceil_intCast, ite_self]
    rw [if_pos (by omega)]
  rw [whole, toInt32]
  omega

/-- A call keeps to the port that it is given, and to TLS on port 443, just when it is given a port. -/
theorem portKept_iff {lua : LuaLibrary} {platform : Platform} {args : List LuaValue} {entry : EntryPoint}
    {dial : DialOptions} {v : Int} (unsaid : SslUnsaid lua args entry)
    (given : (portArgument lua args).number? lua = some (.finite v))
    (reaches : dialOfEntry lua platform args entry = .ok dial) :
    PortKept dial v ↔ 0 ≤ v ∧ v ≤ 65535 := by
  obtain ⟨host, options, unset, rfl⟩ := dialOfEntry_port unsaid reaches
  have read : readPort lua (portArgument lua args) 443 = toInt32 (LuaNumber.finite v).toInteger := by
    simp [readPort, LuaValue.isNumber, LuaValue.toInteger, given]
  constructor
  · intro kept
    have port := kept.port
    simp only [dialOptions] at port
    omega
  · intro inside
    rw [read, toInteger_port inside]
    refine ⟨?_, fun https => ?_⟩
    · simp only [dialOptions]
      omega
    · have same : v = 443 := by
        simp only [dialOptions] at https
        omega
      simp [dialOptions, HttpRequestOptions.useSsl, unset, same]

/-- `request("h", 65979, {})` goes to port 443 without TLS. -/
theorem port_wraps_to_https :
    dialOfEntry .whole .blank [.string (ascii "h"), .number (.finite 65979), .table []] .request =
      .ok { host := wide "h", port := 443, ssl := false } ∧
    ¬ PortKept { host := wide "h", port := 443, ssl := false } 65979 :=
  ⟨by decide, fun kept => absurd kept.port (by decide)⟩

theorem portKept_https : PortKept { host := wide "h", port := 443, ssl := true } 443 :=
  (portKept_iff
    (show SslUnsaid .whole [.string (ascii "h"), .number (.finite 443)] .connect by intro b said; cases said) rfl
    (show dialOfEntry .whole .blank [.string (ascii "h"), .number (.finite 443)] .connect =
      .ok { host := wide "h", port := 443, ssl := true } by decide)).mpr (by decide)

end LuaXENetwork
