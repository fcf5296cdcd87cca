import LuaXENetwork.Library.Except
import LuaXENetwork.Request.EntryPoints

namespace LuaXENetwork
open Library

/-! ## The call forms -/

inductive EntryPoint where
  | request
  | send
  | connect
deriving DecidableEq

/-- The calls that take an option table. -/
inductive NetworkCall where
  | hostPortTable (entry : EntryPoint) (host port table : LuaValue)
  | hostTable (entry : EntryPoint) (host table : LuaValue)
  | tableOnly (entry : EntryPoint) (table : LuaValue)
  | get (url table : LuaValue)
  | download (url path table : LuaValue)

namespace NetworkCall

/-- The arguments are of the kinds that make the call the form it is. -/
def WellFormed (lua : LuaLibrary) : NetworkCall → Prop
  | hostPortTable _ host port table =>
      host.isString = true ∧ port.isNumber lua = true ∧ table.isTable = true
  | hostTable _ host table => host.isString = true ∧ table.isTable = true
  | tableOnly _ table => table.isTable = true
  | get _ table => table.isTable = true
  | download _ _ table => table.isTable = true

def optionTable : NetworkCall → LuaValue
  | hostPortTable _ _ _ table | hostTable _ _ table | tableOnly _ table | get _ table
  | download _ _ table => table

section Dial

variable (lua : LuaLibrary) (platform : Platform)

def dialOfHttp (call : HttpCall) : DialOptions := dialOptions call.host call.port call.options

def dialOfEntry (args : List LuaValue) : EntryPoint → Except LuaFailure DialOptions
  | .request => dialOfHttp <$> webRequestDetailed lua platform args
  | .send => dialOfHttp <$> webRequest lua platform args
  | .connect => ConnectCall.dial <$> connectionContext lua platform args

/-- The `DialOptions` that the call hands to `Dial`, if it comes that far. -/
def dialOf : NetworkCall → Except LuaFailure DialOptions
  | hostPortTable entry host port table => dialOfEntry lua platform [host, port, table] entry
  | hostTable entry host table => dialOfEntry lua platform [host, table] entry
  | tableOnly entry table => dialOfEntry lua platform [table] entry
  | get url table => dialOfHttp <$> webRequestSimpleGET lua platform [url, table]
  | download url path table => dialOfHttp <$> webRequestSimpleDownload lua platform [url, path, table]

/-- Whether the call uses TLS when its table does not say: the scheme of the URL, else port 443. -/
def defaultSsl : NetworkCall → Bool
  | hostPortTable _ _ port _ => readPort lua port 443 == 443
  | hostTable _ _ table => readPort lua (table.getField "port") 443 == 443
  | tableOnly _ table => readPort lua (table.getField "port") 443 == 443
  | get url _ | download url _ _ =>
      match parseHttpUrl ((url.toString? lua).getD []) with
      | .ok target => target.ssl
      | .error _ => true

/-- What the option table asks for is what `Dial` is asked for. -/
structure HonoursOptions (call : NetworkCall) (dial : DialOptions) : Prop where
  ssl : ∀ b, call.optionTable.getField "ssl" = .boolean b → dial.ssl = b
  sslAbsent : call.optionTable.getField "ssl" = .nil → dial.ssl = call.defaultSsl lua
  proxy : ∀ target, parseProxyUrl platform (requestString lua call.optionTable "proxy") = .ok target →
    dial.proxy = some target
  sni : dial.sni = wideFromUtf8 platform (requestString lua call.optionTable "sni")
  caFile : dial.caFile = requestString lua call.optionTable "ca_file"
  tlsVerify : dial.tlsVerify = requestBoolean call.optionTable "tls_verify" true

/-- `connect(host, port, table)`. -/
def isConnectWithPort : NetworkCall → Bool
  | hostPortTable .connect _ _ _ => true
  | _ => false

/-- The option table asks for nothing but what a call without one does. -/
structure AsksForDefaults (call : NetworkCall) : Prop where
  ssl : ∀ b, call.optionTable.getField "ssl" = .boolean b → b = call.defaultSsl lua
  proxy : ∀ target, parseProxyUrl platform (requestString lua call.optionTable "proxy") ≠ .ok target
  sni : wideFromUtf8 platform (requestString lua call.optionTable "sni") = []
  caFile : requestString lua call.optionTable "ca_file" = []
  tlsVerify : requestBoolean call.optionTable "tls_verify" true = true

end Dial

/-! ## Where the options come from -/

section Forms

variable {lua : LuaLibrary} {platform : Platform}

theorem readOptions_ok {index : Nat} {table : LuaValue} {options : HttpRequestOptions} :
    readOptions lua platform index table = .ok options ↔
      readRequestOptions lua platform index table = .ok options := by
  unfold readOptions
  cases readRequestOptions lua platform index table <;> simp

/-- What the option table decides of the dial options. -/
structure ReadFrom (lua : LuaLibrary) (platform : Platform) (table : LuaValue)
    (options : HttpRequestOptions) : Prop where
  ssl : options.ssl = requestOptionalBoolean table "ssl"
  proxy : ∀ target, parseProxyUrl platform (requestString lua table "proxy") = .ok target →
    options.proxy = some target
  parsed : requestString lua table "proxy" ≠ [] →
    ∃ target, parseProxyUrl platform (requestString lua table "proxy") = .ok target
  sni : options.sni = wideFromUtf8 platform (requestString lua table "sni")
  caFile : options.caFile = requestString lua table "ca_file"
  tlsVerify : options.tlsVerify = requestBoolean table "tls_verify" true

theorem parseProxyUrl_nil (target : ProxyTarget) : parseProxyUrl platform [] ≠ .ok target := by
  intro accepted
  simp [parseProxyUrl, lowerAscii, ascii] at accepted

theorem readRequestOptions_readFrom {index : Nat} {table : LuaValue} {options : HttpRequestOptions}
    (given : index ≠ 0) (isTable : table.isTable = true)
    (h : readRequestOptions lua platform index table = .ok options) :
    ReadFrom lua platform table options := by
  unfold readRequestOptions at h
  rw [if_neg (by simp [given, isTable])] at h
  simp only at h
  by_cases none : requestString lua table "proxy" = []
  · simp only [none, if_true, pure_bind, pure_eq_ok] at h
    subst h
    exact {
      ssl := rfl
      proxy := fun target accepted => absurd (none ▸ accepted) (parseProxyUrl_nil target)
      parsed := fun given => absurd none given
      sni := rfl
      caFile := rfl
      tlsVerify := rfl }
  · simp only [if_neg none, bind_eq_ok, map_eq_ok, pure_eq_ok] at h
    obtain ⟨proxy, ⟨target, parsed, rfl⟩, rfl⟩ := h
    exact {
      ssl := rfl
      proxy := fun other accepted => by rw [Except.ok.inj (parsed.symm.trans accepted)]
      parsed := fun _ => ⟨target, parsed⟩
      sni := rfl
      caFile := rfl
      tlsVerify := rfl }

/-- The dial options are those of the option table, on the port of the call. -/
def DialsFrom (lua : LuaLibrary) (platform : Platform) (table : LuaValue) (port : Int)
    (dial : DialOptions) : Prop :=
  ∃ host options, ReadFrom lua platform table options ∧ dial = dialOptions host port options

theorem dialsFrom_of_read {table : LuaValue} {index : Nat} {options : HttpRequestOptions}
    (given : index ≠ 0) (isTable : table.isTable = true)
    (read : readOptions lua platform index table = .ok options) (host : WString) (port : Int) :
    DialsFrom lua platform table port (dialOptions host port options) :=
  ⟨host, options, readRequestOptions_readFrom given isTable (readOptions_ok.mp read), rfl⟩

theorem isNumber_of_isTable (lua : LuaLibrary) {table : LuaValue} (isTable : table.isTable = true) :
    table.isNumber lua = false := by
  cases table <;> first | rfl | nomatch isTable

theorem isString_of_isTable {table : LuaValue} (isTable : table.isTable = true) :
    table.isString = false := by
  cases table <;> first | rfl | nomatch isTable

theorem webRequestImpl_hostPortTable {force : Bool} {call : HttpCall} {host port table : LuaValue}
    (isString : host.isString = true) (isNumber : port.isNumber lua = true)
    (isTable : table.isTable = true)
    (h : webRequestImpl lua platform force [host, port, table] = .ok call) :
    DialsFrom lua platform table (readPort lua port 443) (dialOfHttp call) := by
  simp [webRequestImpl, argument, isString, isNumber, isTable] at h
  obtain ⟨request, _, options, read, rfl⟩ := h
  exact dialsFrom_of_read (by decide) isTable read _ _

theorem webRequestImpl_hostTable {force : Bool} {call : HttpCall} {host table : LuaValue}
    (isString : host.isString = true) (isTable : table.isTable = true)
    (h : webRequestImpl lua platform force [host, table] = .ok call) :
    DialsFrom lua platform table (readPort lua (table.getField "port") 443) (dialOfHttp call) := by
  simp [webRequestImpl, argument, isString, isTable, isNumber_of_isTable lua isTable] at h
  obtain ⟨request, _, options, read, rfl⟩ := h
  exact dialsFrom_of_read (by decide) isTable read _ _

theorem webRequestImpl_table {force : Bool} {call : HttpCall} {table : LuaValue}
    (isTable : table.isTable = true) (h : webRequestImpl lua platform force [table] = .ok call) :
    DialsFrom lua platform table (readPort lua (table.getField "port") 443) (dialOfHttp call) := by
  simp [webRequestImpl, argument, isString_of_isTable isTable, isTable] at h
  obtain ⟨host, _, request, _, options, read, rfl⟩ := h
  exact dialsFrom_of_read (by decide) isTable read _ _

theorem connectionContext_hostTable {call : ConnectCall} {host table : LuaValue}
    (isString : host.isString = true) (isTable : table.isTable = true)
    (h : connectionContext lua platform [host, table] = .ok call) :
    DialsFrom lua platform table (readPort lua (table.getField "port") 443) call.dial := by
  simp [connectionContext, argument, isString, isTable, isNumber_of_isTable lua isTable] at h
  obtain ⟨options, read, rfl⟩ := h
  exact dialsFrom_of_read (by decide) isTable read _ _

theorem connectionContext_table {call : ConnectCall} {table : LuaValue}
    (isTable : table.isTable = true) (h : connectionContext lua platform [table] = .ok call) :
    DialsFrom lua platform table (readPort lua (table.getField "port") 443) call.dial := by
  simp [connectionContext, argument, isString_of_isTable isTable, isTable] at h
  obtain ⟨host, _, options, read, rfl⟩ := h
  exact dialsFrom_of_read (by decide) isTable read _ _

theorem connectionContext_hostPortTable {call : ConnectCall} {host port table : LuaValue}
    (isString : host.isString = true) (isNumber : port.isNumber lua = true)
    (h : connectionContext lua platform [host, port, table] = .ok call) :
    ∃ name, call.dial = dialOptions name (readPort lua port 443) {} := by
  simp [connectionContext, argument, isString, isNumber, readOptions, readRequestOptions] at h
  subst h
  exact ⟨_, rfl⟩

theorem simpleRequest_dialsFrom {accept : String} {slot : Nat} (args : List LuaValue) {url : Bytes}
    {call : HttpCall} (given : slot ≠ 0) (isTable : (argument args slot).isTable = true)
    (h : simpleRequest lua platform accept slot args url = .ok call) :
    ∃ target options host, parseHttpUrl url = .ok target ∧
      ReadFrom lua platform (argument args slot) options ∧
      dialOfHttp call = dialOptions host target.port
        { options with ssl := some (options.ssl.getD target.ssl) } := by
  simp only [simpleRequest, isTable, if_true] at h
  cases parsed : parseHttpUrl url with
  | error what => simp [parsed] at h
  | ok target =>
      simp only [parsed, pure_bind, bind_eq_ok, pure_eq_ok] at h
      obtain ⟨options, read, rfl⟩ := h
      exact ⟨target, options, _, rfl,
        readRequestOptions_readFrom given isTable (readOptions_ok.mp read), rfl⟩

/-! ## Every form but one honours its table -/

/-- The options are on their way to `Dial` as they were read, and TLS has its default. -/
theorem honoursOptions_of_read {call : NetworkCall} {options : HttpRequestOptions} {dial : DialOptions}
    (read : ReadFrom lua platform call.optionTable options)
    (ssl : dial.ssl = options.ssl.getD (call.defaultSsl lua)) (proxy : dial.proxy = options.proxy)
    (sni : dial.sni = options.sni) (caFile : dial.caFile = options.caFile)
    (tlsVerify : dial.tlsVerify = options.tlsVerify) : HonoursOptions lua platform call dial where
  ssl b given := by
    rw [ssl, read.ssl, requestOptionalBoolean, given]
    rfl
  sslAbsent absent := by
    rw [ssl, read.ssl, requestOptionalBoolean, absent]
    rfl
  proxy target parsed := proxy.trans (read.proxy target parsed)
  sni := sni.trans read.sni
  caFile := caFile.trans read.caFile
  tlsVerify := tlsVerify.trans read.tlsVerify

theorem honoursOptions_of_dialsFrom {call : NetworkCall} {port : Int} {dial : DialOptions}
    (from_ : DialsFrom lua platform call.optionTable port dial)
    (default : call.defaultSsl lua = (port == 443)) : HonoursOptions lua platform call dial := by
  obtain ⟨host, options, read, rfl⟩ := from_
  refine honoursOptions_of_read read ?_ rfl rfl rfl rfl
  rw [default]
  rfl

theorem honoursOptions_of_simple {call : NetworkCall} {target : ParsedHttpUrl} {host : WString}
    {options : HttpRequestOptions} {dial : DialOptions}
    (read : ReadFrom lua platform call.optionTable options)
    (dials : dial = dialOptions host target.port
      { options with ssl := some (options.ssl.getD target.ssl) })
    (default : call.defaultSsl lua = target.ssl) : HonoursOptions lua platform call dial := by
  subst dials
  refine honoursOptions_of_read read ?_ rfl rfl rfl rfl
  rw [default]
  rfl

theorem honoursOptions_default {call : NetworkCall} {host : WString} {port : Int}
    (default : call.defaultSsl lua = (port == 443)) :
    HonoursOptions lua platform call (dialOptions host port {}) ↔ AsksForDefaults lua platform call := by
  constructor
  · intro honours
    exact {
      ssl := fun b given => by rw [default]; exact (honours.ssl b given).symm
      proxy := fun target accepted => nomatch honours.proxy target accepted
      sni := honours.sni.symm
      caFile := honours.caFile.symm
      tlsVerify := honours.tlsVerify.symm }
  · intro asks
    exact {
      ssl := fun b given => by rw [asks.ssl b given, default]; rfl
      sslAbsent := fun _ => default.symm
      proxy := fun target accepted => absurd accepted (asks.proxy target)
      sni := asks.sni.symm
      caFile := asks.caFile.symm
      tlsVerify := asks.tlsVerify.symm }

theorem checkString_ok {args : List LuaValue} {index : Nat} {text : Bytes}
    (h : checkString lua args index = .ok text) :
    ((argument args index).toString? lua).getD [] = text := by
  unfold checkString at h
  cases given : (argument args index).toString? lua with
  | none => simp [given] at h
  | some s => simpa [given] using h

theorem get_readFrom {url table : LuaValue} {dial : DialOptions}
    (isTable : table.isTable = true) (h : dialOf lua platform (.get url table) = .ok dial) :
    ∃ (target : ParsedHttpUrl) (options : HttpRequestOptions) (host : WString), defaultSsl lua (.get url table) = target.ssl ∧
      ReadFrom lua platform table options ∧ dial = dialOptions host target.port
        { options with ssl := some (options.ssl.getD target.ssl) } := by
  simp only [dialOf, webRequestSimpleGET, map_eq_ok, bind_eq_ok] at h
  obtain ⟨call, ⟨text, checked, simple⟩, rfl⟩ := h
  obtain ⟨target, options, host, parsed, read, dials⟩ :=
    simpleRequest_dialsFrom [url, table] (by decide) (show (argument _ 2).isTable = true from isTable)
      simple
  refine ⟨target, options, host, ?_, read, dials⟩
  have text' : (url.toString? lua).getD [] = text := checkString_ok checked
  rw [defaultSsl, text', parsed]

theorem download_readFrom {url path table : LuaValue} {dial : DialOptions}
    (isTable : table.isTable = true) (h : dialOf lua platform (.download url path table) = .ok dial) :
    ∃ (target : ParsedHttpUrl) (options : HttpRequestOptions) (host : WString), defaultSsl lua (.download url path table) = target.ssl ∧
      ReadFrom lua platform table options ∧ dial = dialOptions host target.port
        { options with ssl := some (options.ssl.getD target.ssl) } := by
  simp only [dialOf, webRequestSimpleDownload, map_eq_ok, bind_eq_ok] at h
  obtain ⟨call, ⟨text, checked, simple⟩, rfl⟩ := h
  have text' : (url.toString? lua).getD [] = text := checkString_ok checked
  cases parses : parseHttpUrl text with
  | error what => simp [parses] at simple
  | ok _ =>
      simp only [parses, bind_eq_ok] at simple
      obtain ⟨localPath, _, simple⟩ := simple
      obtain ⟨target, options, host, parsed, read, dials⟩ :=
        simpleRequest_dialsFrom [url, path, table] (by decide)
          (show (argument _ 3).isTable = true from isTable) simple
      refine ⟨target, options, host, ?_, read, dials⟩
      rw [defaultSsl, text', parsed]

theorem hostTable_dialsFrom {entry : EntryPoint} {host table : LuaValue} {dial : DialOptions}
    (isString : host.isString = true) (isTable : table.isTable = true)
    (h : dialOf lua platform (.hostTable entry host table) = .ok dial) :
    DialsFrom lua platform table (readPort lua (table.getField "port") 443) dial := by
  cases entry
  all_goals
    simp only [dialOf, dialOfEntry, webRequest, webRequestDetailed, map_eq_ok] at h
    obtain ⟨call, built, rfl⟩ := h
  · exact webRequestImpl_hostTable isString isTable built
  · exact webRequestImpl_hostTable isString isTable built
  · exact connectionContext_hostTable isString isTable built

theorem tableOnly_dialsFrom {entry : EntryPoint} {table : LuaValue} {dial : DialOptions}
    (isTable : table.isTable = true) (h : dialOf lua platform (.tableOnly entry table) = .ok dial) :
    DialsFrom lua platform table (readPort lua (table.getField "port") 443) dial := by
  cases entry
  all_goals
    simp only [dialOf, dialOfEntry, webRequest, webRequestDetailed, map_eq_ok] at h
    obtain ⟨call, built, rfl⟩ := h
  · exact webRequestImpl_table isTable built
  · exact webRequestImpl_table isTable built
  · exact connectionContext_table isTable built

theorem hostPortTable_dialsFrom {entry : EntryPoint} {host port table : LuaValue} {dial : DialOptions}
    (isString : host.isString = true) (isNumber : port.isNumber lua = true)
    (isTable : table.isTable = true)
    (h : dialOf lua platform (.hostPortTable entry host port table) = .ok dial) :
    (entry = .connect ∧ ∃ name, dial = dialOptions name (readPort lua port 443) {}) ∨
      (entry ≠ .connect ∧ DialsFrom lua platform table (readPort lua port 443) dial) := by
  cases entry
  all_goals
    simp only [dialOf, dialOfEntry, webRequest, webRequestDetailed, map_eq_ok] at h
    obtain ⟨call, built, rfl⟩ := h
  · exact .inr ⟨by simp, webRequestImpl_hostPortTable isString isNumber isTable built⟩
  · exact .inr ⟨by simp, webRequestImpl_hostPortTable isString isNumber isTable built⟩
  · exact .inl ⟨rfl, connectionContext_hostPortTable isString isNumber built⟩

theorem dialOf_readFrom {call : NetworkCall} (wellFormed : call.WellFormed lua)
    (reads : call.isConnectWithPort = false) {dial : DialOptions}
    (reaches : dialOf lua platform call = .ok dial) :
    ∃ options, ReadFrom lua platform call.optionTable options ∧ dial.proxy = options.proxy := by
  have of_dialsFrom {port : Int} (from_ : DialsFrom lua platform call.optionTable port dial) :
      ∃ options, ReadFrom lua platform call.optionTable options ∧ dial.proxy = options.proxy := by
    obtain ⟨host, options, read, rfl⟩ := from_
    exact ⟨options, read, rfl⟩
  cases call with
  | hostPortTable entry host port table =>
      rcases hostPortTable_dialsFrom wellFormed.1 wellFormed.2.1 wellFormed.2.2 reaches with
        ⟨rfl, -⟩ | ⟨-, from_⟩
      · nomatch reads
      · exact of_dialsFrom from_
  | hostTable entry host table => exact of_dialsFrom (hostTable_dialsFrom wellFormed.1 wellFormed.2 reaches)
  | tableOnly entry table => exact of_dialsFrom (tableOnly_dialsFrom wellFormed reaches)
  | get url table =>
      obtain ⟨target, options, host, -, read, rfl⟩ := get_readFrom wellFormed reaches
      exact ⟨options, read, rfl⟩
  | download url path table =>
      obtain ⟨target, options, host, -, read, rfl⟩ := download_readFrom wellFormed reaches
      exact ⟨options, read, rfl⟩

/-- A call honours its option table just when it is not `connect(host, port, table)` or its table
asks for nothing but the defaults. -/
theorem honoursOptions_iff {call : NetworkCall} (wellFormed : call.WellFormed lua)
    {dial : DialOptions} (reaches : dialOf lua platform call = .ok dial) :
    HonoursOptions lua platform call dial ↔
      call.isConnectWithPort = false ∨ AsksForDefaults lua platform call := by
  cases call with
  | hostPortTable entry host port table =>
      rcases hostPortTable_dialsFrom wellFormed.1 wellFormed.2.1 wellFormed.2.2 reaches with
        ⟨rfl, name, rfl⟩ | ⟨other, from_⟩
      · rw [honoursOptions_default rfl]
        simp [isConnectWithPort]
      · refine iff_of_true (honoursOptions_of_dialsFrom from_ rfl) (.inl ?_)
        cases entry <;> first | rfl | contradiction
  | hostTable entry host table =>
      have from_ := hostTable_dialsFrom wellFormed.1 wellFormed.2 reaches
      exact iff_of_true (honoursOptions_of_dialsFrom from_ rfl) (.inl rfl)
  | tableOnly entry table =>
      have from_ := tableOnly_dialsFrom wellFormed reaches
      exact iff_of_true (honoursOptions_of_dialsFrom from_ rfl) (.inl rfl)
  | get url table =>
      obtain ⟨target, options, host, default, read, dials⟩ := get_readFrom wellFormed reaches
      exact iff_of_true (honoursOptions_of_simple read dials default) (.inl rfl)
  | download url path table =>
      obtain ⟨target, options, host, default, read, dials⟩ := download_readFrom wellFormed reaches
      exact iff_of_true (honoursOptions_of_simple read dials default) (.inl rfl)

end Forms

section Witnesses

theorem honoursOptions_iff_get :
    HonoursOptions .whole .blank (.get (.string (ascii "http://h/")) (.table
      [(.string (ascii "ssl"), .boolean true)]))
      (dialOptions (Platform.blank.multiByteToWideChar (ascii "h")) 80 { ssl := some true }) :=
  (honoursOptions_iff (show NetworkCall.WellFormed .whole (.get _ (.table _)) from rfl)
    (show dialOf .whole .blank (.get (.string (ascii "http://h/"))
    (.table [(.string (ascii "ssl"), .boolean true)])) = .ok _ by decide)).mpr (.inl rfl)

/-- `connect("example.com", 8443, {ssl = true})` dials without TLS. -/
theorem honoursOptions_connect_dropped :
    dialOf .whole .blank (.hostPortTable .connect (.string (ascii "example.com"))
      (.number (.finite 8443)) (.table [(.string (ascii "ssl"), .boolean true)])) =
      .ok { host := wide "example.com", port := 8443, ssl := false } ∧
    ¬ HonoursOptions .whole .blank (.hostPortTable .connect (.string (ascii "example.com"))
      (.number (.finite 8443)) (.table [(.string (ascii "ssl"), .boolean true)]))
      { host := wide "example.com", port := 8443, ssl := false } :=
  ⟨by decide, fun honours => nomatch honours.ssl true rfl⟩

end Witnesses

end NetworkCall
end LuaXENetwork
