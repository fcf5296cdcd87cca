import LuaXENetwork.Dial.Options

/-! The names a certificate carries, read out of its DER. -/

namespace LuaXENetwork

/-- `PCCERT_CONTEXT`: the encoded bytes, and what lies behind them in memory. -/
structure Certificate where
  readable : Bool := true
  encoded : Bytes
  beyond : Bytes := []
deriving DecidableEq, Repr

namespace Certificate

/-- The byte at an offset from `pbCertEncoded`. -/
def byteAt (certificate : Certificate) (offset : Nat) : UInt8 :=
  (certificate.encoded ++ certificate.beyond).getD offset 0

def contents (certificate : Certificate) (offset size : Nat) : Bytes :=
  (List.range size).map fun index => certificate.byteAt (offset + index)

end Certificate

/-- Where the content of a tag-length-value starts and how long it is. -/
structure Tlv where
  content : Nat
  size : Nat
deriving DecidableEq, Repr

/-- The names found, and the walk that `VerifyName` reports. -/
structure AltNames where
  dnsNames : List WString := []
  ipNames : List Bytes := []
  trace : Bytes := []
deriving DecidableEq, Repr

def AltNames.note (names : AltNames) (text : Bytes) : AltNames :=
  { names with trace := names.trace ++ text }

def readTlv (certificate : Certificate) (start available : Nat) : Option Tlv :=
  let upTo (offset length : Nat) : Option Tlv :=
    if available < offset + 1 + length then none
    else some { content := start + offset + 1, size := length }
  if available < 2 then none
  else
    let first := (certificate.byteAt (start + 1)).toNat
    if first < 128 then upTo 1 first
    else
      let count := first - 128
      if count = 0 ∨ 4 < count ∨ available < 1 + count + 1 then none
      else upTo (1 + count) ((certificate.contents (start + 2) count).foldl
        (fun length byte => length * 256 + byte.toNat) 0)

/-- The bytes begin with the encoded identifier. -/
def isOid (certificate : Certificate) (start size : Nat) (encoded : Bytes) : Bool :=
  encoded.length ≤ size && certificate.contents start encoded.length == encoded

def fromAscii (text : Bytes) : WString := text.map UInt8.toUInt16

def ipText (platform : Platform) (bytes : Bytes) : Bytes :=
  if bytes.length = 4 ∨ bytes.length = 16 then (platform.inetNtop bytes).getD [] else []

/-- The loop of `ReadGeneralNames`. -/
def readNames (platform : Platform) (certificate : Certificate) (cursor left : Nat)
    (names : AltNames) : AltNames :=
  if left = 0 then names
  else match readTlv certificate cursor left with
    | none => names
    | some entry =>
        let consumed := entry.content + entry.size - cursor
        if consumed = 0 ∨ left < consumed then names
        else
          let tag := certificate.byteAt cursor
          let text := certificate.contents entry.content entry.size
          let names := if tag = 0x82 then { names with dnsNames := names.dnsNames ++ [fromAscii text] }
            else if tag = 0x87 then
              { names with ipNames := names.ipNames ++ [ipText platform text] }
            else names
          readNames platform certificate (entry.content + entry.size) (left - consumed) names
termination_by left

def readGeneralNames (platform : Platform) (certificate : Certificate) (start available : Nat)
    (names : AltNames) : AltNames :=
  match readTlv certificate start available with
  | none => names
  | some sequence =>
      if certificate.byteAt start ≠ 0x30 then names
      else readNames platform certificate sequence.content sequence.size names

/-- The value of a subjectAltName extension: behind the identifier, perhaps behind a BOOLEAN. -/
def readSanValue (platform : Platform) (certificate : Certificate) (next finish : Nat)
    (names : AltNames) : Bool × AltNames :=
  match readTlv certificate next (finish - next) with
  | none => (false, names.note (ascii " san value unreadable"))
  | some first =>
      let next := if certificate.byteAt first.content = 0x01 then first.content + first.size else next
      match readTlv certificate next (finish - next) with
      | none => (false, names.note (ascii " san not an octet string"))
      | some value =>
          if certificate.byteAt next ≠ 0x04 then
            (false, names.note (ascii " san not an octet string"))
          else
            let names := readGeneralNames platform certificate value.content value.size names
            (true, names.note (ascii " san" ++ toText names.dnsNames.length ++ ascii "/"
              ++ toText names.ipNames.length))

def sanOid : Bytes := [0x55, 0x1D, 0x11]

/-- `ReadSanExtension`: the loop over the extensions. -/
def readSanExtension (platform : Platform) (certificate : Certificate) (cursor left index : Nat)
    (names : AltNames) : Bool × AltNames :=
  if left = 0 then
    (false, names.note (ascii " san not among " ++ toText index ++ ascii " extensions"))
  else match readTlv certificate cursor left with
    | none => (false, names.note (ascii " ext" ++ toText index ++ ascii " unreadable"))
    | some extension =>
        let consumed := extension.content + extension.size - cursor
        if consumed = 0 ∨ left < consumed then
          (false, names.note (ascii " ext" ++ toText index ++ ascii " bad size"))
        else match readTlv certificate extension.content extension.size with
          | none => (false, names.note (ascii " ext" ++ toText index ++ ascii " oid unreadable"))
          | some oid =>
              let names := names.note (ascii " x" ++ toText index ++ ascii "/"
                ++ toText (certificate.byteAt cursor).toNat ++ ascii "/" ++ toText oid.size)
              if isOid certificate oid.content oid.size sanOid then
                readSanValue platform certificate (oid.content + oid.size)
                  (extension.content + extension.size) names
              else
                readSanExtension platform certificate (extension.content + extension.size)
                  (left - consumed) (index + 1) names
termination_by left

/-- The loop of `ReadAltNames` over the fields of the TBSCertificate. -/
def readFields (platform : Platform) (certificate : Certificate) (cursor left fields : Nat)
    (names : AltNames) : Bool × AltNames :=
  if left = 0 then
    (false, names.note (ascii " no [3] among " ++ toText fields ++ ascii " fields"))
  else match readTlv certificate cursor left with
    | none => (false, names.note (ascii " field " ++ toText fields ++ ascii " unreadable"))
    | some field =>
        let consumed := field.content + field.size - cursor
        if consumed = 0 ∨ left < consumed then
          (false, names.note (ascii " field " ++ toText fields ++ ascii " bad size"))
        else
          let tag := certificate.byteAt cursor
          let names := names.note (ascii " f" ++ toText fields ++ ascii "=" ++ toText tag.toNat)
          if tag = 0xA3 then
            match readTlv certificate field.content field.size with
            | none => (false, names.note (ascii " extensions unreadable"))
            | some extensions =>
                readSanExtension platform certificate extensions.content extensions.size 0
                  (names.note (ascii " ext" ++ toText extensions.size))
          else
            readFields platform certificate (field.content + field.size) (left - consumed)
              (fields + 1) names
termination_by left

def readAltNames (platform : Platform) (certificate : Certificate) : Bool × AltNames :=
  if !certificate.readable then (false, AltNames.note {} (ascii "no encoded bytes"))
  else match readTlv certificate 0 certificate.encoded.length with
    | none => (false, AltNames.note {} (ascii "outer unreadable"))
    | some outer =>
        match readTlv certificate outer.content outer.size with
        | none => (false, AltNames.note {} (ascii "tbs unreadable"))
        | some tbs =>
            readFields platform certificate tbs.content tbs.size 0
              (AltNames.note {} (ascii "outer " ++ toText outer.size ++ ascii " tbs "
                ++ toText tbs.size))

/-! ## Comparing names -/

/-- `LowerAscii` after the cast of a UTF-16 unit to `char`. -/
def lowerUnit (unit : UInt16) : UInt8 := lowerByte unit.toUInt8

def asciiEqualsInsensitive (left right : WString) : Bool :=
  left.length = right.length && left.map lowerUnit == right.map lowerUnit

def matchesWildcard (host pattern : WString) : Bool :=
  let suffix := pattern.drop 1
  let label := host.take (host.length - suffix.length)
  if pattern.length < 3 ∨ pattern.take 2 ≠ [42, 46] then false
  else if host.length ≤ suffix.length then false
  else if 46 ∉ host then false
  else if !asciiEqualsInsensitive (host.drop (host.length - suffix.length)) suffix then false
  else if label = [] ∨ 42 ∈ label then false
  else 46 ∉ label

def canonicalIp (platform : Platform) (host : WString) : Bytes :=
  let narrow := utf8 platform host
  if narrow = [] then []
  else match platform.inetPton .inet (cString narrow) with
    | some address => (platform.inetNtop address).getD []
    | none => match platform.inetPton .inet6 (cString narrow) with
      | some address => (platform.inetNtop address).getD []
      | none => []

def isIpLiteral (platform : Platform) (host : WString) : Bool := canonicalIp platform host ≠ []

end LuaXENetwork
