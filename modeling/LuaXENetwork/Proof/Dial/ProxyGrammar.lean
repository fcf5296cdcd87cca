import LuaXENetwork.Proof.Dial.ProxyUrl

/-! The grammar of proxy URLs. -/

namespace LuaXENetwork
open Library

/-! ## The grammar -/

/-- Percent-encoded bytes, and what they stand for. -/
inductive Escaped : Bytes → Bytes → Prop
  | nil : Escaped [] []
  | plain {character : UInt8} {text decoded : Bytes} (unescaped : character ≠ 37) (rest : Escaped text decoded) :
      Escaped (character :: text) (character :: decoded)
  | escape {high low : UInt8} {text decoded : Bytes} (first : isDigit 16 high = true)
      (second : isDigit 16 low = true) (rest : Escaped text decoded) :
      Escaped (37 :: high :: low :: text) (UInt8.ofNat (fromDigits 16 [high, low]) :: decoded)

/-- `user[:password]@` or nothing; the user ends at the first colon. -/
inductive Userinfo : Bytes → Option (Bytes × Bytes) → Prop
  | absent : Userinfo [] none
  | user {text user : Bytes} (noAt : 64 ∉ text) (noColon : 58 ∉ text) (escaped : Escaped text user)
      (bounded : Bounded user []) : Userinfo (text ++ [64]) (some (user, []))
  | password {text word user password : Bytes} (noAt : 64 ∉ text) (noAt' : 64 ∉ word) (noColon : 58 ∉ text)
      (escaped : Escaped text user) (escaped' : Escaped word password) (bounded : Bounded user password) :
      Userinfo (text ++ 58 :: word ++ [64]) (some (user, password))

/-- `[host]`, or a host that does not begin with a bracket. -/
inductive Authority : Bytes → Bytes → Prop
  | bracketed {host : Bytes} (open_inside : 93 ∉ host) : Authority (91 :: host ++ [93]) host
  | plain {host : Bytes} (unbracketed : host.head? ≠ some 91) : Authority host host

/-- One to five decimal digits. -/
structure PortText (text : Bytes) (port : Nat) : Prop where
  given : text ≠ []
  short : text.length ≤ 5
  digits : ∀ digit ∈ text, isDigit 10 digit = true
  value : fromDigits 10 text = port
  positive : 1 ≤ port
  le : port ≤ 65535

/-- What stands behind the scheme. -/
inductive BehindScheme (platform : Platform) (remoteDns : Bool) : Bytes → ProxyTarget → Prop
  | mk {userinfo authority host portText : Bytes} {credentials : Option (Bytes × Bytes)} {port : Nat}
      (userinfo_reads : Userinfo userinfo credentials) (authority_reads : Authority authority host)
      (named : host ≠ []) (noAt : 64 ∉ authority) (port_reads : PortText portText port) :
      BehindScheme platform remoteDns (userinfo ++ authority ++ 58 :: portText) {
        host := wideFromUtf8 platform host
        port := port
        remoteDns := remoteDns
        user := (credentials.map (·.1)).getD []
        password := (credentials.map (·.2)).getD []
        hasCredentials := credentials.isSome }

/-- The schemes are `socks5://` and `socks5h://` in any case. -/
def ProxyUrl (platform : Platform) (url : Bytes) (target : ProxyTarget) : Prop :=
  ∃ scheme rest remoteDns, url = scheme ++ rest ∧
    lowerAscii scheme = ascii (if remoteDns then "socks5h://" else "socks5://") ∧
    BehindScheme platform remoteDns rest target

/-! ## Percent-encoding -/

theorem hexDigit_eq (character : UInt8) : hexDigit character = (digitValue 16 character).map UInt8.ofNat := by
  have each : ∀ n : Fin 256, hexDigit (UInt8.ofNat n) = (digitValue 16 (UInt8.ofNat n)).map UInt8.ofNat := by
    decide +kernel
  simpa using each ⟨character.toNat, character.toNat_lt⟩

theorem digitValue_lt {base value : Nat} {digit : UInt8} (read : digitValue base digit = some value) :
    value < base := by
  simpa using (Option.filter_eq_some_iff.mp read).2

theorem hexByte_eq {high low h l : UInt8} (first : hexDigit high = some h) (second : hexDigit low = some l) :
    h <<< 4 ||| l = UInt8.ofNat (fromDigits 16 [high, low]) := by
  have each : ∀ a b : Fin 16, UInt8.ofNat a <<< 4 ||| UInt8.ofNat b = UInt8.ofNat (a.val * 16 + b.val) := by
    decide
  rw [hexDigit_eq, Option.map_eq_some_iff] at first second
  obtain ⟨a, first, rfl⟩ := first
  obtain ⟨b, second, rfl⟩ := second
  have value : fromDigits 16 [high, low] = a * 16 + b := by simp [fromDigits, first, second]
  rw [value]
  exact each ⟨a, digitValue_lt first⟩ ⟨b, digitValue_lt second⟩

theorem isDigit_hex {character : UInt8} : isDigit 16 character = true ↔ ∃ digit, hexDigit character = some digit := by
  rw [isDigit, hexDigit_eq, ← Option.isSome_iff_exists, Option.isSome_map]

theorem escaped_of_decode {text decoded : Bytes} (decodes : percentDecode text = .ok decoded) :
    Escaped text decoded := by
  fun_induction percentDecode text generalizing decoded with
  | case1 =>
      obtain rfl := Except.ok.inj decodes
      exact .nil
  | case2 high low rest h l second first ih =>
      obtain ⟨more, behind, same⟩ := bind_eq_ok.mp decodes
      obtain rfl := Except.ok.inj same
      rw [hexByte_eq first second]
      exact .escape (isDigit_hex.mpr ⟨h, first⟩) (isDigit_hex.mpr ⟨l, second⟩) (ih behind)
  | case3 => cases decodes
  | case4 => cases decodes
  | case5 character rest plain ih =>
      obtain ⟨more, behind, same⟩ := bind_eq_ok.mp decodes
      obtain rfl := Except.ok.inj same
      exact .plain plain (ih behind)

theorem decode_of_escaped {text decoded : Bytes} (escaped : Escaped text decoded) :
    percentDecode text = .ok decoded := by
  induction escaped with
  | nil => rfl
  | @plain character text decoded unescaped rest ih =>
      rw [percentDecode.eq_def]
      split
      · contradiction
      · rename_i same
        exact absurd (List.cons.inj same).1 unescaped
      · rename_i same
        obtain ⟨rfl, rfl⟩ := List.cons.inj same
        rw [ih]
        rfl
  | escape first second rest ih =>
      obtain ⟨h, first⟩ := isDigit_hex.mp first
      obtain ⟨l, second⟩ := isDigit_hex.mp second
      rw [percentDecode, first, second, ih, ← hexByte_eq first second]
      rfl

/-! ## The parts -/

theorem bounded_iff {user password : Bytes} :
    checkUserinfo user password = .ok (user, password) ↔ Bounded user password := by
  constructor
  · exact checkUserinfo_bounded
  · rintro ⟨given, short, short'⟩
    unfold checkUserinfo
    rw [if_neg]
    · rfl
    · simp only [not_or, Nat.not_lt]
      exact ⟨given, short, short'⟩

theorem checkUserinfo_same {name word user password : Bytes}
    (checked : checkUserinfo name word = .ok (user, password)) : name = user ∧ word = password := by
  unfold checkUserinfo at checked
  split at checked
  · exact absurd checked nofun
  · exact Prod.mk.inj (Except.ok.inj checked)

theorem parseUserinfo_of_colon {text word : Bytes} (noColon : 58 ∉ text) :
    parseUserinfo (text ++ 58 :: word) = (do
      let user ← percentDecode text
      let password ← percentDecode word
      checkUserinfo user password) := by
  have found : find (ascii ":") (text ++ 58 :: word) = some text.length := find_append_cons noColon [] word
  rw [parseUserinfo, found]
  simp [checkUserinfo]

theorem parseUserinfo_of_none {text : Bytes} (noColon : 58 ∉ text) :
    parseUserinfo text = (do
      let user ← percentDecode text
      checkUserinfo user []) := by
  have absent : find (ascii ":") text = none := find_eq_none_of_head_notMem noColon []
  rw [parseUserinfo, absent]
  simp [checkUserinfo]

theorem userinfo_of_parse {userinfo user password : Bytes} (noAt : 64 ∉ userinfo)
    (parsed : parseUserinfo userinfo = .ok (user, password)) :
    Userinfo (userinfo ++ [64]) (some (user, password)) := by
  have bounded := parseUserinfo_bounded parsed
  by_cases colon : 58 ∈ userinfo
  · obtain ⟨i, found⟩ := Option.ne_none_iff_exists'.mp (mt find_letter_none.mp (not_not.mpr colon))
    obtain ⟨text, word, rfl, noColon, -⟩ := find_letter_some.mp found
    rw [parseUserinfo_of_colon noColon] at parsed
    obtain ⟨name, first, parsed⟩ := bind_eq_ok.mp parsed
    obtain ⟨secret, second, checked⟩ := bind_eq_ok.mp parsed
    obtain ⟨rfl, rfl⟩ := checkUserinfo_same checked
    simp only [List.mem_append, List.mem_cons, not_or] at noAt
    exact .password noAt.1 noAt.2.2 noColon (escaped_of_decode first) (escaped_of_decode second) bounded
  · rw [parseUserinfo_of_none colon] at parsed
    obtain ⟨name, first, checked⟩ := bind_eq_ok.mp parsed
    obtain ⟨rfl, rfl⟩ := checkUserinfo_same checked
    exact .user noAt colon (escaped_of_decode first) bounded

theorem parse_of_userinfo {userinfo : Bytes} {credentials : Bytes × Bytes}
    (reads : Userinfo userinfo (some credentials)) :
    ∃ text, userinfo = text ++ [64] ∧ 64 ∉ text ∧ parseUserinfo text = .ok credentials := by
  cases reads with
  | @user text user noAt noColon escaped bounded =>
      refine ⟨text, rfl, noAt, ?_⟩
      rw [parseUserinfo_of_none noColon, decode_of_escaped escaped]
      exact bounded_iff.mpr bounded
  | @password text word user password noAt noAt' noColon escaped escaped' bounded =>
      refine ⟨text ++ 58 :: word, rfl, ?_, ?_⟩
      · simp [noAt, noAt']
      · rw [parseUserinfo_of_colon noColon, decode_of_escaped escaped, decode_of_escaped escaped']
        exact bounded_iff.mpr bounded

theorem findLast_some {letter : UInt8} {text : Bytes} {i : Nat} :
    findLast letter text = some i ↔
      ∃ before after, text = before ++ letter :: after ∧ letter ∉ after ∧ i = before.length := by
  rw [findLast, Option.map_eq_some_iff]
  constructor
  · rintro ⟨j, found, rfl⟩
    obtain ⟨after, before, split, absent, rfl⟩ := find_letter_some.mp found
    have whole : text = before.reverse ++ letter :: after.reverse := by
      simpa using congrArg List.reverse split
    refine ⟨before.reverse, after.reverse, whole, by simpa using absent, ?_⟩
    rw [whole]
    simp
  · rintro ⟨before, after, rfl, absent, rfl⟩
    refine ⟨after.length, find_letter_some.mpr ⟨after.reverse, before.reverse, by simp, by simpa using absent, by simp⟩,
      ?_⟩
    simp

theorem find_bracket {rest : Bytes} {closing : Nat} (opened : rest.head? = some 91)
    (found : find (ascii "]") rest = some closing) :
    ∃ host after, rest = 91 :: host ++ 93 :: after ∧ 93 ∉ host ∧ closing = host.length + 1 := by
  have letter : find [93] rest = some closing := found
  obtain ⟨before, after, rfl, absent, rfl⟩ := find_letter_some.mp letter
  cases before with
  | nil => simp at opened
  | cons bracket host =>
      obtain rfl : bracket = 91 := by simpa using opened
      exact ⟨host, after, rfl, fun member => absent (List.mem_cons_of_mem _ member), rfl⟩

theorem authority_of_split {rest host behind : Bytes} (split : splitProxyAuthority rest = .ok (host, behind)) :
    ∃ authority portText, rest = authority ++ 58 :: portText ∧ behind = 58 :: portText ∧
      Authority authority host := by
  unfold splitProxyAuthority at split
  split at split
  · rename_i opened
    split at split
    · cases split
    · rename_i closing found
      obtain ⟨inside, after, rfl, closed, rfl⟩ := find_bracket opened found
      have back : (91 :: inside ++ 93 :: after).drop (inside.length + 1 + 1) = after := by
        simp [List.drop_append]
      have front : ((91 :: inside ++ 93 :: after).take (inside.length + 1)).drop 1 = inside := by simp
      rw [back, front] at split
      dsimp only at split
      split at split
      · rename_i colon
        obtain ⟨rfl, rfl⟩ := Prod.mk.inj (Except.ok.inj split)
        obtain ⟨portText, rfl⟩ := List.head?_eq_some_iff.mp colon
        exact ⟨91 :: inside ++ [93], portText, by simp, rfl, .bracketed closed⟩
      · cases split
  · rename_i unbracketed
    split at split
    · cases split
    · rename_i colon found
      obtain ⟨before, after, rfl, absent, rfl⟩ := findLast_some.mp found
      obtain ⟨rfl, rfl⟩ := Prod.mk.inj (Except.ok.inj split)
      refine ⟨before, after, rfl, by simp, ?_⟩
      rw [List.take_left]
      refine .plain fun opened => unbracketed ?_
      rw [List.head?_append, opened]
      rfl

theorem split_of_authority {authority host portText : Bytes} (reads : Authority authority host)
    (noColon : 58 ∉ portText) :
    splitProxyAuthority (authority ++ 58 :: portText) = .ok (host, 58 :: portText) := by
  cases reads with
  | @bracketed host closed =>
      have whole : 91 :: host ++ [93] ++ 58 :: portText = (91 :: host) ++ 93 :: (58 :: portText) := by simp
      have absent : 93 ∉ (91 : UInt8) :: host := by simpa using closed
      have found : find (ascii "]") ((91 :: host) ++ 93 :: (58 :: portText)) = some (host.length + 1) :=
        find_append_cons absent [] _
      rw [whole, splitProxyAuthority, if_pos (by simp), found]
      simp [List.drop_append]
  | @plain authority unbracketed =>
      have found : findLast 58 (authority ++ 58 :: portText) = some authority.length :=
        findLast_some.mpr ⟨authority, portText, rfl, noColon, rfl⟩
      have plain : (authority ++ 58 :: portText).head? ≠ some 91 := by
        cases authority with
        | nil => simp
        | cons letter authority => simpa using unbracketed
      rw [splitProxyAuthority, if_neg plain, found]
      simp

theorem parseProxyPort_iff {portText : Bytes} {port : Nat} :
    parseProxyPort portText = .ok port ↔ portText ≠ [] ∧ portText.length ≤ 5 ∧
      (∀ digit ∈ portText, isDigit 10 digit = true) ∧ fromDigits 10 portText = port := by
  rw [parseProxyPort]
  by_cases bad : portText = [] ∨ 5 < portText.length
  · rw [if_pos bad]
    refine iff_of_false (fun parsed => absurd parsed nofun) fun ⟨given, short, _⟩ => ?_
    exact bad.elim given (Nat.not_lt.mpr short)
  · rw [if_neg bad]
    rw [not_or, Nat.not_lt] at bad
    by_cases digits : portText.all (isDigit 10) = true
    · rw [if_pos digits]
      simpa [bad.1, bad.2] using fun _ => List.all_eq_true.mp digits
    · rw [if_neg digits]
      exact iff_of_false nofun fun ⟨_, _, every, _⟩ => digits (List.all_eq_true.mpr every)

theorem finishProxyUrl_iff {platform : Platform} {remoteDns : Bool} {rest : Bytes}
    {credentials : Option (Bytes × Bytes)} {target : ProxyTarget} :
    finishProxyUrl platform remoteDns rest credentials = .ok target ↔
      ∃ authority host portText port, rest = authority ++ 58 :: portText ∧ Authority authority host ∧
        host ≠ [] ∧ PortText portText port ∧ target = {
          host := wideFromUtf8 platform host
          port := port
          remoteDns := remoteDns
          user := (credentials.map (·.1)).getD []
          password := (credentials.map (·.2)).getD []
          hasCredentials := credentials.isSome } := by
  constructor
  · intro built
    unfold finishProxyUrl at built
    obtain ⟨⟨host, behind⟩, parted, rest_built⟩ := bind_eq_ok.mp built
    obtain ⟨port, parsed, checked⟩ := bind_eq_ok.mp rest_built
    obtain ⟨authority, portText, rfl, rfl, reads⟩ := authority_of_split parted
    obtain ⟨given, short, digits, value⟩ := parseProxyPort_iff.mp parsed
    split at checked
    · exact absurd checked nofun
    · rename_i fits
      simp only [not_or, Nat.not_lt] at fits
      obtain rfl := Except.ok.inj checked
      refine ⟨authority, host, portText, port, rfl, reads, fits.1, ⟨given, short, digits, value, ?_, fits.2.2⟩, rfl⟩
      exact Nat.one_le_iff_ne_zero.mpr fits.2.1
  · rintro ⟨authority, host, portText, port, rfl, reads, named, text, rfl⟩
    have noColon : 58 ∉ portText := fun member => absurd (text.digits 58 member) (by decide)
    have parsed : parseProxyPort ((58 :: portText).drop 1) = .ok port :=
      parseProxyPort_iff.mpr ⟨text.given, text.short, text.digits, text.value⟩
    have positive := text.positive
    have le := text.le
    unfold finishProxyUrl
    rw [split_of_authority reads noColon, ok_bind]
    dsimp only
    rw [parsed, ok_bind, if_neg]
    · rfl
    · rw [not_or, not_or]
      exact ⟨named, by omega, by omega⟩

theorem authority_noAt {authority portText : Bytes} {port : Nat} (text : PortText portText port) :
    64 ∈ authority ++ 58 :: portText ↔ 64 ∈ authority := by
  have digits : 64 ∉ portText := fun member => absurd (text.digits 64 member) (by decide)
  simp [digits]

theorem behindScheme_iff {platform : Platform} {remoteDns : Bool} {rest : Bytes} {target : ProxyTarget} :
    behindScheme platform remoteDns rest = .ok target ↔ BehindScheme platform remoteDns rest target := by
  constructor
  · intro accepted
    unfold behindScheme at accepted
    split at accepted
    · rename_i absent
      have noAt : 64 ∉ rest := find_letter_none.mp absent
      obtain ⟨authority, host, portText, port, rfl, reads, named, text, rfl⟩ := finishProxyUrl_iff.mp accepted
      exact .mk .absent reads named (mt (authority_noAt text).mpr noAt) text
    · rename_i at_ found
      have letter : find [64] rest = some at_ := found
      obtain ⟨userinfo, behind, rfl, noAt, rfl⟩ := find_letter_some.mp letter
      have back : (userinfo ++ 64 :: behind).drop (userinfo.length + 1) = behind := by simp [List.drop_append]
      rw [back, List.take_left] at accepted
      split at accepted
      · cases accepted
      · rename_i another
        have once : 64 ∉ behind := by
          have none_found : find (ascii "@") behind = none := by simpa using another
          exact find_letter_none.mp none_found
        obtain ⟨⟨user, password⟩, parsed, built⟩ := bind_eq_ok.mp accepted
        obtain ⟨authority, host, portText, port, rfl, reads, named, text, rfl⟩ := finishProxyUrl_iff.mp built
        have whole : userinfo ++ 64 :: (authority ++ 58 :: portText) =
            (userinfo ++ [64]) ++ authority ++ 58 :: portText := by simp
        rw [whole]
        exact .mk (userinfo_of_parse noAt parsed) reads named (mt (authority_noAt text).mpr once) text
  · rintro ⟨reads, authority_reads, named, noAt, text⟩
    rename_i userinfo authority host portText credentials port
    have once : 64 ∉ authority ++ 58 :: portText := mt (authority_noAt text).mp noAt
    have built : finishProxyUrl platform remoteDns (authority ++ 58 :: portText) credentials = _ :=
      finishProxyUrl_iff.mpr ⟨authority, host, portText, port, rfl, authority_reads, named, text, rfl⟩
    unfold behindScheme
    cases credentials with
    | none =>
        cases reads
        have absent : find (ascii "@") (authority ++ 58 :: portText) = none := find_letter_none.mpr once
        rw [List.nil_append, absent]
        exact built
    | some credentials =>
        obtain ⟨text', rfl, noAt', parsed⟩ := parse_of_userinfo reads
        have whole : text' ++ [64] ++ authority ++ 58 :: portText =
            text' ++ 64 :: (authority ++ 58 :: portText) := by simp
        have found : find (ascii "@") (text' ++ 64 :: (authority ++ 58 :: portText)) = some text'.length :=
          find_append_cons noAt' [] _
        have back : (text' ++ 64 :: (authority ++ 58 :: portText)).drop (text'.length + 1) =
            authority ++ 58 :: portText := by simp [List.drop_append]
        have absent : find (ascii "@") (authority ++ 58 :: portText) = none := find_letter_none.mpr once
        rw [whole, found]
        dsimp only
        rw [back, absent, List.take_left, parsed, if_neg (by simp), ok_bind]
        exact built

theorem scheme_split {scheme url : Bytes} (begins : scheme <+: lowerAscii url) :
    ∃ front rest, url = front ++ rest ∧ lowerAscii front = scheme ∧ rest = url.drop scheme.length := by
  have long := begins.length_le
  rw [lowerAscii, List.length_map] at long
  refine ⟨url.take scheme.length, _, (List.take_append_drop ..).symm, ?_, rfl⟩
  rw [lowerAscii, List.map_take]
  exact (List.prefix_iff_eq_take.mp begins).symm

theorem scheme_begins {scheme front : Bytes} (rest : Bytes) (lowered : lowerAscii front = scheme) :
    scheme <+: lowerAscii (front ++ rest) ∧ (front ++ rest).drop scheme.length = rest := by
  subst lowered
  rw [lowerAscii, lowerAscii, List.map_append, List.length_map, List.drop_left]
  exact ⟨List.prefix_append .., rfl⟩

theorem parseProxyUrl_iff {platform : Platform} {url : Bytes} {target : ProxyTarget} :
    parseProxyUrl platform url = .ok target ↔ ProxyUrl platform url target := by
  rw [parseProxyUrl_eq]
  constructor
  · intro accepted
    split at accepted
    · rename_i socks5h
      obtain ⟨front, rest, split, lowered, dropped⟩ := scheme_split socks5h
      refine ⟨front, rest, true, split, lowered, behindScheme_iff.mp ?_⟩
      rw [dropped]
      exact accepted
    · split at accepted
      · rename_i socks5
        obtain ⟨front, rest, split, lowered, dropped⟩ := scheme_split socks5
        refine ⟨front, rest, false, split, lowered, behindScheme_iff.mp ?_⟩
        rw [dropped]
        exact accepted
      · exact absurd accepted nofun
  · rintro ⟨scheme, rest, remoteDns, rfl, lowered, behind⟩
    obtain ⟨begins, dropped⟩ := scheme_begins rest lowered
    cases remoteDns with
    | true =>
        have socks5h : ascii "socks5h://" <+: lowerAscii (scheme ++ rest) := begins
        have rest_left : (scheme ++ rest).drop 10 = rest := dropped
        rw [if_pos socks5h, rest_left]
        exact behindScheme_iff.mpr behind
    | false =>
        have other : ¬ ascii "socks5h://" <+: lowerAscii (scheme ++ rest) := by
          intro socks5h
          have same := List.prefix_of_prefix_length_le begins socks5h (by decide)
          revert same
          decide
        have socks5 : ascii "socks5://" <+: lowerAscii (scheme ++ rest) := begins
        have rest_left : (scheme ++ rest).drop 9 = rest := dropped
        rw [if_neg other, if_pos socks5, rest_left]
        exact behindScheme_iff.mpr behind

/-! ## The exceptions of `std::string` -/

/-- What `ParseProxyUrl` could throw. -/
inductive UrlException where
  | dial (error : DialError)
  | outOfRange

namespace Throwing

def substr (text : Bytes) (position : Nat) : Except UrlException Bytes :=
  if text.length < position then .error .outOfRange else .ok (text.drop position)

def percentDecode (text : Bytes) : Except UrlException Bytes := (LuaXENetwork.percentDecode text).mapError .dial

def parseUserinfo (userinfo : Bytes) : Except UrlException (Bytes × Bytes) := do
  let colon := find (ascii ":") userinfo
  let user ← percentDecode (match colon with
    | none => userinfo
    | some colon => userinfo.take colon)
  let password ← match colon with
    | none => pure []
    | some colon => do percentDecode (← substr userinfo (colon + 1))
  if user = [] ∨ 255 < user.length ∨ 255 < password.length then
    throw (.dial (proxyUrlInvalid "the proxy user name and password must each be 1-255 bytes"))
  return (user, password)

def splitProxyAuthority (rest : Bytes) : Except UrlException (Bytes × Bytes) :=
  if rest.head? = some 91 then
    match find (ascii "]") rest with
    | none => .error (.dial (proxyUrlInvalid "the bracketed proxy host is not closed"))
    | some closing => do
        let authority := (← substr rest 1).take (closing - 1)
        let after ← substr rest (closing + 1)
        if after.head? = some 58 then return (authority, after)
        else throw (.dial (proxyUrlInvalid "the proxy URL has no port"))
  else
    match findLast 58 rest with
    | none => .error (.dial (proxyUrlInvalid "the proxy URL has no port"))
    | some colon => do
        let behind ← substr rest colon
        return (rest.take colon, behind)

def finishProxyUrl (platform : Platform) (remoteDns : Bool) (rest : Bytes)
    (credentials : Option (Bytes × Bytes)) : Except UrlException ProxyTarget := do
  let (authority, rest) ← splitProxyAuthority rest
  let port ← (parseProxyPort (← substr rest 1)).mapError .dial
  if authority = [] ∨ port = 0 ∨ 65535 < port then
    throw (.dial (proxyUrlInvalid "the proxy host or port is out of range"))
  return {
    host := wideFromUtf8 platform authority
    port := port
    remoteDns := remoteDns
    user := (credentials.map (·.1)).getD []
    password := (credentials.map (·.2)).getD []
    hasCredentials := credentials.isSome }

def behindScheme (platform : Platform) (remoteDns : Bool) (rest : Bytes) : Except UrlException ProxyTarget :=
  match find (ascii "@") rest with
  | none => finishProxyUrl platform remoteDns rest none
  | some at_ =>
      if (find (ascii "@") (rest.drop (at_ + 1))).isSome then
        .error (.dial (proxyUrlInvalid "the proxy URL has more than one '@'"))
      else do
        let behind ← substr rest (at_ + 1)
        let credentials ← parseUserinfo (rest.take at_)
        finishProxyUrl platform remoteDns behind (some credentials)

/-- `ParseProxyUrl` with the exceptions of `substr`. -/
def parseProxyUrl (platform : Platform) (url : Bytes) : Except UrlException ProxyTarget :=
  if ascii "socks5h://" <+: lowerAscii url then do behindScheme platform true (← substr url 10)
  else if ascii "socks5://" <+: lowerAscii url then do behindScheme platform false (← substr url 9)
  else .error (.dial (proxyUrlInvalid "the proxy must be socks5:// or socks5h://"))

theorem substr_eq {text : Bytes} {position : Nat} (inside : position ≤ text.length) :
    substr text position = .ok (text.drop position) := if_neg (by omega)

theorem bind_mapError {α β : Type} {x : Except DialError α} {f : α → Except UrlException β}
    {g : α → Except DialError β} (same : ∀ a, x = .ok a → f a = (g a).mapError .dial) :
    x.mapError .dial >>= f = (x >>= g).mapError .dial := by
  cases x with
  | error error => rfl
  | ok a => exact same a rfl

theorem parseUserinfo_eq (userinfo : Bytes) :
    parseUserinfo userinfo = (LuaXENetwork.parseUserinfo userinfo).mapError .dial := by
  have checked (user password : Bytes) : (do
      if user = [] ∨ 255 < user.length ∨ 255 < password.length then
        throw (.dial (proxyUrlInvalid "the proxy user name and password must each be 1-255 bytes"))
      return (user, password)) = (checkUserinfo user password).mapError UrlException.dial := by
    unfold checkUserinfo
    split <;> rfl
  rw [parseUserinfo, LuaXENetwork.parseUserinfo]
  cases found : find (ascii ":") userinfo with
  | none => exact bind_mapError fun user _ => checked user []
  | some colon =>
      have inside : colon + 1 ≤ userinfo.length := add_length_le_of_find found
      dsimp only
      rw [substr_eq inside]
      exact bind_mapError fun user _ => bind_mapError fun password _ => checked user password

theorem splitProxyAuthority_eq (rest : Bytes) :
    splitProxyAuthority rest = (LuaXENetwork.splitProxyAuthority rest).mapError .dial := by
  rw [splitProxyAuthority, LuaXENetwork.splitProxyAuthority]
  by_cases opened : rest.head? = some 91
  · rw [if_pos opened, if_pos opened]
    cases found : find (ascii "]") rest with
    | none => rfl
    | some closing =>
        have inside : closing + 1 ≤ rest.length := add_length_le_of_find found
        dsimp only
        rw [substr_eq (by omega), substr_eq inside, List.drop_take]
        simp only [ok_bind]
        split <;> rfl
  · rw [if_neg opened, if_neg opened]
    cases found : findLast 58 rest with
    | none => rfl
    | some colon =>
        obtain ⟨before, after, rfl, -, rfl⟩ := findLast_some.mp found
        dsimp only
        rw [substr_eq (by simp)]
        rfl

theorem finishProxyUrl_eq (platform : Platform) (remoteDns : Bool) (rest : Bytes)
    (credentials : Option (Bytes × Bytes)) :
    finishProxyUrl platform remoteDns rest credentials =
      (LuaXENetwork.finishProxyUrl platform remoteDns rest credentials).mapError .dial := by
  unfold finishProxyUrl LuaXENetwork.finishProxyUrl
  rw [splitProxyAuthority_eq]
  refine bind_mapError fun (authority, behind) parted => ?_
  obtain ⟨-, portText, -, rfl, -⟩ := authority_of_split parted
  dsimp only
  rw [substr_eq (by simp)]
  refine bind_mapError fun port _ => ?_
  split <;> rfl

theorem behindScheme_eq (platform : Platform) (remoteDns : Bool) (rest : Bytes) :
    behindScheme platform remoteDns rest =
      (LuaXENetwork.behindScheme platform remoteDns rest).mapError .dial := by
  rw [behindScheme, LuaXENetwork.behindScheme]
  cases found : find (ascii "@") rest with
  | none => exact finishProxyUrl_eq ..
  | some at_ =>
      have inside : at_ + 1 ≤ rest.length := add_length_le_of_find found
      dsimp only
      split
      · rfl
      · rw [substr_eq inside, parseUserinfo_eq]
        exact bind_mapError fun credentials _ => finishProxyUrl_eq ..

theorem parseProxyUrl_eq_dial (platform : Platform) (url : Bytes) :
    parseProxyUrl platform url = (LuaXENetwork.parseProxyUrl platform url).mapError .dial := by
  have long {scheme : Bytes} (begins : scheme <+: lowerAscii url) : scheme.length ≤ url.length := by
    simpa [lowerAscii] using begins.length_le
  rw [parseProxyUrl, LuaXENetwork.parseProxyUrl_eq]
  split
  · rename_i socks5h
    have inside : 10 ≤ url.length := long socks5h
    rw [substr_eq inside]
    exact behindScheme_eq ..
  split
  · rename_i socks5
    have inside : 9 ≤ url.length := long socks5
    rw [substr_eq inside]
    exact behindScheme_eq ..
  · rfl

end Throwing

/-- `ParseProxyUrl` accepts the grammar, with its components, and answers anything else with its one error. -/
theorem proxyUrl_grammar (platform : Platform) (url : Bytes) :
    (∀ target, Throwing.parseProxyUrl platform url = .ok target ↔ ProxyUrl platform url target) ∧
    ((∀ target, ¬ ProxyUrl platform url target) →
      ∃ message, Throwing.parseProxyUrl platform url = .error (.dial (proxyUrlInvalid message))) := by
  rw [Throwing.parseProxyUrl_eq_dial]
  have parses := parseProxyUrl_parses platform url
  have grammar (target : ProxyTarget) : parseProxyUrl platform url = .ok target ↔ ProxyUrl platform url target :=
    parseProxyUrl_iff
  cases parsed : parseProxyUrl platform url with
  | ok target =>
      rw [parsed] at grammar
      refine ⟨fun target' => ?_, fun none_such => absurd ((grammar target).mp rfl) (none_such target)⟩
      rw [← grammar target']
      exact ⟨fun same => congrArg _ (Except.ok.inj same), fun same => congrArg _ (Except.ok.inj same)⟩
  | error error =>
      rw [parsed] at parses grammar
      obtain ⟨message, rfl⟩ := parses
      refine ⟨fun target => ?_, fun _ => ⟨message, rfl⟩⟩
      rw [← grammar target]
      exact iff_of_false nofun nofun

end LuaXENetwork
