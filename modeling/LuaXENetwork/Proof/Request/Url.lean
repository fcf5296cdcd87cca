import LuaXENetwork.Library.Except
import LuaXENetwork.Proof.Dial.ProxyGrammar
import LuaXENetwork.Proof.Numeral
import LuaXENetwork.Request.EntryPoints

/-! What `ParseHttpUrl` accepts, and the `Host` values it reads back. -/

namespace LuaXENetwork
open Library

/-! ## Port numbers -/

theorem stoi_digits {digits more : Bytes} (given : digits ≠ []) (figures : ∀ b ∈ digits, isDigit 10 b = true)
    (stops : ∀ b ∈ more.head?, isDigit 10 b = false) :
    stoi (digits ++ more) =
      if 2 ^ 31 ≤ fromDigits 10 digits then .error (ascii "stoi argument out of range")
      else .ok (fromDigits 10 digits) := by
  have clean : (0 : UInt8) ∉ digits := fun member => (digit_letter (figures 0 member)).2.2.1 rfl
  have shown := cString_append clean more
  have parts : NumeralParts 10 (cString (digits ++ more)) [] [] [] digits (cString more) := {
    split := shown
    blanks := by simp
    signs := .inl rfl
    marks := .inl rfl
    figures := figures
    nonempty := given
    stops := by
      intro b first
      cases more with
      | nil => simp [cString] at first
      | cons c more =>
          by_cases nul : c = 0
          · simp [cString, nul] at first
          · obtain rfl : c = b := by simpa [cString, nul] using first
            exact stops c rfl
    unmarked := by simp }
  rw [stoi, readNumeral_parts parts]
  have sign : (([] : Bytes) == [45]) = false := rfl
  simp only [sign, Bool.false_eq_true, if_false]
  by_cases large : 2 ^ 31 ≤ fromDigits 10 digits
  · rw [if_pos (by omega), if_pos large]
  · rw [if_neg (by omega), if_neg large]

theorem stoi_toText {port : Int} (range : 1 ≤ port ∧ port ≤ 65535) : stoi (toText port) = .ok port := by
  lift port to ℕ using by omega
  have stops : ∀ b ∈ ([] : Bytes).head?, isDigit 10 b = false := by simp
  have read := stoi_digits (decimal_ne_nil port) (fun b => isDigit_of_mem_decimal) stops
  rw [List.append_nil, fromDigits_decimal, if_neg (by omega)] at read
  rw [toText_natCast, read]

theorem notMem_toText {port : Int} (positive : 1 ≤ port) {b : UInt8} (letter : isDigit 10 b = false) :
    b ∉ toText port := by
  lift port to ℕ using by omega
  rw [toText_natCast]
  intro member
  rw [isDigit_of_mem_decimal member] at letter
  contradiction

/-! ## Authorities -/

/-- A host as an authority writes it: a name, or a literal in brackets. -/
inductive HostText : Bytes → Bytes → Prop
  | name {host : Bytes} (noColon : 58 ∉ host) (unbracketed : host.head? ≠ some 91) : HostText host host
  | literal {host : Bytes} (closed : 93 ∉ host) : HostText host (91 :: host ++ [93])

/-- What `ParseHttpUrl` makes of an authority. -/
inductive SplitsInto (default : Int) : Bytes → Bytes → Int → Prop
  | bare {host text : Bytes} (written : HostText host text) : SplitsInto default text host default
  | port {host text portText : Bytes} {port : Int} (written : HostText host text)
      (single : text.head? = some 91 ∨ 58 ∉ portText) (read : stoi portText = .ok port) :
      SplitsInto default (text ++ 58 :: portText) host port
  | colons {authority : Bytes} (unbracketed : authority.head? ≠ some 91) (several : 1 < authority.count 58) :
      SplitsInto default authority authority default

section Split

variable {default port : Int} {authority host : Bytes}

theorem count_colon {before after : Bytes} (absent : 58 ∉ before) :
    (before ++ 58 :: after).count 58 = after.count 58 + 1 := by
  rw [List.count_append, List.count_eq_zero.mpr absent, List.count_cons_self, Nat.zero_add]

theorem split_bracketed {inside after : Bytes} (closed : 93 ∉ inside) :
    splitHttpAuthority (91 :: inside ++ 93 :: after) default =
      if after = [] then .ok (inside, default)
      else if after.head? = some 58 then do
        let port ← stoi (after.drop 1)
        return (inside, port)
      else .error (ascii "invalid URL authority") := by
  have absent : 93 ∉ (91 : UInt8) :: inside := by simpa using closed
  have found : find (ascii "]") (91 :: inside ++ 93 :: after) = some (inside.length + 1) :=
    find_append_cons absent [] after
  have taken : ((91 :: inside ++ 93 :: after).take (inside.length + 1)).drop 1 = inside := by simp
  have next : (91 :: inside ++ 93 :: after)[inside.length + 1 + 1]? = after[0]? := by
    rw [List.getElem?_append_right (by simp)]
    simp
  have behind : (91 :: inside ++ 93 :: after).drop (inside.length + 1 + 2) = after.drop 1 := by
    simp [List.drop_append]
  rw [splitHttpAuthority, if_pos (by simp), found]
  simp only [taken, next, behind]
  cases after with
  | nil => simp
  | cons b after => simp

theorem split_name (unbracketed : authority.head? ≠ some 91) (noColon : 58 ∉ authority) :
    splitHttpAuthority authority default = .ok (authority, default) := by
  have absent : findLast 58 authority = none := by
    rw [findLast, Option.map_eq_none_iff, find_letter_none, List.mem_reverse]
    exact noColon
  rw [splitHttpAuthority, if_neg unbracketed, absent]

theorem split_name_port {name portText : Bytes} (unbracketed : name.head? ≠ some 91) (noColon : 58 ∉ name)
    (single : 58 ∉ portText) :
    splitHttpAuthority (name ++ 58 :: portText) default = (do
      let port ← stoi portText
      return (name, port)) := by
  have last : findLast 58 (name ++ 58 :: portText) = some name.length :=
    findLast_some.mpr ⟨name, portText, rfl, single, rfl⟩
  have first : find (ascii ":") (name ++ 58 :: portText) = some name.length := find_append_cons noColon [] portText
  have plain : (name ++ 58 :: portText).head? ≠ some 91 := by
    cases name with
    | nil => simp
    | cons letter name => simpa using unbracketed
  rw [splitHttpAuthority, if_neg plain, last]
  simp only [first, if_true, List.take_left]
  rw [← List.drop_drop, List.drop_left, List.drop_succ_cons, List.drop_zero]

theorem split_colons (unbracketed : authority.head? ≠ some 91) (several : 1 < authority.count 58) :
    splitHttpAuthority authority default = .ok (authority, default) := by
  rw [splitHttpAuthority, if_neg unbracketed]
  cases last : findLast 58 authority with
  | none => rfl
  | some colon =>
      obtain ⟨before, after, rfl, absent, rfl⟩ := findLast_some.mp last
      have differs : find (ascii ":") (before ++ 58 :: after) ≠ some before.length := by
        intro first
        obtain ⟨before', after', same, absent', length⟩ := find_letter_some.mp first
        obtain rfl := (List.append_inj same length).1
        rw [count_colon absent', List.count_eq_zero.mpr absent] at several
        omega
      simp only [if_neg differs]

theorem splitsInto_of_split (split : splitHttpAuthority authority default = .ok (host, port)) :
    SplitsInto default authority host port := by
  by_cases opened : authority.head? = some 91
  · cases found : find (ascii "]") authority with
    | none =>
        rw [splitHttpAuthority, if_pos opened, found] at split
        cases split
    | some closing =>
        obtain ⟨inside, after, rfl, closed, rfl⟩ := find_bracket opened found
        rw [split_bracketed closed] at split
        cases after with
        | nil =>
            obtain ⟨rfl, rfl⟩ := Prod.mk.inj (Except.ok.inj split)
            exact .bare (.literal closed)
        | cons b after =>
            rw [if_neg (by simp)] at split
            by_cases colon : b = 58
            · subst colon
              rw [List.head?_cons, if_pos rfl, bind_eq_ok] at split
              obtain ⟨port', read, same⟩ := split
              obtain ⟨rfl, rfl⟩ := Prod.mk.inj (Except.ok.inj same)
              have whole : 91 :: inside ++ 93 :: 58 :: after = (91 :: inside ++ [93]) ++ 58 :: after := by simp
              rw [whole]
              exact .port (.literal closed) (.inl rfl) read
            · rw [if_neg (by simpa using colon)] at split
              cases split
  · by_cases noColon : 58 ∈ authority
    · by_cases several : 1 < authority.count 58
      · rw [split_colons opened several] at split
        obtain ⟨rfl, rfl⟩ := Prod.mk.inj (Except.ok.inj split)
        exact .colons opened several
      · obtain ⟨name, portText, rfl, absent⟩ := List.eq_append_cons_of_mem noColon
        rw [count_colon absent] at several
        have single : 58 ∉ portText := List.count_eq_zero.mp (by omega)
        have unbracketed : name.head? ≠ some 91 := fun first => opened (by simp [first])
        rw [split_name_port unbracketed absent single, bind_eq_ok] at split
        obtain ⟨port', read, same⟩ := split
        obtain ⟨rfl, rfl⟩ := Prod.mk.inj (Except.ok.inj same)
        exact .port (.name absent unbracketed) (.inr single) read
    · rw [split_name opened noColon] at split
      obtain ⟨rfl, rfl⟩ := Prod.mk.inj (Except.ok.inj split)
      exact .bare (.name noColon opened)

theorem split_of_splitsInto (splits : SplitsInto default authority host port) :
    splitHttpAuthority authority default = .ok (host, port) := by
  cases splits with
  | bare written =>
      cases written with
      | name noColon unbracketed => exact split_name unbracketed noColon
      | literal closed => rw [split_bracketed closed, if_pos rfl]
  | @port host text portText port written single read =>
      cases written with
      | name noColon unbracketed =>
          rw [split_name_port unbracketed noColon (single.resolve_left unbracketed), read]
          rfl
      | literal closed =>
          rw [List.append_assoc, List.singleton_append, split_bracketed closed, if_neg (by simp),
            List.head?_cons, if_pos rfl, List.drop_succ_cons, List.drop_zero, read]
          rfl
  | colons unbracketed several => exact split_colons unbracketed several

theorem splitHttpAuthority_iff :
    splitHttpAuthority authority default = .ok (host, port) ↔ SplitsInto default authority host port :=
  ⟨splitsInto_of_split, split_of_splitsInto⟩

end Split

/-! ## URLs -/

def httpScheme (ssl : Bool) : Bytes := if ssl then ascii "https://" else ascii "http://"

def defaultPort (ssl : Bool) : Int := if ssl then 443 else 80

/-- What stands behind the scheme up to the first `/`. -/
def authorityText (rest : Bytes) : Bytes := rest.takeWhile (· != 47)

/-- From the first `/` on. -/
def pathText (rest : Bytes) : Bytes := if rest.dropWhile (· != 47) = [] then ascii "/" else rest.dropWhile (· != 47)

theorem find_slash (rest : Bytes) :
    (find (ascii "/") rest = none ∧ rest = authorityText rest ∧ ascii "/" = pathText rest) ∨
    ∃ slash, find (ascii "/") rest = some slash ∧ rest.take slash = authorityText rest ∧
      rest.drop slash = pathText rest := by
  by_cases slashed : 47 ∈ rest
  · obtain ⟨before, after, rfl, absent⟩ := List.eq_append_cons_of_mem slashed
    have plain : ∀ b ∈ before, (b != 47) = true := fun b member => by
      simpa using fun same : b = 47 => absent (same ▸ member)
    have front : authorityText (before ++ 47 :: after) = before := by
      rw [authorityText, List.takeWhile_append_of_pos plain]
      simp
    have back : (before ++ 47 :: after).dropWhile (· != 47) = 47 :: after := by
      rw [List.dropWhile_append_of_pos plain]
      simp
    refine .inr ⟨before.length, find_append_cons absent [] after, ?_, ?_⟩
    · rw [front, List.take_left]
    · rw [pathText, back, if_neg (by simp), List.drop_left]
  · have plain : ∀ b ∈ rest, (b != 47) = true := fun b member => by
      simpa using fun same : b = 47 => slashed (same ▸ member)
    refine .inl ⟨find_letter_none.mpr slashed, ?_, ?_⟩
    · rw [authorityText, List.takeWhile_eq_self_iff.mpr plain]
    · rw [pathText, if_pos (List.dropWhile_eq_nil_iff.mpr plain)]

/-- The check of the host and the port that ends `ParseHttpUrl`. -/
def checkedUrl (ssl : Bool) (path : Bytes) (parts : Bytes × Int) : Except Bytes ParsedHttpUrl :=
  if parts.1 = [] ∨ parts.2 ≤ 0 ∨ 65535 < parts.2 then .error (ascii "invalid URL host or port")
  else .ok ⟨parts.1, path, parts.2, ssl⟩

theorem parseHttpUrl_scheme (ssl : Bool) (rest : Bytes) :
    parseHttpUrl (httpScheme ssl ++ rest) =
      splitHttpAuthority (authorityText rest) (defaultPort ssl) >>= checkedUrl ssl (pathText rest) := by
  cases ssl with
  | false =>
      have begins : ascii "http://" <+: httpScheme false ++ rest := List.prefix_append _ _
      have after : (httpScheme false ++ rest).drop 7 = rest := rfl
      unfold parseHttpUrl
      rw [if_pos begins]
      simp only [pure_bind, after]
      rcases find_slash rest with ⟨found, front, back⟩ | ⟨slash, found, front, back⟩
      · simp only [found]
        rw [back, ← front]
        rfl
      · simp only [found, front, back]
        rfl
  | true =>
      have other : ¬ ascii "http://" <+: httpScheme true ++ rest := by simp [httpScheme, ascii]
      have begins : ascii "https://" <+: httpScheme true ++ rest := List.prefix_append _ _
      have after : (httpScheme true ++ rest).drop 8 = rest := rfl
      unfold parseHttpUrl
      rw [if_neg other, if_pos begins]
      simp only [pure_bind, after]
      rcases find_slash rest with ⟨found, front, back⟩ | ⟨slash, found, front, back⟩
      · simp only [found]
        rw [back, ← front]
        rfl
      · simp only [found, front, back]
        rfl

/-! ## Printing and reading back -/

/-- The port behind a host, unless it is the scheme's own. -/
def portSuffix (ssl : Bool) (port : Int) : Bytes :=
  if port = defaultPort ssl then [] else 58 :: toText port

theorem httpHostHeader_eq (target : ParsedHttpUrl) :
    httpHostHeader target = (if 58 ∈ target.host then 91 :: target.host ++ [93] else target.host) ++
      portSuffix target.ssl target.port := by
  have colon : (find (ascii ":") target.host).isSome = true ↔ 58 ∈ target.host := by
    rw [Option.isSome_iff_ne_none, ne_eq, show ascii ":" = [58] from rfl, find_letter_none, not_not]
  have own : (target.ssl = true ∧ target.port = 443) ∨ (target.ssl = false ∧ target.port = 80) ↔
      target.port = defaultPort target.ssl := by
    cases target.ssl <;> simp [defaultPort]
  unfold httpHostHeader
  simp only [colon, own, portSuffix]
  split_ifs <;> simp [ascii]

theorem SplitsInto.printed {host text : Bytes} (ssl : Bool) {port : Int} (written : HostText host text)
    (range : 1 ≤ port ∧ port ≤ 65535) :
    SplitsInto (defaultPort ssl) (text ++ portSuffix ssl port) host port := by
  rw [portSuffix]
  split
  · rename_i own
    rw [List.append_nil, own]
    exact .bare written
  · exact .port written (.inr (notMem_toText range.1 rfl)) (stoi_toText range)

theorem authorityText_append {authority path : Bytes} (slashless : 47 ∉ authority) (begins : path.head? = some 47) :
    authorityText (authority ++ path) = authority ∧ pathText (authority ++ path) = path := by
  have plain : ∀ b ∈ authority, (b != 47) = true := fun b member => by
    simpa using fun same : b = 47 => slashless (same ▸ member)
  obtain ⟨path, rfl⟩ := List.head?_eq_some_iff.mp begins
  constructor
  · rw [authorityText, List.takeWhile_append_of_pos plain]
    simp
  · rw [pathText, List.dropWhile_append_of_pos plain]
    simp

/-- A URL that is put together from its parts is taken apart into them. -/
theorem parseHttpUrl_printed {target : ParsedHttpUrl} (range : 1 ≤ target.port ∧ target.port ≤ 65535)
    (path : target.path.head? = some 47) (named : target.host ≠ [])
    (host : (58 ∉ target.host ∧ 47 ∉ target.host ∧ 91 ∉ target.host) ∨
      (58 ∈ target.host ∧ 93 ∉ target.host ∧ 47 ∉ target.host)) :
    parseHttpUrl (httpScheme target.ssl ++ httpHostHeader target ++ target.path) = .ok target := by
  have slashless : 47 ∉ target.host := host.elim (·.2.1) (·.2.2)
  have written : HostText target.host (if 58 ∈ target.host then 91 :: target.host ++ [93] else target.host) := by
    rcases host with ⟨colon, -, bracket⟩ | ⟨colon, closed, -⟩
    · rw [if_neg colon]
      exact .name colon fun first => bracket (List.mem_of_mem_head? first)
    · rw [if_pos colon]
      exact .literal closed
  have slashless' : 47 ∉ httpHostHeader target := by
    have digits : 47 ∉ toText target.port := notMem_toText range.1 rfl
    rw [httpHostHeader_eq, portSuffix]
    split_ifs <;> simp [slashless, digits]
  obtain ⟨front, back⟩ := authorityText_append slashless' path
  have split := split_of_splitsInto (SplitsInto.printed target.ssl written range)
  rw [List.append_assoc, parseHttpUrl_scheme, front, back, httpHostHeader_eq, split, ok_bind, checkedUrl, if_neg]
  simp only [not_or, not_lt]
  exact ⟨named, by omega, by omega⟩

theorem parseHttpUrl_printed_literal :
    parseHttpUrl (ascii "http://[::1]:8080/a?b") = .ok ⟨ascii "::1", ascii "/a?b", 8080, false⟩ := by
  have printed := @parseHttpUrl_printed ⟨ascii "::1", ascii "/a?b", 8080, false⟩ (by decide) rfl (by decide)
    (.inr (by decide +kernel))
  have url : httpScheme false ++ httpHostHeader ⟨ascii "::1", ascii "/a?b", 8080, false⟩ ++ ascii "/a?b" =
      ascii "http://[::1]:8080/a?b" := by decide +kernel
  rwa [url] at printed

end LuaXENetwork
