import PlayTogether.Web.App

/-! What the checks on header values accept: canonical numbers, loopback authorities,
origins and cookies, each given its meaning on the bytes. -/

namespace PlayTogether.Web
open PlayTogether.Library PlayTogether.Controller

/-! ## Numbers and authorities -/

theorem parseStrongRevision_eq_some {value : Bytes} {revision : Nat} :
    parseStrongRevision value = some revision ↔
      value = 0x22 :: (decimal revision ++ [0x22]) ∧ revision < 2 ^ 64 := by
  constructor
  · intro parsed
    cases value with
    | nil => cases parsed
    | cons first rest =>
      simp only [parseStrongRevision] at parsed
      split at parsed
      · rename_i quoted
        split at parsed
        · cases parsed
        · rename_i canonical
          rw [Bool.not_eq_true', Bool.not_eq_false] at canonical
          obtain ⟨spelled, small⟩ := (parseUnsigned_canonical canonical).mp parsed
          obtain ⟨filled, last⟩ := List.getLast?_eq_some_iff.mp quoted.2
          refine ⟨?_, by omega⟩
          rw [quoted.1, ← spelled, last]
          simp
      · cases parsed
  · intro spelled
    obtain ⟨rfl, small⟩ := spelled
    have canonical := decimal_canonical revision
    simp only [parseStrongRevision, List.getLast?_append, List.getLast?_singleton, Option.some_or, and_self,
      if_true, List.dropLast_concat, canonical, Bool.not_true, Bool.false_eq_true, if_false]
    exact parseUnsigned_decimal (by omega)

theorem parsePort_eq_some {value : Bytes} {port : Nat} :
    parsePort value = some port ↔ value = decimal port ∧ 0 < port ∧ port < 2 ^ 16 := by
  unfold parsePort
  by_cases canonical : isCanonicalDecimal value = true
  · simp only [canonical, Bool.not_true, Bool.false_eq_true, if_false]
    constructor
    · intro parsed
      split at parsed
      · cases parsed
      · rename_i found read
        obtain ⟨spelled, small⟩ := (parseUnsigned_canonical canonical).mp read
        split at parsed
        · rename_i positive
          cases parsed
          exact ⟨spelled, by omega, by omega⟩
        · cases parsed
    · intro spelled
      obtain ⟨rfl, positive, small⟩ := spelled
      have read : parseUnsigned (2 ^ 16 - 1) (decimal port) = some port := parseUnsigned_decimal (by omega)
      have set : port ≠ 0 := by omega
      simp only [read, if_pos set]
  · have refused : ∀ port, value ≠ decimal port := by
      intro port spelled
      exact canonical (spelled ▸ decimal_canonical port)
    simp [canonical, refused]

/-- The texts that name a host. -/
def HostText : AuthorityHost → Bytes → Prop
  | .localhost, name => asciiLower name = ascii "localhost"
  | .ipv4Loopback, name => name = ascii "127.0.0.1"
  | .ipv6Loopback, name => name = ascii "[::1]"

/-- A host name, alone or with a port behind it. -/
def Spelled (value : Bytes) (host : AuthorityHost) : Option Nat → Prop
  | none => HostText host value
  | some port => ∃ name, HostText host name ∧ value = name ++ 0x3a :: decimal port ∧ 0 < port ∧ port < 2 ^ 16

/-- A loopback host, alone or with the configured port behind it. -/
def Authority (value : Bytes) (configuredPort : Nat) (authority : LoopbackAuthority) : Prop :=
  ∃ port, Spelled value authority.host port ∧
    (port = none ∧ authority.effectivePort = 80 ∨ port = some configuredPort ∧ authority.effectivePort = configuredPort)

theorem isAlphanumeric_of_toLower {byte : UInt8} (lowered : isAlphanumeric (toLower byte) = true) :
    isAlphanumeric byte = true := by
  unfold toLower at lowered
  by_cases upper : isUpper byte = true
  · simp [isAlphanumeric, upper]
  · rwa [if_neg upper] at lowered

theorem localhost_alphanumeric {name : Bytes} (lowered : asciiLower name = ascii "localhost") {byte : UInt8}
    (member : byte ∈ name) : isAlphanumeric byte = true := by
  have inside : toLower byte ∈ ascii "localhost" := by
    rw [← lowered]
    exact List.mem_map_of_mem member
  have letters : ∀ letter ∈ ascii "localhost", isAlphanumeric letter = true := List.all_eq_true.mp (by decide)
  exact isAlphanumeric_of_toLower (letters _ inside)

/-- A plain host name holds neither a colon nor a bracket. -/
theorem plain_of_hostText {host : AuthorityHost} {name : Bytes} (named : HostText host name)
    (plain : host ≠ .ipv6Loopback) : 0x3a ∉ name ∧ 0x5b ∉ name ∧ name ≠ [] := by
  cases host with
  | localhost =>
    refine ⟨?_, ?_, ?_⟩
    · intro colon
      exact absurd (localhost_alphanumeric named colon) (by decide)
    · intro bracket
      exact absurd (localhost_alphanumeric named bracket) (by decide)
    · intro empty
      rw [HostText, empty] at named
      exact absurd named (by decide)
  | ipv4Loopback =>
    rw [HostText] at named
    subst named
    decide
  | ipv6Loopback => exact absurd rfl plain

theorem colon_not_in_decimal (value : Nat) : 0x3a ∉ decimal value := by
  intro colon
  exact absurd (decimal_isDigit colon) (by decide)

namespace LoopbackAuthority

theorem parseBracketed_eq_some {rest : Bytes} {host : AuthorityHost} {port : Option Nat} :
    parseBracketed rest = some (host, port) ↔ host = .ipv6Loopback ∧ Spelled (0x5b :: rest) host port := by
  unfold parseBracketed
  constructor
  · intro parsed
    split at parsed
    · cases parsed
    · rename_i address suffix cut
      obtain ⟨rfl, _⟩ := splitOnce_eq_some.mp cut
      split at parsed
      · cases parsed
      · rename_i named
        rw [not_not] at named
        subst named
        cases suffix with
        | nil =>
          cases parsed
          exact ⟨rfl, rfl⟩
        | cons byte digits =>
          dsimp only at parsed
          split at parsed
          · rename_i colon
            subst colon
            obtain ⟨number, read, same⟩ := Option.map_eq_some_iff.mp parsed
            cases same
            obtain ⟨rfl, positive, small⟩ := parsePort_eq_some.mp read
            exact ⟨rfl, ascii "[::1]", rfl, rfl, positive, small⟩
          · cases parsed
  · intro spelled
    obtain ⟨rfl, spelled⟩ := spelled
    cases port with
    | none =>
      rw [Spelled, HostText] at spelled
      obtain rfl : rest = ascii "::1" ++ 0x5d :: [] := (List.cons.inj spelled).2
      rw [splitOnce_append (by decide)]
      rfl
    | some number =>
      obtain ⟨name, named, same, positive, small⟩ := spelled
      rw [HostText] at named
      subst named
      obtain rfl : rest = ascii "::1" ++ 0x5d :: 0x3a :: decimal number := (List.cons.inj same).2
      rw [splitOnce_append (by decide)]
      simp [parsePort_eq_some.mpr ⟨rfl, positive, small⟩]

theorem plainHost_eq_some {name : Bytes} {host : AuthorityHost} :
    plainHost name = some host ↔ host ≠ .ipv6Loopback ∧ HostText host name := by
  unfold plainHost
  by_cases lowered : asciiLower name = ascii "localhost"
  · rw [if_pos ((eqIgnoreAsciiCase_lowered (by decide)).mpr lowered)]
    have numeric : name ≠ ascii "127.0.0.1" := by
      intro same
      rw [same] at lowered
      exact absurd lowered (by decide)
    cases host with
    | localhost => simp [HostText, lowered]
    | ipv4Loopback => simp [HostText, numeric]
    | ipv6Loopback => simp
  · rw [if_neg ((eqIgnoreAsciiCase_lowered (by decide)).not.mpr lowered)]
    by_cases numeric : name = ascii "127.0.0.1"
    · rw [if_pos numeric]
      cases host with
      | localhost => simp [HostText, lowered]
      | ipv4Loopback => simp [HostText, numeric]
      | ipv6Loopback => simp
    · rw [if_neg numeric]
      cases host with
      | localhost => simp [HostText, lowered]
      | ipv4Loopback => simp [HostText, numeric]
      | ipv6Loopback => simp

theorem parsePlain_eq_some {value : Bytes} {host : AuthorityHost} {port : Option Nat} :
    parsePlain value = some (host, port) ↔ host ≠ .ipv6Loopback ∧ Spelled value host port := by
  unfold parsePlain
  constructor
  · intro parsed
    split at parsed
    · rename_i rawHost rawPort cut
      obtain ⟨rfl, _⟩ := rsplitOnce_eq_some.mp cut
      split at parsed
      · cases parsed
      · rename_i number read
        obtain ⟨rfl, positive, small⟩ := parsePort_eq_some.mp read
        obtain ⟨found, named, same⟩ := Option.map_eq_some_iff.mp parsed
        cases same
        obtain ⟨plain, text⟩ := plainHost_eq_some.mp named
        exact ⟨plain, rawHost, text, rfl, positive, small⟩
    · obtain ⟨found, named, same⟩ := Option.map_eq_some_iff.mp parsed
      cases same
      exact plainHost_eq_some.mp named
  · intro spelled
    obtain ⟨plain, spelled⟩ := spelled
    cases port with
    | none =>
      rw [rsplitOnce_eq_none.mpr (plain_of_hostText spelled plain).1]
      simp [plainHost_eq_some.mpr ⟨plain, spelled⟩]
    | some number =>
      obtain ⟨name, named, rfl, positive, small⟩ := spelled
      rw [rsplitOnce_append name (colon_not_in_decimal number)]
      simp [parsePort_eq_some.mpr ⟨rfl, positive, small⟩, plainHost_eq_some.mpr ⟨plain, named⟩]

theorem hostAndPort_eq_some {value : Bytes} {host : AuthorityHost} {port : Option Nat} :
    hostAndPort value = some (host, port) ↔ Spelled value host port := by
  have front {name : Bytes} (named : HostText host name) (plain : host ≠ .ipv6Loopback) (later : Bytes) :
      ∃ byte rest, name ++ later = byte :: rest ∧ byte ≠ 0x5b := by
    obtain ⟨_, bracket, filled⟩ := plain_of_hostText named plain
    obtain ⟨byte, rest, rfl⟩ := List.exists_cons_of_ne_nil filled
    exact ⟨byte, rest ++ later, rfl, fun same => bracket (by simp [same])⟩
  constructor
  · intro parsed
    cases value with
    | nil => cases parsed
    | cons byte rest =>
      rw [hostAndPort] at parsed
      by_cases bracket : byte = 0x5b
      · rw [if_pos bracket] at parsed
        subst bracket
        exact (parseBracketed_eq_some.mp parsed).2
      · rw [if_neg bracket] at parsed
        exact (parsePlain_eq_some.mp parsed).2
  · intro spelled
    by_cases bracketed : host = .ipv6Loopback
    · obtain ⟨rest, rfl⟩ : ∃ rest, value = 0x5b :: rest := by
        subst bracketed
        cases port with
        | none => exact ⟨_, spelled⟩
        | some number =>
          obtain ⟨name, named, rfl, _⟩ := spelled
          rw [HostText] at named
          exact ⟨_, by rw [named]; rfl⟩
      rw [hostAndPort, if_pos rfl]
      exact parseBracketed_eq_some.mpr ⟨bracketed, spelled⟩
    · obtain ⟨byte, rest, rfl, plain⟩ : ∃ byte rest, value = byte :: rest ∧ byte ≠ 0x5b := by
        cases port with
        | none =>
          obtain ⟨byte, rest, same, plain⟩ := front spelled bracketed []
          exact ⟨byte, rest, by rw [← same, List.append_nil], plain⟩
        | some number =>
          obtain ⟨name, named, rfl, _⟩ := spelled
          exact front named bracketed _
      rw [hostAndPort, if_neg plain]
      exact parsePlain_eq_some.mpr ⟨bracketed, spelled⟩

/-- The bytes an accepted authority is made of. -/
def isAuthorityByte (byte : UInt8) : Bool := isAlphanumeric byte || (ascii ".:[]").contains byte

theorem hostText_bytes {host : AuthorityHost} {name : Bytes} (named : HostText host name) {byte : UInt8}
    (member : byte ∈ name) : isAuthorityByte byte = true := by
  cases host with
  | localhost => simp [isAuthorityByte, localhost_alphanumeric named member]
  | ipv4Loopback =>
    have clean : ∀ byte ∈ ascii "127.0.0.1", isAuthorityByte byte = true := List.all_eq_true.mp (by decide)
    exact clean byte (named ▸ member)
  | ipv6Loopback =>
    have clean : ∀ byte ∈ ascii "[::1]", isAuthorityByte byte = true := List.all_eq_true.mp (by decide)
    exact clean byte (named ▸ member)

theorem spelled_bytes {value : Bytes} {host : AuthorityHost} {port : Option Nat}
    (spelled : Spelled value host port) {byte : UInt8} (member : byte ∈ value) : isAuthorityByte byte = true := by
  cases port with
  | none => exact hostText_bytes spelled member
  | some number =>
    obtain ⟨name, named, rfl, _⟩ := spelled
    rcases List.mem_append.mp member with inside | behind
    · exact hostText_bytes named inside
    · rcases List.mem_cons.mp behind with colon | digit
      · subst colon
        decide
      · simp [isAuthorityByte, isAlphanumeric, decimal_isDigit digit]

theorem whitespace_not_authority {byte : UInt8} (blank : isAsciiWhitespace byte = true) :
    isAuthorityByte byte = false := by
  simp only [isAsciiWhitespace, Bool.or_eq_true, beq_iff_eq] at blank
  rcases blank with (((same | same) | same) | same) | same <;> (subst same; decide)

/-- What the authority grammar accepts. -/
theorem parse_eq_some {value : Bytes} {configuredPort : Nat} {authority : LoopbackAuthority} :
    parse value configuredPort = some authority ↔ Authority value configuredPort authority := by
  unfold parse
  constructor
  · intro parsed
    split at parsed
    · cases parsed
    · split at parsed
      · cases parsed
      · rename_i host port cut
        have spelled := hostAndPort_eq_some.mp cut
        split at parsed
        · cases parsed
        · rename_i agreed
          cases parsed
          refine ⟨port, spelled, ?_⟩
          cases port with
          | none => exact .inl ⟨rfl, rfl⟩
          | some number =>
            obtain rfl : number = configuredPort := by simpa using agreed
            exact .inr ⟨rfl, rfl⟩
  · intro named
    obtain ⟨port, spelled, agreed⟩ := named
    have cut := hostAndPort_eq_some.mpr spelled
    have checked : ¬(value.isEmpty || value.any isAsciiWhitespace) = true := by
      rw [Bool.or_eq_true, List.any_eq_true, not_or, not_exists]
      constructor
      · intro empty
        rw [List.isEmpty_iff.mp empty] at cut
        cases cut
      · intro byte blank
        have inside := spelled_bytes spelled blank.1
        rw [whitespace_not_authority blank.2] at inside
        cases inside
    rw [if_neg checked, cut]
    obtain ⟨host, effectivePort⟩ := authority
    rcases agreed with ⟨rfl, port80⟩ | ⟨rfl, same⟩
    · simp [← port80]
    · simp [← same]

end LoopbackAuthority

/-- The scheme, a loopback authority behind it, and the host and port of another one. -/
theorem originIsSame_iff {value : Bytes} {host : LoopbackAuthority} :
    originIsSame value host = true ↔
      ∃ authority, value = ascii "http://" ++ authority ∧ Authority authority host.effectivePort host := by
  unfold originIsSame
  constructor
  · intro same
    split at same
    · rename_i scheme
      obtain ⟨authority, rfl⟩ := List.isPrefixOf_iff_prefix.mp scheme
      dsimp only at same
      split at same
      · cases same
      · refine ⟨authority, rfl, ?_⟩
        rw [← LoopbackAuthority.parse_eq_some]
        exact beq_iff_eq.mp same
    · cases same
  · intro spelled
    obtain ⟨authority, rfl, named⟩ := spelled
    have scheme : (ascii "http://").isPrefixOf (ascii "http://" ++ authority) = true := by
      rw [List.isPrefixOf_iff_prefix]
      exact List.prefix_append _ _
    have rest : (ascii "http://" ++ authority).drop 7 = authority := List.drop_left' rfl
    have clean : ¬(authority.any fun byte => (ascii "/?#@").contains byte) = true := by
      obtain ⟨port, text, _⟩ := named
      have separators : ∀ byte ∈ ascii "/?#@", (!LoopbackAuthority.isAuthorityByte byte) = true :=
        List.all_eq_true.mp (by decide)
      rw [List.any_eq_true, not_exists]
      intro byte found
      have inside := LoopbackAuthority.spelled_bytes text found.1
      have apart := separators byte (List.contains_iff_mem.mp found.2)
      rw [inside] at apart
      cases apart
    rw [if_pos scheme, rest]
    dsimp only
    rw [if_neg clean, LoopbackAuthority.parse_eq_some.mpr named, beq_self_eq_true]

/-- A loopback host in any accepted spelling, with nothing or the port behind it. -/
def LoopbackText (text : Bytes) (port : Nat) : Prop :=
  ∃ name, (asciiLower name = ascii "localhost" ∨ name = ascii "127.0.0.1" ∨ name = ascii "[::1]") ∧
    (text = name ∨ text = name ++ 0x3a :: decimal port)

theorem hostText_exists {name : Bytes} : (∃ host, HostText host name) ↔
    asciiLower name = ascii "localhost" ∨ name = ascii "127.0.0.1" ∨ name = ascii "[::1]" := by
  constructor
  · intro named
    obtain ⟨host, text⟩ := named
    cases host with
    | localhost => exact .inl text
    | ipv4Loopback => exact .inr (.inl text)
    | ipv6Loopback => exact .inr (.inr text)
  · intro named
    rcases named with text | text | text
    · exact ⟨.localhost, text⟩
    · exact ⟨.ipv4Loopback, text⟩
    · exact ⟨.ipv6Loopback, text⟩

theorem authority_iff {text : Bytes} {port : Nat} {authority : LoopbackAuthority} (positive : 0 < port)
    (small : port < 2 ^ 16) :
    Authority text port authority ↔ ∃ name, HostText authority.host name ∧
      (text = name ∧ authority.effectivePort = 80 ∨
        text = name ++ 0x3a :: decimal port ∧ authority.effectivePort = port) := by
  constructor
  · intro named
    obtain ⟨given, spelled, agreed⟩ := named
    rcases agreed with ⟨rfl, effective⟩ | ⟨rfl, effective⟩
    · exact ⟨text, spelled, .inl ⟨rfl, effective⟩⟩
    · obtain ⟨name, host, same, _⟩ := spelled
      exact ⟨name, host, .inr ⟨same, effective⟩⟩
  · intro written
    obtain ⟨name, host, layout⟩ := written
    rcases layout with ⟨rfl, effective⟩ | ⟨rfl, effective⟩
    · exact ⟨none, host, .inl ⟨rfl, effective⟩⟩
    · exact ⟨some port, ⟨name, host, rfl, positive, small⟩, .inr ⟨rfl, effective⟩⟩

theorem WebSecurity.port_positive (security : WebSecurity) : 0 < security.port := by
  apply Nat.pos_of_ne_zero
  intro zero
  exact security.numbered (UInt16.toNat_inj.mp zero)

/-- For a configured port the authorities accepted are the loopback texts, and the origins
accepted for one of them are the scheme with the same host and the same port. -/
theorem authority_and_origin_grammar (security : WebSecurity) :
    (∀ text, (LoopbackAuthority.parse text security.port).isSome = true ↔ LoopbackText text security.port) ∧
      ∀ text host, LoopbackAuthority.parse text security.port = some host →
        ∀ origin, originIsSame origin host = true ↔
          ∃ name, HostText host.host name ∧ (origin = ascii "http://" ++ name ∧ host.effectivePort = 80 ∨
            origin = ascii "http://" ++ (name ++ 0x3a :: decimal host.effectivePort)) := by
  have positive := security.port_positive
  have small : security.port < 2 ^ 16 := security.bindAddr.port.toNat_lt
  constructor
  · intro text
    rw [Option.isSome_iff_exists]
    constructor
    · intro parsed
      obtain ⟨authority, found⟩ := parsed
      obtain ⟨name, host, layout⟩ := (authority_iff positive small).mp (LoopbackAuthority.parse_eq_some.mp found)
      refine ⟨name, hostText_exists.mp ⟨authority.host, host⟩, ?_⟩
      rcases layout with ⟨bare, _⟩ | ⟨numbered, _⟩
      · exact .inl bare
      · exact .inr numbered
    · intro written
      obtain ⟨name, known, layout⟩ := written
      obtain ⟨host, named⟩ := hostText_exists.mpr known
      rcases layout with bare | numbered
      · refine ⟨⟨host, 80⟩, LoopbackAuthority.parse_eq_some.mpr ?_⟩
        exact (authority_iff positive small).mpr ⟨name, named, .inl ⟨bare, rfl⟩⟩
      · refine ⟨⟨host, security.port⟩, LoopbackAuthority.parse_eq_some.mpr ?_⟩
        exact (authority_iff positive small).mpr ⟨name, named, .inr ⟨numbered, rfl⟩⟩
  · intro text host accepted origin
    have bounds : 0 < host.effectivePort ∧ host.effectivePort < 2 ^ 16 := by
      obtain ⟨_, _, layout⟩ := (authority_iff positive small).mp (LoopbackAuthority.parse_eq_some.mp accepted)
      rcases layout with ⟨_, effective⟩ | ⟨_, effective⟩
      · rw [effective]
        decide
      · rw [effective]
        exact ⟨positive, small⟩
    rw [originIsSame_iff]
    simp only [authority_iff bounds.1 bounds.2, and_true]
    constructor
    · intro same
      obtain ⟨authority, rfl, name, named, layout⟩ := same
      refine ⟨name, named, ?_⟩
      rcases layout with ⟨rfl, effective⟩ | rfl
      · exact .inl ⟨rfl, effective⟩
      · exact .inr rfl
    · intro same
      obtain ⟨name, named, layout⟩ := same
      rcases layout with ⟨rfl, effective⟩ | rfl
      · exact ⟨name, rfl, name, named, .inl ⟨rfl, effective⟩⟩
      · exact ⟨_, rfl, name, named, .inr rfl⟩

/-! ## Cookies and bodies -/

def cookieField (field : Bytes) : Option (Bytes × Bytes) := splitOnce 0x3d (trimBlank field)

/-- The names and values of a cookie header. -/
def cookies (header : Bytes) : Option (List (Bytes × Bytes)) := (header.splitOn 0x3b).mapM cookieField

def csrfValues (cookies : List (Bytes × Bytes)) : List Bytes :=
  (cookies.filter fun cookie => cookie.1 = csrfCookie).map Prod.snd

theorem csrfValues_cons (name value : Bytes) (rest : List (Bytes × Bytes)) :
    csrfValues ((name, value) :: rest) = if name = csrfCookie then value :: csrfValues rest else csrfValues rest := by
  by_cases named : name = csrfCookie
  · simp [csrfValues, named]
  · simp [csrfValues, named]

theorem csrfCookieField_eq_some {found next : Option Bytes} {field : Bytes} :
    csrfCookieField found field = some next ↔
      ∃ name value, cookieField field = some (name, value) ∧
        (name = csrfCookie ∧ found = none ∧ value ≠ [] ∧ next = some value ∨ name ≠ csrfCookie ∧ next = found) := by
  unfold csrfCookieField cookieField
  cases cut : splitOnce 0x3d (trimBlank field) with
  | none => simp
  | some cookie =>
    obtain ⟨name, value⟩ := cookie
    by_cases named : name = csrfCookie
    · cases found with
      | some earlier => simp [named]
      | none =>
        by_cases empty : value = []
        · simp [named, empty]
        · simp only [named, if_true, Option.isSome_none, Bool.false_or, List.isEmpty_iff, empty, if_false,
            Option.some.injEq, Prod.mk.injEq]
          grind
    · simp only [named, if_false, Option.some.injEq, Prod.mk.injEq]
      grind

/-- The loop over the cookies ends with a value exactly when the values found are that one. -/
theorem csrfCookieField_fold {fields : List Bytes} {found result : Option Bytes} :
    fields.foldlM csrfCookieField found = some result ↔
      ∃ read, fields.mapM cookieField = some read ∧ found.toList ++ csrfValues read = result.toList ∧
        ∀ value ∈ csrfValues read, value ≠ [] := by
  induction fields generalizing found with
  | nil =>
    constructor
    · intro same
      cases same
      exact ⟨[], rfl, by simp [csrfValues], by simp [csrfValues]⟩
    · intro spec
      obtain ⟨read, none_read, same, _⟩ := spec
      cases none_read
      have equal : found.toList = result.toList := by simpa [csrfValues] using same
      cases found <;> cases result <;> simp_all
  | cons field rest ih =>
    rw [List.foldlM_cons]
    simp only [Option.bind_eq_bind, Option.bind_eq_some_iff, ih, mapM_cons_eq_some, csrfCookieField_eq_some]
    constructor
    · intro spec
      obtain ⟨next, ⟨name, value, cut, step⟩, read, spelled, same, filled⟩ := spec
      refine ⟨(name, value) :: read, ⟨(name, value), read, cut, spelled, rfl⟩, ?_⟩
      rw [csrfValues_cons]
      rcases step with ⟨named, rfl, some_value, rfl⟩ | ⟨unnamed, rfl⟩
      · rw [if_pos named]
        exact ⟨same, by simpa [some_value] using filled⟩
      · rw [if_neg unnamed]
        exact ⟨same, filled⟩
    · intro spec
      obtain ⟨whole, ⟨⟨name, value⟩, read, cut, spelled, rfl⟩, same, filled⟩ := spec
      rw [csrfValues_cons] at same filled
      by_cases named : name = csrfCookie
      · rw [if_pos named] at same filled
        have alone : found = none := by
          cases found with
          | none => rfl
          | some earlier =>
            have lengths := congrArg List.length same
            cases result <;> simp at lengths
        subst alone
        refine ⟨some value, ⟨name, value, cut, .inl ⟨named, rfl, filled value (by simp), rfl⟩⟩, read, spelled, same, ?_⟩
        intro other member
        exact filled other (List.mem_cons_of_mem value member)
      · rw [if_neg named] at same filled
        exact ⟨found, ⟨name, value, cut, .inr ⟨named, rfl⟩⟩, read, spelled, same, filled⟩

/-- The header carries one cookie of the name, and its value. -/
theorem csrfCookieValue_eq_some {header value : Bytes} :
    csrfCookieValue header = some value ↔
      value ≠ [] ∧ ∃ read, cookies header = some read ∧ csrfValues read = [value] := by
  have joined : csrfCookieValue header = some value ↔
      (header.splitOn 0x3b).foldlM csrfCookieField none = some (some value) := by
    unfold csrfCookieValue
    cases (header.splitOn 0x3b).foldlM csrfCookieField none with
    | none => simp
    | some found => simp
  rw [joined, csrfCookieField_fold]
  constructor
  · intro spec
    obtain ⟨read, spelled, same, filled⟩ := spec
    have single : csrfValues read = [value] := by simpa using same
    exact ⟨filled value (by simp [single]), read, spelled, single⟩
  · intro spec
    obtain ⟨filled, read, spelled, single⟩ := spec
    exact ⟨read, spelled, by simp [single], by simpa [single] using filled⟩

end PlayTogether.Web
