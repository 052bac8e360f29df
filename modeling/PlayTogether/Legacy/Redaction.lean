import PlayTogether.Legacy.GattSession

/-! What diagnostics show of the configured addresses. Whole entries are replaced, in the
last characters of the output only. -/

namespace PlayTogether.Legacy
open PlayTogether.Library

set_option maxRecDepth 20000

/-! ## Secrets -/

/-- The text has as many characters as the shape, each of its kind. -/
def matchesShape : List (Char → Bool) → Text → Bool
  | [], [] => true
  | accepts :: shape, char :: rest => accepts char && matchesShape shape rest
  | _, _ => false

/-- A device address as `from_env` leaves it. -/
structure ConfigAddress where
  text : Text
  valid : matchesShape macShape text = true
  upper : text.map Char.toUpper = text

/-- Of a configuration, what diagnostics must not show. -/
structure ConfigSecrets where
  jblMac : ConfigAddress
  auraMac : ConfigAddress
  startFrame : Text
  filled : startFrame ≠ []
  hex : startFrame.all isHexDigit = true
  lowered : lower startFrame = startFrame

def hexChar (digit : Nat) : Char := Char.ofNat (if digit < 10 then 0x30 + digit else 0x57 + digit)

/-- The bytes of a text in hexadecimal. -/
def encodeHex (text : Text) : Text :=
  (encode text).flatMap fun byte => [hexChar (byte.toNat / 16), hexChar (byte.toNat % 16)]

def withoutColons (text : Text) : Text := text.filter (· != ':')

namespace ConfigSecrets
variable (config : ConfigSecrets)

def redactions : List Text :=
  ([config.jblMac.text, config.auraMac.text, encodeHex (withoutColons config.jblMac.text),
    encodeHex (withoutColons config.auraMac.text), config.startFrame].filter (· ≠ [])).map lower

/-- How an address can show: in colon form, or encoded with or without colons, the address
in either letter case. Letter case of the text it shows in does not count. -/
def addressForms (address : Text) : List Text :=
  lower address :: [address, lower address, withoutColons address, withoutColons (lower address)].map encodeHex

def forms : List Text := addressForms config.jblMac.text ++ addressForms config.auraMac.text

/-- The sessions of the supervisor: one with the player, one with the speaker at the address
under which it is connected. -/
inductive Peer where
  | jbl
  | aura (address : ConfigAddress)

/-- What the session of a peer is built with. -/
def sessionRedactions : Peer → List Text
  | .jbl => config.redactions
  | .aura address => config.redactions ++ [lower address.text]

/-- The text shows no form of a configured address. -/
def Conceals (text : Text) : Prop := ∀ form ∈ config.forms, ¬form <:+: lower text

end ConfigSecrets

/-! ## Letter case -/

section Lower
variable {char : Char} {text : Text}

theorem toLower_toLower (char : Char) : char.toLower.toLower = char.toLower := by
  apply Char.toNat_inj.mp
  rw [toLower_toNat char.toLower, toLower_toNat]
  by_cases upper : 65 ≤ char.toNat ∧ char.toNat ≤ 90
  · rw [if_pos upper, if_neg (by omega)]
  · rw [if_neg upper, if_neg upper]

theorem lower_lower (text : Text) : lower (lower text) = lower text := by
  unfold lower
  rw [List.map_map]
  apply List.map_congr_left
  intro char _
  exact toLower_toLower char

theorem lower_eq_self (same : ∀ char ∈ text, char.toLower = char) : lower text = text := by
  unfold lower
  rw [List.map_congr_left same, List.map_id']

theorem sameIgnoringCase_toLower (char : Char) : sameIgnoringCase char.toLower char = true := by
  unfold sameIgnoringCase
  rw [toLower_toLower, beq_self_eq_true]
  rfl

/-- What shows in lower case stands there in some letter case. -/
theorem infix_lower {form : Text} (shown : form <:+: lower text) : ∃ word, word <:+: text ∧ form = lower word :=
  List.infix_map_iff.mp shown

end Lower

/-! ## Forms -/

/-- Digits of hexadecimal numbers and colons, all in lower case. -/
structure Hexadecimal (word : Text) : Prop where
  lowered : lower word = word
  kind : ∀ char ∈ word, isHexDigit char = true ∨ char = ':'

/-- More digits than a marker has in a row. -/
structure IsForm (form : Text) : Prop extends Hexadecimal form where
  long : 5 ≤ form.length

section Forms
variable {form word : Text}

def markerNames : List Text := ["bluetooth-address".toList, "redacted-frame".toList]

/-- No marker has so many digits in a row. -/
theorem markers_short : (markerNames.all fun name => name.tails.all fun behind => behind.inits.all fun part =>
    part.length < 5 || part.any fun char => !(isHexDigit char.toLower || char.toLower == ':')) = true := by
  decide

theorem IsForm.foreign (shape : IsForm form) (same : form = lower word) {name : Text} (member : name ∈ markerNames) :
    Foreign name word := by
  have kinds : ∀ char ∈ word, isHexDigit char.toLower = true ∨ char.toLower = ':' := by
    intro char present
    apply shape.kind
    rw [same]
    exact List.mem_map_of_mem present
  refine ⟨fun present => absurd (kinds '<' present) (by decide), fun present => absurd (kinds '>' present) (by decide), ?_⟩
  intro inside
  obtain ⟨behind, front, back⟩ := List.infix_iff_prefix_suffix.mp inside
  have long : 5 ≤ word.length := by
    have size := shape.long
    rw [same, lower, List.length_map] at size
    exact size
  have short := List.all_eq_true.mp markers_short name member
  have part := List.all_eq_true.mp (List.all_eq_true.mp short behind ((List.mem_tails _ _).mpr back)) word
    ((List.mem_inits _ _).mpr front)
  rw [Bool.or_eq_true, decide_eq_true_eq, List.any_eq_true] at part
  obtain ⟨char, present, other⟩ := part.resolve_left (Nat.not_lt.mpr long)
  rcases kinds char present with digit | colon
  · simp [digit] at other
  · simp [colon] at other

end Forms

/-! ## Redaction -/

section Redaction
variable {characters : Characters} {form word value secret : Text} {redactions : List Text}

theorem bluetoothAddress_eq : bluetoothAddress = bracketed "bluetooth-address".toList := by decide

theorem redactedFrame_eq : redactedFrame = bracketed "redacted-frame".toList := by decide

/-- A replacement brings no form about. -/
theorem IsForm.substitute (shape : IsForm form) {name : Text} (member : name ∈ markerNames) {pattern : Pattern}
    (hidden : ¬form <:+: lower value) :
    ¬form <:+: lower (substituteAll characters.isWord pattern (bracketed name) value) := by
  intro shown
  obtain ⟨word, inside, same⟩ := infix_lower shown
  have before := substitute_within (shape.foreign same member) inside
  rw [same] at hidden
  exact hidden (List.IsInfix.map Char.toLower before)

theorem IsForm.redactSecret (shape : IsForm form) (secret : Text) (hidden : ¬form <:+: lower value) :
    ¬form <:+: lower (redactSecret characters value secret) := by
  unfold Legacy.redactSecret
  split
  · rw [redactedFrame_eq]
    exact shape.substitute (by simp [markerNames]) hidden
  · exact hidden

/-- The pattern of a secret matches the secret in every letter case. -/
theorem secret_matches {part : Text} (same : secret = lower part) (before : Option Char) (after : Text) :
    (matchAny characters.isWord (secretPattern secret) before (part ++ after)).isSome = true := by
  apply matchAny_complete
  refine ⟨_, List.mem_singleton.mpr rfl, ?_⟩
  subst same
  unfold lower
  induction part generalizing before with
  | nil => rfl
  | cons char part ih => exact ⟨char, part, rfl, sameIgnoringCase_toLower char, ih (some char)⟩

/-- A form that an entry is part of is gone once the entry was replaced. -/
theorem IsForm.cleared (shape : IsForm form) (within : secret <:+: form) (filled : secret ≠ []) :
    ¬form <:+: lower (Legacy.redactSecret characters value secret) := by
  unfold Legacy.redactSecret
  split
  · intro shown
    obtain ⟨word, inside, same⟩ := infix_lower shown
    rw [same] at within
    obtain ⟨part, partInside, partSame⟩ := infix_lower within
    have partFilled : part ≠ [] := by
      intro empty
      rw [partSame, empty] at filled
      exact filled rfl
    have member : "redacted-frame".toList ∈ markerNames := by simp [markerNames]
    rw [redactedFrame_eq] at inside
    exact substitute_clears (shape.foreign same member) partInside partFilled (secret_matches partSame) inside
  · rename_i absent
    intro shown
    exact absent (within.trans shown)

/-- What is hidden from the beginning or by some entry stays hidden. -/
theorem IsForm.hidden (shape : IsForm form) (hidden : ¬form <:+: lower value ∨ ∃ entry ∈ redactions, entry <:+: form)
    (filled : ∀ entry ∈ redactions, entry ≠ []) :
    ¬form <:+: lower (redactions.foldl (Legacy.redactSecret characters) value) := by
  induction redactions generalizing value with
  | nil =>
    rcases hidden with hidden | ⟨entry, member, _⟩
    · exact hidden
    · cases member
  | cons first redactions ih =>
    obtain ⟨here, others⟩ := List.forall_mem_cons.mp filled
    rw [List.foldl_cons]
    apply ih _ others
    rcases hidden with hidden | ⟨entry, member, within⟩
    · exact .inl (shape.redactSecret first hidden)
    · rcases List.mem_cons.mp member with rfl | member
      · exact .inl (shape.cleared within here)
      · exact .inr ⟨entry, member, within⟩

/-- The shown text conceals a form that is not in the text without escape sequences, and
one that some entry is part of. -/
theorem IsForm.redact (shape : IsForm form) (filled : ∀ entry ∈ redactions, entry ≠ [])
    (hidden : ¬form <:+: lower (substituteAll characters.isWord ansiPattern [] value) ∨
      ∃ entry ∈ redactions, entry <:+: form) :
    ¬form <:+: lower (redact characters redactions value) := by
  unfold Legacy.redact
  refine shape.hidden ?_ filled
  rcases hidden with hidden | listed
  · rw [bluetoothAddress_eq]
    exact .inl (shape.substitute (by simp [markerNames]) hidden)
  · exact .inr listed

theorem strip_within (text : Text) : strip text <:+: text := by
  unfold strip
  have front := List.dropWhile_suffix (l := text) isSpace
  have back := List.dropWhile_suffix (l := (text.dropWhile isSpace).reverse) isSpace
  have kept : ((text.dropWhile isSpace).reverse.dropWhile isSpace).reverse <+: text.dropWhile isSpace := by
    rw [← List.reverse_suffix, List.reverse_reverse]
    exact back
  exact kept.isInfix.trans front.isInfix

end Redaction

/-! ## Addresses -/

section Addresses
variable {char : Char} {text : Text}

theorem isHexDigit_iff : isHexDigit char = true ↔ (0x30 ≤ char.toNat ∧ char.toNat ≤ 0x39) ∨
    (0x61 ≤ char.toNat ∧ char.toNat ≤ 0x66) ∨ (0x41 ≤ char.toNat ∧ char.toNat ≤ 0x46) := by
  unfold isHexDigit
  simp only [Bool.or_eq_true, Bool.and_eq_true, decide_eq_true_eq, or_assoc]
  exact Iff.rfl

theorem isHexDigit_toLower (digit : isHexDigit char = true) : isHexDigit char.toLower = true := by
  rw [isHexDigit_iff] at digit ⊢
  rw [toLower_toNat]
  split <;> omega

theorem matchesShape_cons {accepts : Char → Bool} {shape : List (Char → Bool)} :
    matchesShape (accepts :: shape) text = true ↔
      ∃ char rest, text = char :: rest ∧ accepts char = true ∧ matchesShape shape rest = true := by
  cases text with
  | nil => simp [matchesShape]
  | cons char rest => simp [matchesShape]

theorem matchesShape_member {shape : List (Char → Bool)} (same : matchesShape shape text = true) :
    ∀ char ∈ text, ∃ accepts ∈ shape, accepts char = true := by
  induction shape generalizing text with
  | nil =>
    cases text with
    | nil => simp
    | cons char rest => cases same
  | cons accepts shape ih =>
    obtain ⟨char, rest, rfl, here, others⟩ := matchesShape_cons.mp same
    refine List.forall_mem_cons.mpr ⟨⟨accepts, List.mem_cons_self, here⟩, ?_⟩
    intro other member
    obtain ⟨kind, present, accepted⟩ := ih others other member
    exact ⟨kind, List.mem_cons_of_mem accepts present, accepted⟩

theorem matchesShape_length {shape : List (Char → Bool)} (same : matchesShape shape text = true) :
    text.length = shape.length := by
  induction shape generalizing text with
  | nil =>
    cases text with
    | nil => rfl
    | cons char rest => cases same
  | cons accepts shape ih =>
    obtain ⟨char, rest, rfl, _, others⟩ := matchesShape_cons.mp same
    rw [List.length_cons, List.length_cons, ih others]

theorem hexChar_digit {digit : Nat} (small : digit < 16) :
    isHexDigit (hexChar digit) = true ∧ (hexChar digit).toLower = hexChar digit := by
  have all : ∀ digit < 16, isHexDigit (hexChar digit) = true ∧ (hexChar digit).toLower = hexChar digit := by decide
  exact all digit small

theorem encodeHex_digits (text : Text) : ∀ char ∈ encodeHex text, isHexDigit char = true ∧ char.toLower = char := by
  intro char present
  obtain ⟨byte, _, member⟩ := List.mem_flatMap.mp present
  have bound := byte.toNat_lt
  simp only [List.mem_cons, List.not_mem_nil, or_false] at member
  rcases member with rfl | rfl
  · exact hexChar_digit (by omega)
  · exact hexChar_digit (by omega)

theorem encodeHex_length (text : Text) :
    2 * text.length ≤ (encodeHex text).length ∧ (encodeHex text).length ≤ 8 * text.length := by
  have size : (encodeHex text).length = 2 * (encode text).length := by
    unfold encodeHex
    induction encode text with
    | nil => rfl
    | cons byte bytes ih =>
      rw [List.flatMap_cons, List.length_append, ih]
      change 2 + 2 * bytes.length = 2 * (bytes.length + 1)
      omega
  have bounds := encode_length text
  omega

namespace ConfigAddress
variable (address : ConfigAddress)

theorem length : address.text.length = 17 := matchesShape_length address.valid

theorem kinds : ∀ char ∈ address.text, isHexDigit char = true ∨ char = ':' := by
  intro char present
  obtain ⟨accepts, member, accepted⟩ := matchesShape_member address.valid char present
  have either : accepts = isHexDigit ∨ accepts = (· == ':') := by
    simp only [macShape, List.mem_append, List.mem_cons, List.not_mem_nil, or_false] at member
    grind
  rcases either with rfl | rfl
  · exact .inl accepted
  · exact .inr (beq_iff_eq.mp accepted)

theorem front : ∃ first second third fourth fifth rest,
    address.text = first :: second :: ':' :: third :: fourth :: ':' :: fifth :: rest ∧
      ∀ char ∈ [first, second, third, fourth, fifth], isHexDigit char = true := by
  have valid := address.valid
  unfold macShape at valid
  simp only [List.cons_append, List.nil_append] at valid
  obtain ⟨first, _, split, one, valid⟩ := matchesShape_cons.mp valid
  obtain ⟨second, _, rfl, two, valid⟩ := matchesShape_cons.mp valid
  obtain ⟨_, _, rfl, colon, valid⟩ := matchesShape_cons.mp valid
  obtain ⟨third, _, rfl, three, valid⟩ := matchesShape_cons.mp valid
  obtain ⟨fourth, _, rfl, four, valid⟩ := matchesShape_cons.mp valid
  obtain ⟨_, _, rfl, again, valid⟩ := matchesShape_cons.mp valid
  obtain ⟨fifth, rest, rfl, five, _⟩ := matchesShape_cons.mp valid
  obtain rfl := beq_iff_eq.mp colon
  obtain rfl := beq_iff_eq.mp again
  refine ⟨first, second, third, fourth, fifth, rest, split, ?_⟩
  simp [one, two, three, four, five]

/-- Digits are left when the colons are taken out. -/
theorem withoutColons_length {text : Text} (same : text = address.text ∨ text = lower address.text) :
    5 ≤ (withoutColons text).length := by
  obtain ⟨first, second, third, fourth, fifth, rest, split, digits⟩ := address.front
  have apart {char : Char} (digit : isHexDigit char = true) : (char != ':') = true ∧ (char.toLower != ':') = true := by
    constructor
    · apply bne_iff_ne.mpr
      intro colon
      rw [colon] at digit
      cases digit
    · apply bne_iff_ne.mpr
      intro colon
      have lowered := isHexDigit_toLower digit
      rw [colon] at lowered
      cases lowered
  simp only [List.forall_mem_cons] at digits
  obtain ⟨one, two, three, four, five, _⟩ := digits
  rw [split] at same
  unfold withoutColons
  rcases same with rfl | rfl
  · simp [(apart one).1, (apart two).1, (apart three).1, (apart four).1, (apart five).1]
  · simp [lower, (apart one).2, (apart two).2, (apart three).2, (apart four).2, (apart five).2]

theorem hexadecimal : Hexadecimal (lower address.text) := by
  refine ⟨lower_lower address.text, ?_⟩
  intro char present
  obtain ⟨original, member, rfl⟩ := List.mem_map.mp present
  rcases address.kinds original member with digit | colon
  · exact .inl (isHexDigit_toLower digit)
  · rw [colon]
    exact .inr rfl

theorem isForm : IsForm (lower address.text) := by
  refine ⟨address.hexadecimal, ?_⟩
  rw [lower, List.length_map, address.length]
  decide

end ConfigAddress

theorem hexadecimal_encodeHex (text : Text) : Hexadecimal (encodeHex text) := by
  have digits := encodeHex_digits text
  exact ⟨lower_eq_self fun char present => (digits char present).2, fun char present => .inl (digits char present).1⟩

theorem isForm_encodeHex (long : 5 ≤ text.length) : IsForm (encodeHex text) := by
  have size := (encodeHex_length text).1
  exact ⟨hexadecimal_encodeHex text, by omega⟩

/-- A form is the colon form, or the encoding of a text of some length. -/
theorem form_cases {address : ConfigAddress} {form : Text} (member : form ∈ ConfigSecrets.addressForms address.text) :
    form = lower address.text ∨ ∃ text, form = encodeHex text ∧ 5 ≤ text.length ∧ text.length ≤ 17 := by
  have size := address.length
  have lowered : (lower address.text).length = 17 := by rw [lower, List.length_map, size]
  have few (text : Text) : (withoutColons text).length ≤ text.length := List.length_filter_le _ text
  unfold ConfigSecrets.addressForms at member
  simp only [List.map_cons, List.map_nil, List.mem_cons, List.not_mem_nil, or_false] at member
  rcases member with rfl | rfl | rfl | rfl | rfl
  · exact .inl rfl
  · exact .inr ⟨_, rfl, by omega, by omega⟩
  · exact .inr ⟨_, rfl, by omega, by omega⟩
  · exact .inr ⟨_, rfl, address.withoutColons_length (.inl rfl), size ▸ few _⟩
  · exact .inr ⟨_, rfl, address.withoutColons_length (.inr rfl), lowered ▸ few _⟩

theorem isForm_of_member {address : ConfigAddress} {form : Text}
    (member : form ∈ ConfigSecrets.addressForms address.text) : IsForm form := by
  rcases form_cases member with rfl | ⟨text, rfl, long, _⟩
  · exact address.isForm
  · exact isForm_encodeHex long

end Addresses

/-! ## Encodings in one another -/

section Encodings
variable {text entry front after : Text}

theorem encodeHex_cons (char : Char) (text : Text) : encodeHex (char :: text) = encodeHex [char] ++ encodeHex text := by
  unfold encodeHex encode
  rw [List.flatMap_cons, List.flatMap_append, List.flatMap_cons, List.flatMap_nil, List.append_nil]

/-- The encoding of an upper case digit: two decimal digits. -/
theorem encodeHex_digit {char : Char} (digit : isHexDigit char = true) (upper : char.toUpper = char) :
    (encodeHex [char]).length = 2 ∧ 'a' ∉ encodeHex [char] := by
  have all : ∀ code < 0x67, isHexDigit (Char.ofNat code) = true → (Char.ofNat code).toUpper = Char.ofNat code →
      (encodeHex [Char.ofNat code]).length = 2 ∧ 'a' ∉ encodeHex [Char.ofNat code] := by decide
  have small : char.toNat < 0x67 := by
    have ranges := isHexDigit_iff.mp digit
    omega
  have result := all char.toNat small
  rw [Char.ofNat_toNat] at result
  exact result digit upper

theorem ConfigAddress.upper_each (address : ConfigAddress) : ∀ char ∈ address.text, char.toUpper = char := by
  have upper : address.text.map Char.toUpper = address.text.map id := by rw [List.map_id, address.upper]
  exact List.map_inj_left.mp upper

/-- Without colons, an address is encoded without the digit of the colon. -/
theorem withoutColons_free (address : ConfigAddress) : 'a' ∉ encodeHex (withoutColons address.text) := by
  have each : ∀ char ∈ withoutColons address.text, 'a' ∉ encodeHex [char] := by
    intro char member
    obtain ⟨present, letter⟩ := List.mem_filter.mp member
    have digit := (address.kinds char present).resolve_right (bne_iff_ne.mp letter)
    exact (encodeHex_digit digit (address.upper_each char present)).2
  generalize withoutColons address.text = text at each ⊢
  induction text with
  | nil => simp [encodeHex, encode]
  | cons char rest ih =>
    obtain ⟨here, others⟩ := List.forall_mem_cons.mp each
    rw [encodeHex_cons, List.mem_append, not_or]
    exact ⟨here, ih others⟩

/-- Digits between two colons are too few for an address. -/
theorem group_passed (free : 'a' ∉ entry) (long : 6 ≤ entry.length) (few : front.length ≤ 5)
    (inside : entry <:+: front ++ 'a' :: after) : entry <:+: after := by
  rcases infix_split free inside with before | behind
  · have size := before.length_le
    omega
  · exact behind

theorem encodeHex_group {first second : Char} {rest : Text} (free : 'a' ∉ entry) (long : 6 ≤ entry.length)
    (one : (encodeHex [first]).length = 2) (two : (encodeHex [second]).length = 2)
    (inside : entry <:+: encodeHex (first :: second :: ':' :: rest)) : entry <:+: encodeHex rest := by
  have colon : encodeHex [':'] = ['3', 'a'] := by decide
  have split : encodeHex (first :: second :: ':' :: rest) =
      (encodeHex [first] ++ encodeHex [second] ++ ['3']) ++ 'a' :: encodeHex rest := by
    rw [encodeHex_cons, encodeHex_cons second, encodeHex_cons ':', colon]
    simp
  rw [split] at inside
  refine group_passed free long ?_ inside
  rw [List.length_append, List.length_append, one, two]
  decide

def macGroup : List (Char → Bool) := [isHexDigit, isHexDigit, (· == ':')]

/-- The encoding with colons has no room for anything without the digit of the colon. -/
theorem groups_apart {count : Nat}
    (shape : matchesShape ((List.replicate count macGroup).flatten ++ [isHexDigit, isHexDigit]) text = true)
    (upper : ∀ char ∈ text, char.toUpper = char) (free : 'a' ∉ entry) (long : 6 ≤ entry.length) :
    ¬entry <:+: encodeHex text := by
  induction count generalizing text with
  | zero =>
    obtain ⟨first, _, rfl, one, shape⟩ := matchesShape_cons.mp shape
    obtain ⟨second, rest, rfl, two, shape⟩ := matchesShape_cons.mp shape
    have size := matchesShape_length shape
    rw [List.length_eq_zero_iff.mp size] at upper ⊢
    intro inside
    have few := inside.length_le
    have oneSize := (encodeHex_digit one (upper first (by simp))).1
    have twoSize := (encodeHex_digit two (upper second (by simp))).1
    rw [encodeHex_cons, List.length_append, oneSize, twoSize] at few
    omega
  | succ count ih =>
    obtain ⟨first, _, rfl, one, shape⟩ := matchesShape_cons.mp shape
    obtain ⟨second, _, rfl, two, shape⟩ := matchesShape_cons.mp shape
    obtain ⟨char, rest, rfl, colon, shape⟩ := matchesShape_cons.mp shape
    obtain rfl := beq_iff_eq.mp colon
    intro inside
    refine ih shape (fun char member => upper char (by simp [member])) ?_
    exact encodeHex_group free long (encodeHex_digit one (upper first (by simp))).1
      (encodeHex_digit two (upper second (by simp))).1 inside

end Encodings

/-! ## What a redaction leaves -/

/-- The stretches of a text that are left when whole addresses are cut out of it, and then
whole entries, one after the other. -/
def stretches (characters : Characters) (redactions : List Text) (text : Text) : List Text :=
  redactions.foldl (fun pieces secret => pieces.flatMap (remainders characters.isWord (secretPattern secret)))
    (remainders characters.isWord macPattern text)

section Stretches
variable {characters : Characters} {form word value secret text : Text} {pieces redactions : List Text} {char : Char}

theorem Hexadecimal.letter (shape : Hexadecimal word) (member : char ∈ word) :
    char.toLower = char ∧ ((0x30 ≤ char.toNat ∧ char.toNat ≤ 0x3a) ∨ (0x61 ≤ char.toNat ∧ char.toNat ≤ 0x66)) := by
  have lowered : char.toLower = char := by
    have same : word.map Char.toLower = word.map id := by rw [List.map_id]; exact shape.lowered
    exact List.map_inj_left.mp same char member
  refine ⟨lowered, ?_⟩
  have code := congrArg Char.toNat lowered
  rw [toLower_toNat] at code
  rcases shape.kind char member with digit | rfl
  · rw [isHexDigit_iff] at digit
    split at code <;> omega
  · decide

/-- Digits and colons have no other letter case than their own. -/
theorem Hexadecimal.same (shape : Hexadecimal secret) {letter : Char} (member : letter ∈ secret)
    (accepted : sameIgnoringCase letter char = true) : char.toLower = letter := by
  obtain ⟨lowered, range⟩ := shape.letter member
  have apart {other : Char} (outside : ¬((0x30 ≤ other.toNat ∧ other.toNat ≤ 0x3a) ∨
      (0x61 ≤ other.toNat ∧ other.toNat ≤ 0x66))) : (letter == other) = false := by
    apply beq_false_of_ne
    rintro rfl
    exact outside range
  unfold sameIgnoringCase at accepted
  rw [lowered, @apart 'i' (by decide), @apart 's' (by decide), @apart 'k' (by decide)] at accepted
  simpa using accepted

theorem matches_secret {before : Option Char} {matched after : Text} (shape : Hexadecimal secret)
    (fits : MatchesAny characters.isWord (secretPattern secret) before matched after) : lower matched = secret := by
  obtain ⟨items, member, fits⟩ := fits
  obtain rfl := List.mem_singleton.mp member
  have each : ∀ letter ∈ secret, ∀ char, sameIgnoringCase letter char = true → char.toLower = letter :=
    fun letter member char => shape.same member
  clear shape member
  induction secret generalizing before matched with
  | nil =>
    cases fits
    rfl
  | cons letter secret ih =>
    obtain ⟨here, others⟩ := List.forall_mem_cons.mp each
    obtain ⟨char, rest, rfl, accepted, fits⟩ := fits
    change char.toLower :: lower rest = letter :: secret
    rw [here char accepted, ih fits others]

/-- A secret is looked for before it is replaced, which makes no difference. -/
theorem redactSecret_eq (shape : Hexadecimal secret) :
    redactSecret characters value secret = substituteAll characters.isWord (secretPattern secret) redactedFrame value := by
  unfold redactSecret
  split
  · rfl
  · rename_i absent
    refine (substitute_none ?_).symm
    intro before matched after fits inside
    apply absent
    rw [← matches_secret shape fits]
    exact List.IsInfix.map Char.toLower inside

/-- No entry has a bracket of a marker in it. -/
theorem secret_avoids (shape : Hexadecimal secret) (filled : secret ≠ []) {bracket : Char}
    (one : bracket = '<' ∨ bracket = '>') : Avoids (secretPattern secret) bracket := by
  refine List.forall_mem_singleton.mpr ⟨mt List.map_eq_nil_iff.mp filled, ?_⟩
  intro item present
  obtain ⟨letter, member, rfl⟩ := List.mem_map.mp present
  refine ⟨_, rfl, Bool.eq_false_iff.mpr ?_⟩
  intro accepted
  have lowered := shape.same member accepted
  have range := (shape.letter member).2
  rcases one with rfl | rfl
  · rw [← lowered] at range
    revert range
    decide
  · rw [← lowered] at range
    revert range
    decide

theorem joined_redactions (shape : IsForm form) (entries : ∀ secret ∈ redactions, Hexadecimal secret ∧ secret ≠ [])
    (joined : Joined (IsBracketed fun word => form = lower word) pieces value) :
    Joined (IsBracketed fun word => form = lower word)
      (redactions.foldl (fun pieces secret => pieces.flatMap (remainders characters.isWord (secretPattern secret))) pieces)
      (redactions.foldl (redactSecret characters) value) := by
  induction redactions generalizing pieces value with
  | nil => exact joined
  | cons secret redactions ih =>
    obtain ⟨⟨hexadecimal, filled⟩, others⟩ := List.forall_mem_cons.mp entries
    have foreign : ∀ word, form = lower word → Foreign "redacted-frame".toList word :=
      fun word same => shape.foreign same (by simp [markerNames])
    rw [List.foldl_cons, List.foldl_cons]
    apply ih others
    rw [redactSecret_eq hexadecimal, redactedFrame_eq]
    exact joined.substitute foreign (secret_avoids hexadecimal filled (.inl rfl))
      (secret_avoids hexadecimal filled (.inr rfl))

/-- A whole address, or a whole entry in some letter case. -/
def IsSecret (redactions : List Text) (word : Text) : Prop :=
  matchesShape macShape word = true ∨ lower word ∈ redactions

theorem matches_shape {shape : List (Char → Bool)} {before : Option Char} {matched after : Text}
    (fits : Matches characters.isWord (shape.map .one) before matched after) : matchesShape shape matched = true := by
  induction shape generalizing before matched with
  | nil =>
    cases fits
    rfl
  | cons accepts shape ih =>
    obtain ⟨char, rest, rfl, accepted, fits⟩ := fits
    rw [matchesShape, accepted, ih fits]
    rfl

/-- A text is its stretches with a whole secret between each two. -/
theorem stretches_joined (entries : ∀ secret ∈ redactions, Hexadecimal secret ∧ secret ≠ []) :
    Joined (IsSecret redactions) (stretches characters redactions text) text := by
  have cut {rest : List Text} {pieces : List Text} (own : rest ⊆ redactions)
      (joined : Joined (IsSecret redactions) pieces text) : Joined (IsSecret redactions)
        (rest.foldl (fun pieces secret => pieces.flatMap (remainders characters.isWord (secretPattern secret))) pieces)
        text := by
    induction rest generalizing pieces with
    | nil => exact joined
    | cons secret rest ih =>
      obtain ⟨here, others⟩ := List.cons_subset.mp own
      refine ih others (joined.remainders ?_)
      intro before matched after fits
      have same := matches_secret (entries secret here).1 fits
      refine ⟨.inr (same ▸ here), ?_⟩
      rintro rfl
      exact (entries secret here).2 same.symm
  refine cut (List.Subset.refl redactions) (joined_remainders ?_)
  intro before matched after fits
  obtain ⟨items, member, fits⟩ := fits
  obtain rfl := List.mem_singleton.mp member
  have shape := matches_shape fits
  refine ⟨.inl shape, ?_⟩
  rintro rfl
  cases shape

/-- A form is shown where it stands in one of the stretches. -/
theorem IsForm.redact_iff (shape : IsForm form) (entries : ∀ secret ∈ redactions, Hexadecimal secret ∧ secret ≠ []) :
    form <:+: lower (Legacy.redact characters redactions value) ↔
      ∃ stretch ∈ stretches characters redactions (substituteAll characters.isWord ansiPattern [] value),
        form <:+: lower stretch := by
  have foreign : ∀ word, form = lower word → Foreign "bluetooth-address".toList word :=
    fun word same => shape.foreign same (by simp [markerNames])
  have joined : Joined (IsBracketed fun word => form = lower word)
      (stretches characters redactions (substituteAll characters.isWord ansiPattern [] value))
      (Legacy.redact characters redactions value) := by
    unfold stretches Legacy.redact
    rw [bluetoothAddress_eq]
    exact joined_redactions shape entries (joined_substitute ⟨_, rfl, foreign⟩)
  constructor
  · intro shown
    obtain ⟨word, inside, same⟩ := infix_lower shown
    obtain ⟨stretch, member, within⟩ := (joined.infix_iff same).mp inside
    refine ⟨stretch, member, ?_⟩
    rw [same]
    exact List.IsInfix.map Char.toLower within
  · intro ⟨stretch, member, shown⟩
    obtain ⟨word, within, same⟩ := infix_lower shown
    rw [same]
    exact List.IsInfix.map Char.toLower ((joined.infix_iff same).mpr ⟨stretch, member, within⟩)

/-- A word without white space stands behind the white space of a text. -/
theorem infix_dropWhile (solid : ∀ char ∈ word, isSpace char = false) (inside : word <:+: text) :
    word <:+: text.dropWhile isSpace := by
  induction text with
  | nil => exact inside
  | cons first rest ih =>
    rw [List.dropWhile_cons]
    split
    · rename_i blank
      have free : first ∉ word := fun present => by simp [solid first present] at blank
      rcases infix_split free (show word <:+: [] ++ first :: rest from inside) with nothing | later
      · rw [List.infix_nil.mp nothing]
        exact List.nil_infix
      · exact ih later
    · exact inside

theorem infix_strip (solid : ∀ char ∈ word, isSpace char = false) (inside : word <:+: text) : word <:+: strip text := by
  have back : ∀ char ∈ word.reverse, isSpace char = false :=
    fun char present => solid char (List.mem_reverse.mp present)
  unfold strip
  rw [← List.reverse_infix, List.reverse_reverse]
  exact infix_dropWhile back (List.reverse_infix.mpr (infix_dropWhile solid inside))

/-- Taking white space off the ends takes nothing off a form. -/
theorem IsForm.strip_iff (shape : IsForm form) : form <:+: lower (strip text) ↔ form <:+: lower text := by
  constructor
  · intro shown
    exact shown.trans (List.IsInfix.map Char.toLower (strip_within text))
  · intro shown
    obtain ⟨word, inside, same⟩ := infix_lower shown
    have solid : ∀ char ∈ word, isSpace char = false := by
      intro char present
      have member : char.toLower ∈ form := by
        rw [same]
        exact List.mem_map_of_mem present
      have range := (shape.letter member).2
      rw [toLower_toNat] at range
      unfold isSpace
      simp
      split at range <;> omega
    rw [same]
    exact List.IsInfix.map Char.toLower (infix_strip solid inside)

end Stretches

/-! ## What a tail shows -/

section Shown
variable {characters : Characters} {text : Text} {redactions : List Text}

theorem esc_of_ansi : ∀ before matched after, MatchesAny characters.isWord ansiPattern before matched after →
    '\x1b' ∈ matched := by
  intro before matched after fits
  obtain ⟨items, member, fits⟩ := fits
  obtain rfl := List.mem_singleton.mp member
  obtain ⟨char, rest, rfl, accepted, _⟩ := fits
  rw [← beq_iff_eq.mp accepted]
  exact List.mem_cons_self

theorem colon_of_mac : ∀ before matched after, MatchesAny characters.isWord macPattern before matched after →
    ':' ∈ matched := by
  intro before matched after fits
  obtain ⟨items, member, fits⟩ := fits
  obtain rfl := List.mem_singleton.mp member
  obtain ⟨_, _, rfl, _, fits⟩ := fits
  obtain ⟨_, _, rfl, _, fits⟩ := fits
  obtain ⟨char, rest, rfl, accepted, _⟩ := fits
  rw [← beq_iff_eq.mp accepted]
  simp

/-- Digits that no entry is part of are shown as they are. -/
theorem redact_digits (digits : ∀ char ∈ text, isHexDigit char = true ∧ char.toLower = char)
    (unlisted : ∀ entry ∈ redactions, ¬entry <:+: text) : redact characters redactions text = text := by
  have no_escape : '\x1b' ∉ text := fun present => absurd (digits _ present).1 (by decide)
  have no_colon : ':' ∉ text := fun present => absurd (digits _ present).1 (by decide)
  have lowered : lower text = text := lower_eq_self fun char present => (digits char present).2
  have stays : ∀ entry ∈ redactions, redactSecret characters text entry = text := by
    intro entry member
    unfold redactSecret
    rw [lowered, if_neg (unlisted entry member)]
  have no_ansi := fun before matched after fits inside =>
    no_escape (List.IsInfix.subset inside (@esc_of_ansi characters before matched after fits))
  have no_mac := fun before matched after fits inside =>
    no_colon (List.IsInfix.subset inside (@colon_of_mac characters before matched after fits))
  rw [redact, substitute_none no_ansi, substitute_none no_mac]
  clear unlisted
  induction redactions with
  | nil => rfl
  | cons entry redactions ih =>
    obtain ⟨here, others⟩ := List.forall_mem_cons.mp stays
    rw [List.foldl_cons, here]
    exact ih others

theorem dropWhile_digits (digits : ∀ char ∈ text, isHexDigit char = true) : text.dropWhile isSpace = text := by
  cases text with
  | nil => rfl
  | cons char rest =>
    have digit := isHexDigit_iff.mp (digits char List.mem_cons_self)
    have letter : ¬isSpace char = true := by
      unfold isSpace
      simp
      omega
    rw [List.dropWhile_cons, if_neg letter]

theorem strip_digits (digits : ∀ char ∈ text, isHexDigit char = true) : strip text = text := by
  have back : ∀ char ∈ text.reverse, isHexDigit char = true := fun char present => digits char (List.mem_reverse.mp present)
  unfold strip
  rw [dropWhile_digits digits, dropWhile_digits back, List.reverse_reverse]

end Shown

/-! ## Diagnostics -/

section Diagnostics
variable (characters : Characters) (config : ConfigSecrets) (peer : ConfigSecrets.Peer)

theorem redactions_subset : config.redactions ⊆ config.sessionRedactions peer := by
  cases peer with
  | jbl => exact List.Subset.refl _
  | aura address => exact List.subset_append_left _ _

/-- What an entry can be: the colon form of an address, an encoding without colons or the START frame. -/
inductive SecretEntry : Text → Prop where
  | address (address : ConfigAddress) : SecretEntry (lower address.text)
  | encoding (address : ConfigAddress) : SecretEntry (encodeHex (withoutColons address.text))
  | startFrame : SecretEntry config.startFrame

theorem entry_of_redactions {entry : Text} (listed : entry ∈ config.redactions) : SecretEntry config entry := by
  obtain ⟨original, kept, rfl⟩ := List.mem_map.mp listed
  have listed := (List.mem_filter.mp kept).1
  simp only [List.mem_cons, List.not_mem_nil, or_false] at listed
  rcases listed with rfl | rfl | rfl | rfl | rfl
  · exact .address config.jblMac
  · exact .address config.auraMac
  · rw [(hexadecimal_encodeHex _).lowered]
    exact .encoding config.jblMac
  · rw [(hexadecimal_encodeHex _).lowered]
    exact .encoding config.auraMac
  · rw [config.lowered]
    exact .startFrame

theorem entry_of_session {entry : Text} (member : entry ∈ config.sessionRedactions peer) : SecretEntry config entry := by
  cases peer with
  | jbl => exact entry_of_redactions config member
  | aura address =>
    rcases List.mem_append.mp member with listed | found
    · exact entry_of_redactions config listed
    · rw [List.mem_singleton.mp found]
      exact .address address

theorem entries_hexadecimal : ∀ entry ∈ config.sessionRedactions peer, Hexadecimal entry ∧ entry ≠ [] := by
  intro entry member
  cases entry_of_session config peer member with
  | address address =>
    refine ⟨address.hexadecimal, List.ne_nil_of_length_pos ?_⟩
    rw [lower, List.length_map, address.length]
    decide
  | encoding address =>
    refine ⟨hexadecimal_encodeHex _, List.ne_nil_of_length_pos ?_⟩
    have size := (encodeHex_length (withoutColons address.text)).1
    have long := address.withoutColons_length (.inl rfl)
    omega
  | startFrame =>
    exact ⟨⟨config.lowered, fun char present => .inl (List.all_eq_true.mp config.hex char present)⟩, config.filled⟩

theorem isForm_of_forms {form : Text} (member : form ∈ config.forms) : IsForm form := by
  rcases List.mem_append.mp member with own | own
  · exact isForm_of_member own
  · exact isForm_of_member own

/-- The colon form of each address is an entry. -/
theorem address_of_form {form : Text} (member : form ∈ config.forms) : ∃ address : ConfigAddress,
    form ∈ ConfigSecrets.addressForms address.text ∧ lower address.text ∈ config.redactions := by
  have listed {address : ConfigAddress} (one : address = config.jblMac ∨ address = config.auraMac) :
      lower address.text ∈ config.redactions := by
    apply List.mem_map_of_mem
    apply List.mem_filter.mpr
    constructor
    · rcases one with rfl | rfl <;> simp
    · apply decide_eq_true
      intro empty
      have size := address.length
      rw [empty] at size
      cases size
  rcases List.mem_append.mp member with own | own
  · exact ⟨config.jblMac, own, listed (.inl rfl)⟩
  · exact ⟨config.auraMac, own, listed (.inr rfl)⟩

/-- What a tail reads: the last characters since the start, without escape sequences. -/
def shownOutput (start : Nat) (session : GattSession) : Text :=
  substituteAll characters.isWord ansiPattern [] (lastChars 600 (session.buffer.drop (start - session.bufferOffset)))

section Call
variable (session : GattSession) (start : Nat)

/-- A form that is not in what a tail reads is not shown, and one that an entry is part of is not either. -/
theorem tail_hides {form : Text} (member : form ∈ config.forms)
    (hidden : ¬form <:+: lower (shownOutput characters start session) ∨
      ∃ entry ∈ config.sessionRedactions peer, entry <:+: form) :
    ¬form <:+: lower (session.tail characters (config.sessionRedactions peer) start) := by
  have filled := fun entry listed => (entries_hexadecimal config peer entry listed).2
  have redacted := (isForm_of_forms config member).redact filled hidden
  exact fun shown => redacted (shown.trans (List.IsInfix.map Char.toLower (strip_within _)))

theorem tail_shows_iff {form : Text} (member : form ∈ config.forms) :
    form <:+: lower (session.tail characters (config.sessionRedactions peer) start) ↔
      ∃ stretch ∈ stretches characters (config.sessionRedactions peer) (shownOutput characters start session),
        form <:+: lower stretch := by
  have shape := isForm_of_forms config member
  exact shape.strip_iff.trans (shape.redact_iff (entries_hexadecimal config peer))

/-- A tail conceals the addresses when what it reads does. -/
theorem tail_conceals_read (conceals : config.Conceals (shownOutput characters start session)) :
    config.Conceals (session.tail characters (config.sessionRedactions peer) start) :=
  fun form member => tail_hides characters config peer session start member (.inl (conceals form member))

end Call

/-! ## All outputs -/

/-- The output that is nothing but one encoding. -/
def bareOutput (form : Text) : GattSession := ⟨form, 0, true⟩

theorem tail_bareOutput {form : Text} {redactions : List Text}
    (digits : ∀ char ∈ form, isHexDigit char = true ∧ char.toLower = char)
    (short : form.length ≤ 600) (unlisted : ∀ entry ∈ redactions, ¬entry <:+: form) :
    (bareOutput form).tail characters redactions 0 = form := by
  have whole : lastChars 600 form = form := by
    rw [lastChars, Nat.sub_eq_zero_of_le short, List.drop_zero]
  change strip (redact characters redactions (lastChars 600 form)) = form
  rw [whole, redact_digits digits unlisted, strip_digits fun char present => (digits char present).1]

/-- A tail conceals the addresses in every output exactly when every form has an entry in it. -/
theorem conceals_always_iff :
    (∀ (session : GattSession) start, config.Conceals (session.tail characters (config.sessionRedactions peer) start)) ↔
      ∀ form ∈ config.forms, ∃ entry ∈ config.sessionRedactions peer, entry <:+: form := by
  constructor
  · intro conceals form member
    by_contra none_listed
    have unlisted : ∀ entry ∈ config.sessionRedactions peer, ¬entry <:+: form := fun entry listed within =>
      none_listed ⟨entry, listed, within⟩
    obtain ⟨address, own, listed⟩ := address_of_form config member
    rcases form_cases own with rfl | ⟨text, rfl, _, short⟩
    · exact unlisted _ (redactions_subset config peer listed) (List.infix_refl _)
    · have digits := encodeHex_digits text
      have size := (encodeHex_length text).2
      have hidden := conceals (bareOutput (encodeHex text)) 0 (encodeHex text) member
      rw [tail_bareOutput characters digits (by omega) unlisted] at hidden
      rw [(hexadecimal_encodeHex text).lowered] at hidden
      exact hidden (List.infix_refl _)
  · intro listed session start form member
    exact tail_hides characters config peer session start member (.inr (listed form member))

/-- A START frame around the encoded address leaves the encoding itself without an entry. -/
theorem embedded_unlisted (embeds : encodeHex config.jblMac.text <:+: config.startFrame)
    (longer : config.startFrame ≠ encodeHex config.jblMac.text) :
    ∀ entry ∈ config.sessionRedactions peer, ¬entry <:+: encodeHex config.jblMac.text := by
  intro entry member inside
  cases entry_of_session config peer member with
  | address address =>
    obtain ⟨first, second, third, fourth, fifth, rest, split, _⟩ := address.front
    have colon : ':' ∈ lower address.text := by
      have member : ':' ∈ address.text := by simp [split]
      exact List.mem_map.mpr ⟨':', member, by decide⟩
    exact absurd (encodeHex_digits _ ':' (inside.subset colon)).1 (by decide)
  | encoding address =>
    have size := (encodeHex_length (withoutColons address.text)).1
    have long := address.withoutColons_length (.inl rfl)
    have apart := @groups_apart _ _ 5 config.jblMac.valid config.jblMac.upper_each (withoutColons_free address) (by omega)
    exact apart inside
  | startFrame => exact longer (inside.eq_of_length (Nat.le_antisymm inside.length_le embeds.length_le))

/-- No configuration whose START frame embeds the encoded address is safe for every output. -/
theorem embedded_frame_reveals (embeds : encodeHex config.jblMac.text <:+: config.startFrame)
    (longer : config.startFrame ≠ encodeHex config.jblMac.text) :
    ∃ (session : GattSession) (start : Nat),
      ¬config.Conceals (session.tail characters (config.sessionRedactions peer) start) := by
  by_contra every
  push Not at every
  have member : encodeHex config.jblMac.text ∈ config.forms := by
    simp [ConfigSecrets.forms, ConfigSecrets.addressForms]
  obtain ⟨entry, listed, inside⟩ := (conceals_always_iff characters config peer).mp every _ member
  exact embedded_unlisted config peer embeds longer entry listed inside

end Diagnostics

/-! ## A cut frame -/

/-- What the launcher puts into the START frame. -/
def fixturePayload : Text :=
  "\x7b\"action\":1,\"broadcast\":\x7b\"address\":".toList ++ "\"AA:BB:CC:DD:EE:FF\",".toList ++
    "\"name\":\"JBL Authentics 300\",".toList ++ "\"need_access_code\":false,\"status\":2,".toList ++
    "\"subgroup\":[\x7b\"active_status\":1,\"index\":0,".toList ++ "\"is_support\":true,\"quality\":0\x7d]\x7d\x7d".toList

def fixtureFrame : Text := "504c151fc100".toList ++ encodeHex fixturePayload

theorem fixtureFrame_digits : ∀ char ∈ fixtureFrame, isHexDigit char = true ∧ char.toLower = char := by
  have header : ("504c151fc100".toList.all fun char => isHexDigit char && char.toLower == char) = true := by
    decide
  refine List.forall_mem_append.mpr ⟨?_, encodeHex_digits fixturePayload⟩
  intro char present
  have checked := List.all_eq_true.mp header char present
  rw [Bool.and_eq_true, beq_iff_eq] at checked
  exact checked

def fixtureSecrets : ConfigSecrets where
  jblMac := ⟨"AA:BB:CC:DD:EE:FF".toList, by decide, by decide⟩
  auraMac := ⟨"11:22:33:44:55:66".toList, by decide, by decide⟩
  startFrame := fixtureFrame
  filled := by decide
  hex := List.all_eq_true.mpr fun char present => (fixtureFrame_digits char present).1
  lowered := lower_eq_self fun char present => (fixtureFrame_digits char present).2

/-- The written command and output behind it, of which the last characters begin within the frame. -/
def fixtureOutput : GattSession :=
  ⟨"char-write-req 0x002a ".toList ++ fixtureSecrets.startFrame ++ List.replicate 203 '.', 0, true⟩

/-- A frame that the cut leaves whole goes as a whole. -/
example : stretches asciiCharacters fixtureSecrets.redactions
    (shownOutput asciiCharacters 0 ⟨"char-write-req 0x002a ".toList ++ fixtureFrame ++ ['.'], 0, true⟩) =
      ["char-write-req 0x002a ".toList, ['.']] := by
  decide

end PlayTogether.Legacy
