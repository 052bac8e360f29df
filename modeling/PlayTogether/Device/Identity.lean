import PlayTogether.Device.Group
import PlayTogether.Library.Trim

/-! The spellings of a Bluetooth identity in configuration values and group members. -/

namespace PlayTogether.Device
open PlayTogether.Library

set_option maxRecDepth 20000

def DeviceIdentity.compactConfigValue (identity : DeviceIdentity) : Bytes := hex identity.binary.toList

/-- Six pairs of lower-case digits with a separator between neighbours. -/
def joinedPairs (separator : UInt8) (binary : Vector UInt8 6) : Bytes :=
  [separator].intercalate (binary.toList.map fun byte => hex [byte])

/-- Twelve digits, or six pairs of digits joined by one separator, in any letter case. -/
def SpellsIdentity (core : Bytes) (binary : Vector UInt8 6) : Prop :=
  asciiLower core = hex binary.toList ∨
    ∃ separator, (separator = 0x3a ∨ separator = 0x2d) ∧ asciiLower core = joinedPairs separator binary

/-- The text spells the bytes between white space. -/
def WritesIdentity (text : Bytes) (binary : Vector UInt8 6) : Prop :=
  ∃ before core after, Blank before ∧ Blank after ∧ text = before ++ (core ++ after) ∧ SpellsIdentity core binary

/-! ## Digits -/

theorem hexNibble_digit (byte : UInt8) :
    (∀ nibble ∈ hexNibble byte, nibble.toNat < 16 ∧ toLower byte = hexDigit nibble.toNat) ∧
      (hexNibble byte = none → ∀ digit : Fin 16, toLower byte ≠ hexDigit digit) := by
  have checked : ((List.finRange 256).all fun byte =>
      match hexNibble (UInt8.ofFin byte) with
      | some nibble => nibble.toNat < 16 && toLower (UInt8.ofFin byte) == hexDigit nibble.toNat
      | none => (List.finRange 16).all fun digit => toLower (UInt8.ofFin byte) != hexDigit digit) = true := by
    decide
  apply forall_byte _ byte
  intro byte
  have here := List.all_eq_true.mp checked byte (List.mem_finRange byte)
  cases read : hexNibble (UInt8.ofFin byte) with
  | some nibble =>
    rw [read] at here
    have both := Bool.and_eq_true_iff.mp here
    simpa using both
  | none =>
    rw [read] at here
    have apart := List.all_eq_true.mp here
    simpa using apart

theorem hexDigit_injective {left right : Nat} (small : left < 16) (little : right < 16)
    (same : hexDigit left = hexDigit right) : left = right := by
  have all : ∀ left right : Fin 16, hexDigit left = hexDigit right → left = right := by decide
  exact congrArg Fin.val (all ⟨left, small⟩ ⟨right, little⟩ same)

theorem hexNibble_iff {byte nibble : UInt8} :
    hexNibble byte = some nibble ↔ nibble.toNat < 16 ∧ toLower byte = hexDigit nibble.toNat := by
  obtain ⟨read, refused⟩ := hexNibble_digit byte
  constructor
  · intro found
    exact read nibble found
  · intro written
    cases found : hexNibble byte with
    | none => exact absurd written.2 (refused found ⟨nibble.toNat, written.1⟩)
    | some other =>
      have value := read other found
      have same := hexDigit_injective value.1 written.1 (value.2.symm.trans written.2)
      rw [UInt8.toNat_inj.mp same]

theorem nibbles_byte {high low byte : UInt8} (small : high.toNat < 16) (little : low.toNat < 16) :
    high <<< 4 ||| low = byte ↔ high.toNat = byte.toNat / 16 ∧ low.toNat = byte.toNat % 16 := by
  have joined : (high <<< 4 ||| low).toNat = high.toNat * 16 + low.toNat := by
    have all : ∀ high low : Fin 16, ((UInt8.ofNat high) <<< 4 ||| UInt8.ofNat low).toNat = high.val * 16 + low.val := by
      decide
    have here := all ⟨high.toNat, small⟩ ⟨low.toNat, little⟩
    simpa using here
  rw [← UInt8.toNat_inj, joined]
  omega

theorem hexByte_iff {high low byte : UInt8} : hexByte high low = some byte ↔ asciiLower [high, low] = hex [byte] := by
  simp only [hexByte, Option.bind_eq_bind, Option.bind_eq_some_iff, hexNibble_iff, Option.some.injEq, asciiLower, hex,
    List.map_cons, List.map_nil, List.flatMap_cons, List.flatMap_nil, List.append_nil, List.cons.injEq, and_true]
  have size := byte.toNat_lt
  constructor
  · intro read
    obtain ⟨first, ⟨small, upper⟩, second, ⟨little, lower⟩, joined⟩ := read
    obtain ⟨above, below⟩ := (nibbles_byte small little).mp joined
    rw [upper, lower, above, below]
    exact ⟨rfl, rfl⟩
  · intro written
    have first : (UInt8.ofNat (byte.toNat / 16)).toNat = byte.toNat / 16 := Nat.mod_eq_of_lt (by omega)
    have second : (UInt8.ofNat (byte.toNat % 16)).toNat = byte.toNat % 16 := Nat.mod_eq_of_lt (by omega)
    refine ⟨UInt8.ofNat (byte.toNat / 16), ⟨by omega, ?_⟩, UInt8.ofNat (byte.toNat % 16), ⟨by omega, ?_⟩, ?_⟩
    · rw [first]
      exact written.1
    · rw [second]
      exact written.2
    · exact (nibbles_byte (by omega) (by omega)).mpr ⟨first, second⟩

/-! ## Layouts -/

section Layout
variable {core text : Bytes} {binary : Vector UInt8 6} {identity : DeviceIdentity}

theorem toLower_separator {byte separator : UInt8} (kind : separator = 0x3a ∨ separator = 0x2d) :
    toLower byte = separator ↔ byte = separator := by
  have all : ∀ byte : UInt8, (toLower byte = 0x3a ↔ byte = 0x3a) ∧ (toLower byte = 0x2d ↔ byte = 0x2d) :=
    forall_byte (by decide)
  rcases kind with rfl | rfl
  · exact (all byte).1
  · exact (all byte).2

theorem ofBinary_eq_some : DeviceIdentity.ofBinary binary = some identity ↔ identity.binary = binary := by
  unfold DeviceIdentity.ofBinary
  constructor
  · intro made
    split at made
    · split at made
      · cases made
        rfl
      · cases made
    · cases made
  · intro same
    subst same
    rw [dif_pos identity.nonzero, dif_pos identity.unicast]

theorem hex_six (binary : Vector UInt8 6) :
    hex binary.toList = hex [binary.get 0] ++ (hex [binary.get 1] ++ (hex [binary.get 2] ++ (hex [binary.get 3] ++
      (hex [binary.get 4] ++ hex [binary.get 5])))) := by
  obtain ⟨⟨bytes⟩, size⟩ := binary
  match bytes, size with
  | [a, b, c, d, e, f], _ => rfl

theorem joinedPairs_six (separator : UInt8) (binary : Vector UInt8 6) :
    joinedPairs separator binary = hex [binary.get 0] ++ (separator :: (hex [binary.get 1] ++ (separator ::
      (hex [binary.get 2] ++ (separator :: (hex [binary.get 3] ++ (separator :: (hex [binary.get 4] ++ (separator ::
        hex [binary.get 5]))))))))) := by
  obtain ⟨⟨bytes⟩, size⟩ := binary
  match bytes, size with
  | [a, b, c, d, e, f], _ => rfl

theorem digits_twelve (digits : Vector UInt8 12) :
    asciiLower digits.toList = asciiLower [digits.get 0, digits.get 1] ++ (asciiLower [digits.get 2, digits.get 3] ++
      (asciiLower [digits.get 4, digits.get 5] ++ (asciiLower [digits.get 6, digits.get 7] ++
        (asciiLower [digits.get 8, digits.get 9] ++ asciiLower [digits.get 10, digits.get 11])))) := by
  obtain ⟨⟨bytes⟩, size⟩ := digits
  match bytes, size with
  | [a, b, c, d, e, f, g, h, i, j, k, l], _ => rfl

theorem vector_six (binary : Vector UInt8 6) :
    binary = #v[binary.get 0, binary.get 1, binary.get 2, binary.get 3, binary.get 4, binary.get 5] := by
  obtain ⟨⟨bytes⟩, size⟩ := binary
  match bytes, size with
  | [a, b, c, d, e, f], _ => rfl

/-- The digits an accepted layout holds are the digits of the spelled bytes. -/
theorem spells_iff : SpellsIdentity core binary ↔
    ∃ digits, identityDigits core = some digits ∧ asciiLower digits.toList = hex binary.toList := by
  constructor
  · intro spelled
    rcases spelled with plain | ⟨separator, kind, paired⟩
    · have size : core.length = 12 := by
        have sizes := congrArg List.length plain
        rwa [asciiLower, List.length_map, hex_length, Vector.length_toList] at sizes
      match core, size with
      | [a, b, c, d, e, f, g, h, i, j, k, l], _ => exact ⟨_, rfl, plain⟩
    · have size : core.length = 17 := by
        have sizes := congrArg List.length paired
        rwa [asciiLower, List.length_map, joinedPairs_six] at sizes
      match core, size with
      | [a, b, s, c, d, s1, e, f, s2, g, h, s3, i, j, s4, k, l], _ =>
        rw [joinedPairs_six] at paired
        simp only [hex, asciiLower, List.map_cons, List.map_nil, List.flatMap_cons, List.flatMap_nil, List.append_nil,
          List.cons_append, List.nil_append, List.cons.injEq, and_true, toLower_separator kind] at paired
        obtain ⟨a0, b0, rfl, c0, d0, rfl, e0, f0, rfl, g0, h0, rfl, i0, j0, rfl, k0, l0⟩ := paired
        refine ⟨#v[a, b, c, d, e, f, g, h, i, j, k, l], if_pos ⟨kind, rfl, rfl, rfl, rfl⟩, ?_⟩
        rw [hex_six]
        simp [asciiLower, hex, a0, b0, c0, d0, e0, f0, g0, h0, i0, j0, k0, l0]
  · intro held
    obtain ⟨digits, layout, spelled⟩ := held
    unfold identityDigits at layout
    split at layout
    · cases layout
      exact .inl spelled
    · split at layout
      · rename_i a b s c d s1 e f s2 g h s3 i j s4 k l joined
        obtain ⟨kind, rfl, rfl, rfl, rfl⟩ := joined
        cases layout
        refine .inr ⟨_, kind, ?_⟩
        rw [hex_six] at spelled
        rw [joinedPairs_six]
        simpa [asciiLower, hex, (toLower_separator kind).mpr] using spelled
      · cases layout
    · cases layout

theorem digits_spell {digits : Vector UInt8 12} :
    asciiLower digits.toList = hex binary.toList ↔
      hexByte (digits.get 0) (digits.get 1) = some (binary.get 0) ∧
        hexByte (digits.get 2) (digits.get 3) = some (binary.get 1) ∧
        hexByte (digits.get 4) (digits.get 5) = some (binary.get 2) ∧
        hexByte (digits.get 6) (digits.get 7) = some (binary.get 3) ∧
        hexByte (digits.get 8) (digits.get 9) = some (binary.get 4) ∧
        hexByte (digits.get 10) (digits.get 11) = some (binary.get 5) := by
  rw [digits_twelve, hex_six]
  simp only [hexByte_iff, hex, asciiLower, List.map_cons, List.map_nil, List.flatMap_cons, List.flatMap_nil,
    List.append_nil, List.cons_append, List.nil_append, List.cons.injEq, and_true, and_assoc]

theorem parse_eq_some : DeviceIdentity.parse text = some identity ↔
    ∃ digits, identityDigits (trim text) = some digits ∧ asciiLower digits.toList = hex identity.binary.toList := by
  simp only [DeviceIdentity.parse, Option.bind_eq_bind, Option.bind_eq_some_iff, ofBinary_eq_some, digits_spell]
  apply exists_congr
  intro digits
  apply and_congr_right'
  constructor
  · intro read
    obtain ⟨a, first, b, second, c, third, d, fourth, e, fifth, f, sixth, same⟩ := read
    rw [same]
    exact ⟨first, second, third, fourth, fifth, sixth⟩
  · intro spelled
    obtain ⟨first, second, third, fourth, fifth, sixth⟩ := spelled
    exact ⟨_, first, _, second, _, third, _, fourth, _, fifth, _, sixth, vector_six identity.binary⟩

theorem spells_printing (spelled : SpellsIdentity core binary) : ∀ byte ∈ core, 0x20 < byte ∧ byte < 0x7f := by
  have all : ∀ byte : UInt8, isLowerHex (toLower byte) = true ∨ toLower byte = 0x3a ∨ toLower byte = 0x2d →
      0x20 < byte ∧ byte < 0x7f := forall_byte (by decide)
  intro byte member
  apply all byte
  have lowered : toLower byte ∈ asciiLower core := List.mem_map_of_mem member
  rcases spelled with plain | ⟨separator, kind, paired⟩
  · rw [plain] at lowered
    exact .inl (hex_isLowerHex lowered)
  · rw [paired, joinedPairs_six] at lowered
    simp only [List.mem_append, List.mem_cons] at lowered
    have digit {source : UInt8} (inside : toLower byte ∈ hex [source]) : isLowerHex (toLower byte) = true :=
      hex_isLowerHex inside
    grind

theorem writes_iff : WritesIdentity text binary ↔ SpellsIdentity (trim text) binary := by
  constructor
  · intro written
    obtain ⟨before, core, after, leading, trailing, rfl, spelled⟩ := written
    rwa [trim_surrounded (bareEnds_of_printing (spells_printing spelled)) leading trailing]
  · intro spelled
    obtain ⟨before, after, leading, trailing, split⟩ := trim_split text
    exact ⟨before, trim text, after, leading, trailing, split, spelled⟩

theorem writes_unique {other : Vector UInt8 6} (written : WritesIdentity text binary)
    (rewritten : WritesIdentity text other) : binary = other := by
  obtain ⟨digits, layout, spelled⟩ := spells_iff.mp (writes_iff.mp written)
  obtain ⟨again, same, respelled⟩ := spells_iff.mp (writes_iff.mp rewritten)
  obtain rfl : digits = again := Option.some.inj (layout.symm.trans same)
  obtain ⟨a, b, c, d, e, f⟩ := digits_spell.mp spelled
  obtain ⟨a', b', c', d', e', f'⟩ := digits_spell.mp respelled
  rw [vector_six binary, vector_six other, Option.some.inj (a.symm.trans a'), Option.some.inj (b.symm.trans b'),
    Option.some.inj (c.symm.trans c'), Option.some.inj (d.symm.trans d'), Option.some.inj (e.symm.trans e'),
    Option.some.inj (f.symm.trans f')]

theorem parse_iff_writes : DeviceIdentity.parse text = some identity ↔ WritesIdentity text identity.binary := by
  rw [parse_eq_some, ← spells_iff, writes_iff]

/-- The bytes alone decide what a spelling of them is read as. -/
theorem parse_of_writes (written : WritesIdentity text binary) :
    DeviceIdentity.parse text = DeviceIdentity.ofBinary binary := by
  apply Option.ext
  intro identity
  rw [parse_iff_writes, ofBinary_eq_some]
  constructor
  · intro rewritten
    exact writes_unique rewritten written
  · intro same
    rwa [same]

theorem asciiLower_hex (bytes : Bytes) : asciiLower (hex bytes) = hex bytes := by
  have all : ∀ byte : UInt8, isLowerHex byte = true → toLower byte = byte := forall_byte (by decide)
  calc
    asciiLower (hex bytes) = (hex bytes).map id := List.map_congr_left fun byte member => all byte (hex_isLowerHex member)
    _ = hex bytes := List.map_id (hex bytes)

theorem spells_compact (identity : DeviceIdentity) : SpellsIdentity identity.compactConfigValue identity.binary :=
  .inl (asciiLower_hex identity.binary.toList)

theorem parse_compactConfigValue (identity : DeviceIdentity) :
    DeviceIdentity.parse identity.compactConfigValue = some identity := by
  apply parse_iff_writes.mpr
  refine ⟨[], identity.compactConfigValue, [], MadeOf.nil, MadeOf.nil, ?_, spells_compact identity⟩
  rw [List.nil_append, List.append_nil]

theorem spells_length (spelled : SpellsIdentity core binary) :
    core.length = 12 ∧ asciiLower core = hex binary.toList ∨ core.length = 17 := by
  rcases spelled with plain | ⟨separator, kind, paired⟩
  · have size := congrArg List.length plain
    rw [asciiLower, List.length_map, hex_length, Vector.length_toList] at size
    exact .inl ⟨size, plain⟩
  · have size := congrArg List.length paired
    rw [asciiLower, List.length_map, joinedPairs_six] at size
    exact .inr size

theorem fromMemberId_iff :
    DeviceIdentity.fromMemberId text = some identity ↔ asciiLower text = hex identity.binary.toList := by
  unfold DeviceIdentity.fromMemberId
  constructor
  · intro found
    split at found
    · cases found
    · rename_i size
      obtain ⟨before, core, after, leading, trailing, split, spelled⟩ := parse_iff_writes.mp found
      have sizes := congrArg List.length split
      rw [List.length_append, List.length_append] at sizes
      rcases spells_length spelled with ⟨long, plain⟩ | longer
      · have none_before : before = [] := List.length_eq_zero_iff.mp (by omega)
        have none_after : after = [] := List.length_eq_zero_iff.mp (by omega)
        rw [split, none_before, none_after, List.nil_append, List.append_nil]
        exact plain
      · omega
  · intro plain
    rcases spells_length (.inl plain) with ⟨size, _⟩ | longer
    · rw [if_neg (not_not.mpr size)]
      apply parse_iff_writes.mpr
      refine ⟨[], text, [], MadeOf.nil, MadeOf.nil, ?_, .inl plain⟩
      rw [List.nil_append, List.append_nil]
    · have size := congrArg List.length plain
      rw [asciiLower, List.length_map, hex_length, Vector.length_toList] at size
      omega

theorem isUnicast_iff : IsUnicast binary ↔ (binary.get 0).toNat % 2 = 0 := by
  have all : ∀ byte : UInt8, byte &&& 1 = 0 ↔ byte.toNat % 2 = 0 := forall_byte (by decide)
  exact all (binary.get 0)

end Layout

/-- Configuration values spell an identity in two layouts, in any letter case and between
white space; a group member spells it in twelve digits and nothing else. -/
theorem identity_grammar :
    (∀ text identity, DeviceIdentity.parse text = some identity ↔ WritesIdentity text identity.binary) ∧
      (∀ text, (DeviceIdentity.parse text).isSome = true ↔
        ∃ binary, WritesIdentity text binary ∧ binary ≠ Vector.replicate 6 0 ∧ (binary.get 0).toNat % 2 = 0) ∧
      (∀ binary left right, WritesIdentity left binary → WritesIdentity right binary →
        DeviceIdentity.parse left = DeviceIdentity.parse right) ∧
      (∀ identity, DeviceIdentity.parse identity.compactConfigValue = some identity) ∧
      ∀ text identity, DeviceIdentity.fromMemberId text = some identity ↔
        asciiLower text = hex identity.binary.toList := by
  refine ⟨fun text identity => parse_iff_writes, ?_, ?_, parse_compactConfigValue, fun text identity => fromMemberId_iff⟩
  · intro text
    rw [Option.isSome_iff_exists]
    constructor
    · intro parsed
      obtain ⟨identity, found⟩ := parsed
      exact ⟨identity.binary, parse_iff_writes.mp found, identity.nonzero, isUnicast_iff.mp identity.unicast⟩
    · intro accepted
      obtain ⟨binary, written, nonzero, even⟩ := accepted
      exact ⟨⟨binary, nonzero, isUnicast_iff.mpr even⟩, parse_iff_writes.mpr written⟩
  · intro binary left right written rewritten
    rw [parse_of_writes written, parse_of_writes rewritten]

end PlayTogether.Device
