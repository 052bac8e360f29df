import PlayTogether.Library.Bytes
import PlayTogether.Library.Pattern

/-! Bytes read as text, with a replacement character for what is no text. -/

namespace PlayTogether.Library

def replacementChar : Char := Char.ofNat 0xfffd

/-- The bytes of a text. -/
def encode (text : Text) : Bytes := text.flatMap String.utf8EncodeChar

def decodeChar (bytes : Bytes) : Option Char := bytes.toByteArray.utf8DecodeChar? 0

/-- How many bytes in front could still begin a character. -/
def begun : Utf8State → Bytes → Nat
  | _, [] => 0
  | state, byte :: rest => match utf8Step state byte with
    | some next => begun next rest + 1
    | none => 0

/-- The text of the bytes. The longest beginning of a character that is not completed, or
else a single byte, is replaced. -/
def decodeFrom : Nat → Bytes → Text
  | 0, _ => []
  | _ + 1, [] => []
  | count + 1, byte :: rest => match decodeChar (byte :: rest) with
    | some char => char :: decodeFrom count ((byte :: rest).drop char.utf8Size)
    | none => replacementChar :: decodeFrom count ((byte :: rest).drop (max 1 (begun .boundary (byte :: rest))))

def decodeReplace (bytes : Bytes) : Text := decodeFrom bytes.length bytes

section Decode
variable {bytes : Bytes} {char : Char} {text : Text}

theorem decodeChar_encode (char : Char) (rest : Bytes) :
    decodeChar (String.utf8EncodeChar char ++ rest) = some char := by
  unfold decodeChar
  rw [List.toByteArray_append]
  exact ByteArray.utf8DecodeChar?_utf8EncodeChar_append

theorem decodeChar_eq_some (decoded : decodeChar bytes = some char) :
    bytes = String.utf8EncodeChar char ++ bytes.drop char.utf8Size := by
  obtain ⟨rest, split⟩ := ByteArray.exists_of_utf8DecodeChar?_eq_some decoded
  have lists : bytes = String.utf8EncodeChar char ++ rest.data.toList := by
    have same := congrArg (fun array : ByteArray => array.data.toList) split
    simpa using same
  have size : (String.utf8EncodeChar char).length = char.utf8Size := String.length_utf8EncodeChar char
  rw [← size]
  conv_rhs => rw [lists, List.drop_left]
  exact lists

/-- More rounds than bytes change nothing. -/
theorem decodeFrom_enough {count other : Nat} (enough : bytes.length ≤ count) (plenty : bytes.length ≤ other) :
    decodeFrom count bytes = decodeFrom other bytes := by
  induction count generalizing bytes other with
  | zero =>
    have empty : bytes = [] := List.length_eq_zero_iff.mp (by omega)
    subst empty
    cases other <;> rfl
  | succ count ih =>
    cases bytes with
    | nil => cases other <;> rfl
    | cons byte rest =>
      rw [List.length_cons] at enough plenty
      obtain ⟨less, rfl⟩ : ∃ less, other = less + 1 := ⟨other - 1, by omega⟩
      have shorter {size : Nat} (positive : 0 < size) : ((byte :: rest).drop size).length ≤ rest.length := by
        rw [List.length_drop, List.length_cons]
        omega
      rw [decodeFrom, decodeFrom]
      cases decodeChar (byte :: rest) with
      | some char =>
        have size := shorter char.utf8Size_pos
        dsimp only
        rw [@ih _ less (by omega) (by omega)]
      | none =>
        have size := shorter (Nat.le_max_left 1 (begun .boundary (byte :: rest)))
        dsimp only
        rw [@ih _ less (by omega) (by omega)]

theorem decodeReplace_some {rest : Bytes} (filled : bytes ≠ []) (decoded : decodeChar bytes = some char)
    (split : bytes = String.utf8EncodeChar char ++ rest) : decodeReplace bytes = char :: decodeReplace rest := by
  obtain ⟨byte, others, rfl⟩ := List.exists_cons_of_ne_nil filled
  have size : (String.utf8EncodeChar char).length = char.utf8Size := String.length_utf8EncodeChar char
  have dropped : (byte :: others).drop char.utf8Size = rest := by
    rw [← size, split, List.drop_left]
  have shorter : rest.length ≤ others.length := by
    have sizes := congrArg List.length split
    have positive := char.utf8Size_pos
    rw [List.length_append, List.length_cons, size] at sizes
    omega
  unfold decodeReplace
  rw [List.length_cons, decodeFrom, decoded]
  dsimp only
  rw [dropped, decodeFrom_enough shorter (Nat.le_refl rest.length)]

/-- The first character read, and what it was read from. -/
theorem decodeReplace_step (filled : bytes ≠ []) : ∃ front char rest, bytes = front ++ rest ∧ front ≠ [] ∧
    decodeReplace bytes = char :: decodeReplace rest ∧ (front = String.utf8EncodeChar char ∨ char = replacementChar) := by
  cases decoded : decodeChar bytes with
  | some char =>
    have split := decodeChar_eq_some decoded
    refine ⟨_, char, _, split, ?_, decodeReplace_some filled decoded split, .inl rfl⟩
    apply List.ne_nil_of_length_pos
    rw [String.length_utf8EncodeChar]
    exact char.utf8Size_pos
  | none =>
    obtain ⟨byte, others, rfl⟩ := List.exists_cons_of_ne_nil filled
    generalize size : max 1 (begun .boundary (byte :: others)) = count
    have positive : 1 ≤ count := size ▸ Nat.le_max_left 1 _
    refine ⟨(byte :: others).take count, replacementChar, (byte :: others).drop count,
      (List.take_append_drop count (byte :: others)).symm, ?_, ?_, .inr rfl⟩
    · intro empty
      rcases List.take_eq_nil_iff.mp empty with zero | none_left
      · omega
      · cases none_left
    · unfold decodeReplace
      rw [List.length_cons, decodeFrom, decoded]
      dsimp only
      rw [size]
      have shorter : ((byte :: others).drop count).length ≤ others.length := by
        rw [List.length_drop, List.length_cons]
        omega
      rw [decodeFrom_enough shorter (Nat.le_refl _)]

/-- Encoded characters in front are read as they are. -/
theorem decodeReplace_encode (text : Text) (rest : Bytes) :
    decodeReplace (encode text ++ rest) = text ++ decodeReplace rest := by
  induction text with
  | nil => rfl
  | cons char text ih =>
    have split : encode (char :: text) ++ rest = String.utf8EncodeChar char ++ (encode text ++ rest) := by
      unfold encode
      rw [List.flatMap_cons, List.append_assoc]
    have filled : String.utf8EncodeChar char ++ (encode text ++ rest) ≠ [] := by
      apply List.ne_nil_of_length_pos
      have positive := char.utf8Size_pos
      rw [List.length_append, String.length_utf8EncodeChar]
      omega
    rw [split, decodeReplace_some filled (decodeChar_encode char _) rfl, ih]
    rfl

theorem encode_length (word : Text) : word.length ≤ (encode word).length ∧ (encode word).length ≤ 4 * word.length := by
  induction word with
  | nil => exact ⟨Nat.le_refl 0, Nat.le_refl 0⟩
  | cons char word ih =>
    have positive := char.utf8Size_pos
    have small := char.utf8Size_le_four
    unfold encode at ih ⊢
    rw [List.flatMap_cons, List.length_append, String.length_utf8EncodeChar, List.length_cons]
    omega

end Decode

/-! ## Readings -/

/-- A text read from bytes: each character from bytes of its own, and from its own encoding
unless it replaces them. -/
inductive Reading : Bytes → Text → Prop
  | nil : Reading [] []
  | cons {front rest : Bytes} {char : Char} {text : Text} (filled : front ≠ [])
      (origin : front = String.utf8EncodeChar char ∨ char = replacementChar) (later : Reading rest text) :
      Reading (front ++ rest) (char :: text)

namespace Reading
variable {bytes other : Bytes} {text later : Text}

theorem append (here : Reading bytes text) (there : Reading other later) : Reading (bytes ++ other) (text ++ later) := by
  induction here with
  | nil => exact there
  | cons filled origin _ ih =>
    rw [List.append_assoc]
    exact .cons filled origin ih

theorem decode (bytes : Bytes) : Reading bytes (decodeReplace bytes) := by
  generalize size : bytes.length = count
  induction count using Nat.strongRecOn generalizing bytes with
  | ind count ih =>
    by_cases empty : bytes = []
    · rw [empty]
      exact .nil
    · obtain ⟨front, char, rest, rfl, filled, step, origin⟩ := decodeReplace_step empty
      rw [step]
      have positive := List.length_pos_of_ne_nil filled
      rw [List.length_append] at size
      exact .cons filled origin (ih rest.length (by omega) rest rfl)

/-- Chunks read one by one. -/
theorem chunks (chunks : List Bytes) : Reading chunks.flatten (chunks.flatMap decodeReplace) := by
  induction chunks with
  | nil => exact .nil
  | cons chunk chunks ih => exact (decode chunk).append ih

theorem length_le (reading : Reading bytes text) : text.length ≤ bytes.length := by
  induction reading with
  | nil => exact Nat.le_refl 0
  | cons filled _ _ ih =>
    have positive := List.length_pos_of_ne_nil filled
    rw [List.length_cons, List.length_append]
    omega

/-- Characters in front that replace nothing were encoded there. -/
theorem encode_front {matched after : Text} (reading : Reading bytes (matched ++ after))
    (genuine : replacementChar ∉ matched) : ∃ rest, bytes = encode matched ++ rest := by
  induction matched generalizing bytes with
  | nil => exact ⟨bytes, rfl⟩
  | cons char matched ih =>
    rw [List.mem_cons, not_or] at genuine
    cases reading with
    | cons _ origin behind =>
      rcases origin with rfl | replaced
      · obtain ⟨rest, rfl⟩ := ih behind genuine.2
        exact ⟨rest, by rw [encode, encode, List.flatMap_cons, List.append_assoc]⟩
      · exact absurd replaced.symm genuine.1

/-- Characters anywhere that replace nothing were encoded there. -/
theorem encode_inside {front matched after : Text} (reading : Reading bytes (front ++ (matched ++ after)))
    (genuine : replacementChar ∉ matched) : encode matched <:+: bytes := by
  induction front generalizing bytes with
  | nil =>
    rw [List.nil_append] at reading
    obtain ⟨rest, rfl⟩ := encode_front reading genuine
    exact List.infix_append' [] (encode matched) rest
  | cons char front ih =>
    cases reading with
    | cons _ _ behind => exact (ih behind).trans (List.suffix_append _ _).isInfix

end Reading

end PlayTogether.Library
