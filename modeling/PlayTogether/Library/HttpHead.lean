import PlayTogether.Library.Bytes

/-! The head of an HTTP/1.1 message: field lines with a token name and a bounded set of
value bytes, collected into a map that refuses a second field of the same name. -/

namespace PlayTogether.Library

set_option maxRecDepth 20000

def isTchar (byte : UInt8) : Bool := isAlphanumeric byte || (ascii "!#$%&'*+-.^_`|~").contains byte

/-- The name as it was sent, and the value without the blanks around it. -/
def headerField (allowed : UInt8 → Bool) (line : Bytes) : Option (Bytes × Bytes) :=
  if line.isEmpty || line.head?.any isBlank then none
  else match splitOnce 0x3a line with
    | none => none
    | some (name, rawValue) =>
      if name.isEmpty || !name.all isTchar then none
      else if (trimBlank rawValue).any (!allowed ·) then none
      else some (name, trimBlank rawValue)

def loweredField (allowed : UInt8 → Bool) (line : Bytes) : Option (Bytes × Bytes) :=
  (headerField allowed line).map fun (name, value) => (asciiLower name, value)

theorem loweredField_eq_some {allowed : UInt8 → Bool} {line lowered value : Bytes} :
    loweredField allowed line = some (lowered, value) ↔
      ∃ name, headerField allowed line = some (name, value) ∧ asciiLower name = lowered := by
  simp [loweredField, Option.map_eq_some_iff]

theorem eqIgnoreAsciiCase_lowered {name key : Bytes} (lowered : asciiLower key = key) :
    eqIgnoreAsciiCase name key = true ↔ asciiLower name = key := by
  rw [eqIgnoreAsciiCase, lowered, beq_iff_eq]

structure HeaderMap where
  entries : List (Bytes × Bytes)
  distinct : (entries.map Prod.fst).Nodup
  deriving DecidableEq

namespace HeaderMap

def empty : HeaderMap := ⟨[], List.nodup_nil⟩

def get (map : HeaderMap) (name : Bytes) : Option Bytes := map.entries.lookup name

def containsKey (map : HeaderMap) (name : Bytes) : Bool := (map.get name).isSome

/-- Add a field, unless one of that name is already there. -/
def insertNew (map : HeaderMap) (field : Bytes × Bytes) : Option HeaderMap :=
  if fresh : field.1 ∉ map.entries.map Prod.fst then
    some ⟨map.entries ++ [field], by
      rw [List.map_append, List.nodup_append]
      refine ⟨map.distinct, List.nodup_singleton _, ?_⟩
      intro left inside right single same
      rw [List.map_singleton, List.mem_singleton] at single
      exact fresh (single ▸ same ▸ inside)⟩
  else none

theorem ext_entries {left right : HeaderMap} (same : left.entries = right.entries) : left = right := by
  cases left
  cases right
  cases same
  rfl

theorem insertNew_eq_some {map out : HeaderMap} {field : Bytes × Bytes} :
    map.insertNew field = some out ↔ out.entries = map.entries ++ [field] := by
  unfold insertNew
  constructor
  · intro inserted
    by_cases fresh : field.1 ∉ map.entries.map Prod.fst
    · rw [dif_pos fresh] at inserted
      cases inserted
      rfl
    · rw [dif_neg fresh] at inserted
      cases inserted
  · intro entries
    have distinct := out.distinct
    rw [entries, List.map_append, List.nodup_append] at distinct
    have fresh : field.1 ∉ map.entries.map Prod.fst := by
      intro inside
      exact distinct.2.2 field.1 inside field.1 (by simp) rfl
    rw [dif_pos fresh]
    congr 1
    exact ext_entries entries.symm

theorem get_eq_some {map : HeaderMap} {name value : Bytes} :
    map.get name = some value ↔ (name, value) ∈ map.entries := lookup_distinct map.distinct

theorem get_eq_none {map : HeaderMap} {name : Bytes} :
    map.get name = none ↔ name ∉ map.entries.map Prod.fst := by
  rw [Option.eq_none_iff_forall_ne_some]
  constructor
  · intro absent inside
    obtain ⟨⟨key, value⟩, member, same⟩ := List.mem_map.mp inside
    cases same
    exact absent value (get_eq_some.mpr member)
  · intro absent value stored
    exact absent (List.mem_map.mpr ⟨(name, value), get_eq_some.mp stored, rfl⟩)

end HeaderMap

/-- Collect field lines, at most a given number of them. -/
def readHeaders (field : Bytes → Option (Bytes × Bytes)) : Nat → HeaderMap → List Bytes → Option HeaderMap
  | _, map, [] => some map
  | 0, _, _ :: _ => none
  | count + 1, map, line :: rest => do
    let entry ← field line
    let map ← map.insertNew entry
    readHeaders field count map rest

/-- A head is accepted exactly when every line is a field, there are not too many of them
and together with the map they keep the names distinct. -/
theorem readHeaders_eq_some {field : Bytes → Option (Bytes × Bytes)} {count : Nat} {map out : HeaderMap}
    {lines : List Bytes} :
    readHeaders field count map lines = some out ↔
      lines.length ≤ count ∧ ∃ fields, lines.mapM field = some fields ∧ out.entries = map.entries ++ fields := by
  induction lines generalizing count map with
  | nil =>
    rw [readHeaders]
    constructor
    · intro same
      cases same
      exact ⟨Nat.zero_le count, [], rfl, (List.append_nil _).symm⟩
    · intro spec
      obtain ⟨_, fields, read, entries⟩ := spec
      cases read
      rw [Option.some.injEq]
      apply HeaderMap.ext_entries
      simpa using entries.symm
  | cons line rest ih =>
    cases count with
    | zero => simp [readHeaders]
    | succ count =>
      simp only [readHeaders, Option.bind_eq_bind, Option.bind_eq_some_iff, ih, HeaderMap.insertNew_eq_some,
        mapM_cons_eq_some, List.length_cons, Nat.add_le_add_iff_right]
      constructor
      · intro spec
        obtain ⟨entry, read, next, inserted, bound, fields, spelled, entries⟩ := spec
        refine ⟨bound, entry :: fields, ⟨entry, fields, read, spelled, rfl⟩, ?_⟩
        rw [entries, inserted, List.append_assoc, List.singleton_append]
      · intro spec
        obtain ⟨bound, whole, ⟨entry, fields, read, spelled, same⟩, entries⟩ := spec
        subst same
        have begun : (map.entries ++ [entry]).map Prod.fst <+: out.entries.map Prod.fst := by
          rw [entries]
          exact ⟨fields.map Prod.fst, by simp⟩
        have distinct := out.distinct.sublist begun.sublist
        refine ⟨entry, read, ⟨map.entries ++ [entry], distinct⟩, rfl, bound, fields, spelled, ?_⟩
        rw [entries, List.append_assoc, List.singleton_append]

/-! ## Written heads -/

def headerLine (field : Bytes × Bytes) : Bytes := field.1 ++ ascii ": " ++ field.2

/-- A message: its first line, its fields, a blank line and its body. -/
def writeMessage (first : Bytes) (headers : List (Bytes × Bytes)) (body : Bytes) : Bytes :=
  first ++ crlf ++ headers.flatMap (fun field => headerLine field ++ crlf) ++ crlf ++ body

def headText (first : Bytes) (headers : List (Bytes × Bytes)) : Bytes := joinCrlf first (headers.map headerLine)

def lowerNames (headers : List (Bytes × Bytes)) : List (Bytes × Bytes) :=
  headers.map fun (name, value) => (asciiLower name, value)

/-- A field that is read back as it was written. -/
structure Sendable (field : Bytes × Bytes) : Prop where
  named : field.1 ≠ []
  token : ∀ byte ∈ field.1, isTchar byte = true
  trimmed : Trimmed field.2
  printable : ∀ byte ∈ field.2, isPrintable byte = true

instance (field : Bytes × Bytes) : Decidable (Sendable field) :=
  decidable_of_iff (field.1 ≠ [] ∧ field.1.all isTchar = true ∧ Trimmed field.2 ∧ field.2.all isPrintable = true)
    ⟨fun checked => ⟨checked.1, List.all_eq_true.mp checked.2.1, checked.2.2.1, List.all_eq_true.mp checked.2.2.2⟩,
      fun sendable => ⟨sendable.named, List.all_eq_true.mpr sendable.token, sendable.trimmed,
        List.all_eq_true.mpr sendable.printable⟩⟩

def isGraphic (byte : UInt8) : Bool := 0x21 ≤ byte && byte ≤ 0x7e

theorem isGraphic_printable {byte : UInt8} (graphic : isGraphic byte = true) :
    isPrintable byte = true ∧ isBlank byte = false := by
  revert graphic byte
  apply forall_byte
  decide

/-- A value without blanks keeps its field sendable. -/
theorem sendable_graphic {name value : Bytes} (named : name ≠ []) (token : name.all isTchar = true)
    (graphic : ∀ byte ∈ value, isGraphic byte = true) : Sendable (name, value) where
  named := named
  token := List.all_eq_true.mp token
  trimmed := trimmed_of_noBlank fun byte member => (isGraphic_printable (graphic byte member)).2
  printable byte member := (isGraphic_printable (graphic byte member)).1

theorem decimal_isGraphic {value : Nat} {byte : UInt8} (member : byte ∈ decimal value) : isGraphic byte = true := by
  have digits : ∀ byte : UInt8, isDigit byte = true → isGraphic byte = true := by
    apply forall_byte
    decide
  exact digits byte (decimal_isDigit member)

theorem isLowerHex_isGraphic {byte : UInt8} (digit : isLowerHex byte = true) : isGraphic byte = true := by
  revert digit byte
  apply forall_byte
  decide

section Written
variable {first : Bytes} {headers : List (Bytes × Bytes)}

theorem writeMessage_eq (first : Bytes) (headers : List (Bytes × Bytes)) (body : Bytes) :
    writeMessage first headers body = headText first headers ++ (blankLine ++ body) := by
  have shift (lines : List Bytes) : crlf ++ lines.flatMap (· ++ crlf) = lines.flatMap (crlf ++ ·) ++ crlf := by
    induction lines with
    | nil => simp
    | cons line rest ih =>
      rw [List.flatMap_cons, List.flatMap_cons, List.append_assoc line, ih]
      simp only [List.append_assoc]
  have fields : headers.flatMap (fun field => headerLine field ++ crlf) = (headers.map headerLine).flatMap (· ++ crlf) := by
    rw [List.flatMap_map]
  have ending : blankLine = crlf ++ crlf := rfl
  unfold writeMessage headText joinCrlf
  rw [fields, List.append_assoc first, shift, ending]
  simp only [List.append_assoc]

theorem headText_length (first : Bytes) (headers : List (Bytes × Bytes)) :
    (headText first headers).length =
      first.length + (headers.map fun field => field.1.length + field.2.length + 4).sum := by
  unfold headText joinCrlf
  rw [List.length_append, List.length_flatMap, List.map_map]
  congr 2
  apply List.map_congr_left
  intro field _
  simp only [Function.comp_apply, headerLine, crlf, ascii, List.length_append, List.length_map]
  simp
  omega

theorem isTchar_printable {byte : UInt8} (token : isTchar byte = true) :
    isPrintable byte = true ∧ byte ≠ 0x3a ∧ isBlank byte = false := by
  revert token byte
  apply forall_byte
  decide

theorem isTchar_toLower {byte : UInt8} (token : isTchar byte = true) : isTchar (toLower byte) = true := by
  revert token byte
  apply forall_byte
  decide

theorem headerLine_printable {field : Bytes × Bytes} (sendable : Sendable field) {byte : UInt8}
    (member : byte ∈ headerLine field) : isPrintable byte = true := by
  have between : ∀ byte ∈ ascii ": ", isPrintable byte = true := List.all_eq_true.mp (by decide)
  unfold headerLine at member
  rw [List.mem_append, List.mem_append] at member
  rcases member with (name | colon) | value
  · exact (isTchar_printable (sendable.token byte name)).1
  · exact between byte colon
  · exact sendable.printable byte value

theorem headerLine_ne_nil (field : Bytes × Bytes) : headerLine field ≠ [] := by
  simp [headerLine, ascii]

theorem splitOnce_headerLine {field : Bytes × Bytes} (sendable : Sendable field) :
    splitOnce 0x3a (headerLine field) = some (field.1, 0x20 :: field.2) := by
  have shape : headerLine field = field.1 ++ 0x3a :: 0x20 :: field.2 := by
    simp [headerLine, ascii]
  rw [shape]
  apply splitOnce_append
  intro colon
  exact (isTchar_printable (sendable.token _ colon)).2.1 rfl

theorem headerLine_notBlank {field : Bytes × Bytes} (sendable : Sendable field) :
    ((headerLine field).isEmpty || (headerLine field).head?.any isBlank) = false := by
  obtain ⟨byte, rest, same⟩ := List.exists_cons_of_ne_nil sendable.named
  have token := isTchar_printable (sendable.token byte (by simp [same]))
  simp [headerLine, same, token.2.2]

theorem headerField_headerLine {field : Bytes × Bytes} (sendable : Sendable field) :
    headerField isPrintable (headerLine field) = some field := by
  have token : field.1.all isTchar = true := List.all_eq_true.mpr sendable.token
  have named : field.1.isEmpty = false := by simpa using sendable.named
  have printable : field.2.any (!isPrintable ·) = false := by
    rw [List.any_eq_false]
    intro byte member
    simp [sendable.printable byte member]
  unfold headerField
  rw [headerLine_notBlank sendable, splitOnce_headerLine sendable]
  simp [token, named, trimBlank_blank sendable.trimmed, printable]

theorem loweredField_headerLine {field : Bytes × Bytes} (sendable : Sendable field) :
    loweredField isPrintable (headerLine field) = some (asciiLower field.1, field.2) := by
  rw [loweredField_eq_some]
  exact ⟨field.1, headerField_headerLine sendable, rfl⟩

theorem carriageReturn_not_printable {byte : UInt8} (printable : isPrintable byte = true) : byte ≠ 0x0d := by
  intro same
  subst same
  exact absurd printable (by decide)

section Head
variable (printable : ∀ byte ∈ first, isPrintable byte = true) (sendable : ∀ field ∈ headers, Sendable field)
include printable sendable

theorem headText_lines_clean (line : Bytes) (member : line ∈ first :: headers.map headerLine) : 0x0d ∉ line := by
  intro inside
  rcases List.mem_cons.mp member with rfl | field
  · exact carriageReturn_not_printable (printable _ inside) rfl
  · obtain ⟨sent, listed, rfl⟩ := List.mem_map.mp field
    exact carriageReturn_not_printable (headerLine_printable (sendable sent listed) inside) rfl

theorem splitCrlf_headText : splitCrlf (headText first headers) = first :: headers.map headerLine :=
  splitCrlf_joinCrlf (headText_lines_clean printable sendable)

theorem findSubslice_writeMessage (body : Bytes) :
    findSubslice blankLine (writeMessage first headers body) = some (headText first headers).length := by
  rw [writeMessage_eq]
  apply findSubslice_joinCrlf (headText_lines_clean printable sendable)
  intro line member
  obtain ⟨sent, _, rfl⟩ := List.mem_map.mp member
  exact headerLine_ne_nil sent

theorem headText_bytes {byte : UInt8} (member : byte ∈ headText first headers) :
    isPrintable byte = true ∨ byte = 0x0d ∨ byte = 0x0a := by
  unfold headText joinCrlf at member
  rcases List.mem_append.mp member with inFirst | behind
  · exact .inl (printable byte inFirst)
  · obtain ⟨line, listed, inside⟩ := List.mem_flatMap.mp behind
    obtain ⟨sent, field, rfl⟩ := List.mem_map.mp listed
    rcases List.mem_append.mp inside with ending | text
    · exact .inr (by simpa [crlf] using ending)
    · exact .inl (headerLine_printable (sendable sent field) text)

theorem headText_utf8 : validUtf8 (headText first headers) = true := by
  apply validUtf8_of_ascii
  intro byte member
  have small : ∀ byte : UInt8, isPrintable byte = true ∨ byte = 0x0d ∨ byte = 0x0a → byte ≤ 0x7f := by
    apply forall_byte
    decide
  exact small byte (headText_bytes printable sendable member)

end Head

theorem take_writeMessage (body : Bytes) :
    (writeMessage first headers body).take (headText first headers).length = headText first headers := by
  rw [writeMessage_eq, List.take_left]

theorem drop_writeMessage (body : Bytes) :
    (writeMessage first headers body).drop ((headText first headers).length + 4) = body := by
  rw [writeMessage_eq, ← List.drop_drop, List.drop_left]
  rfl

/-- A head of distinct fields is read back with lower-cased names. -/
theorem readHeaders_headerLines {field : Bytes → Option (Bytes × Bytes)} {count : Nat} {stored : HeaderMap}
    (read : ∀ entry ∈ headers, field (headerLine entry) = some (asciiLower entry.1, entry.2))
    (few : headers.length ≤ count) (entries : stored.entries = lowerNames headers) :
    readHeaders field count .empty (headers.map headerLine) = some stored := by
  have spelled : (headers.map headerLine).mapM field = some (lowerNames headers) := by
    clear few entries
    induction headers with
    | nil => rfl
    | cons entry rest ih =>
      rw [List.map_cons, mapM_cons_eq_some]
      refine ⟨_, _, read entry List.mem_cons_self, ih ?_, rfl⟩
      intro other member
      exact read other (List.mem_cons_of_mem entry member)
  rw [readHeaders_eq_some, List.length_map]
  exact ⟨few, lowerNames headers, spelled, entries⟩

end Written

end PlayTogether.Library
