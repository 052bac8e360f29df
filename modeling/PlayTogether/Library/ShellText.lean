import Mathlib.Data.List.DropRight
import PlayTogether.Library.Bytes

/-! Texts as a shell script reads and writes them: captured output, lines, fields between
tabs, and hexadecimal dumps. -/

namespace PlayTogether.Library

set_option maxRecDepth 20000

def newline : UInt8 := 0x0a

def isNewline (byte : UInt8) : Bool := byte == newline

def isTab (byte : UInt8) : Bool := byte == 0x09

/-- What a command substitution keeps: no zero bytes, and no newlines at the end. -/
def captured (output : Bytes) : Bytes := (output.filter (· != 0)).rdropWhile isNewline

/-- The lines that `read` finds. What stands behind the last newline is none. -/
def readLines : Bytes → List Bytes
  | [] => []
  | byte :: rest =>
    if isNewline byte then [] :: readLines rest
    else match readLines rest with
      | [] => []
      | line :: lines => (byte :: line) :: lines

/-- A field up to the next tab, and what stands behind the tabs after it. -/
def readField (line : Bytes) : Bytes × Bytes :=
  let line := line.dropWhile isTab
  (line.takeWhile (!isTab ·), (line.dropWhile (!isTab ·)).dropWhile isTab)

/-- The second of the fields that `awk` splits a record into. -/
def awkSecond (record : Bytes) : Bytes :=
  let rest := (record.dropWhile isBlank).dropWhile (!isBlank ·)
  (rest.dropWhile isBlank).takeWhile (!isBlank ·)

/-- Two digits for every byte, in lines of a million bytes; from a column on. -/
def hexDumpFrom : Nat → Bytes → Bytes
  | _, [] => []
  | column, byte :: rest =>
    if column = 1000000 then newline :: (hex [byte] ++ hexDumpFrom 1 rest)
    else hex [byte] ++ hexDumpFrom (column + 1) rest

/-- `xxd -p -c 1000000`. -/
def hexDump (bytes : Bytes) : Bytes := if bytes = [] then [] else hexDumpFrom 0 bytes ++ [newline]

def isXDigit (byte : UInt8) : Bool := isLowerHex (toLower byte)

def nibbleOf (digit : UInt8) : UInt8 := if isDigit digit then digit - 0x30 else toLower digit - 0x57

/-- `xxd -r -p`, on digits only. -/
def unhexed : Bytes → Bytes
  | high :: low :: rest => (nibbleOf high <<< 4 ||| nibbleOf low) :: unhexed rest
  | _ => []

/-! ## Lines -/

section Lines
variable {line text : Bytes} {lines : List Bytes}

/-- A text that is one line and its end. -/
def OneLine (line : Bytes) : Prop := ∀ byte ∈ line, byte ≠ 0 ∧ isNewline byte = false

theorem OneLine.append {other : Bytes} (here : OneLine line) (there : OneLine other) : OneLine (line ++ other) := by
  intro byte member
  rcases List.mem_append.mp member with front | back
  · exact here byte front
  · exact there byte back

theorem readLines_newline : readLines (newline :: text) = [] :: readLines text := rfl

theorem readLines_line (one : OneLine line) (text : Bytes) :
    readLines (line ++ newline :: text) = line :: readLines text := by
  induction line with
  | nil => exact readLines_newline
  | cons byte line ih =>
    obtain ⟨here, others⟩ := List.forall_mem_cons.mp one
    rw [List.cons_append, readLines, if_neg (Bool.eq_false_iff.mp here.2), ih others]

theorem readLines_lines (one : ∀ line ∈ lines, OneLine line) (text : Bytes) :
    readLines (lines.flatMap (· ++ [newline]) ++ text) = lines ++ readLines text := by
  induction lines with
  | nil => rfl
  | cons line lines ih =>
    obtain ⟨here, others⟩ := List.forall_mem_cons.mp one
    rw [List.flatMap_cons, List.append_assoc, List.append_assoc, List.singleton_append, readLines_line here, ih others,
      List.cons_append]

theorem captured_line (one : OneLine line) : captured line = line := by
  have kept : line.filter (· != 0) = line := List.filter_eq_self.mpr fun byte member => bne_iff_ne.mpr (one byte member).1
  unfold captured
  rw [kept]
  apply List.rdropWhile_eq_self_iff.mpr
  intro filled
  exact Bool.eq_false_iff.mp (one _ (List.getLast_mem filled)).2

theorem captured_newline : captured (text ++ [newline]) = captured text := by
  have kept : ([newline] : Bytes).filter (· != 0) = [newline] := rfl
  unfold captured
  rw [List.filter_append, kept]
  exact List.rdropWhile_concat_pos isNewline _ newline rfl

/-- Captured lines come back when a newline is put behind them. -/
theorem readLines_captured (one : ∀ line ∈ lines, OneLine line ∧ line ≠ []) (filled : lines ≠ []) :
    readLines (captured (lines.flatMap (· ++ [newline])) ++ [newline]) = lines := by
  obtain ⟨front, last, rfl⟩ := List.eq_nil_or_concat lines |>.resolve_left filled
  rw [List.concat_eq_append] at one ⊢
  have here := one last (List.mem_append.mpr (.inr List.mem_cons_self))
  have whole : captured ((front ++ [last]).flatMap (· ++ [newline])) = front.flatMap (· ++ [newline]) ++ last := by
    have split : (front ++ [last]).flatMap (· ++ [newline]) = front.flatMap (· ++ [newline]) ++ last ++ [newline] := by
      simp
    rw [split, captured_newline]
    have kept : (front.flatMap (· ++ [newline]) ++ last).filter (· != 0) = front.flatMap (· ++ [newline]) ++ last := by
      apply List.filter_eq_self.mpr
      intro byte member
      apply bne_iff_ne.mpr
      rcases List.mem_append.mp member with inside | inside
      · obtain ⟨line, known, present⟩ := List.mem_flatMap.mp inside
        rcases List.mem_append.mp present with own | ended
        · exact ((one line (List.mem_append.mpr (.inl known))).1 byte own).1
        · rw [List.mem_singleton.mp ended]
          decide
      · exact (here.1 byte inside).1
    unfold captured
    rw [kept]
    apply List.rdropWhile_eq_self_iff.mpr
    intro some_byte
    rw [List.getLast_append_of_ne_nil _ here.2]
    exact Bool.eq_false_iff.mp (here.1 _ (List.getLast_mem here.2)).2
  have lines_of : front.flatMap (· ++ [newline]) ++ last ++ [newline] = (front ++ [last]).flatMap (· ++ [newline]) := by
    simp
  have read := readLines_lines (fun line member => (one line member).1) []
  rw [List.append_nil] at read
  rw [whole, lines_of, read]
  exact List.append_nil (front ++ [last])

end Lines

/-! ## Fields -/

section Fields
variable {field rest : Bytes}

/-- Something without tabs. -/
structure IsField (field : Bytes) : Prop where
  filled : field ≠ []
  clean : ∀ byte ∈ field, isTab byte = false

/-- Neither end is a tab. -/
structure TabFree (rest : Bytes) : Prop where
  front : ∀ byte ∈ rest.head?, isTab byte = false
  back : ∀ byte ∈ rest.getLast?, isTab byte = false

theorem dropWhile_head {p : UInt8 → Bool} (apart : ∀ byte ∈ rest.head?, p byte = false) : rest.dropWhile p = rest := by
  cases rest with
  | nil => rfl
  | cons byte rest => exact List.dropWhile_cons_of_neg (Bool.eq_false_iff.mp (apart byte rfl))

theorem takeWhile_stop {p : UInt8 → Bool} (each : ∀ byte ∈ field, p byte = true) {byte : UInt8} (stops : p byte = false) :
    (field ++ byte :: rest).takeWhile p = field ∧ (field ++ byte :: rest).dropWhile p = byte :: rest := by
  have stop : ¬p byte = true := Bool.eq_false_iff.mp stops
  constructor
  · rw [List.takeWhile_append_of_pos each, List.takeWhile_cons_of_neg stop, List.append_nil]
  · rw [List.dropWhile_append_of_pos each, List.dropWhile_cons_of_neg stop]

/-- A field before a tab is read whole. -/
theorem readField_tab (field_is : IsField field) (rest : Bytes) :
    readField (field ++ 0x09 :: rest) = (field, rest.dropWhile isTab) := by
  have opening : (field ++ 0x09 :: rest).dropWhile isTab = field ++ 0x09 :: rest := by
    apply dropWhile_head
    intro byte first
    obtain ⟨head, tail, rfl⟩ := List.exists_cons_of_ne_nil field_is.filled
    cases first
    exact field_is.clean byte List.mem_cons_self
  have letters : ∀ byte ∈ field, (!isTab byte) = true := by
    intro byte member
    rw [field_is.clean byte member]
    rfl
  obtain ⟨taken, dropped⟩ := @takeWhile_stop field rest (!isTab ·) letters 0x09 rfl
  unfold readField
  dsimp only
  rw [opening, taken, dropped, List.dropWhile_cons_of_pos rfl]

/-- Two fields without blanks, each before a tab. -/
theorem awkSecond_fields {first second : Bytes} (here : first ≠ []) (there : second ≠ [])
    (solid : ∀ byte ∈ first ++ second, isBlank byte = false) (rest : Bytes) :
    awkSecond (first ++ 0x09 :: (second ++ 0x09 :: rest)) = second := by
  have letters : ∀ byte ∈ first ++ second, (!isBlank byte) = true := by
    intro byte member
    rw [solid byte member]
    rfl
  have filled {word tail : Bytes} (some_byte : word ≠ []) (clean : ∀ byte ∈ word, isBlank byte = false) :
      (word ++ tail).dropWhile isBlank = word ++ tail := by
    apply dropWhile_head
    intro byte begins
    obtain ⟨head, others, rfl⟩ := List.exists_cons_of_ne_nil some_byte
    cases begins
    exact clean byte List.mem_cons_self
  have one := @takeWhile_stop first (second ++ 0x09 :: rest) (!isBlank ·)
    (fun byte member => letters byte (List.mem_append.mpr (.inl member))) 0x09 rfl
  have two := @takeWhile_stop second rest (!isBlank ·)
    (fun byte member => letters byte (List.mem_append.mpr (.inr member))) 0x09 rfl
  unfold awkSecond
  dsimp only
  rw [filled here fun byte member => solid byte (List.mem_append.mpr (.inl member)), one.2, List.dropWhile_cons_of_pos rfl,
    filled there fun byte member => solid byte (List.mem_append.mpr (.inr member)), two.1]

theorem TabFree.trimmed (free : TabFree rest) : rest.rdropWhile isTab = rest := by
  apply List.rdropWhile_eq_self_iff.mpr
  intro filled
  exact Bool.eq_false_iff.mp (free.back _ (List.getLast_mem_getLast? filled))

/-- The last field of a line, before the tab that ends it. -/
theorem TabFree.last_field (free : TabFree rest) : ((rest ++ [0x09]).dropWhile isTab).rdropWhile isTab = rest := by
  cases rest with
  | nil => rfl
  | cons byte rest =>
    have stays : (byte :: rest ++ [0x09]).dropWhile isTab = byte :: rest ++ [0x09] := dropWhile_head free.front
    rw [stays, List.rdropWhile_concat_pos isTab _ 0x09 rfl]
    exact free.trimmed

end Fields

/-! ## Hexadecimal dumps -/

section Dumps
variable {bytes : Bytes}

theorem hex_cons {byte : UInt8} : hex (byte :: bytes) = hex [byte] ++ hex bytes := by
  unfold hex
  rw [List.flatMap_cons, List.flatMap_singleton]

theorem hexDumpFrom_short {column : Nat} (short : column + bytes.length ≤ 1000000) : hexDumpFrom column bytes = hex bytes := by
  induction bytes generalizing column with
  | nil => rfl
  | cons byte bytes ih =>
    rw [List.length_cons] at short
    have room : ¬column = 1000000 := by omega
    rw [hexDumpFrom, if_neg room, ih (by omega), ← hex_cons]

theorem hex_oneLine (bytes : Bytes) : OneLine (hex bytes) := by
  have all : ∀ byte : UInt8, isLowerHex byte = true → byte ≠ 0 ∧ isNewline byte = false := forall_byte (by decide)
  intro byte member
  exact all byte (hex_isLowerHex member)

theorem captured_hexDump (short : bytes.length ≤ 1000000) : captured (hexDump bytes) = hex bytes := by
  unfold hexDump
  split
  · rename_i empty
    rw [empty]
    rfl
  · rw [captured_newline, hexDumpFrom_short (by omega)]
    exact captured_line (hex_oneLine bytes)

theorem unhexed_hex (bytes : Bytes) : unhexed (hex bytes) = bytes := by
  have all : ∀ byte : UInt8, nibbleOf (hexDigit (byte.toNat / 16)) <<< 4 ||| nibbleOf (hexDigit (byte.toNat % 16)) = byte :=
    forall_byte (by decide)
  induction bytes with
  | nil => rfl
  | cons byte bytes ih =>
    rw [hex_cons]
    change (nibbleOf (hexDigit (byte.toNat / 16)) <<< 4 ||| nibbleOf (hexDigit (byte.toNat % 16))) :: unhexed (hex bytes) = _
    rw [all, ih]

theorem hex_isXDigit (bytes : Bytes) : (hex bytes).all isXDigit = true := by
  have all : ∀ byte : UInt8, isLowerHex byte = true → isXDigit byte = true := forall_byte (by decide)
  apply List.all_eq_true.mpr
  intro byte member
  exact all byte (hex_isLowerHex member)

theorem hex_tabFree (bytes : Bytes) : TabFree (hex bytes) := by
  have all : ∀ byte : UInt8, isLowerHex byte = true → isTab byte = false := forall_byte (by decide)
  constructor
  · intro byte first
    exact all byte (hex_isLowerHex (List.mem_of_mem_head? first))
  · intro byte last
    exact all byte (hex_isLowerHex (List.mem_of_mem_getLast? last))

end Dumps

end PlayTogether.Library
