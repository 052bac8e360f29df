import Mathlib.Data.List.DropRight
import Mathlib.Data.Nat.Digits.Lemmas

/-! Text as the list of its bytes. Every separator used on it is an ASCII byte, and such
a byte never occurs inside the encoding of another character, so cutting the bytes is
cutting the text. -/

namespace PlayTogether.Library

abbrev Bytes : Type := List UInt8

/-- The bytes of an ASCII literal. -/
def ascii (text : String) : Bytes := text.toList.map fun char => char.toNat.toUInt8

def isUpper (byte : UInt8) : Bool := 0x41 ≤ byte && byte ≤ 0x5a

def isLower (byte : UInt8) : Bool := 0x61 ≤ byte && byte ≤ 0x7a

def isDigit (byte : UInt8) : Bool := 0x30 ≤ byte && byte ≤ 0x39

def isAlphanumeric (byte : UInt8) : Bool := isUpper byte || isLower byte || isDigit byte

def isBlank (byte : UInt8) : Bool := byte == 0x20 || byte == 0x09

def isPrintable (byte : UInt8) : Bool := 0x20 ≤ byte && byte ≤ 0x7e

def toLower (byte : UInt8) : UInt8 := if isUpper byte then byte + 0x20 else byte

def asciiLower (text : Bytes) : Bytes := text.map toLower

def eqIgnoreAsciiCase (left right : Bytes) : Bool := asciiLower left == asciiLower right

theorem mapM_cons_eq_some {α β : Type} {f : α → Option β} {first : α} {rest : List α} {out : List β} :
    (first :: rest).mapM f = some out ↔
      ∃ value others, f first = some value ∧ rest.mapM f = some others ∧ out = value :: others := by
  simp only [List.mapM_cons, Option.pure_def, Option.bind_eq_bind, Option.bind_eq_some_iff, Option.some.injEq]
  grind

theorem except_bind_eq_ok {α β ε : Type} {first : Except ε α} {next : α → Except ε β} {out : β} :
    first >>= next = .ok out ↔ ∃ value, first = .ok value ∧ next value = .ok out := by
  cases first with
  | error error => simp [bind, Except.bind]
  | ok value => simp [bind, Except.bind]

/-- A mapping that may fail succeeds when every element does. -/
theorem mapM_eq_ok {α β ε : Type} {f : α → Except ε β} {items : List α} {out : List β} :
    items.mapM f = .ok out ↔ List.Forall₂ (fun item value => f item = .ok value) items out := by
  induction items generalizing out with
  | nil => simp [pure, Except.pure, eq_comm]
  | cons item rest ih =>
    rw [List.mapM_cons, except_bind_eq_ok, List.forall₂_cons_left_iff]
    simp only [except_bind_eq_ok, ih, pure, Except.pure, Except.ok.injEq]
    constructor
    · intro mapped
      obtain ⟨value, here, others, behind, same⟩ := mapped
      exact ⟨value, others, here, behind, same.symm⟩
    · intro each
      obtain ⟨value, others, here, behind, same⟩ := each
      exact ⟨value, here, others, behind, same.symm⟩

theorem mapM_eq_some {α β : Type} {f : α → Option β} {items : List α} {out : List β} :
    items.mapM f = some out ↔ List.Forall₂ (fun item value => f item = some value) items out := by
  induction items generalizing out with
  | nil => simp [eq_comm]
  | cons item rest ih =>
    rw [mapM_cons_eq_some, List.forall₂_cons_left_iff]
    constructor
    · intro mapped
      obtain ⟨value, others, here, behind, same⟩ := mapped
      exact ⟨value, others, here, ih.mp behind, same⟩
    · intro each
      obtain ⟨value, others, here, behind, same⟩ := each
      exact ⟨value, others, here, ih.mpr behind, same⟩

theorem mapM_member {α β : Type} {f : α → Option β} {items : List α} {out : List β} (mapped : items.mapM f = some out)
    {item : α} (member : item ∈ items) : ∃ value, f item = some value := by
  induction items generalizing out with
  | nil => cases member
  | cons first rest ih =>
    obtain ⟨value, others, here, behind, _⟩ := mapM_cons_eq_some.mp mapped
    cases member with
    | head => exact ⟨value, here⟩
    | tail _ member => exact ih behind member

/-- In a list of distinct keys the lookup finds exactly the members. -/
theorem lookup_distinct {α β : Type} [BEq α] [LawfulBEq α] {entries : List (α × β)}
    (distinct : (entries.map Prod.fst).Nodup) {key : α} {value : β} :
    entries.lookup key = some value ↔ (key, value) ∈ entries := by
  induction entries with
  | nil => simp
  | cons entry rest ih =>
    obtain ⟨name, stored⟩ := entry
    rw [List.map_cons, List.nodup_cons] at distinct
    rw [List.lookup_cons]
    by_cases same : key = name
    · subst same
      have absent : (key, value) ∉ rest := by
        intro inside
        exact distinct.1 (List.mem_map.mpr ⟨(key, value), inside, rfl⟩)
      simp [absent, eq_comm]
    · have other : (key == name) = false := beq_false_of_ne same
      rw [other, List.mem_cons]
      simpa [same] using ih distinct.2

/-- A fact about a byte that holds of all 256 of them. -/
theorem forall_byte {holds : UInt8 → Prop} (all : ∀ byte : Fin 256, holds (UInt8.ofFin byte)) (byte : UInt8) :
    holds byte := all byte.toFin

/-! ## UTF-8 -/

/-- Where a decoder stands between two bytes: at a character boundary, or owing a
continuation byte from a range and then a number of plain ones. -/
inductive Utf8State where
  | boundary
  | owes (low high : UInt8) (further : Nat)
  deriving DecidableEq, Repr

def utf8Continue : Nat → Utf8State
  | 0 => .boundary
  | further + 1 => .owes 0x80 0xbf further

def utf8First (byte : UInt8) : Option Utf8State :=
  if byte ≤ 0x7f then some .boundary
  else if 0xc2 ≤ byte ∧ byte ≤ 0xdf then some (utf8Continue 1)
  else if byte = 0xe0 then some (.owes 0xa0 0xbf 1)
  else if byte = 0xed then some (.owes 0x80 0x9f 1)
  else if 0xe1 ≤ byte ∧ byte ≤ 0xef then some (utf8Continue 2)
  else if byte = 0xf0 then some (.owes 0x90 0xbf 2)
  else if 0xf1 ≤ byte ∧ byte ≤ 0xf3 then some (utf8Continue 3)
  else if byte = 0xf4 then some (.owes 0x80 0x8f 2)
  else none

def utf8Step : Utf8State → UInt8 → Option Utf8State
  | .boundary, byte => utf8First byte
  | .owes low high further, byte => if low ≤ byte ∧ byte ≤ high then some (utf8Continue further) else none

def utf8Run (start : Utf8State) (text : Bytes) : Option Utf8State := text.foldlM utf8Step start

def validUtf8 (text : Bytes) : Bool := utf8Run .boundary text == some .boundary

theorem validUtf8_of_ascii {text : Bytes} (small : ∀ byte ∈ text, byte ≤ 0x7f) : validUtf8 text = true := by
  suffices run : utf8Run .boundary text = some .boundary by
    unfold validUtf8
    rw [run]
    decide
  induction text with
  | nil => rfl
  | cons byte rest ih =>
    have first : utf8Step .boundary byte = some .boundary := if_pos (small byte List.mem_cons_self)
    unfold utf8Run at ih ⊢
    rw [List.foldlM_cons, first]
    apply ih
    intro other member
    exact small other (List.mem_cons_of_mem byte member)

/-! ## Searching and cutting -/

/-- The first position at which the needle occurs; the needle is never empty. -/
def findSubslice (needle : Bytes) : Bytes → Option Nat
  | [] => none
  | byte :: rest =>
    if needle.isPrefixOf (byte :: rest) then some 0 else (findSubslice needle rest).map (· + 1)

section Search
variable {needle text : Bytes} {position : Nat}

theorem findSubslice_bound (found : findSubslice needle text = some position) :
    position + needle.length ≤ text.length := by
  induction text generalizing position with
  | nil => cases found
  | cons byte rest ih =>
    simp only [findSubslice] at found
    by_cases here : needle.isPrefixOf (byte :: rest)
    · rw [if_pos here] at found
      cases found
      have bound := (List.isPrefixOf_iff_prefix.mp here).length_le
      omega
    · rw [if_neg here] at found
      obtain ⟨earlier, inner, rfl⟩ := Option.map_eq_some_iff.mp found
      have bound := ih inner
      simp only [List.length_cons]
      omega

theorem findSubslice_append (found : findSubslice needle text = some position) (later : Bytes) :
    findSubslice needle (text ++ later) = some position := by
  induction text generalizing position with
  | nil => cases found
  | cons byte rest ih =>
    simp only [findSubslice, List.cons_append] at found ⊢
    by_cases here : needle.isPrefixOf (byte :: rest)
    · rw [if_pos here] at found
      have still : needle.isPrefixOf (byte :: (rest ++ later)) := by
        rw [List.isPrefixOf_iff_prefix] at here ⊢
        exact here.trans (List.prefix_append (byte :: rest) later)
      rw [if_pos still]
      exact found
    · rw [if_neg here] at found
      obtain ⟨earlier, inner, rfl⟩ := Option.map_eq_some_iff.mp found
      have notYet : ¬needle.isPrefixOf (byte :: (rest ++ later)) := by
        intro early
        apply here
        rw [List.isPrefixOf_iff_prefix] at early ⊢
        apply List.prefix_of_prefix_length_le early (List.prefix_append (byte :: rest) later)
        have bound := findSubslice_bound inner
        simp only [List.length_cons]
        omega
      rw [if_neg notYet, ih inner]
      rfl

theorem findSubslice_take_short (found : findSubslice needle text = some position) {count : Nat}
    (short : count < position + needle.length) : findSubslice needle (text.take count) = none := by
  cases cut : findSubslice needle (text.take count) with
  | none => rfl
  | some other =>
    have whole := findSubslice_append cut (text.drop count)
    rw [List.take_append_drop, found] at whole
    cases whole
    have bound := findSubslice_bound cut
    rw [List.length_take] at bound
    omega

theorem findSubslice_take_long (found : findSubslice needle text = some position) (some_byte : needle ≠ [])
    {count : Nat} (long : position + needle.length ≤ count) :
    findSubslice needle (text.take count) = some position := by
  induction text generalizing position count with
  | nil => cases found
  | cons byte rest ih =>
    have positive := List.length_pos_of_ne_nil some_byte
    obtain ⟨less, rfl⟩ : ∃ less, count = less + 1 := ⟨count - 1, by omega⟩
    simp only [findSubslice, List.take_succ_cons] at found ⊢
    by_cases here : needle.isPrefixOf (byte :: rest)
    · rw [if_pos here] at found
      cases found
      have still : needle.isPrefixOf (byte :: rest.take less) := by
        rw [List.isPrefixOf_iff_prefix] at here ⊢
        rw [← List.take_succ_cons, List.prefix_take_iff]
        exact ⟨here, by omega⟩
      rw [if_pos still]
    · rw [if_neg here] at found
      obtain ⟨earlier, inner, rfl⟩ := Option.map_eq_some_iff.mp found
      have notYet : ¬needle.isPrefixOf (byte :: rest.take less) := by
        intro early
        apply here
        rw [List.isPrefixOf_iff_prefix] at early ⊢
        rw [← List.take_succ_cons] at early
        exact early.trans (List.take_prefix (less + 1) (byte :: rest))
      rw [if_neg notYet, ih inner (by omega)]
      rfl

end Search

/-- The two sides of the first separator. -/
def splitOnce (separator : UInt8) : Bytes → Option (Bytes × Bytes)
  | [] => none
  | byte :: rest =>
    if byte = separator then some ([], rest)
    else (splitOnce separator rest).map fun (left, right) => (byte :: left, right)

/-- The two sides of the last separator. -/
def rsplitOnce (separator : UInt8) (text : Bytes) : Option (Bytes × Bytes) :=
  (splitOnce separator text.reverse).map fun (right, left) => (left.reverse, right.reverse)

section Split
variable {separator : UInt8} {text left right : Bytes}

theorem splitOnce_eq_some :
    splitOnce separator text = some (left, right) ↔ text = left ++ separator :: right ∧ separator ∉ left := by
  induction text generalizing left with
  | nil => simp [splitOnce]
  | cons byte rest ih =>
    rw [splitOnce]
    by_cases same : byte = separator
    · rw [if_pos same]
      cases left with
      | nil => simp [same, eq_comm]
      | cons other left =>
        simp only [Option.some.injEq, Prod.mk.injEq, List.cons_append, List.cons.injEq, List.mem_cons]
        grind
    · rw [if_neg same]
      simp only [Option.map_eq_some_iff, Prod.exists, Prod.mk.injEq]
      cases left with
      | nil => simp [same]
      | cons other left =>
        simp only [List.cons.injEq, List.cons_append, List.mem_cons]
        grind

theorem splitOnce_append (clean : separator ∉ left) (right : Bytes) :
    splitOnce separator (left ++ separator :: right) = some (left, right) :=
  splitOnce_eq_some.mpr ⟨rfl, clean⟩

theorem splitOnce_eq_none : splitOnce separator text = none ↔ separator ∉ text := by
  induction text with
  | nil => simp [splitOnce]
  | cons byte rest ih =>
    rw [splitOnce, List.mem_cons, not_or, ← ih]
    by_cases same : byte = separator
    · simp [same]
    · simp [same, Ne.symm same]

theorem rsplitOnce_eq_none : rsplitOnce separator text = none ↔ separator ∉ text := by
  rw [rsplitOnce, Option.map_eq_none_iff, splitOnce_eq_none, List.mem_reverse]

theorem rsplitOnce_eq_some :
    rsplitOnce separator text = some (left, right) ↔ text = left ++ separator :: right ∧ separator ∉ right := by
  unfold rsplitOnce
  rw [Option.map_eq_some_iff]
  constructor
  · intro cut
    obtain ⟨⟨last, front⟩, split, same⟩ := cut
    obtain ⟨whole, clean⟩ := splitOnce_eq_some.mp split
    cases same
    rw [List.reverse_eq_iff] at whole
    exact ⟨by simp [whole], by simpa using clean⟩
  · intro cut
    refine ⟨(right.reverse, left.reverse), ?_, by simp⟩
    rw [splitOnce_eq_some]
    exact ⟨by simp [cut.1], by simpa using cut.2⟩

theorem rsplitOnce_append (left : Bytes) (clean : separator ∉ right) :
    rsplitOnce separator (left ++ separator :: right) = some (left, right) :=
  rsplitOnce_eq_some.mpr ⟨rfl, clean⟩

end Split

def trimBlank (text : Bytes) : Bytes := (text.dropWhile isBlank).rdropWhile isBlank

/-- Neither end of the text is blank; the empty text counts. -/
def Trimmed (text : Bytes) : Prop := trimBlank text = text

instance (text : Bytes) : Decidable (Trimmed text) := inferInstanceAs (Decidable (trimBlank text = text))

theorem trimBlank_blank {text : Bytes} (trimmed : Trimmed text) : trimBlank (0x20 :: text) = text := by
  have drop : (0x20 :: text).dropWhile isBlank = text.dropWhile isBlank :=
    List.dropWhile_cons_of_pos (by decide)
  unfold trimBlank
  rw [drop]
  exact trimmed

theorem trimmed_of_ends {text : Bytes} (first : ∀ byte, text.head? = some byte → isBlank byte = false)
    (last : ∀ byte, text.getLast? = some byte → isBlank byte = false) : Trimmed text := by
  have front : text.dropWhile isBlank = text := by
    cases text with
    | nil => rfl
    | cons byte rest =>
      apply List.dropWhile_cons_of_neg
      simp [first byte rfl]
  unfold Trimmed trimBlank
  rw [front, List.rdropWhile_eq_self_iff]
  intro nonempty
  simp [last _ (List.getLast?_eq_some_getLast nonempty)]

theorem trimmed_of_noBlank {text : Bytes} (clean : ∀ byte ∈ text, isBlank byte = false) : Trimmed text := by
  apply trimmed_of_ends
  · intro byte first
    exact clean byte (List.mem_of_head? first)
  · intro byte last
    exact clean byte (List.mem_of_getLast? last)

/-- Every occurrence of the needle replaced, from left to right; the counter runs over the
rest of an occurrence. -/
def replaceFrom (needle replacement : Bytes) : Nat → Bytes → Bytes
  | _, [] => []
  | skip + 1, _ :: rest => replaceFrom needle replacement skip rest
  | 0, byte :: rest =>
    if needle.isPrefixOf (byte :: rest) then
      replacement ++ replaceFrom needle replacement (needle.length - 1) rest
    else byte :: replaceFrom needle replacement 0 rest

def replace (text needle replacement : Bytes) : Bytes := replaceFrom needle replacement 0 text

/-! ## Lines -/

def crlf : Bytes := [0x0d, 0x0a]

def blankLine : Bytes := [0x0d, 0x0a, 0x0d, 0x0a]

def splitCrlf : Bytes → List Bytes
  | [] => [[]]
  | [byte] => [[byte]]
  | first :: second :: rest =>
    if first = 0x0d ∧ second = 0x0a then [] :: splitCrlf rest
    else (splitCrlf (second :: rest)).modifyHead (first :: ·)

/-- Lines with a line break between any two of them. -/
def joinCrlf (first : Bytes) (rest : List Bytes) : Bytes := first ++ rest.flatMap (crlf ++ ·)

theorem splitCrlf_ne_nil (text : Bytes) : splitCrlf text ≠ [] := by
  induction text using splitCrlf.induct with
  | case1 => simp [splitCrlf]
  | case2 byte => simp [splitCrlf]
  | case3 first second rest broken ih => simp [splitCrlf, broken]
  | case4 first second rest whole ih => simpa [splitCrlf, whole] using ih

/-- The first line is what the text begins with. -/
theorem splitCrlf_first {text line : Bytes} {rest : List Bytes} (cut : splitCrlf text = line :: rest) :
    line <+: text := by
  induction text using splitCrlf.induct generalizing line rest with
  | case1 =>
    cases cut
    exact List.prefix_rfl
  | case2 byte =>
    cases cut
    exact List.prefix_rfl
  | case3 first second later broken ih =>
    rw [splitCrlf, if_pos broken] at cut
    cases cut
    exact List.nil_prefix
  | case4 first second later whole ih =>
    rw [splitCrlf, if_neg whole] at cut
    obtain ⟨inner, others, same⟩ := List.exists_cons_of_ne_nil (splitCrlf_ne_nil (second :: later))
    rw [same] at cut
    cases cut
    exact List.cons_prefix_cons.mpr ⟨rfl, ih same⟩

theorem splitCrlf_cons {first : UInt8} (clean : first ≠ 0x0d) (text : Bytes) :
    splitCrlf (first :: text) = (splitCrlf text).modifyHead (first :: ·) := by
  cases text with
  | nil => rfl
  | cons second rest =>
    have whole : ¬(first = 0x0d ∧ second = 0x0a) := fun both => clean both.1
    rw [splitCrlf, if_neg whole]

theorem splitCrlf_append {line : Bytes} (clean : 0x0d ∉ line) (text : Bytes) :
    splitCrlf (line ++ (crlf ++ text)) = line :: splitCrlf text := by
  induction line with
  | nil => simp [crlf, splitCrlf]
  | cons byte rest ih =>
    rw [List.mem_cons, not_or] at clean
    rw [List.cons_append, splitCrlf_cons (Ne.symm clean.1), ih clean.2]
    rfl

theorem splitCrlf_line {line : Bytes} (clean : 0x0d ∉ line) : splitCrlf line = [line] := by
  induction line with
  | nil => rfl
  | cons byte rest ih =>
    rw [List.mem_cons, not_or] at clean
    rw [splitCrlf_cons (Ne.symm clean.1), ih clean.2]
    rfl

/-- Cutting takes back what joining made. -/
theorem splitCrlf_joinCrlf {first : Bytes} {rest : List Bytes} (clean : ∀ line ∈ first :: rest, 0x0d ∉ line) :
    splitCrlf (joinCrlf first rest) = first :: rest := by
  induction rest generalizing first with
  | nil =>
    rw [joinCrlf, List.flatMap_nil, List.append_nil]
    exact splitCrlf_line (clean first List.mem_cons_self)
  | cons line rest ih =>
    have inner : splitCrlf (joinCrlf line rest) = line :: rest := by
      apply ih
      intro other member
      exact clean other (List.mem_cons_of_mem first member)
    rw [joinCrlf, List.flatMap_cons, List.append_assoc, splitCrlf_append (clean first List.mem_cons_self)]
    rw [joinCrlf] at inner
    rw [inner]

/-- The first blank line after a text without empty lines is the one that ends it. -/
theorem findSubslice_lines {text : Bytes} (filled : ∀ line ∈ (splitCrlf text).tail, line ≠ []) (body : Bytes) :
    findSubslice blankLine (text ++ (blankLine ++ body)) = some text.length := by
  induction text using splitCrlf.induct with
  | case1 => simp [blankLine, findSubslice]
  | case2 byte => simp [blankLine, findSubslice]
  | case3 first second rest broken ih =>
    obtain ⟨rfl, rfl⟩ := broken
    rw [splitCrlf, if_pos ⟨rfl, rfl⟩, List.tail_cons] at filled
    have notYet : ¬crlf <+: rest ++ (blankLine ++ body) := by
      intro early
      cases rest with
      | nil => exact filled [] (List.mem_singleton_self []) rfl
      | cons third rest =>
        cases rest with
        | nil => simp [crlf, blankLine] at early
        | cons fourth rest =>
          simp only [crlf, List.cons_append, List.cons_prefix_cons, List.nil_prefix, and_true] at early
          obtain ⟨rfl, rfl⟩ := early
          exact filled [] (by simp [splitCrlf]) rfl
    have here : ¬blankLine.isPrefixOf (0x0d :: 0x0a :: (rest ++ (blankLine ++ body))) := by
      rw [List.isPrefixOf_iff_prefix]
      intro early
      exact notYet (List.cons_prefix_cons.mp (List.cons_prefix_cons.mp early).2).2
    have second : ¬blankLine.isPrefixOf (0x0a :: (rest ++ (blankLine ++ body))) := by
      rw [List.isPrefixOf_iff_prefix]
      intro early
      exact absurd (List.cons_prefix_cons.mp early).1 (by decide)
    have behind := ih fun line member => filled line (List.mem_of_mem_tail member)
    rw [List.cons_append, List.cons_append, findSubslice, if_neg here, findSubslice, if_neg second, behind]
    rfl
  | case4 first second rest whole ih =>
    rw [splitCrlf, if_neg whole, List.tail_modifyHead] at filled
    have here : ¬blankLine.isPrefixOf (first :: second :: (rest ++ (blankLine ++ body))) := by
      rw [List.isPrefixOf_iff_prefix]
      intro early
      have begun := List.cons_prefix_cons.mp early
      exact whole ⟨begun.1.symm, (List.cons_prefix_cons.mp begun.2).1.symm⟩
    have behind := ih filled
    rw [List.cons_append] at behind
    rw [List.cons_append, List.cons_append, findSubslice, if_neg here, behind]
    rfl

/-- The first blank line after joined lines is the one that ends them. -/
theorem findSubslice_joinCrlf {first : Bytes} {rest : List Bytes} (clean : ∀ line ∈ first :: rest, 0x0d ∉ line)
    (filled : ∀ line ∈ rest, line ≠ []) (body : Bytes) :
    findSubslice blankLine (joinCrlf first rest ++ (blankLine ++ body)) = some (joinCrlf first rest).length := by
  apply findSubslice_lines
  rw [splitCrlf_joinCrlf clean]
  exact filled

/-- A line ends with a line feed, or with a carriage return and a line feed; the last one
may go without. -/
def lines : Bytes → List Bytes
  | [] => []
  | byte :: rest =>
    if byte = 0x0a then [] :: lines rest
    else if byte = 0x0d ∧ rest.head? = some 0x0a then lines rest
    else match lines rest with
      | [] => [[byte]]
      | line :: others => (byte :: line) :: others

theorem lines_append {line : Bytes} (feed : 0x0a ∉ line) (carriage : 0x0d ∉ line) (rest : Bytes) :
    lines (line ++ 0x0a :: rest) = line :: lines rest := by
  induction line with
  | nil =>
    rw [List.nil_append, lines, if_pos rfl]
  | cons byte line ih =>
    rw [List.mem_cons, not_or] at feed carriage
    have other : ¬(byte = 0x0d ∧ (line ++ 0x0a :: rest).head? = some 0x0a) := fun both => carriage.1 both.1.symm
    rw [List.cons_append, lines, if_neg (Ne.symm feed.1), if_neg other, ih feed.2 carriage.2]

/-! ## Numbers -/

def decimalValue (digits : Bytes) : Nat := digits.foldl (fun value digit => 10 * value + (digit.toNat - 0x30)) 0

/-- The value of a digit text within the range of a machine type; one leading plus sign
is read over. -/
def parseUnsigned (limit : Nat) (text : Bytes) : Option Nat :=
  let digits := if text.head? = some 0x2b then text.tail else text
  if digits ≠ [] ∧ digits.all isDigit ∧ decimalValue digits ≤ limit then some (decimalValue digits) else none

def decimal (value : Nat) : Bytes :=
  if value = 0 then [0x30] else (Nat.digits 10 value).reverse.map fun digit => 0x30 + digit.toUInt8

/-- Digits without a leading zero, except in the number zero. -/
def isCanonicalDecimal (text : Bytes) : Bool :=
  !(text.isEmpty || !text.all isDigit || (decide (1 < text.length) && text.head? == some 0x30))

section Numbers
variable {value limit : Nat}

theorem isDigit_iff {byte : UInt8} : isDigit byte = true ↔ 0x30 ≤ byte.toNat ∧ byte.toNat ≤ 0x39 := by
  simp [isDigit, UInt8.le_iff_toNat_le]

theorem digit_toNat {digit : Nat} (small : digit < 10) : (0x30 + digit.toUInt8).toNat = 0x30 + digit := by
  have wrap : digit.toUInt8.toNat = digit := Nat.mod_eq_of_lt (by omega)
  rw [UInt8.toNat_add, wrap]
  exact Nat.mod_eq_of_lt (by simp; omega)

theorem decimal_isDigit {byte : UInt8} (member : byte ∈ decimal value) : isDigit byte = true := by
  unfold decimal at member
  by_cases zero : value = 0
  · rw [if_pos zero, List.mem_singleton] at member
    rw [member]
    decide
  · rw [if_neg zero] at member
    obtain ⟨digit, inside, rfl⟩ := List.mem_map.mp member
    have small := Nat.digits_lt_base (by decide) (List.mem_reverse.mp inside)
    rw [isDigit_iff, digit_toNat small]
    omega

theorem decimal_ne_nil (value : Nat) : decimal value ≠ [] := by
  unfold decimal
  by_cases zero : value = 0
  · simp [zero]
  · simp [zero, Nat.digits_ne_nil_iff_ne_zero]

theorem decimalValue_digits {digits : List Nat} (small : ∀ digit ∈ digits, digit < 10) :
    decimalValue (digits.reverse.map fun digit => 0x30 + digit.toUInt8) = Nat.ofDigits 10 digits := by
  induction digits with
  | nil => rfl
  | cons digit rest ih =>
    have inner := ih fun other member => small other (List.mem_cons_of_mem digit member)
    have read := digit_toNat (small digit List.mem_cons_self)
    unfold decimalValue at inner ⊢
    rw [List.reverse_cons, List.map_append, List.foldl_append, inner, Nat.ofDigits_cons]
    simp only [List.map_cons, List.map_nil, List.foldl_cons, List.foldl_nil]
    rw [read]
    omega

theorem decimalValue_decimal (value : Nat) : decimalValue (decimal value) = value := by
  unfold decimal
  by_cases zero : value = 0
  · rw [if_pos zero, zero]
    decide
  · rw [if_neg zero, decimalValue_digits fun digit member => Nat.digits_lt_base (by decide) member]
    exact Nat.ofDigits_digits 10 value

theorem decimal_canonical (value : Nat) : isCanonicalDecimal (decimal value) = true := by
  have digits : (decimal value).all isDigit = true := List.all_eq_true.mpr fun _ member => decimal_isDigit member
  have leading (long : 1 < (decimal value).length) : (decimal value).head? ≠ some 0x30 := by
    unfold decimal at long ⊢
    by_cases zero : value = 0
    · rw [if_pos zero] at long
      simp at long
    · rw [if_neg zero]
      have filled := Nat.digits_ne_nil_iff_ne_zero (b := 10).mpr zero
      have last := Nat.getLast_digit_ne_zero 10 zero
      have read := digit_toNat (Nat.digits_lt_base (by decide) (List.getLast_mem filled))
      rw [List.head?_map, List.head?_reverse, List.getLast?_eq_some_getLast filled]
      intro same
      rw [Option.map_some, Option.some.injEq] at same
      rw [same] at read
      simp only [UInt8.reduceToNat] at read
      omega
  by_cases long : 1 < (decimal value).length
  · simp [isCanonicalDecimal, decimal_ne_nil, digits, leading long]
  · simp [isCanonicalDecimal, decimal_ne_nil, digits, long]

theorem digits_of_isDigit {text : Bytes} (allDigits : ∀ byte ∈ text, isDigit byte = true) :
    ∃ digits : List Nat, (∀ digit ∈ digits, digit < 10) ∧
      text = digits.reverse.map fun digit => 0x30 + digit.toUInt8 := by
  induction text with
  | nil => exact ⟨[], by simp, rfl⟩
  | cons byte rest ih =>
    obtain ⟨digits, small, spelled⟩ := ih fun other member => allDigits other (List.mem_cons_of_mem byte member)
    obtain ⟨low, high⟩ := isDigit_iff.mp (allDigits byte List.mem_cons_self)
    have here : byte.toNat - 0x30 < 10 := by omega
    refine ⟨digits ++ [byte.toNat - 0x30], ?_, ?_⟩
    · intro digit member
      rcases List.mem_append.mp member with inside | last
      · exact small digit inside
      · rwa [List.mem_singleton.mp last]
    · rw [List.reverse_append, List.map_append, ← spelled]
      have same : 0x30 + (byte.toNat - 0x30).toUInt8 = byte := by
        apply UInt8.toNat_inj.mp
        rw [digit_toNat here]
        omega
      simp [same]

theorem canonical_iff {text : Bytes} :
    isCanonicalDecimal text = true ↔
      text ≠ [] ∧ (∀ byte ∈ text, isDigit byte = true) ∧ (1 < text.length → text.head? ≠ some 0x30) := by
  simp only [isCanonicalDecimal, Bool.not_eq_true', Bool.or_eq_false_iff, Bool.and_eq_false_iff, and_assoc,
    List.isEmpty_eq_false_iff, Bool.not_eq_false', List.all_eq_true, decide_eq_false_iff_not, beq_eq_false_iff_ne]
  rw [← imp_iff_not_or]

/-- A number has one canonical text. -/
theorem decimal_of_canonical {text : Bytes} (canonical : isCanonicalDecimal text = true) :
    decimal (decimalValue text) = text := by
  obtain ⟨filled, allDigits, leading⟩ := canonical_iff.mp canonical
  obtain ⟨digits, small, rfl⟩ := digits_of_isDigit allDigits
  rw [decimalValue_digits small]
  have nonempty : digits ≠ [] := by simpa using filled
  by_cases zero : digits.getLast nonempty = 0
  · have short : digits.length ≤ 1 := by
      by_contra long
      apply leading (by simpa using long)
      rw [List.head?_map, List.head?_reverse, List.getLast?_eq_some_getLast nonempty, zero]
      rfl
    obtain ⟨digit, rfl⟩ : ∃ digit, digits = [digit] := List.length_eq_one_iff.mp (by
      have positive := List.length_pos_of_ne_nil nonempty
      omega)
    obtain rfl : digit = 0 := zero
    rfl
  · have back := Nat.digits_ofDigits 10 (by decide) digits small fun _ => zero
    have positive : Nat.ofDigits 10 digits ≠ 0 := by
      intro vanished
      rw [vanished, Nat.digits_zero] at back
      exact nonempty back.symm
    rw [decimal, if_neg positive, back]

theorem parseUnsigned_canonical {text : Bytes} (canonical : isCanonicalDecimal text = true) :
    parseUnsigned limit text = some value ↔ text = decimal value ∧ value ≤ limit := by
  obtain ⟨filled, allDigits, _⟩ := canonical_iff.mp canonical
  have plain : text.head? ≠ some 0x2b := by
    intro plus
    exact absurd (allDigits _ (List.mem_of_head? plus)) (by decide)
  have digits : text.all isDigit = true := List.all_eq_true.mpr allDigits
  unfold parseUnsigned
  rw [if_neg plain]
  constructor
  · intro parsed
    dsimp only at parsed
    split at parsed
    · rename_i checked
      cases parsed
      exact ⟨(decimal_of_canonical canonical).symm, checked.2.2⟩
    · cases parsed
  · intro spelled
    obtain ⟨rfl, small⟩ := spelled
    simp only [decimalValue_decimal]
    exact if_pos ⟨filled, digits, small⟩

theorem parseUnsigned_decimal (small : value ≤ limit) : parseUnsigned limit (decimal value) = some value :=
  (parseUnsigned_canonical (decimal_canonical value)).mpr ⟨rfl, small⟩

end Numbers

def isLowerHex (byte : UInt8) : Bool := isDigit byte || (0x61 ≤ byte && byte ≤ 0x66)

def hexDigit (digit : Nat) : UInt8 := if digit < 10 then 0x30 + digit.toUInt8 else 0x57 + digit.toUInt8

/-- Two lower-case digits for every byte. -/
def hex (bytes : Bytes) : Bytes :=
  bytes.flatMap fun byte => [hexDigit (byte.toNat / 16), hexDigit (byte.toNat % 16)]

theorem hexDigit_isLowerHex {digit : Nat} (small : digit < 16) : isLowerHex (hexDigit digit) = true := by
  have all : ∀ digit : Fin 16, isLowerHex (hexDigit digit) = true := by decide
  exact all ⟨digit, small⟩

theorem hex_isLowerHex {bytes : Bytes} {byte : UInt8} (member : byte ∈ hex bytes) : isLowerHex byte = true := by
  obtain ⟨source, _, inside⟩ := List.mem_flatMap.mp member
  have size := source.toNat_lt
  rcases List.mem_pair.mp inside with high | low
  · rw [high]
    exact hexDigit_isLowerHex (by omega)
  · rw [low]
    exact hexDigit_isLowerHex (by omega)

theorem hex_length (bytes : Bytes) : (hex bytes).length = 2 * bytes.length := by
  induction bytes with
  | nil => rfl
  | cons byte rest ih =>
    unfold hex at ih ⊢
    rw [List.flatMap_cons, List.length_append, ih, List.length_cons]
    simp only [List.length_cons, List.length_nil]
    omega

theorem decimal_length {value digits : Nat} (some_digit : 0 < digits) (small : value < 10 ^ digits) :
    (decimal value).length ≤ digits := by
  unfold decimal
  by_cases zero : value = 0
  · rw [if_pos zero]
    exact some_digit
  · rw [if_neg zero, List.length_map, List.length_reverse]
    exact (Nat.digits_length_le_iff (by decide) value).mpr small

/-! ## White space -/

/-- The UTF-8 texts of the characters with the property White_Space. -/
def whiteSpace : List Bytes :=
  [[0x09], [0x0a], [0x0b], [0x0c], [0x0d], [0x20], [0xc2, 0x85], [0xc2, 0xa0], [0xe1, 0x9a, 0x80],
    [0xe2, 0x80, 0x80], [0xe2, 0x80, 0x81], [0xe2, 0x80, 0x82], [0xe2, 0x80, 0x83], [0xe2, 0x80, 0x84],
    [0xe2, 0x80, 0x85], [0xe2, 0x80, 0x86], [0xe2, 0x80, 0x87], [0xe2, 0x80, 0x88], [0xe2, 0x80, 0x89],
    [0xe2, 0x80, 0x8a], [0xe2, 0x80, 0xa8], [0xe2, 0x80, 0xa9], [0xe2, 0x80, 0xaf], [0xe2, 0x81, 0x9f],
    [0xe3, 0x80, 0x80]]

/-- Drop characters of a list from the front, at most a given number of them. -/
def stripChars (chars : List Bytes) : Nat → Bytes → Bytes
  | 0, text => text
  | count + 1, text => match chars.find? (·.isPrefixOf text) with
    | none => text
    | some char => stripChars chars count (text.drop char.length)

/-- The text without white space at either end. In valid UTF-8 no other character ends
with the bytes of one of these, so the end is stripped backwards. -/
def trim (text : Bytes) : Bytes :=
  let rest := stripChars whiteSpace text.length text
  (stripChars (whiteSpace.map List.reverse) rest.length rest.reverse).reverse

end PlayTogether.Library
