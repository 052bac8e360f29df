import Mathlib.Data.List.Infix
import PlayTogether.Aura.Bearer
import PlayTogether.Legacy.ReplyBuffer
import PlayTogether.Library.Words

/-! What the v0.4 session takes as the acknowledgement of a role write. The pattern is
searched anywhere in a text that may still be growing. -/

namespace PlayTogether.Legacy
open PlayTogether.Library PlayTogether.Aura

set_option maxRecDepth 20000

/-! ## Notifications -/

def hexValue (char : Char) : Option Nat :=
  let code := char.toNat
  if 0x30 ≤ code ∧ code ≤ 0x39 then some (code - 0x30)
  else if 0x61 ≤ code ∧ code ≤ 0x66 then some (code - 0x57)
  else if 0x41 ≤ code ∧ code ≤ 0x46 then some (code - 0x37)
  else none

def hexByte : Text → Option UInt8
  | [high, low] => do
    let upper ← hexValue high
    let lower ← hexValue low
    some (UInt8.ofNat (16 * upper + lower))
  | _ => none

/-- What stands on a line before the bytes of a notification. -/
def notificationHeader : List Item :=
  literal "Notification handle" ++ spaces ++ literal "=" ++ spaces ++ literal "0x03ec" ++ someSpaces ++ literal "value:"

section Lines
variable (characters : Characters)

/-- A line up to its end, whose bytes are those the Rust transport accepts. -/
def CompleteAck (text : Text) : Prop := ∃ front header value after,
  text = front ++ (header ++ (value ++ '\n' :: after)) ∧ Matches characters.isWord notificationHeader none header [] ∧
    '\n' ∉ header ++ value ∧ (words value).mapM hexByte = some successAck

/-- A match of the pattern that has the rest of its line to itself. -/
def LineMatch (text : Text) : Prop := ∃ front matched trail after,
  text = front ++ (matched ++ (trail ++ '\n' :: after)) ∧ MatchesAny characters.isWord auraAck none matched [] ∧
    '\n' ∉ matched ++ trail ∧ Spacing trail

end Lines

/-! ## Bytes in words -/

/-- The digits as the patterns have them. -/
def IsHexLetter (letter : Char) : Prop :=
  (0x30 ≤ letter.toNat ∧ letter.toNat ≤ 0x39) ∨ (0x61 ≤ letter.toNat ∧ letter.toNat ≤ 0x66)

theorem hexValue_eq_some {char : Char} {value : Nat} : hexValue char = some value ↔
    (value < 10 ∧ char.toNat = 0x30 + value) ∨
      (10 ≤ value ∧ value < 16 ∧ (char.toNat = 0x57 + value ∨ char.toNat = 0x37 + value)) := by
  unfold hexValue
  dsimp only
  split
  · rw [Option.some.injEq]
    omega
  · split
    · rw [Option.some.injEq]
      omega
    · split
      · rw [Option.some.injEq]
        omega
      · constructor
        · intro none_read
          cases none_read
        · omega

theorem hexValue_solid {char : Char} {value : Nat} (read : hexValue char = some value) : isSpace char = false := by
  have ranges := hexValue_eq_some.mp read
  have cases_of : (0x30 ≤ char.toNat ∧ char.toNat ≤ 0x39) ∨ (0x41 ≤ char.toNat ∧ char.toNat ≤ 0x66) := by omega
  unfold isSpace
  simp
  omega

theorem IsHexLetter.value {letter : Char} (digit : IsHexLetter letter) : ∃ value, hexValue letter = some value := by
  rcases digit with decimal | high
  · exact ⟨letter.toNat - 0x30, hexValue_eq_some.mpr (by omega)⟩
  · exact ⟨letter.toNat - 0x57, hexValue_eq_some.mpr (by omega)⟩

/-- A digit in another letter case is the same digit. -/
theorem sameIgnoringCase_iff {letter char : Char} (digit : IsHexLetter letter) :
    sameIgnoringCase letter char = true ↔ hexValue char = hexValue letter := by
  have own : letter.toLower.toNat = letter.toNat := by
    rw [toLower_toNat]
    unfold IsHexLetter at digit
    split <;> omega
  have plain : sameIgnoringCase letter char = true ↔ char.toLower.toNat = letter.toNat := by
    have other {special : Char} (away : special.toNat < 0x30 ∨ 0x66 < special.toNat) : (letter.toLower == special) = false := by
      apply beq_false_of_ne
      intro same
      rw [same] at own
      unfold IsHexLetter at digit
      omega
    unfold sameIgnoringCase
    rw [other (by decide : 'i'.toNat < 0x30 ∨ 0x66 < 'i'.toNat), other (by decide : 's'.toNat < 0x30 ∨ 0x66 < 's'.toNat),
      other (by decide : 'k'.toNat < 0x30 ∨ 0x66 < 'k'.toNat)]
    simp only [Bool.false_and, Bool.or_false, beq_iff_eq]
    rw [← own, Char.toNat_inj]
  obtain ⟨value, read⟩ := digit.value
  have letters := hexValue_eq_some.mp read
  rw [plain, read, hexValue_eq_some, toLower_toNat]
  unfold IsHexLetter at digit
  split <;> omega

theorem hexByte_eq_some {word : Text} {byte : UInt8} : hexByte word = some byte ↔ ∃ high low upper lower,
    word = [high, low] ∧ hexValue high = some upper ∧ hexValue low = some lower ∧ byte.toNat = 16 * upper + lower := by
  constructor
  · intro read
    unfold hexByte at read
    split at read
    · rename_i high low
      obtain ⟨upper, first, read⟩ := Option.bind_eq_some_iff.mp read
      obtain ⟨lower, second, read⟩ := Option.bind_eq_some_iff.mp read
      cases read
      have bounds : upper < 16 ∧ lower < 16 := by
        have high := hexValue_eq_some.mp first
        have low := hexValue_eq_some.mp second
        omega
      refine ⟨high, low, upper, lower, rfl, first, second, ?_⟩
      rw [UInt8.toNat_ofNat']
      omega
    · cases read
  · intro ⟨high, low, upper, lower, split, first, second, value⟩
    rw [split, hexByte, first, second]
    change some (UInt8.ofNat (16 * upper + lower)) = some byte
    rw [← value, UInt8.ofNat_toNat]

theorem hexByte_solid {word : Text} {byte : UInt8} (read : hexByte word = some byte) : Solid word := by
  obtain ⟨high, low, upper, lower, rfl, first, second, _⟩ := hexByte_eq_some.mp read
  refine ⟨List.cons_ne_nil high [low], ?_⟩
  intro char member
  simp only [List.mem_cons, List.not_mem_nil, or_false] at member
  rcases member with rfl | rfl
  · exact hexValue_solid first
  · exact hexValue_solid second

/-- A word of the pattern is spelled by the words that are read as its byte. -/
theorem spells_iff_hexByte {name : String} {high low : Char} {byte : UInt8} (letters : name.toList = [high, low])
    (first : IsHexLetter high) (second : IsHexLetter low) (value : hexByte [high, low] = some byte) {word : Text} :
    Spells name word ↔ hexByte word = some byte := by
  obtain ⟨_, _, upper, lower, same, upperRead, lowerRead, sum⟩ := hexByte_eq_some.mp value
  cases same
  unfold Spells
  rw [letters]
  constructor
  · intro spells
    cases spells with
    | cons firstSame rest =>
      cases rest with
      | cons secondSame rest =>
        cases rest
        rw [sameIgnoringCase_iff first, upperRead] at firstSame
        rw [sameIgnoringCase_iff second, lowerRead] at secondSame
        exact hexByte_eq_some.mpr ⟨_, _, upper, lower, rfl, firstSame, secondSame, sum⟩
  · intro read
    obtain ⟨one, two, above, below, rfl, firstRead, secondRead, total⟩ := hexByte_eq_some.mp read
    have bounds : upper < 16 ∧ lower < 16 ∧ above < 16 ∧ below < 16 := by
      have all := And.intro (hexValue_eq_some.mp upperRead) (hexValue_eq_some.mp lowerRead)
      have others := And.intro (hexValue_eq_some.mp firstRead) (hexValue_eq_some.mp secondRead)
      omega
    have high : above = upper := by omega
    have low : below = lower := by omega
    refine .cons ?_ (.cons ?_ .nil)
    · rw [sameIgnoringCase_iff first, firstRead, upperRead, high]
    · rw [sameIgnoringCase_iff second, secondRead, lowerRead, low]

/-- The names of the pattern stand for these bytes. -/
def Named (names : List String) (bytes : Bytes) : Prop :=
  List.Forall₂ (fun name byte => ∀ word, Spells name word ↔ hexByte word = some byte) names bytes

section Spaced
variable {isWord : Char → Bool} {names : List String} {bytes : Bytes} {before : Option Char}
  {text matched after rest : Text} {list : List Text}

theorem unbounded_spaced (names : List String) : Unbounded (spaced names) := by
  induction names with
  | nil =>
    intro item member
    cases member
  | cons name names ih =>
    cases names with
    | nil => exact unbounded_literal name
    | cons next names =>
      rw [spaced]
      refine List.forall_mem_append.mpr ⟨List.forall_mem_append.mpr ⟨unbounded_literal name, ?_⟩, ih⟩
      intro item member
      simp only [someSpaces, List.mem_cons, List.not_mem_nil, or_false] at member
      rcases member with rfl | rfl <;> exact Item.noConfusion

/-- What the pattern matches are the words of the bytes. -/
theorem words_of_matches (named : Named names bytes) (fits : Matches isWord (spaced names) before matched after)
    (stops : Stops rest) : ∃ list, words (matched ++ rest) = list ++ words rest ∧
      List.Forall₂ (fun word byte => hexByte word = some byte) list bytes := by
  induction named generalizing before matched with
  | nil =>
    cases fits
    exact ⟨[], rfl, .nil⟩
  | @cons name byte names bytes here others ih =>
    have alone {word : Text} (spells : Spells name word) : Solid word := hexByte_solid ((here word).mp spells)
    cases names with
    | nil =>
      cases others
      have spells : Spells name matched := by
        rw [spaced, matches_literal] at fits
        exact fits
      exact ⟨[matched], words_cons (alone spells) stops, .cons ((here matched).mp spells) .nil⟩
    | cons next names =>
      obtain ⟨front, spelled, rfl, opening, fits⟩ := matches_append.mp fits
      obtain ⟨word, gap, rfl, first, space⟩ := matches_append.mp opening
      rw [matches_literal] at first
      obtain ⟨filled, blank⟩ := matches_someSpaces.mp space
      obtain ⟨list, same, reads⟩ := ih fits
      have after_word : Stops (gap ++ (spelled ++ rest)) := by
        obtain ⟨char, others, rfl⟩ := List.exists_cons_of_ne_nil filled
        intro other head
        cases head
        exact blank char List.mem_cons_self
      refine ⟨word :: list, ?_, .cons ((here word).mp first) reads⟩
      rw [List.append_assoc, List.append_assoc, words_cons (alone first) after_word, words_spacing blank, same]
      rfl

/-- The words of the bytes match the pattern, with white space around them. -/
theorem matches_of_words (named : Named names bytes) (filled : names ≠ []) (same : words text = list)
    (reads : List.Forall₂ (fun word byte => hexByte word = some byte) list bytes) : ∃ lead char others trail,
      text = lead ++ (char :: others ++ trail) ∧ Spacing lead ∧ isSpace char = false ∧ Spacing trail ∧
        Matches isWord (spaced names) none (char :: others) [] := by
  induction named generalizing text list with
  | nil => exact absurd rfl filled
  | @cons name byte names bytes here others ih =>
    cases reads with
    | @cons word _ list _ read reads =>
      obtain ⟨lead, rest, rfl, blank, _, stops, behind⟩ := words_eq_cons same
      have solid := hexByte_solid read
      have spells : Spells name word := (here word).mpr read
      obtain ⟨char, letters, rfl⟩ := List.exists_cons_of_ne_nil solid.filled
      have letter : isSpace char = false := solid.solid char List.mem_cons_self
      cases others with
      | nil =>
        cases reads
        refine ⟨lead, char, letters, rest, rfl, blank, letter, words_eq_nil behind, ?_⟩
        rw [spaced, matches_literal]
        exact spells
      | @cons next second names bytes there others =>
        obtain ⟨gap, head, tail, trail, rfl, space, solidHead, ended, fits⟩ :=
          ih (List.cons_ne_nil next names) behind reads
        have apart : gap ≠ [] := by
          intro empty
          rw [empty] at stops
          have blankHead : isSpace head = true := stops head rfl
          rw [blankHead] at solidHead
          cases solidHead
        refine ⟨lead, char, letters ++ (gap ++ head :: tail), trail, by simp, blank, letter, ended, ?_⟩
        have opening : Matches isWord (literal name ++ someSpaces) none (char :: letters ++ gap) (head :: tail ++ []) := by
          refine matches_append.mpr ⟨char :: letters, gap, rfl, ?_, matches_someSpaces.mpr ⟨apart, space⟩⟩
          rw [matches_literal]
          exact spells
        refine matches_append.mpr ⟨char :: letters ++ gap, head :: tail, by simp, opening, ?_⟩
        exact matches_unbounded (unbounded_spaced _) fits

end Spaced

/-! ## Lines -/

section Acknowledgement
variable {characters : Characters} {text : Text}

def ackWords : List String := ["aa", "00", "02", "13", "00"]

theorem ackWords_named : Named ackWords successAck := by
  unfold ackWords successAck
  refine .cons ?_ (.cons ?_ (.cons ?_ (.cons ?_ (.cons ?_ .nil))))
  all_goals
    intro word
    exact spells_iff_hexByte rfl (by unfold IsHexLetter; decide) (by unfold IsHexLetter; decide) (by decide)

theorem unbounded_header : Unbounded notificationHeader := by
  have word (name : String) : Unbounded (literal name) := unbounded_literal name
  have gap : Unbounded spaces := by simp [spaces, Unbounded]
  have someGap : Unbounded someSpaces := by simp [someSpaces, Unbounded]
  unfold notificationHeader Unbounded
  simp only [List.forall_mem_append]
  exact ⟨⟨⟨⟨⟨⟨word _, gap⟩, word _⟩, gap⟩, word _⟩, someGap⟩, word _⟩

theorem words_ended {trail : Text} (blank : Spacing trail) : words trail = [] := by
  have same := words_spacing blank []
  rw [List.append_nil] at same
  exact same

/-- The pattern and a line's end make up a complete acknowledgement, and it has no other form. -/
theorem completeAck_iff : CompleteAck characters text ↔ LineMatch characters text := by
  constructor
  · intro ⟨front, header, value, after, split, fits, oneLine, read⟩
    have reads := mapM_eq_some.mp read
    obtain ⟨lead, char, others, trail, same, blank, _, ended, spelled⟩ :=
      matches_of_words ackWords_named (List.cons_ne_nil _ _) rfl reads
    rw [same] at split oneLine
    refine ⟨front, header ++ lead ++ char :: others, trail, after, ?_, ?_, ?_, ended⟩
    · rw [split]
      simp only [List.append_assoc]
    · refine ⟨_, List.mem_singleton.mpr rfl, ?_⟩
      refine matches_append.mpr ⟨header ++ lead, char :: others, rfl, ?_, matches_unbounded (unbounded_spaced _) spelled⟩
      exact matches_append.mpr ⟨header, lead, rfl, matches_unbounded unbounded_header fits, matches_spaces.mpr blank⟩
    · rw [← List.append_assoc, ← List.append_assoc] at oneLine
      exact oneLine
  · intro ⟨front, matched, trail, after, split, ⟨items, member, fits⟩, oneLine, ended⟩
    obtain rfl := List.mem_singleton.mp member
    obtain ⟨opening, spelled, rfl, fits, spells⟩ := matches_append.mp fits
    obtain ⟨header, lead, rfl, fits, blank⟩ := matches_append.mp fits
    have stops : Stops trail := by
      intro char head
      exact ended char (List.mem_of_mem_head? head)
    obtain ⟨list, same, reads⟩ := words_of_matches ackWords_named spells stops
    rw [words_ended ended, List.append_nil] at same
    refine ⟨front, header, lead ++ (spelled ++ trail), after, ?_, matches_unbounded unbounded_header fits, ?_, ?_⟩
    · rw [split]
      simp only [List.append_assoc]
    · simp only [List.append_assoc] at oneLine
      exact oneLine
    · rw [words_spacing (matches_spaces.mp blank), same]
      exact mapM_eq_some.mpr reads

end Acknowledgement

/-! ## Runs -/

section Runs
variable {characters : Characters} {redactions : List Text}

/-- A command with one reply waits for that one. -/
def Asked (running : Running) : Prop := ∀ waiting ∈ running.command,
  waiting.command.second = none → waiting.expected = waiting.command.expected ∧ waiting.second = none

theorem asked_step {running : Running} (asked : Asked running) (event : SessionEvent) :
    Asked (running.step characters redactions event).1 := by
  have cleared {session : GattSession} : Asked ⟨session, none⟩ := fun waiting none_left => nomatch none_left
  cases event with
  | output chunk => exact asked
  | ended => exact asked
  | connecting => exact asked
  | issue command written =>
    dsimp only [Running.step, Running.issue]
    split
    · exact asked
    · split
      · intro waiting same single
        cases same
        exact ⟨rfl, single⟩
      · exact cleared
  | poll alive expired =>
    dsimp only [Running.step, Running.poll]
    split
    · exact asked
    · rename_i waiting present
      split
      · exact asked
      · exact cleared
      · split
        · rename_i second pending
          intro after same single
          cases same
          have none_pending := (asked waiting present single).2
          rw [pending] at none_pending
          cases none_pending
        · exact cleared

theorem asked_run (events : List SessionEvent) : Asked (Tracked.run characters redactions events).running := by
  have from_here {tracked : Tracked} (asked : Asked tracked.running) :
      Asked (events.foldl (Tracked.step characters redactions) tracked).running := by
    induction events generalizing tracked with
    | nil => exact asked
    | cons event events ih => exact ih (asked_step asked event)
  exact from_here fun waiting none_left => nomatch none_left

/-- A wait for the last reply ends well exactly on a match. -/
theorem poll_returns {running : Running} {waiting : Waiting} (present : running.command = some waiting)
    (last : waiting.second = none) {alive expired : Bool} :
    (running.poll characters redactions alive expired).2 = some (.ok ()) ↔
      ∃ found, wait characters redactions waiting.expected waiting.start alive expired running.session = .matched found := by
  unfold Running.poll
  rw [present]
  dsimp only
  cases wait characters redactions waiting.expected waiting.start alive expired running.session with
  | waiting => simp
  | raised error => simp [Running.fail]
  | matched found => simp [last]

theorem unboundedWait_matches {pattern : Pattern} {since : Text} {alive expired : Bool} :
    (∃ found, unboundedWait characters redactions pattern alive expired since = .matched found) ↔
      (search characters.isWord pattern since).isSome = true := by
  unfold unboundedWait judge
  cases search characters.isWord pattern since with
  | some found => simp
  | none =>
    cases search characters.isWord transportFailure since with
    | some failure => simp
    | none => cases alive <;> cases expired <;> simp

end Runs

section Exact
variable (characters : Characters) (redactions : List Text)

/-- When a role write that is in progress returns normally, its acknowledgement is complete. -/
def AckExact (tracked : Tracked) : Prop := ∀ waiting ∈ tracked.running.command, ∀ handle frame,
  waiting.command = .writeAuraCommand handle frame → ∀ alive expired,
    (tracked.running.poll characters redactions alive expired).2 = some (.ok ()) → CompleteAck characters tracked.since

/-- If the pattern matches in the text since a role write in progress, and the text is still
all there, one match is alone on its line up to the end. -/
def LineEnded (tracked : Tracked) : Prop := ∀ waiting ∈ tracked.running.command, ∀ handle frame,
  waiting.command = .writeAuraCommand handle frame → tracked.since.length ≤ maxBufferChars →
    (search characters.isWord auraAck tracked.since).isSome = true → LineMatch characters tracked.since

/-- In every state of every run, the acknowledgement is exact just when the matches end their lines. -/
theorem ackExact_iff (events : List SessionEvent) :
    AckExact characters redactions (Tracked.run characters redactions events) ↔
      LineEnded characters (Tracked.run characters redactions events) := by
  have returns {waiting : Waiting} (present : (Tracked.run characters redactions events).running.command = some waiting)
      {handle frame : String} (own : waiting.command = .writeAuraCommand handle frame) (alive expired : Bool) :
      ((Tracked.run characters redactions events).running.poll characters redactions alive expired).2 = some (.ok ()) ↔
        (Tracked.run characters redactions events).since.length ≤ maxBufferChars ∧
          (search characters.isWord auraAck (Tracked.run characters redactions events).since).isSome = true := by
    have asked := @asked_run characters redactions events waiting present
    rw [own] at asked
    obtain ⟨expected, last⟩ := asked rfl
    rw [poll_returns present last, expected, Tracked.wait_run present]
    by_cases exceeds : maxBufferChars < (Tracked.run characters redactions events).since.length
    · rw [if_pos exceeds]
      constructor
      · intro ⟨found, raised⟩
        cases raised
      · intro ⟨fits, _⟩
        exact absurd exceeds (Nat.not_lt.mpr fits)
    · rw [if_neg exceeds, unboundedWait_matches]
      exact ⟨fun found => ⟨Nat.le_of_not_lt exceeds, found⟩, fun both => both.2⟩
  constructor
  · intro exact_ack waiting present handle frame own fits found
    exact completeAck_iff.mp (exact_ack waiting present handle frame own true false ((returns present own _ _).mpr ⟨fits, found⟩))
  · intro ended waiting present handle frame own alive expired returned
    obtain ⟨fits, found⟩ := (returns present own alive expired).mp returned
    exact completeAck_iff.mpr (ended waiting present handle frame own fits found)

end Exact

/-- A notification with one byte more than the acknowledgement. -/
def fixtureLine : Text := "Notification handle = 0x03ec value: aa 00 02 13 00 01 ".toList

def fixtureWrite : List SessionEvent :=
  [.issue (.writeAuraCommand "0x03ea" "aa1304003c0101") true, .output (encode (fixtureLine ++ ['\n']))]

/-- A longer notification is taken as success. -/
theorem longer_notification_is_accepted :
    ¬AckExact asciiCharacters [] (Tracked.run asciiCharacters [] fixtureWrite) := by
  intro exact_ack
  have text : (Tracked.run asciiCharacters [] fixtureWrite).since = fixtureLine ++ ['\n'] := by decide
  have returned : ((Tracked.run asciiCharacters [] fixtureWrite).running.poll asciiCharacters [] true false).2 =
      some (.ok ()) := by decide
  have complete := exact_ack _ rfl "0x03ea" "aa1304003c0101" rfl true false returned
  rw [text] at complete
  obtain ⟨front, header, value, after, split, _, _, read⟩ := complete
  rw [← List.append_assoc, ← List.append_assoc] at split
  have clean : '\n' ∉ fixtureLine := by decide
  obtain ⟨same, _, _⟩ := (List.append_cons_inj_of_notMem clean List.not_mem_nil).mp split
  have behind : value ∈ fixtureLine.tails := (List.mem_tails _ _).mpr ⟨front ++ header, same.symm⟩
  have none_read : ∀ value ∈ fixtureLine.tails, (words value).mapM hexByte ≠ some successAck := by decide
  exact none_read value behind read

end PlayTogether.Legacy
