import PlayTogether.Legacy.GattSession

/-! How the reader notices a disconnect. Each chunk of output is searched alone, so the
way the output is cut into chunks decides. -/

namespace PlayTogether.Legacy
open PlayTogether.Library

set_option maxRecDepth 20000

def readSize : Nat := 4096

/-- One way the output can arrive in reads. -/
structure Reads (output : Bytes) (chunks : List Bytes) : Prop where
  whole : chunks.flatten = output
  each : ∀ chunk ∈ chunks, chunk ≠ [] ∧ chunk.length ≤ readSize

def disconnectMarkers : List String :=
  ["Disconnected", "Connection closed", "Connection terminated", "Connection lost"]

def IsMarker (word : Text) : Prop := ∃ marker ∈ disconnectMarkers, Spells marker word

section Flag
variable (characters : Characters)

def readAll (chunks : List Bytes) (session : GattSession) : GattSession :=
  chunks.foldl (fun session chunk => session.readOutput characters chunk) session

/-- The flag does not depend on the reads, and is down when the whole text has a marker. -/
structure SplitIndependent (output : Bytes) : Prop where
  same : ∀ session : GattSession, session.connected = true → ∀ chunks others, Reads output chunks → Reads output others →
    (readAll characters chunks session).connected = (readAll characters others session).connected
  detected : ∀ session : GattSession, session.connected = true → ∀ chunks, Reads output chunks →
    (search characters.isWord disconnectEvent (chunks.flatMap decodeReplace)).isSome = true →
      (readAll characters chunks session).connected = false

end Flag

/-! ## Markers -/

section Markers
variable {characters : Characters} {before : Option Char} {word matched after : Text}

theorem toLower_eq_d {char : Char} (lowered : char.toLower = 'd') : char = 'd' ∨ char = 'D' := by
  have code := congrArg Char.toNat lowered
  rw [toLower_toNat] at code
  change _ = 100 at code
  split at code
  · have same : char.toNat = 68 := by omega
    exact .inr (Char.toNat_inj.mp same)
  · exact .inl (Char.toNat_inj.mp code)

theorem isWord_of_d {char : Char} (same : sameIgnoringCase 'd' char = true) : characters.isWord char = true := by
  have lowered : char.toLower = 'd' := by
    simpa [sameIgnoringCase] using same
  rcases toLower_eq_d lowered with rfl | rfl
  · exact characters.ascii 'd' (by decide)
  · exact characters.ascii 'D' (by decide)

theorem spells_length {marker : String} (spells : Spells marker word) : word.length = marker.toList.length :=
  (List.Forall₂.length_eq spells).symm

theorem IsMarker.length (marker : IsMarker word) : 2 ≤ word.length ∧ word.length ≤ 21 := by
  obtain ⟨name, member, spells⟩ := marker
  rw [spells_length spells]
  have sizes : ∀ name ∈ disconnectMarkers, 2 ≤ name.toList.length ∧ name.toList.length ≤ 21 := by decide
  exact sizes name member

/-- No marker has a replaced character. -/
theorem IsMarker.genuine (marker : IsMarker word) : replacementChar ∉ word := by
  obtain ⟨name, member, spells⟩ := marker
  intro present
  obtain ⟨letter, letters, same⟩ : ∃ letter ∈ name.toList, sameIgnoringCase letter replacementChar = true := by
    obtain ⟨index, inside, here⟩ := List.getElem_of_mem present
    have size := spells_length spells
    have same := List.Forall₂.get spells (size ▸ inside) inside
    rw [List.get_eq_getElem, List.get_eq_getElem, here] at same
    exact ⟨_, List.getElem_mem _, same⟩
  have none_same : (disconnectMarkers.all fun name => name.toList.all fun letter =>
      !sameIgnoringCase letter replacementChar) = true := by decide
  have differs := List.all_eq_true.mp (List.all_eq_true.mp none_same name member) letter letters
  rw [same] at differs
  cases differs

/-- The word of a disconnect begins and ends with a letter. -/
theorem disconnected_ends (spells : Spells "Disconnected" word) : ∃ first last, word.head? = some first ∧
    word.getLast? = some last ∧ sameIgnoringCase 'd' first = true ∧ sameIgnoringCase 'd' last = true := by
  have size : word.length = 12 := spells_length spells
  have same {index : Nat} (inside : index < 12) :
      sameIgnoringCase ("Disconnected".toList.get ⟨index, inside⟩) (word.get ⟨index, size ▸ inside⟩) = true :=
    List.Forall₂.get spells inside (size ▸ inside)
  refine ⟨word.get ⟨0, by omega⟩, word.get ⟨11, by omega⟩, ?_, ?_, same (by decide), same (by decide)⟩
  · rw [List.head?_eq_getElem?, List.get_eq_getElem, List.getElem?_eq_getElem]
  · have final : word.length - 1 = 11 := by omega
    rw [List.getLast?_eq_getElem?, final, List.get_eq_getElem, List.getElem?_eq_getElem]

/-- What a search matches is a marker. -/
theorem isMarker_of_matches (fits : MatchesAny characters.isWord disconnectEvent before matched after) : IsMarker matched := by
  obtain ⟨items, member, fits⟩ := fits
  unfold disconnectEvent at member
  simp only [List.mem_cons, List.not_mem_nil, or_false] at member
  rcases member with rfl | rfl | rfl | rfl
  · obtain ⟨_, fits⟩ := fits
    obtain ⟨spelled, rest, rfl, fits, _, ended⟩ := matches_append.mp fits
    cases ended
    rw [matches_literal] at fits
    rw [List.append_nil]
    exact ⟨"Disconnected", by decide, fits⟩
  · rw [matches_literal] at fits
    exact ⟨"Connection closed", by decide, fits⟩
  · rw [matches_literal] at fits
    exact ⟨"Connection terminated", by decide, fits⟩
  · rw [matches_literal] at fits
    exact ⟨"Connection lost", by decide, fits⟩

/-- A marker with nothing around it is found. -/
theorem matches_of_isMarker (marker : IsMarker word) : MatchesAny characters.isWord disconnectEvent none word [] := by
  obtain ⟨name, member, spells⟩ := marker
  unfold disconnectMarkers at member
  simp only [List.mem_cons, List.not_mem_nil, or_false] at member
  rcases member with rfl | rfl | rfl | rfl
  · obtain ⟨first, last, opens, ends, begins, finishes⟩ := disconnected_ends spells
    have inside : Matches characters.isWord (literal "Disconnected" ++ [.boundary]) none word [] := by
      refine matches_append.mpr ⟨word, [], (List.append_nil word).symm, ?_, ?_, rfl⟩
      · rw [matches_literal]
        exact spells
      rw [ends, Option.some_or, atBoundary, Option.any_some, isWord_of_d finishes]
      rfl
    refine ⟨_, List.mem_cons_self, ?_, inside⟩
    rw [List.append_nil, atBoundary, opens, Option.any_some, isWord_of_d begins]
    rfl
  · refine ⟨_, List.mem_cons_of_mem _ List.mem_cons_self, ?_⟩
    rw [matches_literal]
    exact spells
  · refine ⟨_, List.mem_cons_of_mem _ (List.mem_cons_of_mem _ List.mem_cons_self), ?_⟩
    rw [matches_literal]
    exact spells
  · refine ⟨_, List.mem_cons_of_mem _ (List.mem_cons_of_mem _ (List.mem_cons_of_mem _ List.mem_cons_self)), ?_⟩
    rw [matches_literal]
    exact spells

end Markers

/-! ## Reads -/

section Reads
variable {characters : Characters} {session : GattSession} {output : Bytes}

theorem readOutput_connected (chunk : Bytes) : (session.readOutput characters chunk).connected =
    if (search characters.isWord disconnectEvent (decodeReplace chunk)).isSome then false else session.connected := by
  dsimp only [GattSession.readOutput]
  split <;> rfl

/-- The flag stays up when no chunk alone has a match. -/
theorem readAll_connected (chunks : List Bytes) : (readAll characters chunks session).connected = true ↔
    session.connected = true ∧
      ∀ chunk ∈ chunks, (search characters.isWord disconnectEvent (decodeReplace chunk)).isSome = false := by
  induction chunks generalizing session with
  | nil => simp [readAll]
  | cons chunk chunks ih =>
    rw [readAll, List.foldl_cons]
    change (readAll characters chunks _).connected = true ↔ _
    rw [ih, readOutput_connected, List.forall_mem_cons]
    cases (search characters.isWord disconnectEvent (decodeReplace chunk)).isSome with
    | true => simp
    | false => simp

/-- A match in a text that was read stands in the bytes. -/
theorem marker_of_search {bytes : Bytes} {text : Text} (reading : Reading bytes text)
    (found : (search characters.isWord disconnectEvent text).isSome = true) :
    ∃ word, IsMarker word ∧ encode word <:+: bytes := by
  obtain ⟨front, matched, after, rfl, fits⟩ := search_isSome.mp found
  have marker := isMarker_of_matches fits
  exact ⟨matched, marker, reading.encode_inside marker.genuine⟩

/-- Every byte in a read of its own. -/
def singles (output : Bytes) : List Bytes := output.map fun byte => [byte]

theorem reads_singles (output : Bytes) : Reads output (singles output) := by
  constructor
  · unfold singles
    rw [← List.flatMap_def, List.flatMap_singleton']
  · intro chunk present
    obtain ⟨byte, _, rfl⟩ := List.mem_map.mp present
    refine ⟨List.cons_ne_nil byte [], ?_⟩
    rw [List.length_singleton]
    decide

/-- Single bytes never hold a marker. -/
theorem singles_connected (up : session.connected = true) :
    (readAll characters (singles output) session).connected = true := by
  refine (readAll_connected _).mpr ⟨up, ?_⟩
  intro chunk present
  obtain ⟨byte, _, rfl⟩ := List.mem_map.mp present
  rw [Bool.eq_false_iff]
  intro found
  obtain ⟨front, matched, after, split, fits⟩ := search_isSome.mp found
  have short := (Reading.decode [byte]).length_le
  have long := (isMarker_of_matches fits).length
  rw [split, List.length_append, List.length_append, List.length_singleton] at short
  omega

theorem Reads.append {later : Bytes} {chunks others : List Bytes} (here : Reads output chunks) (there : Reads later others) :
    Reads (output ++ later) (chunks ++ others) := by
  constructor
  · rw [List.flatten_append, here.whole, there.whole]
  · exact List.forall_mem_append.mpr ⟨here.each, there.each⟩

/-- A marker that is read alone is found. -/
theorem marker_connected {word : Text} {chunks : List Bytes} (marker : IsMarker word) (present : encode word ∈ chunks) :
    (readAll characters chunks session).connected = false := by
  rw [Bool.eq_false_iff]
  intro up
  have missed := ((readAll_connected chunks).mp up).2 (encode word) present
  have read := decodeReplace_encode word []
  rw [List.append_nil] at read
  rw [read] at missed
  have nothing : decodeReplace [] = [] := rfl
  rw [nothing, List.append_nil] at missed
  have found : (search characters.isWord disconnectEvent word).isSome = true :=
    search_isSome.mpr ⟨[], word, [], (List.append_nil word).symm, matches_of_isMarker marker⟩
  rw [found] at missed
  cases missed

/-- The marker in one read, all else in single bytes. -/
theorem reads_around {word : Text} {front after : Bytes} (marker : IsMarker word) :
    Reads (front ++ encode word ++ after) (singles front ++ [encode word] ++ singles after) := by
  have alone : Reads (encode word) [encode word] := by
    refine ⟨List.flatten_singleton, ?_⟩
    intro chunk present
    obtain rfl := List.mem_singleton.mp present
    obtain ⟨least, most⟩ := encode_length word
    obtain ⟨long, short⟩ := marker.length
    refine ⟨List.ne_nil_of_length_pos (by omega), ?_⟩
    unfold readSize
    omega
  exact ((reads_singles front).append alone).append (reads_singles after)

end Reads

/-! ## The flag -/

/-- The flag is independent of the reads exactly for output without any marker in it. -/
theorem splitIndependent_iff (characters : Characters) (output : Bytes) :
    SplitIndependent characters output ↔ ∀ word, IsMarker word → ¬encode word <:+: output := by
  constructor
  · intro independent word marker inside
    obtain ⟨front, after, rfl⟩ := inside
    let session : GattSession := ⟨[], 0, true⟩
    have same := independent.same session rfl _ _ (reads_around marker) (reads_singles _)
    have present : encode word ∈ singles front ++ [encode word] ++ singles after := by simp
    rw [marker_connected marker present, singles_connected rfl] at same
    cases same
  · intro clean
    have silent {session : GattSession} (up : session.connected = true) {chunks : List Bytes} (reads : Reads output chunks) :
        (readAll characters chunks session).connected = true := by
      refine (readAll_connected chunks).mpr ⟨up, ?_⟩
      intro chunk present
      rw [Bool.eq_false_iff]
      intro found
      obtain ⟨word, marker, inside⟩ := marker_of_search (Reading.decode chunk) found
      apply clean word marker
      rw [← reads.whole]
      exact inside.trans (List.infix_of_mem_flatten present)
    constructor
    · intro session up chunks others reads again
      rw [silent up reads, silent up again]
    · intro session up chunks reads found
      obtain ⟨word, marker, inside⟩ := marker_of_search (Reading.chunks chunks) found
      rw [reads.whole] at inside
      exact absurd inside (clean word marker)

/-- A marker that a read cuts in two is missed. -/
theorem cut_marker_is_missed : ¬SplitIndependent asciiCharacters (ascii "Disconnected\n") := by
  intro independent
  have reads : Reads (ascii "Disconnected\n") [ascii "Discon", ascii "nected\n"] := ⟨by decide, by decide⟩
  have down := independent.detected ⟨[], 0, true⟩ rfl _ reads (by decide)
  have up : (readAll asciiCharacters [ascii "Discon", ascii "nected\n"] ⟨[], 0, true⟩).connected = true := by
    decide
  rw [up] at down
  cases down

end PlayTogether.Legacy
