import PlayTogether.Library.Bytes

/-! What trimming removes and what it leaves. -/

namespace PlayTogether.Library

set_option maxRecDepth 20000

/-- A text put together from characters of a list. -/
def MadeOf (chars : List Bytes) (text : Bytes) : Prop :=
  ∃ pieces : List Bytes, (∀ piece ∈ pieces, piece ∈ chars) ∧ text = pieces.flatten

def Blank (text : Bytes) : Prop := MadeOf whiteSpace text

/-- Neither end of the text is a white space character. -/
structure BareEnds (text : Bytes) : Prop where
  front : ∀ char ∈ whiteSpace, ¬char <+: text
  back : ∀ char ∈ whiteSpace, ¬char <:+ text

section Strip
variable {chars : List Bytes} {front rest text : Bytes}

theorem MadeOf.nil : MadeOf chars [] := ⟨[], by simp, rfl⟩

theorem MadeOf.cons {char : Bytes} (member : char ∈ chars) (made : MadeOf chars rest) : MadeOf chars (char ++ rest) := by
  obtain ⟨pieces, inside, rfl⟩ := made
  exact ⟨char :: pieces, List.forall_mem_cons.mpr ⟨member, inside⟩, rfl⟩

theorem MadeOf.append (made : MadeOf chars front) (behind : MadeOf chars rest) : MadeOf chars (front ++ rest) := by
  obtain ⟨pieces, inside, rfl⟩ := made
  obtain ⟨others, outside, rfl⟩ := behind
  refine ⟨pieces ++ others, ?_, List.flatten_append.symm⟩
  intro piece member
  rcases List.mem_append.mp member with one | other
  · exact inside piece one
  · exact outside piece other

theorem MadeOf.reverse (made : MadeOf chars text) : MadeOf (chars.map List.reverse) text.reverse := by
  obtain ⟨pieces, inside, rfl⟩ := made
  refine ⟨(pieces.map List.reverse).reverse, ?_, List.reverse_flatten⟩
  intro piece member
  obtain ⟨original, known, rfl⟩ := List.mem_map.mp (List.mem_reverse.mp member)
  exact List.mem_map_of_mem (inside original known)

theorem stripChars_stop (stops : ∀ char ∈ chars, ¬char <+: text) (count : Nat) : stripChars chars count text = text := by
  cases count with
  | zero => rfl
  | succ count =>
    have none_found : chars.find? (·.isPrefixOf text) = none := by
      apply List.find?_eq_none.mpr
      intro char member found
      exact stops char member (List.isPrefixOf_iff_prefix.mp found)
    rw [stripChars, none_found]

theorem prefix_of_find {char : Bytes} (found : chars.find? (·.isPrefixOf text) = some char) : char <+: text := by
  have accepted := @List.find?_some _ (fun entry : Bytes => entry.isPrefixOf text) _ _ found
  exact List.isPrefixOf_iff_prefix.mp accepted

theorem stripChars_split (chars : List Bytes) (count : Nat) (text : Bytes) :
    ∃ front, MadeOf chars front ∧ text = front ++ stripChars chars count text := by
  induction count generalizing text with
  | zero => exact ⟨[], MadeOf.nil, rfl⟩
  | succ count ih =>
    cases found : chars.find? (·.isPrefixOf text) with
    | none =>
      rw [stripChars, found]
      exact ⟨[], MadeOf.nil, rfl⟩
    | some char =>
      obtain ⟨later, rfl⟩ := prefix_of_find found
      obtain ⟨front, made, split⟩ := ih later
      rw [stripChars, found]
      dsimp only
      rw [List.drop_left]
      refine ⟨char ++ front, made.cons (List.mem_of_find?_eq_some found), ?_⟩
      rw [List.append_assoc, ← split]

/-- With enough rounds no character of the list is left in front. -/
theorem stripChars_done (filled : [] ∉ chars) {count : Nat} (enough : text.length ≤ count) :
    ∀ char ∈ chars, ¬char <+: stripChars chars count text := by
  induction count generalizing text with
  | zero =>
    have empty : text = [] := List.length_eq_zero_iff.mp (by omega)
    intro char member ahead
    rw [stripChars, empty] at ahead
    rw [List.prefix_nil.mp ahead] at member
    exact filled member
  | succ count ih =>
    cases found : chars.find? (·.isPrefixOf text) with
    | none =>
      rw [stripChars, found]
      intro char member ahead
      exact List.find?_eq_none.mp found char member (List.isPrefixOf_iff_prefix.mpr ahead)
    | some char =>
      have known := List.mem_of_find?_eq_some found
      have positive : 0 < char.length := List.length_pos_of_ne_nil fun empty => filled (empty ▸ known)
      rw [stripChars, found]
      apply ih
      rw [List.length_drop]
      omega

/-- Where no character begins another, a front made of them is removed whole. -/
theorem stripChars_front (free : ∀ one ∈ chars, ∀ other ∈ chars, one <+: other → one = other)
    (filled : [] ∉ chars) (made : MadeOf chars front) (stops : ∀ char ∈ chars, ¬char <+: rest) {count : Nat}
    (enough : front.length ≤ count) : stripChars chars count (front ++ rest) = rest := by
  obtain ⟨pieces, inside, rfl⟩ := made
  induction pieces generalizing count with
  | nil => exact stripChars_stop stops count
  | cons piece pieces ih =>
    have known : piece ∈ chars := inside piece List.mem_cons_self
    have positive : 0 < piece.length := List.length_pos_of_ne_nil fun empty => filled (empty ▸ known)
    have ahead : piece <+: piece ++ (pieces.flatten ++ rest) := List.prefix_append piece _
    rw [List.flatten_cons, List.length_append] at enough
    obtain ⟨less, rfl⟩ : ∃ less, count = less + 1 := ⟨count - 1, by omega⟩
    rw [List.flatten_cons, List.append_assoc]
    cases found : chars.find? (·.isPrefixOf (piece ++ (pieces.flatten ++ rest))) with
    | none => exact absurd (List.isPrefixOf_iff_prefix.mpr ahead) (List.find?_eq_none.mp found piece known)
    | some char =>
      have member := List.mem_of_find?_eq_some found
      have begun := prefix_of_find found
      have same : char = piece := by
        rcases List.prefix_or_prefix_of_prefix begun ahead with shorter | longer
        · exact free char member piece known shorter
        · exact (free piece known char member longer).symm
      rw [stripChars, found, same]
      dsimp only
      rw [List.drop_left]
      apply ih
      · intro other member
        exact inside other (List.mem_cons_of_mem piece member)
      · omega

end Strip

/-! ## Trimming -/

theorem whiteSpace_filled : [] ∉ whiteSpace := by decide

theorem whiteSpace_free : ∀ one ∈ whiteSpace, ∀ other ∈ whiteSpace, one <+: other → one = other := by decide

theorem whiteSpace_reverse_filled : [] ∉ whiteSpace.map List.reverse := by decide

theorem whiteSpace_reverse_free :
    ∀ one ∈ whiteSpace.map List.reverse, ∀ other ∈ whiteSpace.map List.reverse, one <+: other → one = other := by
  decide

theorem whiteSpace_turned : (whiteSpace.map List.reverse).map List.reverse = whiteSpace := by decide

/-- No character starts inside another one. -/
theorem whiteSpace_inside : ∀ char ∈ whiteSpace, ∀ other ∈ whiteSpace, ∀ byte ∈ char.tail, other.head? ≠ some byte := by
  have checked : (whiteSpace.all fun char => whiteSpace.all fun other => char.tail.all (other.head? != some ·)) = true := by
    decide
  intro char member other known byte inside
  have apart := List.all_eq_true.mp (List.all_eq_true.mp (List.all_eq_true.mp checked char member) other known) byte inside
  exact bne_iff_ne.mp apart

/-- No character ends with the beginning of one, nor begins with one. -/
theorem whiteSpace_begun : ∀ char ∈ whiteSpace, ∀ count ∈ [1, 2], ∀ other ∈ whiteSpace, count < char.length →
    ¬char.take count <:+ other ∧ ¬other <:+ char.take count := by
  decide

section Trim
variable {text core before after : Bytes}

theorem Blank.head_of (blank : Blank text) (filled : text ≠ []) : ∃ char ∈ whiteSpace, text.head? = char.head? := by
  obtain ⟨pieces, inside, rfl⟩ := blank
  cases pieces with
  | nil => exact absurd rfl filled
  | cons piece pieces =>
    have known := inside piece List.mem_cons_self
    have positive : piece ≠ [] := fun empty => whiteSpace_filled (empty ▸ known)
    refine ⟨piece, known, ?_⟩
    rw [List.flatten_cons, List.head?_append_of_ne_nil _ positive]

/-- White space behind a text makes no new white space in front of it. -/
theorem bare_front (filled : core ≠ []) (bare : ∀ char ∈ whiteSpace, ¬char <+: core) (blank : Blank after) :
    ∀ char ∈ whiteSpace, ¬char <+: core ++ after := by
  intro char member ahead
  rcases List.prefix_or_prefix_of_prefix ahead (List.prefix_append core after) with inside | across
  · exact bare char member inside
  · obtain ⟨tail, rfl⟩ := across
    have behind := (List.prefix_append_right_inj core).mp ahead
    cases tail with
    | nil => exact bare _ member (by rw [List.append_nil])
    | cons byte tail =>
      obtain ⟨first, others, rfl⟩ := List.exists_cons_of_ne_nil filled
      have begun : after.head? = some byte := by
        obtain ⟨later, rfl⟩ := behind
        rfl
      obtain ⟨other, known, same⟩ := blank.head_of (by
        intro empty
        rw [empty] at begun
        cases begun)
      apply whiteSpace_inside _ member other known byte (by simp)
      rw [← same, begun]

/-- White space in front of a text makes no new white space behind it. -/
theorem bare_back (filled : core ≠ []) (bare : ∀ char ∈ whiteSpace, ¬char <:+ core) (blank : Blank before) :
    ∀ char ∈ whiteSpace, ¬char <:+ before ++ core := by
  intro char member ends
  rcases List.suffix_or_suffix_of_suffix ends (List.suffix_append before core) with inside | across
  · exact bare char member inside
  · obtain ⟨front, rfl⟩ := across
    have behind : front <:+ before := List.suffix_append_self_iff.mp ends
    by_cases started : front = []
    · rw [started, List.nil_append] at member
      exact bare core member List.suffix_rfl
    · have size : front.length ∈ [1, 2] ∧ front.length < (front ++ core).length := by
        have positive := List.length_pos_of_ne_nil started
        have more := List.length_pos_of_ne_nil filled
        have short : ∀ char ∈ whiteSpace, char.length ≤ 3 := by decide
        have bound := short _ member
        rw [List.length_append] at bound ⊢
        simp only [List.mem_cons, List.not_mem_nil, or_false]
        omega
      obtain ⟨pieces, known, rfl⟩ := blank
      rcases List.eq_nil_or_concat pieces with rfl | ⟨earlier, last, rfl⟩
      · exact started (List.suffix_nil.mp behind)
      · rw [List.concat_eq_append] at known behind
        rw [List.flatten_append, List.flatten_singleton] at behind
        have apart := whiteSpace_begun _ member _ size.1 last (known last (by simp)) size.2
        rw [List.take_left] at apart
        rcases List.suffix_or_suffix_of_suffix behind (List.suffix_append _ last) with shorter | longer
        · exact apart.1 shorter
        · exact apart.2 longer

/-- A suffix that misses a byte stops behind it. -/
theorem suffix_of_missing {byte : UInt8} (missing : byte ∉ text) (ends : text <:+ before ++ byte :: core) :
    text <:+ core := by
  rcases List.suffix_or_suffix_of_suffix ends (List.suffix_append before (byte :: core)) with inside | across
  · rcases List.suffix_cons_iff.mp inside with whole | behind
    · exact absurd (whole ▸ List.mem_cons_self) missing
    · exact behind
  · exact absurd (across.subset List.mem_cons_self) missing

theorem printing_front {byte : UInt8} (printing : 0x20 < byte ∧ byte < 0x7f) (rest : Bytes) :
    ∀ char ∈ whiteSpace, ¬char <+: byte :: rest := by
  have heads : ∀ char ∈ whiteSpace, ∃ head, char.head? = some head ∧ ¬(0x20 < head ∧ head < 0x7f) := by
    decide
  intro char member ahead
  obtain ⟨head, first, strange⟩ := heads char member
  obtain ⟨others, rfl⟩ := List.head?_eq_some_iff.mp first
  exact strange ((List.cons_prefix_cons.mp ahead).1 ▸ printing)

/-- Printing ASCII without spaces is no white space at all. -/
theorem bareEnds_of_printing (printing : ∀ byte ∈ text, 0x20 < byte ∧ byte < 0x7f) : BareEnds text := by
  have lasts : ∀ char ∈ whiteSpace, ∃ byte ∈ char.getLast?, ¬(0x20 < byte ∧ byte < 0x7f) := by decide
  constructor
  · cases text with
    | nil =>
      intro char member ahead
      exact whiteSpace_filled (List.prefix_nil.mp ahead ▸ member)
    | cons byte rest => exact printing_front (printing byte List.mem_cons_self) rest
  · intro char member ends
    obtain ⟨byte, last, strange⟩ := lasts char member
    exact strange (printing byte (ends.subset (List.mem_of_getLast? last)))

/-- Trimming takes white space off both ends and nothing else. -/
theorem trim_split (text : Bytes) : ∃ before after, Blank before ∧ Blank after ∧ text = before ++ (trim text ++ after) := by
  obtain ⟨before, leading, split⟩ := stripChars_split whiteSpace text.length text
  dsimp only [trim]
  generalize stripChars whiteSpace text.length text = rest at split ⊢
  obtain ⟨behind, trailing, back⟩ := stripChars_split (whiteSpace.map List.reverse) rest.length rest.reverse
  generalize stripChars (whiteSpace.map List.reverse) rest.length rest.reverse = core at back ⊢
  have blank : Blank behind.reverse := by
    have turned := trailing.reverse
    rwa [whiteSpace_turned] at turned
  refine ⟨before, behind.reverse, leading, blank, ?_⟩
  rw [split, ← List.reverse_append, ← back, List.reverse_reverse]

/-- Trimming that removes nothing changes nothing. -/
theorem trim_of_length (kept : text.length ≤ (trim text).length) : trim text = text := by
  obtain ⟨before, after, _, _, split⟩ := trim_split text
  have sizes := congrArg List.length split
  rw [List.length_append, List.length_append] at sizes
  have none_before : before = [] := List.length_eq_zero_iff.mp (by omega)
  have none_after : after = [] := List.length_eq_zero_iff.mp (by omega)
  rw [none_before, none_after, List.nil_append, List.append_nil] at split
  exact split.symm

theorem trim_bare (text : Bytes) : BareEnds (trim text) := by
  have leading := stripChars_done whiteSpace_filled (Nat.le_refl text.length)
  dsimp only [trim]
  generalize stripChars whiteSpace text.length text = rest at leading ⊢
  have size : rest.reverse.length ≤ rest.length := by rw [List.length_reverse]
  have trailing := stripChars_done whiteSpace_reverse_filled size
  obtain ⟨behind, made, split⟩ := stripChars_split (whiteSpace.map List.reverse) rest.length rest.reverse
  generalize stripChars (whiteSpace.map List.reverse) rest.length rest.reverse = core at trailing split ⊢
  constructor
  · intro char member ahead
    apply leading char member
    rw [← List.reverse_reverse rest, split, List.reverse_append]
    exact ahead.trans (List.prefix_append core.reverse behind.reverse)
  · intro char member ends
    apply trailing char.reverse (List.mem_map_of_mem member)
    rwa [← List.reverse_suffix, List.reverse_reverse]

/-- White space around a text with bare ends is what trimming removes. -/
theorem trim_surrounded (bare : BareEnds core) (leading : Blank before) (trailing : Blank after) :
    trim (before ++ (core ++ after)) = core := by
  have stops : ∀ char ∈ whiteSpace.map List.reverse, ¬char <+: core.reverse := by
    intro char member ahead
    obtain ⟨original, known, rfl⟩ := List.mem_map.mp member
    exact bare.back original known (List.reverse_prefix.mp ahead)
  have front : stripChars whiteSpace (before ++ (core ++ after)).length (before ++ (core ++ after)) = core ++ after ∨
      core = [] := by
    by_cases empty : core = []
    · exact .inr empty
    · apply Or.inl
      apply stripChars_front whiteSpace_free whiteSpace_filled leading (bare_front empty bare.front trailing)
      rw [List.length_append]
      omega
  dsimp only [trim]
  rcases front with kept | rfl
  · have size : after.reverse.length ≤ (core ++ after).length := by
      rw [List.length_reverse, List.length_append]
      omega
    have back := stripChars_front whiteSpace_reverse_free whiteSpace_reverse_filled trailing.reverse stops size
    rw [kept, List.reverse_append, back, List.reverse_reverse]
  · have whole := stripChars_front whiteSpace_free whiteSpace_filled (leading.append trailing)
      (fun char member ahead => whiteSpace_filled (List.prefix_nil.mp ahead ▸ member)) (Nat.le_refl _)
    rw [List.append_nil] at whole
    rw [List.nil_append, whole]
    rfl

theorem blank_of_trim (nothing : trim text = []) : Blank text := by
  obtain ⟨before, after, leading, trailing, split⟩ := trim_split text
  rw [nothing, List.nil_append] at split
  rw [split]
  exact leading.append trailing

theorem trim_of_blank (blank : Blank text) : trim text = [] := by
  have bare : BareEnds [] := by
    constructor
    · intro char member ahead
      exact whiteSpace_filled (List.prefix_nil.mp ahead ▸ member)
    · intro char member ends
      exact whiteSpace_filled (List.suffix_nil.mp ends ▸ member)
  have surrounded := trim_surrounded bare blank MadeOf.nil
  rwa [List.append_nil, List.append_nil] at surrounded

theorem trim_append_blank (blank : Blank after) : trim (text ++ after) = trim text := by
  obtain ⟨before, behind, leading, trailing, split⟩ := trim_split text
  have whole : text ++ after = before ++ (trim text ++ (behind ++ after)) := by
    rw [← List.append_assoc (trim text), ← List.append_assoc before, ← split]
  rw [whole]
  exact trim_surrounded (trim_bare text) leading (trailing.append blank)

/-- What makes white space longer and leaves it white space is itself white space. -/
theorem blank_behind (blank : Blank before) (whole : Blank (before ++ after)) : Blank after := by
  obtain ⟨pieces, inside, rfl⟩ := blank
  induction pieces with
  | nil => exact whole
  | cons piece pieces ih =>
    have known := inside piece List.mem_cons_self
    have filled : piece ≠ [] := fun empty => whiteSpace_filled (empty ▸ known)
    apply ih fun other member => inside other (List.mem_cons_of_mem piece member)
    obtain ⟨others, outside, split⟩ := whole
    rw [List.flatten_cons, List.append_assoc] at split
    cases others with
    | nil => exact absurd (List.append_eq_nil_iff.mp split).1 filled
    | cons other others =>
      rw [List.flatten_cons] at split
      have front : piece <+: other ++ others.flatten := by
        rw [← split]
        exact List.prefix_append piece _
      have same : piece = other := by
        have member := outside other List.mem_cons_self
        rcases List.prefix_or_prefix_of_prefix front (List.prefix_append other others.flatten) with shorter | longer
        · exact whiteSpace_free piece known other member shorter
        · exact (whiteSpace_free other member piece known longer).symm
      rw [← same] at split
      exact ⟨others, fun char member => outside char (List.mem_cons_of_mem other member), List.append_cancel_left split⟩

/-- A text that begins with a printing character grows by white space alone where trimming it
does not grow. -/
theorem blank_of_trim_append {byte : UInt8} {other : Bytes} (printing : 0x20 < byte ∧ byte < 0x7f)
    (first : trim text = byte :: core) (second : trim (text ++ after) = byte :: other)
    (long : core.length = other.length) : Blank after := by
  obtain ⟨before, behind, leading, trailing, split⟩ := trim_split text
  obtain ⟨start, rest, blank, ended, whole⟩ := trim_split (text ++ after)
  rw [first] at split
  rw [second] at whole
  have stripped {front : Bytes} (inner tail : Bytes) (blank : Blank front)
      (enough : front.length ≤ before.length + start.length) :
      stripChars whiteSpace (before.length + start.length) (front ++ (byte :: inner ++ tail)) = byte :: inner ++ tail :=
    stripChars_front whiteSpace_free whiteSpace_filled blank (printing_front printing (inner ++ tail)) enough
  have one := stripped core (behind ++ after) leading (Nat.le_add_right _ _)
  have two := stripped other rest blank (Nat.le_add_left _ _)
  rw [← whole, split, List.append_assoc, List.append_assoc, one] at two
  have same := (List.append_inj two (congrArg Nat.succ long)).2
  exact blank_behind trailing (same ▸ ended)

end Trim

/-! ## Valid text -/

section Utf8
variable {left right text : Bytes} {state next : Utf8State}

theorem utf8Run_append (state : Utf8State) (left right : Bytes) :
    utf8Run state (left ++ right) = (utf8Run state left).bind fun next => utf8Run next right := by
  unfold utf8Run
  exact List.foldlM_append

theorem validUtf8_iff : validUtf8 text = true ↔ utf8Run .boundary text = some .boundary := beq_iff_eq

theorem validUtf8_append (first : validUtf8 left = true) (second : validUtf8 right = true) :
    validUtf8 (left ++ right) = true := by
  rw [validUtf8_iff] at first second ⊢
  rw [utf8Run_append, first]
  exact second

/-- What is owed are continuation bytes. -/
def Utf8State.Plain : Utf8State → Prop
  | .boundary => True
  | .owes low high _ => 0x80 ≤ low ∧ high ≤ 0xbf

theorem utf8Continue_plain (further : Nat) : (utf8Continue further).Plain := by
  cases further with
  | zero => trivial
  | succ further => exact ⟨by decide, by decide⟩

theorem utf8First_plain {byte : UInt8} (started : utf8First byte = some state) : state.Plain := by
  unfold utf8First at started
  split_ifs at started <;> cases started <;> first | exact utf8Continue_plain _ | trivial

theorem utf8Step_plain {byte : UInt8} (stepped : utf8Step state byte = some next) : next.Plain := by
  cases state with
  | boundary => exact utf8First_plain stepped
  | owes low high further =>
    rw [utf8Step] at stepped
    split at stepped
    · cases stepped
      exact utf8Continue_plain further
    · cases stepped

theorem utf8Run_plain (plain : state.Plain) (run : utf8Run state text = some next) : next.Plain := by
  induction text generalizing state with
  | nil =>
    cases run
    exact plain
  | cons byte rest ih =>
    unfold utf8Run at run ih
    rw [List.foldlM_cons] at run
    obtain ⟨middle, stepped, behind⟩ := Option.bind_eq_some_iff.mp run
    exact ih (utf8Step_plain stepped) behind

theorem blank_valid (blank : Blank text) : validUtf8 text = true := by
  have each : ∀ char ∈ whiteSpace, validUtf8 char = true := by decide
  obtain ⟨pieces, known, rfl⟩ := blank
  induction pieces with
  | nil => rfl
  | cons piece pieces ih =>
    obtain ⟨here, others⟩ := List.forall_mem_cons.mp known
    exact validUtf8_append (each piece here) (ih others)

/-- White space starts at a character boundary. -/
theorem boundary_of_blank (plain : state.Plain) (blank : Blank text) (filled : text ≠ [])
    (run : utf8Run state text = some next) : state = .boundary := by
  cases state with
  | boundary => rfl
  | owes low high further =>
    have heads : ∀ char ∈ whiteSpace, ∃ head, char.head? = some head ∧ ¬(0x80 ≤ head ∧ head ≤ 0xbf) := by
      decide
    obtain ⟨char, known, same⟩ := blank.head_of filled
    obtain ⟨head, first, strange⟩ := heads char known
    obtain ⟨rest, rfl⟩ := List.head?_eq_some_iff.mp (same.trans first)
    unfold utf8Run at run
    rw [List.foldlM_cons] at run
    obtain ⟨middle, stepped, _⟩ := Option.bind_eq_some_iff.mp run
    rw [utf8Step] at stepped
    split at stepped
    · rename_i bounds
      exact absurd ⟨UInt8.le_trans plain.1 bounds.1, UInt8.le_trans bounds.2 plain.2⟩ strange
    · cases stepped

theorem validUtf8_trim (valid : validUtf8 text = true) : validUtf8 (trim text) = true := by
  obtain ⟨before, after, leading, trailing, split⟩ := trim_split text
  rw [validUtf8_iff] at valid ⊢
  rw [split, utf8Run_append, validUtf8_iff.mp (blank_valid leading), Option.bind_some, utf8Run_append] at valid
  obtain ⟨state, run, rest⟩ := Option.bind_eq_some_iff.mp valid
  by_cases filled : after = []
  · rw [filled] at rest
    cases rest
    exact run
  · rw [run, boundary_of_blank (utf8Run_plain (show Utf8State.boundary.Plain from trivial) run) trailing filled rest]

end Utf8

end PlayTogether.Library
