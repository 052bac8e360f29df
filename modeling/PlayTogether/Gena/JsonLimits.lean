import PlayTogether.Gena.Event

/-! The limits on a JSON value are limits on totals over the whole value. -/

namespace PlayTogether.Gena
open PlayTogether.Library

/-- No value stands too deep and no key is too long. -/
structure Shallow (nodes : List (Nat × Json)) : Prop where
  depth : ∀ node ∈ nodes, node.1 ≤ maxJsonDepth
  keys : ∀ node ∈ nodes, ∀ key ∈ node.2.keys, key.length ≤ maxJsonKeyBytes

theorem Shallow.nil : Shallow [] := ⟨by simp, by simp⟩

theorem Shallow.cons {depth : Nat} {value : Json} {nodes : List (Nat × Json)} (shallow : Shallow nodes)
    (high : depth ≤ maxJsonDepth) (short : ∀ key ∈ value.keys, key.length ≤ maxJsonKeyBytes) :
    Shallow ((depth, value) :: nodes) :=
  ⟨List.forall_mem_cons.mpr ⟨high, shallow.depth⟩, List.forall_mem_cons.mpr ⟨short, shallow.keys⟩⟩

theorem Shallow.tail {node : Nat × Json} {nodes : List (Nat × Json)} (shallow : Shallow (node :: nodes)) :
    Shallow nodes :=
  ⟨(List.forall_mem_cons.mp shallow.depth).2, (List.forall_mem_cons.mp shallow.keys).2⟩

theorem shallow_append {nodes others : List (Nat × Json)} :
    Shallow (nodes ++ others) ↔ Shallow nodes ∧ Shallow others := by
  constructor
  · intro both
    exact ⟨⟨(List.forall_mem_append.mp both.depth).1, (List.forall_mem_append.mp both.keys).1⟩,
      ⟨(List.forall_mem_append.mp both.depth).2, (List.forall_mem_append.mp both.keys).2⟩⟩
  · intro each
    exact ⟨List.forall_mem_append.mpr ⟨each.1.depth, each.2.depth⟩,
      List.forall_mem_append.mpr ⟨each.1.keys, each.2.keys⟩⟩

/-- The counts after what stands inside a value that was itself counted. -/
def countsInside (depth nodes textBytes : Nat) : Json → Option (Nat × Nat)
  | .string text => some (nodes + 1, textBytes + text.length)
  | .array items => visitItems (depth + 1) items (nodes + 1, textBytes)
  | .object fields => visitFields (depth + 1) fields (nodes + 1, textBytes)
  | .null | .bool _ | .integer _ | .float _ => some (nodes + 1, textBytes)

theorem visit_eq_some {depth nodes textBytes : Nat} {value : Json} {counts : Nat × Nat} :
    visit depth value (nodes, textBytes) = some counts ↔
      depth ≤ maxJsonDepth ∧ nodes + 1 ≤ maxJsonNodes ∧ countsInside depth nodes textBytes value = some counts ∧
        counts.2 ≤ maxBodyBytes := by
  have shell : visit depth value (nodes, textBytes) = if depth > maxJsonDepth || nodes + 1 > maxJsonNodes then none
      else (countsInside depth nodes textBytes value).bind fun counts =>
        if counts.2 > maxBodyBytes then none else some counts := by
    cases value <;> rw [visit] <;> rfl
  rw [shell]
  by_cases refused : (decide (depth > maxJsonDepth) || decide (nodes + 1 > maxJsonNodes)) = true
  · rw [if_pos refused]
    simp only [Bool.or_eq_true, decide_eq_true_eq] at refused
    constructor
    · intro impossible
      cases impossible
    · intro accepted
      omega
  · rw [if_neg refused, Option.bind_eq_some_iff]
    simp only [Bool.or_eq_true, decide_eq_true_eq, not_or, not_lt] at refused
    constructor
    · intro visited
      obtain ⟨inner, counted, checked⟩ := visited
      split at checked
      · cases checked
      · cases checked
        exact ⟨refused.1, refused.2, counted, by omega⟩
    · intro accepted
      obtain ⟨_, _, counted, small⟩ := accepted
      exact ⟨counts, counted, if_neg (by omega)⟩

theorem visitFields_cons {depth nodes textBytes : Nat} {key : Bytes} {value : Json} {rest : List (Bytes × Json)}
    {counts : Nat × Nat} :
    visitFields depth ((key, value) :: rest) (nodes, textBytes) = some counts ↔
      key.length ≤ maxJsonKeyBytes ∧ ∃ met, visit depth value (nodes, textBytes + key.length) = some met ∧
        visitFields depth rest met = some counts := by
  rw [visitFields]
  by_cases long : key.length > maxJsonKeyBytes
  · rw [if_pos long]
    constructor
    · intro impossible
      cases impossible
    · intro accepted
      omega
  · rw [if_neg long, Option.bind_eq_bind, Option.bind_eq_some_iff]
    constructor
    · intro visited
      exact ⟨by omega, visited⟩
    · intro accepted
      exact accepted.2

mutual

/-- An accepted value was counted whole and meets every limit. -/
theorem visit_sound {depth nodes textBytes : Nat} {value : Json} {counts : Nat × Nat}
    (visited : visit depth value (nodes, textBytes) = some counts) :
    counts = (nodes + (jsonNodes depth value).length, textBytes + textTotal (jsonNodes depth value)) ∧
      counts.1 ≤ maxJsonNodes ∧ counts.2 ≤ maxBodyBytes ∧ Shallow (jsonNodes depth value) := by
  obtain ⟨high, few, counted, small⟩ := visit_eq_some.mp visited
  cases value with
  | null | bool _ | integer _ | float _ | string _ =>
    cases counted
    exact ⟨rfl, few, small, Shallow.nil.cons high (by simp [Json.keys])⟩
  | array items =>
    obtain ⟨total, fewer, shallow⟩ := visitItems_sound counted few
    refine ⟨?_, fewer, small, shallow.cons high (by simp [Json.keys])⟩
    rw [total, jsonNodes, List.length_cons, textTotal_cons]
    ext
    · dsimp only
      omega
    · dsimp only [Json.ownText]
      omega
  | object fields =>
    obtain ⟨total, fewer, keys, shallow⟩ := visitFields_sound counted few
    refine ⟨?_, fewer, small, shallow.cons high keys⟩
    rw [total, jsonNodes, List.length_cons, textTotal_cons]
    ext
    · dsimp only
      omega
    · rfl

theorem visitItems_sound {depth nodes textBytes : Nat} {items : List Json} {counts : Nat × Nat}
    (visited : visitItems depth items (nodes, textBytes) = some counts) (small : nodes ≤ maxJsonNodes) :
    counts = (nodes + (jsonNodesItems depth items).length, textBytes + textTotal (jsonNodesItems depth items)) ∧
      counts.1 ≤ maxJsonNodes ∧ Shallow (jsonNodesItems depth items) := by
  cases items with
  | nil =>
    cases visited
    exact ⟨rfl, small, Shallow.nil⟩
  | cons item rest =>
    obtain ⟨⟨met, read⟩, here, behind⟩ := Option.bind_eq_some_iff.mp visited
    obtain ⟨same, few, _, shallow⟩ := visit_sound here
    obtain ⟨total, fewer, others⟩ := visitItems_sound behind few
    refine ⟨?_, fewer, shallow_append.mpr ⟨shallow, others⟩⟩
    cases same
    rw [total, jsonNodesItems, List.length_append, textTotal_append, Nat.add_assoc, Nat.add_assoc]

theorem visitFields_sound {depth nodes textBytes : Nat} {fields : List (Bytes × Json)} {counts : Nat × Nat}
    (visited : visitFields depth fields (nodes, textBytes) = some counts) (small : nodes ≤ maxJsonNodes) :
    counts = (nodes + (jsonNodesFields depth fields).length,
        textBytes + ((Json.object fields).ownText + textTotal (jsonNodesFields depth fields))) ∧
      counts.1 ≤ maxJsonNodes ∧ (∀ key ∈ (Json.object fields).keys, key.length ≤ maxJsonKeyBytes) ∧
      Shallow (jsonNodesFields depth fields) := by
  cases fields with
  | nil =>
    cases visited
    exact ⟨rfl, small, by simp [Json.keys], Shallow.nil⟩
  | cons field rest =>
    obtain ⟨key, value⟩ := field
    obtain ⟨short, ⟨met, read⟩, here, behind⟩ := visitFields_cons.mp visited
    obtain ⟨same, few, _, shallow⟩ := visit_sound here
    obtain ⟨total, fewer, keys, others⟩ := visitFields_sound behind few
    refine ⟨?_, fewer, List.forall_mem_cons.mpr ⟨short, keys⟩, shallow_append.mpr ⟨shallow, others⟩⟩
    cases same
    rw [total, jsonNodesFields, List.length_append, textTotal_append]
    simp [Json.ownText]
    omega

end

mutual

/-- A value that meets every limit is not refused on the way. -/
theorem visit_complete {depth nodes textBytes : Nat} {value : Json} (shallow : Shallow (jsonNodes depth value))
    (few : nodes + (jsonNodes depth value).length ≤ maxJsonNodes)
    (small : textBytes + textTotal (jsonNodes depth value) ≤ maxBodyBytes) :
    visit depth value (nodes, textBytes) =
      some (nodes + (jsonNodes depth value).length, textBytes + textTotal (jsonNodes depth value)) := by
  have here := self_mem_jsonNodes depth value
  have positive := List.length_pos_of_mem here
  refine visit_eq_some.mpr ⟨shallow.depth _ here, by omega, ?_, small⟩
  cases value with
  | null | bool _ | integer _ | float _ | string _ => rfl
  | array items =>
    rw [jsonNodes] at shallow
    rw [jsonNodes, List.length_cons] at few
    rw [jsonNodes, textTotal_cons] at small
    have none_own : (Json.array items).ownText = 0 := rfl
    rw [countsInside, visitItems_complete shallow.tail (by omega) (by omega), jsonNodes, List.length_cons, textTotal_cons,
      none_own, Nat.zero_add, Nat.add_assoc, Nat.add_comm 1]
  | object fields =>
    have keys := shallow.keys _ here
    rw [jsonNodes] at shallow
    rw [jsonNodes, List.length_cons] at few
    rw [jsonNodes, textTotal_cons] at small
    rw [countsInside, visitFields_complete shallow.tail keys (by omega) (by omega), jsonNodes, List.length_cons,
      textTotal_cons, Nat.add_assoc, Nat.add_comm 1]

theorem visitItems_complete {depth nodes textBytes : Nat} {items : List Json} (shallow : Shallow (jsonNodesItems depth items))
    (few : nodes + (jsonNodesItems depth items).length ≤ maxJsonNodes)
    (small : textBytes + textTotal (jsonNodesItems depth items) ≤ maxBodyBytes) :
    visitItems depth items (nodes, textBytes) =
      some (nodes + (jsonNodesItems depth items).length, textBytes + textTotal (jsonNodesItems depth items)) := by
  cases items with
  | nil => rfl
  | cons item rest =>
    obtain ⟨one, others⟩ := shallow_append.mp shallow
    rw [jsonNodesItems, List.length_append] at few
    rw [jsonNodesItems, textTotal_append] at small
    have here := @visit_complete _ nodes textBytes _ one (by omega) (by omega)
    rw [visitItems, here, Option.bind_eq_bind, Option.bind_some, visitItems_complete others (by omega) (by omega),
      jsonNodesItems, List.length_append, textTotal_append, Nat.add_assoc, Nat.add_assoc]

theorem visitFields_complete {depth nodes textBytes : Nat} {fields : List (Bytes × Json)} 
    (shallow : Shallow (jsonNodesFields depth fields))
    (keys : ∀ key ∈ (Json.object fields).keys, key.length ≤ maxJsonKeyBytes)
    (few : nodes + (jsonNodesFields depth fields).length ≤ maxJsonNodes)
    (small : textBytes + ((Json.object fields).ownText + textTotal (jsonNodesFields depth fields)) ≤ maxBodyBytes) :
    visitFields depth fields (nodes, textBytes) = some (nodes + (jsonNodesFields depth fields).length,
      textBytes + ((Json.object fields).ownText + textTotal (jsonNodesFields depth fields))) := by
  cases fields with
  | nil => rfl
  | cons field rest =>
    obtain ⟨key, value⟩ := field
    obtain ⟨one, others⟩ := shallow_append.mp shallow
    obtain ⟨short, behind⟩ := List.forall_mem_cons.mp keys
    have own : (Json.object ((key, value) :: rest)).ownText = key.length + (Json.object rest).ownText := rfl
    rw [jsonNodesFields, List.length_append] at few
    rw [own, jsonNodesFields, textTotal_append] at small
    have total : textBytes + (key.length + (Json.object rest).ownText +
        (textTotal (jsonNodes depth value) + textTotal (jsonNodesFields depth rest))) =
        textBytes + key.length + textTotal (jsonNodes depth value) +
          ((Json.object rest).ownText + textTotal (jsonNodesFields depth rest)) := by omega
    rw [own, jsonNodesFields, List.length_append, textTotal_append, total, ← Nat.add_assoc nodes]
    refine visitFields_cons.mpr ⟨short, _, visit_complete one (by omega) (by omega), ?_⟩
    exact visitFields_complete others behind (by omega) (by omega)

end

/-- The four totals over all values of a JSON value. -/
structure JsonTotals (value : Json) : Prop where
  nodes : (jsonNodes 1 value).length ≤ 256
  depth : ∀ node ∈ jsonNodes 1 value, node.1 ≤ 16
  keys : ∀ node ∈ jsonNodes 1 value, ∀ key ∈ node.2.keys, key.length ≤ 128
  text : textTotal (jsonNodes 1 value) ≤ 64 * 1024

/-- The early exits accept and refuse exactly as the totals over the whole value do. -/
theorem validateJsonLimits_iff (value : Json) : validateJsonLimits value = true ↔ JsonTotals value := by
  unfold validateJsonLimits
  rw [Option.isSome_iff_exists]
  constructor
  · intro accepted
    obtain ⟨counts, visited⟩ := accepted
    obtain ⟨total, few, small, shallow⟩ := visit_sound visited
    rw [total, Nat.zero_add, Nat.zero_add] at few small
    exact ⟨few, shallow.depth, shallow.keys, small⟩
  · intro totals
    refine ⟨_, visit_complete ⟨totals.depth, totals.keys⟩ ?_ ?_⟩
    · rw [Nat.zero_add]
      exact totals.nodes
    · rw [Nat.zero_add]
      exact totals.text

end PlayTogether.Gena
