import PlayTogether.Library.Json

/-! Typed reading of JSON values: closed enumerations, bounded integers, sequences and
records that refuse unknown and repeated fields. -/

namespace PlayTogether.Library
namespace Json
variable {α : Type}

/-- A unit variant is written as its name, or as a map from its name to nothing. -/
def readVariant (variants : List (String × α)) : Json → Option α
  | .string text => (variants.map fun (name, variant) => (ascii name, variant)).lookup text
  | .object [(text, .null)] => (variants.map fun (name, variant) => (ascii name, variant)).lookup text
  | _ => none

def readBool : Json → Option Bool
  | .bool value => some value
  | _ => none

def readUnsigned (limit : Nat) : Json → Option Nat
  | .integer value => if 0 ≤ value ∧ value ≤ limit then some value.toNat else none
  | _ => none

def readVec (read : Json → Option α) : Json → Option (List α)
  | .array items => items.mapM read
  | _ => none

def readPair (read : Json → Option α) : Json → Option (α × α)
  | .array [first, second] => do
    let first ← read first
    let second ← read second
    pure (first, second)
  | _ => none

/-- The values of the named fields in their order; a sequence has them all by position. -/
def readFields (names : List String) : Json → Option (List (Option Json))
  | .object fields =>
    if (fields.map Prod.fst).Nodup ∧ (fields.map Prod.fst).all (names.map ascii).contains = true then
      some (names.map fun name => fields.lookup (ascii name))
    else none
  | .array items => if items.length = names.length then some (items.map some) else none
  | _ => none

def required (read : Json → Option α) (field : Option Json) : Option α := field.bind read

/-- A field that may be missing or null. -/
def optional (read : Json → Option α) : Option Json → Option (Option α)
  | none | some .null => some none
  | some value => (read value).map some

theorem readVariant_text {variants : List (String × α)} (distinct : (variants.map fun entry => ascii entry.1).Nodup)
    {name : String} {variant : α} (member : (name, variant) ∈ variants) :
    readVariant variants (.text name) = some variant := by
  have keys : ((variants.map fun (name, variant) => (ascii name, variant)).map Prod.fst).Nodup := by
    rw [List.map_map]
    exact distinct
  exact (lookup_distinct keys).mpr (List.mem_map.mpr ⟨(name, variant), member, rfl⟩)

@[simp] theorem readUnsigned_cast {limit value : Nat} (bounded : value ≤ limit) :
    readUnsigned limit (.integer value) = some value := by
  simp [readUnsigned, bounded]

/-- What was written element by element is read back element by element. -/
theorem mapM_written {β : Type} {read : Json → Option β} {write : α → Json} {shown : α → β}
    (reads : ∀ item, read (write item) = some (shown item)) (items : List α) :
    (items.map write).mapM read = some (items.map shown) := by
  induction items with
  | nil => rfl
  | cons first rest ih => exact mapM_cons_eq_some.mpr ⟨shown first, rest.map shown, reads first, ih, rfl⟩

theorem readVec_array {β : Type} {read : Json → Option β} {write : α → Json} {shown : α → β}
    (reads : ∀ item, read (write item) = some (shown item)) (items : List α) :
    readVec read (.array (items.map write)) = some (items.map shown) := mapM_written reads items

/-- A record gives back the fields it was written with. -/
theorem readFields_record {names : List String} {fields : List (String × Json)} (named : fields.map Prod.fst = names)
    (distinct : (names.map ascii).Nodup) :
    readFields names (.record fields) = some (fields.map fun field => some field.2) := by
  have keys : (fields.map fun field => (ascii field.1, field.2)).map Prod.fst = names.map ascii := by
    rw [← named, List.map_map, List.map_map]
    rfl
  have known : (names.map ascii).all (names.map ascii).contains = true := by
    rw [List.all_eq_true]
    intro key member
    exact List.contains_iff_mem.mpr member
  change (if ((fields.map fun field => (ascii field.1, field.2)).map Prod.fst).Nodup ∧ _ then _ else none) = _
  rw [keys, if_pos ⟨distinct, known⟩, ← named, List.map_map]
  congr 1
  apply List.map_congr_left
  intro field member
  exact (lookup_distinct (keys ▸ distinct)).mpr (List.mem_map.mpr ⟨field, member, rfl⟩)

theorem optional_nullable {β γ : Type} {read : Json → Option β} {write : γ → Json} {shown : γ → β} (field : Option γ)
    (reads : ∀ value ∈ field, read (write value) = some (shown value))
    (present : ∀ value, write value ≠ .null) :
    optional read (some (.nullable write field)) = some (field.map shown) := by
  cases field with
  | none => rfl
  | some value =>
    have there := present value
    have found := reads value rfl
    unfold optional nullable
    split
    · contradiction
    · rename_i same
      exact absurd (Option.some.inj same) there
    · rename_i same
      obtain rfl := Option.some.inj same
      rw [found]
      rfl

end Json
end PlayTogether.Library
