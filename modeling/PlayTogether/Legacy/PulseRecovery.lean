import PlayTogether.Legacy.PulseGuard

/-! Whether the suspended Bluetooth modules come back, wherever a shell is killed. -/

namespace PlayTogether.Legacy
open PlayTogether.Library

set_option maxRecDepth 20000

/-! ## Rows and snapshots -/

/-- The row of the module is read back as it was written. -/
structure PulseModule.Clean (module : PulseModule) : Prop where
  named : module.name ≠ []
  solid : ∀ byte ∈ module.name, byte ≠ 0 ∧ isNewline byte = false ∧ isBlank byte = false
  line : OneLine module.args
  plain : isBluetoothModule module.name = true → TabFree module.args ∧ module.args.length ≤ 1000000

def ModuleEntry.pair (entry : ModuleEntry) : Bytes × Bytes := (entry.name, entry.args)

/-- What is still to be loaded. -/
def pending (entries : List ModuleEntry) : List (Bytes × Bytes) := (entries.filter (·.unloaded)).map ModuleEntry.pair

def PulseModule.entry? (module : PulseModule) : Option ModuleEntry :=
  if isBluetoothModule module.name then some ⟨decimal module.index, module.name, module.args, false⟩ else none

section Texts
variable {module : PulseModule} {modules : List PulseModule} {name : Bytes}

theorem decimal_field (value : Nat) : IsField (decimal value) ∧ OneLine (decimal value) ∧
    ∀ byte ∈ decimal value, isBlank byte = false := by
  have all : ∀ byte : UInt8, isDigit byte = true →
      isTab byte = false ∧ (byte ≠ 0 ∧ isNewline byte = false) ∧ isBlank byte = false := forall_byte (by decide)
  refine ⟨⟨decimal_ne_nil value, ?_⟩, ?_, ?_⟩
  · intro byte member
    exact (all byte (decimal_isDigit member)).1
  · intro byte member
    exact (all byte (decimal_isDigit member)).2.1
  · intro byte member
    exact (all byte (decimal_isDigit member)).2.2

theorem PulseModule.Clean.field (clean : module.Clean) : IsField module.name := by
  refine ⟨clean.named, ?_⟩
  intro byte member
  have blank := (clean.solid byte member).2.2
  exact (Bool.or_eq_false_iff.mp blank).2

theorem PulseModule.Clean.row (clean : module.Clean) : OneLine module.row ∧ module.row ≠ [] := by
  have tab : OneLine [0x09] := by
    intro byte member
    rw [List.mem_singleton.mp member]
    decide
  have name : OneLine module.name := fun byte member => ⟨(clean.solid byte member).1, (clean.solid byte member).2.1⟩
  constructor
  · exact (decimal_field module.index).2.1.append (tab.append (name.append (tab.append (clean.line.append tab))))
  · intro empty
    exact decimal_ne_nil module.index (List.append_eq_nil_iff.mp empty).1

/-- The entry that the script makes of a row. -/
theorem PulseModule.Clean.read (clean : module.Clean) : (
    let (id, rest) := readField module.row
    let (name, rest) := readField rest
    if isBluetoothModule name then some (ModuleEntry.mk id name (rest.rdropWhile isTab) false) else none) =
      module.entry? := by
  have first := readField_tab (decimal_field module.index).1 (module.name ++ 0x09 :: (module.args ++ [0x09]))
  have stays : (module.name ++ 0x09 :: (module.args ++ [0x09])).dropWhile isTab =
      module.name ++ 0x09 :: (module.args ++ [0x09]) := by
    apply dropWhile_head
    intro byte begins
    obtain ⟨head, tail, filled⟩ := List.exists_cons_of_ne_nil clean.named
    rw [filled] at begins
    cases begins
    exact clean.field.clean byte (filled ▸ List.mem_cons_self)
  have second := readField_tab clean.field (module.args ++ [0x09])
  unfold PulseModule.row PulseModule.entry?
  rw [first, stays]
  dsimp only
  rw [second]
  dsimp only
  split
  · rename_i bluetooth
    rw [(clean.plain bluetooth).1.last_field]
  · rfl

theorem awkSecond_row (clean : module.Clean) : awkSecond module.row = module.name := by
  refine awkSecond_fields (decimal_ne_nil module.index) clean.named ?_ (module.args ++ [0x09])
  intro byte member
  rcases List.mem_append.mp member with index | name
  · exact (decimal_field module.index).2.2 byte index
  · exact (clean.solid byte name).2.2

theorem readLines_listing (clean : ∀ module ∈ modules, module.Clean) (filled : modules ≠ []) :
    readLines (captured (listing modules) ++ [newline]) = modules.map PulseModule.row := by
  apply readLines_captured
  · intro line member
    obtain ⟨module, known, rfl⟩ := List.mem_map.mp member
    exact (clean module known).row
  · intro empty
    exact filled (List.map_eq_nil_iff.mp empty)

/-- The captured listing is read as the Bluetooth modules it was printed from. -/
theorem bluetoothRows_listing (clean : ∀ module ∈ modules, module.Clean) :
    bluetoothRows (captured (listing modules)) = modules.filterMap PulseModule.entry? := by
  unfold bluetoothRows
  by_cases empty : modules = []
  · rw [empty]
    decide
  · rw [readLines_listing clean empty, List.filterMap_map]
    apply List.filterMap_congr
    intro module known
    exact (clean module known).read

theorem any_awkSecond (clean : ∀ module ∈ modules, module.Clean) :
    (modules.map PulseModule.row).any (awkSecond · == name) = true ↔ name ∈ modules.map PulseModule.name := by
  simp only [List.any_map, List.any_eq_true, Function.comp_apply, beq_iff_eq, List.mem_map]
  constructor
  · intro found
    obtain ⟨module, known, same⟩ := found
    exact ⟨module, known, (awkSecond_row (clean module known)).symm.trans same⟩
  · intro found
    obtain ⟨module, known, same⟩ := found
    exact ⟨module, known, (awkSecond_row (clean module known)).trans same⟩

/-- The pattern over the printed listing finds just the names of loaded modules. -/
theorem mentions_listing (clean : ∀ module ∈ modules, module.Clean) (filled : name ≠ []) :
    mentions name (listing modules) = true ↔ name ∈ modules.map PulseModule.name := by
  have one : ∀ line ∈ modules.map PulseModule.row, OneLine line := by
    intro line member
    obtain ⟨module, known, rfl⟩ := List.mem_map.mp member
    exact (clean module known).row.1
  have read := readLines_lines one [newline]
  have nothing : (awkSecond [] == name) = false := beq_false_of_ne fun same => filled same.symm
  rw [mentions, listing, read, List.any_append, readLines_newline, readLines, List.any_cons, List.any_nil, nothing,
    Bool.or_false, Bool.or_false, any_awkSecond clean]

end Texts

/-! ## Saved modules -/

/-- The content of a snapshot of these modules. -/
def savedText (saved : List (Bytes × Bytes)) : Bytes :=
  (saved.map fun one => one.1 ++ 0x09 :: captured (hexDump one.2)).flatMap (· ++ [newline])

def savedEntry (one : Bytes × Bytes) : ModuleEntry := ⟨[], one.1, one.2, true⟩

/-- A Bluetooth module that a snapshot can hold. -/
structure Savable (one : Bytes × Bytes) : Prop where
  known : isBluetoothModule one.1 = true
  line : OneLine one.2
  short : one.2.length ≤ 1000000

theorem snapshot_eq (entries : List ModuleEntry) : snapshot entries = savedText (pending entries) := by
  unfold snapshot snapshotLines savedText pending
  rw [List.map_map]
  rfl

theorem isBluetoothModule_field {name : Bytes} (known : isBluetoothModule name = true) : IsField name ∧ OneLine name := by
  have both : (IsField policyModule ∧ OneLine policyModule) ∧ IsField discoverModule ∧ OneLine discoverModule := by
    have policy : policyModule.all (fun byte => !isTab byte && byte != 0 && !isNewline byte) = true := by decide
    have discover : discoverModule.all (fun byte => !isTab byte && byte != 0 && !isNewline byte) = true := by decide
    have each {name : Bytes} (filled : name ≠ [])
        (checked : name.all (fun byte => !isTab byte && byte != 0 && !isNewline byte) = true) :
        IsField name ∧ OneLine name := by
      have clean : ∀ byte ∈ name, isTab byte = false ∧ byte ≠ 0 ∧ isNewline byte = false := by
        intro byte member
        simpa [and_assoc] using List.all_eq_true.mp checked byte member
      exact ⟨⟨filled, fun byte member => (clean byte member).1⟩, fun byte member => (clean byte member).2⟩
    exact ⟨each (by decide) policy, each (by decide) discover⟩
  rcases Bool.or_eq_true_iff.mp known with policy | discover
  · rw [beq_iff_eq.mp policy]
    exact both.1
  · rw [beq_iff_eq.mp discover]
    exact both.2

/-- A written snapshot is read back, arguments and all. -/
theorem readSnapshot_saved {saved : List (Bytes × Bytes)} (savable : ∀ one ∈ saved, Savable one)
    (entries : List ModuleEntry) : readSnapshot entries (readLines (savedText saved)) =
      (entries ++ saved.map savedEntry, !(entries ++ saved.map savedEntry).isEmpty) := by
  have one : ∀ line ∈ saved.map (fun one => one.1 ++ 0x09 :: captured (hexDump one.2)), OneLine line := by
    intro line member
    obtain ⟨one, known, rfl⟩ := List.mem_map.mp member
    have fits := savable one known
    have tab : OneLine [0x09] := by
      intro byte inside
      rw [List.mem_singleton.mp inside]
      decide
    rw [captured_hexDump fits.short]
    exact (isBluetoothModule_field fits.known).2.append (tab.append (hex_oneLine one.2))
  have read := readLines_lines one []
  rw [List.append_nil, readLines, List.append_nil] at read
  unfold savedText
  rw [read]
  clear read one
  induction saved generalizing entries with
  | nil => rw [List.map_nil, List.map_nil, List.append_nil, readSnapshot]
  | cons one saved ih =>
    obtain ⟨here, others⟩ := List.forall_mem_cons.mp savable
    have field := readField_tab (isBluetoothModule_field here.known).1 (hex one.2)
    have digits : (hex one.2).all isXDigit && (hex one.2).length % 2 == 0 := by
      rw [hex_isXDigit, hex_length, Nat.mul_mod_right]
      rfl
    rw [dropWhile_head (hex_tabFree one.2).front] at field
    rw [List.map_cons, readSnapshot, captured_hexDump here.short, field]
    dsimp only
    rw [(hex_tabFree one.2).trimmed, here.known, digits, unhexed_hex, captured_line here.line]
    have rest := ih others (entries ++ [savedEntry one])
    rw [List.append_assoc, List.singleton_append] at rest
    exact rest

/-! ## What every step keeps -/

/-- Each row of the module list can be read, and no two Bluetooth modules have one name. -/
structure Regular (modules : List PulseModule) : Prop where
  rows : ∀ module ∈ modules, module.Clean
  indices : (modules.map PulseModule.index).Nodup
  names : ((bluetooth modules).map Prod.fst).Nodup

/-- Nothing but original modules is loaded, a snapshot names all of them, and without one
every original module is loaded or exposed. -/
structure Sound (original : List PulseModule) (world : PulseWorld) : Prop where
  regular : Regular world.modules
  inside : bluetooth world.modules ⊆ bluetooth original
  unlinked : world.linked = false
  saved : ∀ content ∈ world.guard, ∃ saved, saved ≠ [] ∧ saved.Perm (bluetooth original) ∧ content = savedText saved
  covered : ∀ one ∈ bluetooth original, one ∈ bluetooth world.modules ∨ one ∈ world.exposed ∨ world.guard.isSome = true

section Modules
variable {modules original : List PulseModule} {module : PulseModule} {one other : Bytes × Bytes}

theorem mem_bluetooth : one ∈ bluetooth modules ↔
    ∃ module ∈ modules, isBluetoothModule module.name = true ∧ one = (module.name, module.args) := by
  unfold bluetooth PulseModule.instance?
  rw [List.mem_filterMap]
  constructor
  · intro found
    obtain ⟨module, known, same⟩ := found
    split at same
    · rename_i bluetooth
      cases same
      exact ⟨module, known, bluetooth, rfl⟩
    · cases same
  · intro found
    obtain ⟨module, known, bluetooth, rfl⟩ := found
    exact ⟨module, known, if_pos bluetooth⟩

theorem bluetooth_append (modules others : List PulseModule) :
    bluetooth (modules ++ others) = bluetooth modules ++ bluetooth others := List.filterMap_append

theorem Regular.savable (regular : Regular modules) (member : one ∈ bluetooth modules) : Savable one := by
  obtain ⟨module, known, bluetooth, rfl⟩ := mem_bluetooth.mp member
  exact ⟨bluetooth, (regular.rows module known).line, ((regular.rows module known).plain bluetooth).2⟩

theorem Regular.same (regular : Regular modules) (member : one ∈ bluetooth modules) (also : other ∈ bluetooth modules)
    (name : one.1 = other.1) : one = other := List.inj_on_of_nodup_map regular.names member also name

theorem Regular.nodup (regular : Regular modules) : (bluetooth modules).Nodup := List.Nodup.of_map _ regular.names

theorem Regular.filter (regular : Regular modules) (keep : PulseModule → Bool) : Regular (modules.filter keep) := by
  have part := @List.filter_sublist _ keep modules
  refine ⟨fun module member => regular.rows module (List.mem_of_mem_filter member), ?_, ?_⟩
  · exact regular.indices.sublist (part.map PulseModule.index)
  · exact regular.names.sublist ((part.filterMap PulseModule.instance?).map Prod.fst)

theorem Regular.concat (regular : Regular modules) (clean : module.Clean) (fresh : module.index ∉ modules.map PulseModule.index)
    (absent : module.name ∉ modules.map PulseModule.name) : Regular (modules ++ [module]) := by
  refine ⟨?_, ?_, ?_⟩
  · intro other member
    rcases List.mem_append.mp member with old | new
    · exact regular.rows other old
    · rw [List.mem_singleton.mp new]
      exact clean
  · rw [List.map_append, List.nodup_append]
    refine ⟨regular.indices, List.nodup_singleton module.index, ?_⟩
    intro index old index' new same
    rw [List.mem_singleton.mp new] at same
    exact fresh (same ▸ old)
  · rw [bluetooth_append, List.map_append, List.nodup_append]
    refine ⟨regular.names, ?_, ?_⟩
    · unfold bluetooth PulseModule.instance?
      rw [List.filterMap_cons, List.filterMap_nil]
      split <;> simp
    · intro name old name' new same
      obtain ⟨one, known, rfl⟩ := List.mem_map.mp old
      obtain ⟨two, added, rfl⟩ := List.mem_map.mp new
      obtain ⟨first, inside, _, rfl⟩ := mem_bluetooth.mp known
      obtain ⟨second, single, _, rfl⟩ := mem_bluetooth.mp added
      rw [List.mem_singleton.mp single] at same
      exact absent (List.mem_map.mpr ⟨first, inside, same⟩)

end Modules

section Steps
variable {original : List PulseModule} {world : PulseWorld}

theorem Sound.unloaded (sound : Sound original world) (id : Bytes) : Sound original (world.unloaded id) := by
  refine ⟨sound.regular.filter _, ?_, sound.unlinked, sound.saved, ?_⟩
  · intro one member
    obtain ⟨module, kept, bluetooth, rfl⟩ := mem_bluetooth.mp member
    exact sound.inside (mem_bluetooth.mpr ⟨module, List.mem_of_mem_filter kept, bluetooth, rfl⟩)
  · intro one member
    rcases sound.covered one member with present | elsewhere | saved
    · obtain ⟨module, known, bluetooth, rfl⟩ := mem_bluetooth.mp present
      by_cases own : decimal module.index = id
      · have gone : module ∈ world.modules.filter fun module => decimal module.index == id :=
          List.mem_filter.mpr ⟨known, beq_iff_eq.mpr own⟩
        exact .inr (.inl (List.mem_append.mpr (.inl (mem_bluetooth.mpr ⟨module, gone, bluetooth, rfl⟩))))
      · have stays : module ∈ world.modules.filter fun module => decimal module.index != id :=
          List.mem_filter.mpr ⟨known, bne_iff_ne.mpr own⟩
        exact .inl (mem_bluetooth.mpr ⟨module, stays, bluetooth, rfl⟩)
    · exact .inr (.inl (List.mem_append.mpr (.inr elsewhere)))
    · exact .inr (.inr saved)

theorem Sound.loaded (sound : Sound original world) (regular : Regular original) {name args : Bytes} {index : Nat}
    (known : (name, args) ∈ bluetooth original) (fresh : index ∉ world.modules.map PulseModule.index)
    (absent : name ∉ world.names) : Sound original (world.loaded ⟨index, name, args⟩) ∧
      bluetooth (world.loaded ⟨index, name, args⟩).modules = bluetooth world.modules ++ [(name, args)] := by
  obtain ⟨module, inside, own, same⟩ := mem_bluetooth.mp known
  obtain ⟨rfl, rfl⟩ := Prod.mk.inj same
  have clean := regular.rows module inside
  have added : bluetooth (world.loaded ⟨index, module.name, module.args⟩).modules =
      bluetooth world.modules ++ [(module.name, module.args)] := by
    have single : bluetooth [⟨index, module.name, module.args⟩] = [(module.name, module.args)] := by
      simp [bluetooth, PulseModule.instance?, own]
    exact (bluetooth_append world.modules _).trans (by rw [single])
  refine ⟨⟨?_, ?_, sound.unlinked, sound.saved, ?_⟩, added⟩
  · exact sound.regular.concat ⟨clean.named, clean.solid, clean.line, clean.plain⟩ fresh absent
  · rw [added]
    intro one member
    rcases List.mem_append.mp member with old | new
    · exact sound.inside old
    · rw [List.mem_singleton.mp new]
      exact known
  · rw [added]
    intro one member
    by_cases this : one = (module.name, module.args)
    · exact .inl (List.mem_append.mpr (.inr (List.mem_singleton.mpr this)))
    · rcases sound.covered one member with present | elsewhere | saved
      · exact .inl (List.mem_append.mpr (.inl present))
      · exact .inr (.inl (List.mem_filter.mpr ⟨elsewhere, bne_iff_ne.mpr this⟩))
      · exact .inr (.inr saved)

theorem Sound.published (sound : Sound original world) {saved : List (Bytes × Bytes)} (filled : saved ≠ [])
    (same : saved.Perm (bluetooth original)) : Sound original (world.published (savedText saved)) := by
  refine ⟨sound.regular, sound.inside, sound.unlinked, ?_, fun one member => .inr (.inr rfl)⟩
  intro content published
  cases published
  exact ⟨saved, filled, same, rfl⟩

/-- All original Bluetooth modules are loaded. -/
def Complete (original : List PulseModule) (world : PulseWorld) : Prop := bluetooth original ⊆ bluetooth world.modules

theorem Sound.removed (sound : Sound original world) (complete : Complete original world) :
    Sound original { world with guard := none } := by
  refine ⟨sound.regular, sound.inside, sound.unlinked, ?_, fun one member => .inl (complete member)⟩
  intro content absent
  cases absent

theorem Sound.perm (sound : Sound original world) (regular : Regular original) (complete : Complete original world) :
    (bluetooth world.modules).Perm (bluetooth original) :=
  (List.subperm_of_subset sound.regular.nodup sound.inside).antisymm (List.subperm_of_subset regular.nodup complete)

end Steps

/-! ## Commands -/

/-- A module is loaded only where none of its name is, or the query before can be trusted. -/
structure Trusted (conduct : PulseConduct) (works : Bool) : Prop where
  once : ∀ world name, conduct.loads world name → works = true ∨ name ∉ world.names
  permitted : works = true → ∀ world name, conduct.loads world name

theorem careful_trusted : Trusted PulseConduct.careful false := by
  constructor
  · intro world name absent
    exact .inr absent
  · intro works
    cases works

theorem any_trusted : Trusted PulseConduct.any true :=
  ⟨fun _ _ _ => .inl rfl, fun _ _ _ => trivial⟩

section Commands
variable {original : List PulseModule} {conduct : PulseConduct} {works : Bool} {world : PulseWorld}

/-- The command changes nothing and answers so. -/
theorem query_spec {call : PulseCall} {answers : call.Answer → Prop} (sound : Sound original world)
    (answered : ∃ answer, answers answer ∧ PulseWorld.Performs conduct works call world answer world)
    (same : ∀ answer after, PulseWorld.Performs conduct works call world answer after → after = world ∧ answers answer) :
    (Code.step call).Ensures (PulseWorld.Performs conduct works) (Sound original)
      (fun answer after => after = world ∧ answers answer) world := by
  apply Code.ensures_step sound
  · obtain ⟨answer, _, performed⟩ := answered
    exact ⟨answer, world, performed⟩
  · intro answer after performed
    obtain ⟨stays, holds⟩ := same answer after performed
    exact ⟨stays ▸ sound, stays, holds⟩

theorem available_spec (sound : Sound original world) :
    PulseShell.available.Ensures (PulseWorld.Performs conduct works) (Sound original) (fun _ after => after = world)
      world := by
  have query := @query_spec original conduct works world .available (fun _ => True) sound ⟨true, trivial, .inl rfl, rfl⟩
    fun _ _ performed => ⟨performed.2, trivial⟩
  exact query.weaken fun _ _ _ same => same.1

theorem list_spec (sound : Sound original world) :
    PulseShell.list.Ensures (PulseWorld.Performs conduct works) (Sound original)
      (fun answer after => after = world ∧ (answer = some (listing world.modules) ∨ answer = none ∧ works = false)) world :=
  query_spec sound ⟨_, .inl rfl, .inl rfl, rfl⟩ fun _ _ performed => ⟨performed.2, performed.1⟩

theorem guardExists_spec (sound : Sound original world) :
    PulseShell.guardExists.Ensures (PulseWorld.Performs conduct works) (Sound original)
      (fun answer after => after = world ∧ answer = world.guard.isSome) world :=
  query_spec sound ⟨_, rfl, rfl, rfl⟩ fun _ _ performed => ⟨performed.2, performed.1⟩

theorem guardLinked_spec (sound : Sound original world) :
    PulseShell.guardLinked.Ensures (PulseWorld.Performs conduct works) (Sound original)
      (fun answer after => after = world ∧ answer = false) world :=
  query_spec sound ⟨_, rfl, sound.unlinked.symm, rfl⟩ fun _ _ performed =>
    ⟨performed.2, performed.1.trans sound.unlinked⟩

theorem readGuard_spec (sound : Sound original world) :
    PulseShell.readGuard.Ensures (PulseWorld.Performs conduct works) (Sound original)
      (fun answer after => after = world ∧ answer = world.guard.getD []) world :=
  query_spec sound ⟨_, rfl, rfl, rfl⟩ fun _ _ performed => ⟨performed.2, performed.1⟩

theorem isLoaded_spec (sound : Sound original world) {name : Bytes} (filled : name ≠ []) :
    (PulseShell.isLoaded name).Ensures (PulseWorld.Performs conduct works) (Sound original)
      (fun found after => after = world ∧ (found = true → name ∈ world.names) ∧
        (found = false → works = true → name ∉ world.names)) world := by
  apply (list_spec sound).bind
  rintro answer after kept ⟨rfl, printed | ⟨failed, broken⟩⟩
  · subst printed
    have found := mentions_listing sound.regular.rows filled
    refine Code.ensures_pure sound ⟨rfl, found.mp, ?_⟩
    intro missing _ present
    rw [found.mpr present] at missing
    cases missing
  · subst failed
    refine Code.ensures_pure sound ⟨rfl, ?_, ?_⟩
    · intro found
      cases found
    · intro _ fine
      rw [broken] at fine
      cases fine

theorem exists_fresh (modules : List PulseModule) : ∃ index, index ∉ modules.map PulseModule.index := by
  obtain ⟨index, fresh⟩ := Infinite.exists_notMem_finset (modules.map PulseModule.index).toFinset
  exact ⟨index, fun member => fresh (List.mem_toFinset.mpr member)⟩

theorem load_spec (sound : Sound original world) (regular : Regular original) (trusted : Trusted conduct works)
    {name args : Bytes} (known : (name, args) ∈ bluetooth original) (absent : works = true → name ∉ world.names) :
    (PulseShell.load name (if args.isEmpty then none else some args)).Ensures (PulseWorld.Performs conduct works)
      (Sound original) (fun loaded after =>
        (loaded = true ∧ after.guard = world.guard ∧ bluetooth after.modules = bluetooth world.modules ++ [(name, args)]) ∨
          (loaded = false ∧ works = false ∧ after = world)) world := by
  have given : (if args.isEmpty then none else some args).getD [] = args := by
    cases args <;> rfl
  apply Code.ensures_step sound
  · cases fine : works with
    | false => exact ⟨false, world, .inr ⟨rfl, rfl, rfl⟩⟩
    | true =>
      obtain ⟨index, fresh⟩ := exists_fresh world.modules
      exact ⟨true, _, .inl ⟨rfl, trusted.permitted fine world name, index, fresh, rfl⟩⟩
  · rintro answer after (⟨rfl, allowed, index, fresh, rfl⟩ | ⟨rfl, broken, rfl⟩)
    · have missing : name ∉ world.names := by
        rcases trusted.once world name allowed with fine | missing
        · exact absent fine
        · exact missing
      rw [given]
      obtain ⟨kept, added⟩ := sound.loaded regular known fresh missing
      exact ⟨kept, .inl ⟨rfl, rfl, added⟩⟩
    · exact ⟨sound, .inr ⟨rfl, broken, rfl⟩⟩

theorem publish_spec (sound : Sound original world) {saved : List (Bytes × Bytes)} (filled : saved ≠ [])
    (same : saved.Perm (bluetooth original)) :
    (PulseShell.publish (savedText saved)).Ensures (PulseWorld.Performs conduct works) (Sound original)
      (fun _ after => after.modules = world.modules) world := by
  apply Code.ensures_step sound
  · exact ⟨true, _, .inl ⟨rfl, rfl⟩⟩
  · rintro answer after (⟨rfl, rfl⟩ | ⟨rfl, _, rfl⟩)
    · exact ⟨sound.published filled same, rfl⟩
    · exact ⟨sound, rfl⟩

theorem removeGuard_spec (sound : Sound original world) (complete : Complete original world) :
    PulseShell.removeGuard.Ensures (PulseWorld.Performs conduct works) (Sound original)
      (fun _ after => after.guard = none ∧ Complete original after) world := by
  apply Code.ensures_step sound
  · exact ⟨(), _, rfl⟩
  · rintro answer after rfl
    exact ⟨sound.removed complete, rfl, complete⟩

end Commands

/-! ## Loops -/

theorem pending_cons (entry : ModuleEntry) (rest : List ModuleEntry) :
    pending (entry :: rest) = if entry.unloaded then entry.pair :: pending rest else pending rest := by
  unfold pending
  rw [List.filter_cons]
  split <;> rfl

/-- What a pass over the entries leaves: nothing that was loaded or pending is lost. -/
structure Reloaded (works : Bool) (entries : List ModuleEntry) (world : PulseWorld)
    (outcome : List ModuleEntry × Bool) (after : PulseWorld) : Prop where
  guard : after.guard = world.guard
  fewer : pending outcome.1 ⊆ pending entries
  kept : ∀ one, one ∈ bluetooth world.modules ∨ one ∈ pending entries →
    one ∈ bluetooth after.modules ∨ one ∈ pending outcome.1
  finished : outcome.2 = false → pending outcome.1 = []
  success : works = true → outcome.2 = false

/-- What unloading entries leaves: what is gone is marked. -/
structure Unloaded (entries : List ModuleEntry) (world : PulseWorld) (outcome : List ModuleEntry × Bool)
    (after : PulseWorld) : Prop where
  guard : after.guard = world.guard
  fewer : pending outcome.1 ⊆ entries.map ModuleEntry.pair
  kept : ∀ one ∈ bluetooth world.modules, one ∈ bluetooth after.modules ∨ one ∈ pending outcome.1
  whole : outcome.2 = true → pending outcome.1 = entries.map ModuleEntry.pair

section Loops
variable {original : List PulseModule} {conduct : PulseConduct} {works : Bool}

theorem bluetooth_filled {name args : Bytes} (known : (name, args) ∈ bluetooth original) : name ≠ [] := by
  obtain ⟨module, _, own, same⟩ := mem_bluetooth.mp known
  cases same
  exact (isBluetoothModule_field own).1.filled

/-- An original module whose name is loaded is loaded itself. -/
theorem Sound.of_name {world : PulseWorld} (sound : Sound original world) (regular : Regular original) {one : Bytes × Bytes}
    (known : one ∈ bluetooth original) (present : one.1 ∈ world.names) : one ∈ bluetooth world.modules := by
  obtain ⟨module, loaded, name⟩ := List.mem_map.mp present
  obtain ⟨_, _, own, rfl⟩ := mem_bluetooth.mp known
  have member : (module.name, module.args) ∈ bluetooth world.modules :=
    mem_bluetooth.mpr ⟨module, loaded, name ▸ own, rfl⟩
  rwa [regular.same known (sound.inside member) name.symm]

theorem reloadModules_spec (regular : Regular original) (trusted : Trusted conduct works) (entries : List ModuleEntry)
    {world : PulseWorld} (sound : Sound original world) (inside : pending entries ⊆ bluetooth original) :
    (PulseShell.reloadModules entries).Ensures (PulseWorld.Performs conduct works) (Sound original)
      (Reloaded works entries world) world := by
  induction entries generalizing world with
  | nil =>
    exact Code.ensures_pure sound ⟨rfl, List.Subset.refl _, fun one held => held, fun _ => rfl, fun _ => rfl⟩
  | cons entry rest ih =>
    have split := pending_cons entry rest
    rw [PulseShell.reloadModules]
    by_cases unloaded : entry.unloaded = true
    · rw [if_pos unloaded] at split ⊢
      rw [split] at inside
      have known : entry.pair ∈ bluetooth original := inside List.mem_cons_self
      have others : pending rest ⊆ bluetooth original := fun one member => inside (List.mem_cons_of_mem _ member)
      apply (isLoaded_spec sound (bluetooth_filled known)).bind
      rintro found world _ ⟨rfl, present, missing⟩
      cases found with
      | true =>
        have loaded := sound.of_name regular known (present rfl)
        apply (ih sound others).bind
        rintro ⟨later, failed⟩ after still reloaded
        have crossed : pending ({ entry with unloaded := false } :: later) = pending later := pending_cons _ later
        refine Code.ensures_pure still ⟨reloaded.guard, ?_, ?_, ?_, reloaded.success⟩
        · rw [crossed, split]
          exact fun one member => List.mem_cons_of_mem _ (reloaded.fewer member)
        · rw [crossed, split]
          rintro one (here | there)
          · exact reloaded.kept one (.inl here)
          · cases List.mem_cons.mp there with
            | inl own => exact reloaded.kept one (.inl (own ▸ loaded))
            | inr behind => exact reloaded.kept one (.inr behind)
        · rw [crossed]
          exact reloaded.finished
      | false =>
        apply (load_spec sound regular trusted known (missing rfl)).bind
        intro loaded middle still outcome
        apply (ih still others).bind
        rintro ⟨later, failed⟩ after kept reloaded
        have guard : middle.guard = world.guard := by
          rcases outcome with ⟨_, same, _⟩ | ⟨_, _, rfl⟩
          · exact same
          · rfl
        have grown : ∀ one ∈ bluetooth world.modules, one ∈ bluetooth middle.modules := by
          intro one member
          rcases outcome with ⟨_, _, added⟩ | ⟨_, _, rfl⟩
          · rw [added]
            exact List.mem_append.mpr (.inl member)
          · exact member
        have crossed : pending ({ entry with unloaded := !loaded } :: later) =
            if !loaded then entry.pair :: pending later else pending later := pending_cons _ later
        refine Code.ensures_pure kept ⟨reloaded.guard.trans guard, ?_, ?_, ?_, ?_⟩
        · rw [crossed, split]
          have fewer : pending later ⊆ entry.pair :: pending rest :=
            fun one member => List.mem_cons_of_mem _ (reloaded.fewer member)
          split
          · exact List.cons_subset.mpr ⟨List.mem_cons_self, fewer⟩
          · exact fewer
        · rw [crossed, split]
          have onward {one : Bytes × Bytes} (held : one ∈ bluetooth middle.modules ∨ one ∈ pending rest) :
              one ∈ bluetooth after.modules ∨ one ∈ (if !loaded then entry.pair :: pending later else pending later) := by
            rcases reloaded.kept one held with here | there
            · exact .inl here
            · right
              split
              · exact List.mem_cons_of_mem _ there
              · exact there
          rintro one (here | there)
          · exact onward (.inl (grown one here))
          · cases List.mem_cons.mp there with
            | inr behind => exact onward (.inr behind)
            | inl own =>
              rcases outcome with ⟨_, _, added⟩ | ⟨rfl, _, _⟩
              · apply onward
                rw [added, own]
                exact .inl (List.mem_append.mpr (.inr List.mem_cons_self))
              · exact .inr (own ▸ List.mem_cons_self)
        · rw [crossed]
          intro good
          obtain ⟨fine, success⟩ := Bool.or_eq_false_iff.mp good
          rw [success, if_neg Bool.false_ne_true]
          exact reloaded.finished fine
        · intro fine
          rcases outcome with ⟨rfl, _, _⟩ | ⟨_, broken, _⟩
          · exact Bool.or_eq_false_iff.mpr ⟨reloaded.success fine, rfl⟩
          · rw [broken] at fine
            cases fine
    · rw [if_neg unloaded] at split ⊢
      rw [split] at inside
      apply (ih sound inside).bind
      rintro ⟨later, failed⟩ after still reloaded
      have same : pending (entry :: later) = pending later := (pending_cons entry later).trans (if_neg unloaded)
      refine Code.ensures_pure still ⟨reloaded.guard, ?_, ?_, ?_, reloaded.success⟩
      · rw [same, split]
        exact reloaded.fewer
      · rw [same, split]
        exact reloaded.kept
      · rw [same]
        exact reloaded.finished

/-- An entry stands for the module whose number it has. -/
def Stands (entries : List ModuleEntry) (world : PulseWorld) : Prop := ∀ entry ∈ entries,
  entry.unloaded = false ∧ ∀ module ∈ world.modules, decimal module.index = entry.id → (module.name, module.args) = entry.pair

theorem unloadModules_spec (entries : List ModuleEntry) {world : PulseWorld} (sound : Sound original world)
    (stands : Stands entries world) : (PulseShell.unloadModules entries).Ensures (PulseWorld.Performs conduct works)
      (Sound original) (Unloaded entries world) world := by
  induction entries generalizing world with
  | nil =>
    exact Code.ensures_pure sound ⟨rfl, List.nil_subset _, fun one member => .inl member, fun _ => rfl⟩
  | cons entry rest ih =>
    obtain ⟨⟨marked, own⟩, others⟩ := List.forall_mem_cons.mp stands
    have nothing : pending (entry :: rest) = [] := by
      unfold pending
      rw [List.map_eq_nil_iff, List.filter_eq_nil_iff]
      intro other member flagged
      rw [(stands other member).1] at flagged
      cases flagged
    rw [PulseShell.unloadModules]
    have stepped : (PulseShell.unload entry.id).Ensures (PulseWorld.Performs conduct works) (Sound original)
        (fun done after => (done = true ∧ after = world.unloaded entry.id) ∨ (done = false ∧ after = world)) world := by
      apply Code.ensures_step sound
      · by_cases known : entry.id ∈ world.modules.map (decimal ·.index)
        · exact ⟨true, _, .inl ⟨rfl, known, rfl⟩⟩
        · exact ⟨false, _, .inr ⟨rfl, .inr known, rfl⟩⟩
      · rintro answer after (⟨rfl, _, rfl⟩ | ⟨rfl, _, rfl⟩)
        · exact ⟨sound.unloaded entry.id, .inl ⟨rfl, rfl⟩⟩
        · exact ⟨sound, .inr ⟨rfl, rfl⟩⟩
    apply stepped.bind
    rintro done middle still (⟨rfl, rfl⟩ | ⟨rfl, rfl⟩)
    · have remain : Stands rest (world.unloaded entry.id) := by
        intro other member
        exact ⟨(others other member).1, fun module kept => (others other member).2 module (List.mem_of_mem_filter kept)⟩
      apply (ih still remain).bind
      rintro ⟨later, finished⟩ after kept unloaded
      have crossed : pending ({ entry with unloaded := true } :: later) = entry.pair :: pending later := pending_cons _ later
      refine Code.ensures_pure kept ⟨unloaded.guard, ?_, ?_, ?_⟩
      · rw [crossed, List.map_cons]
        exact List.cons_subset.mpr ⟨List.mem_cons_self, fun one member => List.mem_cons_of_mem _ (unloaded.fewer member)⟩
      · rw [crossed]
        intro one member
        obtain ⟨module, known, bluetooth, rfl⟩ := mem_bluetooth.mp member
        by_cases this : decimal module.index = entry.id
        · exact .inr (own module known this ▸ List.mem_cons_self)
        · have stays : module ∈ (world.unloaded entry.id).modules := List.mem_filter.mpr ⟨known, bne_iff_ne.mpr this⟩
          rcases unloaded.kept _ (mem_bluetooth.mpr ⟨module, stays, bluetooth, rfl⟩) with here | there
          · exact .inl here
          · exact .inr (List.mem_cons_of_mem _ there)
      · rw [crossed, List.map_cons]
        intro good
        rw [unloaded.whole good]
    · refine Code.ensures_pure still ⟨rfl, ?_, fun one member => .inl member, ?_⟩
      · rw [nothing]
        exact List.nil_subset _
      · intro good
        cases good

end Loops

/-! ## Functions -/

/-- What the memory of a shell accounts for. -/
structure Knows (original : List PulseModule) (world : PulseWorld) (memory : GuardMemory) : Prop where
  inside : pending memory.entries ⊆ bluetooth original
  held : memory.active = true → ∀ one ∈ bluetooth original, one ∈ bluetooth world.modules ∨ one ∈ pending memory.entries
  settled : memory.active = false → world.guard = none → Complete original world

/-- Nothing is suspended, and nothing says so. -/
structure Settled (original : List PulseModule) (world : PulseWorld) (memory : GuardMemory) : Prop where
  inactive : memory.active = false
  unguarded : world.guard = none
  complete : Complete original world

section Functions
variable {original : List PulseModule} {conduct : PulseConduct} {works : Bool} {world : PulseWorld} {memory : GuardMemory}

theorem pending_saved (saved : List (Bytes × Bytes)) : pending (saved.map savedEntry) = saved := by
  induction saved with
  | nil => rfl
  | cons one saved ih =>
    rw [List.map_cons, pending_cons, ih]
    rfl

theorem knows_fresh (settled : world.guard = none → Complete original world) : Knows original world GuardMemory.fresh := by
  refine ⟨List.nil_subset _, ?_, fun _ => settled⟩
  intro active
  cases active

theorem remember_spec (regular : Regular original) (sound : Sound original world) (knows : Knows original world memory) :
    (PulseShell.remember memory).Ensures (PulseWorld.Performs conduct works) (Sound original) (fun memory after =>
      after = world ∧ Knows original world memory ∧ (memory.active = false → world.guard = none)) world := by
  unfold PulseShell.remember
  by_cases active : memory.active = true
  · rw [if_pos active]
    refine Code.ensures_pure sound ⟨rfl, knows, ?_⟩
    intro inactive
    rw [active] at inactive
    cases inactive
  · rw [if_neg active]
    apply (guardExists_spec sound).bind
    rintro found world _ ⟨rfl, present⟩
    cases guarded : world.guard with
    | none =>
      rw [guarded] at present
      subst present
      exact Code.ensures_pure sound ⟨rfl, knows, fun _ => rfl⟩
    | some content =>
      have there : found = true := by rw [present, guarded]; rfl
      obtain ⟨saved, filled, same, rfl⟩ := sound.saved content guarded
      have read := readSnapshot_saved (fun one member => regular.savable (same.subset member)) []
      rw [List.nil_append] at read
      have complete : (!(saved.map savedEntry).isEmpty) = true := by
        cases saved with
        | nil => exact absurd rfl filled
        | cons one saved => rfl
      rw [complete] at read
      rw [if_pos there]
      have loads : (PulseShell.loadPulseBluetoothGuard memory).Ensures (PulseWorld.Performs conduct works) (Sound original)
          (fun outcome after => after = world ∧ outcome.1 = ⟨true, saved.map savedEntry⟩) world := by
        unfold PulseShell.loadPulseBluetoothGuard
        apply (guardExists_spec sound).bind
        rintro again world _ ⟨rfl, still⟩
        rw [if_pos (by rw [still, guarded]; rfl)]
        apply (guardLinked_spec sound).bind
        rintro linked world _ ⟨rfl, rfl⟩
        rw [if_neg Bool.false_ne_true]
        apply (readGuard_spec sound).bind
        rintro text world _ ⟨rfl, rfl⟩
        rw [guarded, Option.getD_some, read]
        exact Code.ensures_pure sound ⟨rfl, congrArg (GuardMemory.mk · _) (Bool.or_true _)⟩
      apply loads.bind
      rintro ⟨memory, _⟩ world _ ⟨rfl, rfl⟩
      refine Code.ensures_pure sound ⟨rfl, ⟨?_, ?_, ?_⟩, ?_⟩
      · rw [pending_saved]
        exact same.subset
      · intro _ one member
        rw [pending_saved]
        exact .inr (same.symm.subset member)
      · intro inactive
        cases inactive
      · intro inactive
        cases inactive

theorem restore_spec (regular : Regular original) (trusted : Trusted conduct works) (sound : Sound original world)
    (knows : Knows original world memory) :
    (PulseShell.restorePulseBluetoothModules memory).Ensures (PulseWorld.Performs conduct works) (Sound original)
      (fun outcome after => Knows original after outcome.1 ∧ (outcome.2 = true → Settled original after outcome.1) ∧
        (works = true → outcome.2 = true)) world := by
  apply (remember_spec regular sound knows).bind
  rintro memory world _ ⟨rfl, knows, unguarded⟩
  by_cases active : memory.active = true
  · rw [if_pos active]
    apply (reloadModules_spec regular trusted memory.entries sound knows.inside).bind
    rintro ⟨entries, failed⟩ after still reloaded
    have held : ∀ one ∈ bluetooth original, one ∈ bluetooth after.modules ∨ one ∈ pending entries :=
      fun one member => reloaded.kept one (knows.held active one member)
    have inside : pending entries ⊆ bluetooth original := fun one member => knows.inside (reloaded.fewer member)
    dsimp only
    by_cases bad : failed = true
    · rw [if_pos bad]
      refine Code.ensures_pure still ⟨⟨inside, fun _ => held, ?_⟩, ?_, ?_⟩
      · intro inactive
        cases inactive
      · intro good
        cases good
      · intro fine
        have success : failed = false := reloaded.success fine
        rw [bad] at success
        cases success
    · have empty : pending entries = [] := reloaded.finished (Bool.eq_false_iff.mpr bad)
      have complete : Complete original after := by
        intro one member
        rcases held one member with here | there
        · exact here
        · rw [empty] at there
          cases there
      rw [if_neg bad]
      apply (removeGuard_spec still complete).bind
      rintro _ later kept ⟨removed, whole⟩
      refine Code.ensures_pure kept ⟨⟨inside, ?_, fun _ _ => whole⟩, fun _ => ⟨rfl, removed, whole⟩, fun _ => rfl⟩
      intro inactive
      cases inactive
  · have inactive := Bool.eq_false_iff.mpr active
    have absent := unguarded inactive
    rw [if_neg active]
    exact Code.ensures_pure sound ⟨knows, fun _ => ⟨inactive, absent, knows.settled inactive absent⟩, fun _ => rfl⟩

theorem giveUp_spec (regular : Regular original) (trusted : Trusted conduct works) (sound : Sound original world)
    {entries : List ModuleEntry} (knows : Knows original world ⟨true, entries⟩) :
    (PulseShell.giveUp entries).Ensures (PulseWorld.Performs conduct works) (Sound original)
      (fun outcome after => Knows original after outcome.1) world := by
  apply (restore_spec regular trusted sound knows).bind
  rintro ⟨memory, _⟩ after still ⟨knows, _⟩
  exact Code.ensures_pure still knows

/-- The rows of the loaded modules stand for them. -/
theorem stands_entries (regular : Regular world.modules) : Stands (world.modules.filterMap PulseModule.entry?) world := by
  intro entry member
  obtain ⟨module, known, same⟩ := List.mem_filterMap.mp member
  unfold PulseModule.entry? at same
  split at same
  · cases same
    refine ⟨rfl, ?_⟩
    intro other loaded number
    have index : other.index = module.index := by
      rw [← decimalValue_decimal other.index, number, decimalValue_decimal]
    rw [List.inj_on_of_nodup_map regular.indices loaded known index]
    rfl
  · cases same

theorem entries_pairs (modules : List PulseModule) :
    (modules.filterMap PulseModule.entry?).map ModuleEntry.pair = bluetooth modules := by
  rw [List.map_filterMap]
  apply List.filterMap_congr
  intro module _
  unfold PulseModule.entry? PulseModule.instance?
  split <;> rfl

theorem suspend_spec (regular : Regular original) (trusted : Trusted conduct works) (sound : Sound original world)
    (settled : Settled original world memory) (knows : Knows original world memory) :
    (PulseShell.suspendPulseBluetoothModules memory).Ensures (PulseWorld.Performs conduct works) (Sound original)
      (fun outcome after => Knows original after outcome.1) world := by
  have fresh := knows_fresh fun _ => settled.complete
  apply (available_spec sound).bind
  rintro here world _ rfl
  by_cases usable : here = true
  · rw [if_pos usable]
    apply (list_spec sound).bind
    rintro answer world _ ⟨rfl, printed | ⟨failed, _⟩⟩
    · subst printed
      have rows := bluetoothRows_listing sound.regular.rows
      dsimp only
      rw [rows]
      have pairs := entries_pairs world.modules
      have stands := stands_entries sound.regular
      cases entries : world.modules.filterMap PulseModule.entry? with
      | nil => exact Code.ensures_pure sound fresh
      | cons entry others =>
        rw [entries] at pairs stands
        apply (unloadModules_spec (entry :: others) sound stands).bind
        rintro ⟨later, done⟩ after still unloaded
        have active : Knows original after ⟨true, later⟩ := by
          refine ⟨?_, fun _ one member => unloaded.kept one (settled.complete member), ?_⟩
          · intro one member
            exact sound.inside (pairs ▸ unloaded.fewer member)
          · intro inactive
            cases inactive
        dsimp only
        by_cases finished : done = true
        · rw [if_pos finished]
          have whole : pending later = bluetooth world.modules := (unloaded.whole finished).trans pairs
          have same : (pending later).Perm (bluetooth original) := whole ▸ sound.perm regular settled.complete
          have filled : pending later ≠ [] := by
            rw [whole, ← pairs]
            exact List.cons_ne_nil _ _
          have persists : (PulseShell.persistPulseBluetoothGuard later).Ensures (PulseWorld.Performs conduct works)
              (Sound original) (fun _ saved => saved.modules = after.modules) after := by
            apply (guardLinked_spec still).bind
            rintro linked after _ ⟨rfl, rfl⟩
            rw [if_neg Bool.false_ne_true, snapshot_eq]
            exact publish_spec still filled same
          apply persists.bind
          intro persisted saved kept unchanged
          have knows : Knows original saved ⟨true, later⟩ := by
            refine ⟨active.inside, ?_, ?_⟩
            · rw [unchanged]
              exact active.held
            · intro inactive
              cases inactive
          split
          · exact Code.ensures_pure kept knows
          · exact giveUp_spec regular trusted kept knows
        · rw [if_neg finished]
          exact giveUp_spec regular trusted still active
    · subst failed
      exact Code.ensures_pure sound fresh
  · rw [if_neg usable]
    exact Code.ensures_pure sound knows

theorem repairLeftover_spec (regular : Regular original) (trusted : Trusted conduct works) (sound : Sound original world)
    (inactive : memory.active = false) (knows : Knows original world memory) :
    (PulseShell.repairLeftover memory).Ensures (PulseWorld.Performs conduct works) (Sound original)
      (fun outcome after => Knows original after outcome.1 ∧ (outcome.2 = true → Settled original after outcome.1) ∧
        (works = true → outcome.2 = true)) world := by
  apply (guardExists_spec sound).bind
  rintro found world _ ⟨rfl, present⟩
  split
  · exact restore_spec regular trusted sound knows
  · rename_i missing
    have absent : world.guard = none := by
      cases guarded : world.guard with
      | none => rfl
      | some content =>
        rw [guarded] at present
        exact absurd present missing
    exact Code.ensures_pure sound
      ⟨knows, fun _ => ⟨inactive, absent, knows.settled inactive absent⟩, fun _ => rfl⟩

theorem present_spec (sound : Sound original world) :
    PulseShell.pulseBluetoothModulesPresent.Ensures (PulseWorld.Performs conduct works) (Sound original)
      (fun _ after => after = world) world := by
  apply (available_spec sound).bind
  rintro here world _ rfl
  split
  · apply (list_spec sound).bind
    rintro answer world _ ⟨rfl, _⟩
    cases answer with
    | none => exact Code.ensures_pure sound rfl
    | some rows => exact Code.ensures_pure sound rfl
  · exact Code.ensures_pure sound rfl

theorem begin_spec (regular : Regular original) (trusted : Trusted conduct works) (sound : Sound original world)
    (setting : Bytes) (inactive : memory.active = false) (knows : Knows original world memory) :
    (PulseShell.beginPulseBluetoothGuard setting memory).Ensures (PulseWorld.Performs conduct works) (Sound original)
      (fun outcome after => Knows original after outcome.1) world := by
  apply (repairLeftover_spec regular trusted sound inactive knows).bind
  rintro ⟨memory, ready⟩ world sound ⟨knows, repaired, _⟩
  dsimp only at knows repaired ⊢
  by_cases good : ready = true
  · rw [if_pos good]
    have settled := repaired good
    split
    · apply (present_spec sound).bind
      rintro presence world _ rfl
      cases presence with
      | present => exact suspend_spec regular trusted sound settled knows
      | absent => exact Code.ensures_pure sound knows
      | unknown => exact Code.ensures_pure sound knows
    · split
      · apply (available_spec sound).bind
        rintro here world _ rfl
        split
        · exact suspend_spec regular trusted sound settled knows
        · exact Code.ensures_pure sound knows
      · exact Code.ensures_pure sound knows
  · rw [if_neg good]
    exact Code.ensures_pure sound knows

/-- Where every command works, one restore is enough. -/
theorem restoreRepeatedly_spec (regular : Regular original) (trusted : Trusted conduct works) (count : Nat)
    {world : PulseWorld} {memory : GuardMemory} (sound : Sound original world) (knows : Knows original world memory)
    (already : works = true → count = 0 → world.guard = none ∧ Complete original world) :
    (PulseShell.restoreRepeatedly count memory).Ensures (PulseWorld.Performs conduct works) (Sound original)
      (fun _ after => works = true → after.guard = none ∧ Complete original after) world := by
  induction count generalizing world memory with
  | zero => exact Code.ensures_pure sound fun fine => already fine rfl
  | succ count ih =>
    apply (restore_spec regular trusted sound knows).bind
    rintro ⟨memory, restored⟩ world sound ⟨knows, settled, success⟩
    apply ih sound knows
    intro fine _
    have here := settled (success fine)
    exact ⟨here.unguarded, here.complete⟩

theorem program_spec (regular : Regular original) (trusted : Trusted conduct works) (sound : Sound original world)
    (settled : world.guard = none → Complete original world) (setting : Bytes) (role : PulseRole)
    (enough : works = true → role.restores ≠ 0) :
    (role.program setting).Ensures (PulseWorld.Performs conduct works) (Sound original)
      (fun _ after => works = true → after.guard = none ∧ Complete original after) world := by
  have fresh := knows_fresh settled
  unfold PulseRole.program
  split
  · apply (begin_spec regular trusted sound setting rfl fresh).bind
    rintro ⟨memory, _⟩ world sound knows
    exact restoreRepeatedly_spec regular trusted role.restores sound knows fun fine none_left => absurd none_left (enough fine)
  · exact restoreRepeatedly_spec regular trusted role.restores sound fresh fun fine none_left => absurd none_left (enough fine)

end Functions

/-! ## Runs -/

/-- What a fresh shell would read from the snapshot. -/
def recorded (world : PulseWorld) : List (Bytes × Bytes) :=
  (readSnapshot [] (readLines (world.guard.getD []))).1.map ModuleEntry.pair

/-- Every original module that is out is in the snapshot, as often and with its arguments. -/
def AllRecorded (original : List PulseModule) (world : PulseWorld) : Prop :=
  ((bluetooth original).diff (bluetooth world.modules)).Subperm (recorded world)

def Restored (original : List PulseModule) (world : PulseWorld) : Prop :=
  (bluetooth world.modules).Perm (bluetooth original) ∧ world.guard = none

/-- With a working `pactl` every shell that restores at least once brings the original modules
back, and one that begins a guard brings them back before it does anything else. -/
def Recovers (setting : Bytes) (original : List PulseModule) (world : PulseWorld) : Prop :=
  (∀ role : PulseRole, role.restores ≠ 0 → (role.program setting).Ensures (PulseWorld.Performs PulseConduct.any true)
    (fun _ => True) (fun _ after => Restored original after) world) ∧
  (PulseShell.repairLeftover GuardMemory.fresh).Ensures (PulseWorld.Performs PulseConduct.any true)
    (fun _ => True) (fun _ after => Restored original after) world

/-- Whenever no shell runs, what is out is recorded and comes back. -/
def CrashSafe (conduct : PulseConduct) (setting : Bytes) (original : List PulseModule) : Prop :=
  ∀ pool, Pool.Run (pulseMachine conduct setting) (Booted original) pool → pool.running () = none →
    AllRecorded original pool.shared ∧ Recovers setting original pool.shared

section Runs
variable {original : List PulseModule} {world : PulseWorld}

theorem Sound.settled (sound : Sound original world) (covered : world.exposed = []) (absent : world.guard = none) :
    Complete original world := by
  intro one member
  rcases sound.covered one member with here | exposed | saved
  · exact here
  · rw [covered] at exposed
    cases exposed
  · rw [absent] at saved
    cases saved

theorem sound_booted (regular : Regular original) : Sound original ⟨original, none, false, []⟩ := by
  refine ⟨regular, List.Subset.refl _, rfl, ?_, fun one member => .inl member⟩
  intro content absent
  cases absent

theorem Sound.allRecorded (sound : Sound original world) (regular : Regular original) (covered : world.exposed = []) :
    AllRecorded original world := by
  unfold AllRecorded recorded
  cases guarded : world.guard with
  | none =>
    have complete := sound.settled covered guarded
    have none_out : (bluetooth original).diff (bluetooth world.modules) = [] := by
      rw [List.Nodup.sdiff_eq_filter regular.nodup, List.filter_eq_nil_iff]
      intro one member out
      exact of_decide_eq_true out (complete member)
    rw [none_out]
    exact List.nil_subperm
  | some content =>
    obtain ⟨saved, _, same, rfl⟩ := sound.saved content guarded
    have read := readSnapshot_saved (fun one member => regular.savable (same.subset member)) []
    rw [Option.getD_some, read, List.nil_append]
    have pairs : (saved.map savedEntry).map ModuleEntry.pair = saved := by
      rw [List.map_map]
      exact List.map_id saved
    rw [pairs]
    exact (List.diff_sublist _ _).subperm.trans same.symm.subperm

theorem Sound.recovers (sound : Sound original world) (regular : Regular original) (covered : world.exposed = [])
    (setting : Bytes) : Recovers setting original world := by
  have restored {after : PulseWorld} (still : Sound original after) (unguarded : after.guard = none)
      (complete : Complete original after) : Restored original after := ⟨still.perm regular complete, unguarded⟩
  constructor
  · intro role enough
    have ensured := program_spec regular any_trusted sound (sound.settled covered) setting role fun _ => enough
    refine (ensured.weaken ?_).forget
    intro _ after still ends
    obtain ⟨unguarded, complete⟩ := ends rfl
    exact restored still unguarded complete
  · have ensured := repairLeftover_spec regular any_trusted sound rfl (knows_fresh (sound.settled covered))
    refine (ensured.weaken ?_).forget
    intro outcome after still ends
    have settled := ends.2.1 (ends.2.2 rfl)
    exact restored still settled.unguarded settled.complete

/-- Where no second module of a name is loaded and no shell ends between an unload and its
snapshot, the modules that are out are always recorded and always come back. -/
theorem careful_guard_crashSafe (regular : Regular original) (setting : Bytes) :
    CrashSafe PulseConduct.careful setting original := by
  intro pool run idle
  have boot : ∀ state, Booted original state → Sound original state ∧ state.exposed = [] := by
    rintro state rfl
    exact ⟨sound_booted regular, rfl⟩
  have programs : ∀ role state, Sound original state ∧ state.exposed = [] →
      ((pulseMachine PulseConduct.careful setting).program role).Ensures
        ((pulseMachine PulseConduct.careful setting).performs ()) (Sound original) (fun _ _ => True) state := by
    intro role state ⟨sound, covered⟩
    have ensured := program_spec regular careful_trusted sound (sound.settled covered) setting role
      fun fine => absurd fine Bool.false_ne_true
    exact ensured.weaken fun _ _ _ _ => trivial
  have leaves : ∀ state after, Sound original state →
      (pulseMachine PulseConduct.careful setting).leaves () state after → Sound original after ∧ after.exposed = [] := by
    rintro state after sound ⟨covered, rfl⟩
    exact ⟨sound, covered⟩
  have here := Pool.Run.ensured boot programs leaves run
  rw [idle] at here
  exact ⟨here.1.allRecorded regular here.2, here.1.recovers regular here.2 setting⟩

end Runs

/-! ## A kill before the snapshot -/

def fixtureModules : List PulseModule :=
  [⟨11, policyModule, ascii "auto_switch=2"⟩, ⟨12, discoverModule, ascii "headset=\"native hfp\""⟩]

theorem fixtureModules_regular : Regular fixtureModules := by
  have rows : fixtureModules.all (fun module => module.name != [] && isBluetoothModule module.name &&
      module.name.all (fun byte => byte != 0 && !isNewline byte && !isBlank byte) &&
      module.args.all (fun byte => byte != 0 && !isNewline byte && !isTab byte) &&
      decide (module.args.length ≤ 1000000)) = true := by
    decide
  refine ⟨?_, by decide, by decide⟩
  intro module member
  have checked := List.all_eq_true.mp rows module member
  simp only [Bool.and_eq_true, bne_iff_ne, List.all_eq_true, Bool.not_eq_true', decide_eq_true_eq] at checked
  obtain ⟨⟨⟨⟨named, _⟩, solid⟩, args⟩, short⟩ := checked
  refine ⟨named, ?_, ?_, ?_⟩
  · intro byte inside
    exact ⟨(solid byte inside).1.1, (solid byte inside).1.2, (solid byte inside).2⟩
  · intro byte inside
    exact (args byte inside).1
  · intro _
    refine ⟨⟨?_, ?_⟩, short⟩
    · intro byte first
      exact (args byte (List.mem_of_mem_head? first)).2
    · intro byte last
      exact (args byte (List.mem_of_mem_getLast? last)).2

theorem fixture_guard_crashSafe : CrashSafe PulseConduct.careful (ascii "auto") fixtureModules :=
  careful_guard_crashSafe fixtureModules_regular (ascii "auto")

/-- A sound server that works, up to the snapshot. -/
def fixtureAnswers : (call : PulseCall) → PulseWorld → Option (call.Answer × PulseWorld)
  | .available, world => some (true, world)
  | .list, world => some (some (listing world.modules), world)
  | .unload id, world =>
    if (world.modules.map (decimal ·.index)).contains id then some (true, world.unloaded id) else none
  | .guardExists, world => some (world.guard.isSome, world)
  | _, _ => none

theorem fixtureAnswers_sound (call : PulseCall) (world : PulseWorld) (answer : call.Answer) (after : PulseWorld)
    (answered : fixtureAnswers call world = some (answer, after)) :
    PulseWorld.Performs PulseConduct.any false call world answer after := by
  cases call with
  | available =>
    cases answered
    exact ⟨.inl rfl, rfl⟩
  | list =>
    cases answered
    exact ⟨.inl rfl, rfl⟩
  | unload id =>
    dsimp only [fixtureAnswers] at answered
    by_cases known : (world.modules.map (decimal ·.index)).contains id = true
    · rw [if_pos known] at answered
      cases answered
      exact .inl ⟨rfl, List.contains_iff_mem.mp known, rfl⟩
    · rw [if_neg known] at answered
      cases answered
  | guardExists =>
    cases answered
    exact ⟨rfl, rfl⟩
  | load name args => cases answered
  | guardLinked => cases answered
  | readGuard => cases answered
  | publish content => cases answered
  | removeGuard => cases answered

def fixtureShell : PulseShell Unit := PulseRole.program (ascii "on") ⟨true, 0⟩

def fixtureStart : Pool Unit PulseRole PulseWorld PulseCall PulseCall.Answer :=
  ⟨⟨fixtureModules, none, false, []⟩, Function.update (fun _ => none) () (some (⟨true, 0⟩, fixtureShell))⟩

/-- A shell that is killed after its first unload leaves no record of it. -/
theorem unrecorded_unload : ¬∀ setting original, CrashSafe PulseConduct.any setting original := by
  intro safe
  have booted : Pool.Run (pulseMachine PulseConduct.any (ascii "on")) (Booted fixtureModules)
      ⟨⟨fixtureModules, none, false, []⟩, fun _ => none⟩ := .booted rfl
  have started : Pool.Run (pulseMachine PulseConduct.any (ascii "on")) (Booted fixtureModules) fixtureStart :=
    booted.moved (.started () (PulseRole.mk true 0) rfl trivial)
  have here : fixtureStart.running () = some (PulseRole.mk true 0, fixtureShell) := rfl
  have driven := started.driven fixtureAnswers_sound 5 here
  have left : ∀ world, (pulseMachine PulseConduct.any (ascii "on")).leaves () world world := fun _ => ⟨trivial, rfl⟩
  have killed := driven.moved (.ended (p := ()) rfl (left _))
  have saved := (safe (ascii "on") fixtureModules _ killed rfl).1.length_le
  revert saved
  decide

end PlayTogether.Legacy
