import PlayTogether.Library.Execution
import PlayTogether.Library.ShellText

/-! The PulseAudio guard of the v0.4 script. The Bluetooth modules are unloaded while the
control sessions are set up, and loaded again from memory or from a private snapshot. -/

namespace PlayTogether.Legacy
open PlayTogether.Library

/-! ## Modules -/

def policyModule : Bytes := ascii "module-bluetooth-policy"

def discoverModule : Bytes := ascii "module-bluetooth-discover"

def isBluetoothModule (name : Bytes) : Bool := name == policyModule || name == discoverModule

/-- One place of the four `PULSE_BT_MODULE_*` arrays. -/
structure ModuleEntry where
  id : Bytes
  name : Bytes
  args : Bytes
  unloaded : Bool
  deriving DecidableEq, Repr

/-- What a shell knows: `PULSE_BT_GUARD_ACTIVE` and the arrays. -/
structure GuardMemory where
  active : Bool
  entries : List ModuleEntry
  deriving DecidableEq, Repr

def GuardMemory.fresh : GuardMemory := ⟨false, []⟩

/-- The `awk` script that looks for a module by its name. -/
def mentions (name output : Bytes) : Bool := (readLines (output ++ [newline])).any (awkSecond · == name)

/-- The Bluetooth modules among the rows that `pactl list modules short` printed. -/
def bluetoothRows (rows : Bytes) : List ModuleEntry :=
  (readLines (rows ++ [newline])).filterMap fun line =>
    let (id, rest) := readField line
    let (name, rest) := readField rest
    if isBluetoothModule name then some ⟨id, name, rest.rdropWhile isTab, false⟩ else none

/-- The lines of the snapshot. -/
def snapshotLines (entries : List ModuleEntry) : List Bytes :=
  (entries.filter (·.unloaded)).map fun entry => entry.name ++ 0x09 :: captured (hexDump entry.args)

def snapshot (entries : List ModuleEntry) : Bytes := (snapshotLines entries).flatMap (· ++ [newline])

/-- The entries of a snapshot up to the first bad line, and whether there are any and all are good. -/
def readSnapshot (entries : List ModuleEntry) : List Bytes → List ModuleEntry × Bool
  | [] => (entries, !entries.isEmpty)
  | line :: lines =>
    let (name, rest) := readField line
    let argsHex := rest.rdropWhile isTab
    if !isBluetoothModule name then (entries, false)
    else if !(argsHex.all isXDigit && argsHex.length % 2 == 0) then (entries, false)
    else readSnapshot (entries ++ [⟨[], name, captured (unhexed argsHex), true⟩]) lines

/-! ## Commands -/

inductive PulseCall where
  | available
  | list
  | unload (id : Bytes)
  | load (name : Bytes) (args : Option Bytes)
  | guardExists
  | guardLinked
  | readGuard
  | publish (content : Bytes)
  | removeGuard

def PulseCall.Answer : PulseCall → Type
  | .available | .unload _ | .load _ _ | .guardExists | .guardLinked | .publish _ => Bool
  | .list => Option Bytes
  | .readGuard => Bytes
  | .removeGuard => Unit

abbrev PulseShell (α : Type) : Type := Code PulseCall PulseCall.Answer α

namespace PulseShell

def available : PulseShell Bool := Code.step PulseCall.available

def list : PulseShell (Option Bytes) := Code.step PulseCall.list

def unload (id : Bytes) : PulseShell Bool := Code.step (PulseCall.unload id)

def load (name : Bytes) (args : Option Bytes) : PulseShell Bool := Code.step (PulseCall.load name args)

def guardExists : PulseShell Bool := Code.step PulseCall.guardExists

def guardLinked : PulseShell Bool := Code.step PulseCall.guardLinked

def readGuard : PulseShell Bytes := Code.step PulseCall.readGuard

/-- The temporary file is written, made private and moved over the snapshot. -/
def publish (content : Bytes) : PulseShell Bool := Code.step (PulseCall.publish content)

def removeGuard : PulseShell Unit := Code.step PulseCall.removeGuard

/-! ## Restoring -/

def persistPulseBluetoothGuard (entries : List ModuleEntry) : PulseShell Bool := do
  if ← guardLinked then pure false else publish (snapshot entries)

def loadPulseBluetoothGuard (memory : GuardMemory) : PulseShell (GuardMemory × Bool) := do
  if ← guardExists then
    if ← guardLinked then pure (memory, false)
    else do
      let content ← readGuard
      let (entries, complete) := readSnapshot [] (readLines content)
      pure (⟨memory.active || complete, entries⟩, complete)
  else pure (memory, true)

/-- A shell that knows of no modules takes them from the snapshot, if there is one. That the
snapshot could not be read is not an error: then there is nothing to restore. -/
def remember (memory : GuardMemory) : PulseShell GuardMemory := do
  if memory.active then pure memory
  else if ← guardExists then do
    let (memory, _) ← loadPulseBluetoothGuard memory
    pure memory
  else pure memory

/-- Whether a module of that name is loaded; a query that fails finds none. -/
def isLoaded (name : Bytes) : PulseShell Bool := do
  match ← list with
  | some output => pure (mentions name output)
  | none => pure false

/-- The entries with the loaded ones crossed out, and whether a load failed. -/
def reloadModules : List ModuleEntry → PulseShell (List ModuleEntry × Bool)
  | [] => pure ([], false)
  | entry :: rest => do
    if entry.unloaded then
      if ← isLoaded entry.name then do
        let (rest, failed) ← reloadModules rest
        pure ({ entry with unloaded := false } :: rest, failed)
      else do
        let loaded ← load entry.name (if entry.args.isEmpty then none else some entry.args)
        let (rest, failed) ← reloadModules rest
        pure ({ entry with unloaded := !loaded } :: rest, failed || !loaded)
    else do
      let (rest, failed) ← reloadModules rest
      pure (entry :: rest, failed)

def restorePulseBluetoothModules (memory : GuardMemory) : PulseShell (GuardMemory × Bool) := do
  let memory ← remember memory
  if memory.active then do
    let (entries, failed) ← reloadModules memory.entries
    if failed then pure (⟨true, entries⟩, false)
    else do
      removeGuard
      pure (⟨false, entries⟩, true)
  else pure (memory, true)

/-! ## Suspending -/

/-- The entries with the unloaded ones marked, up to the first that cannot be unloaded. -/
def unloadModules : List ModuleEntry → PulseShell (List ModuleEntry × Bool)
  | [] => pure ([], true)
  | entry :: rest => do
    if ← unload entry.id then do
      let (rest, unloaded) ← unloadModules rest
      pure ({ entry with unloaded := true } :: rest, unloaded)
    else pure (entry :: rest, false)

/-- What was unloaded is loaded again, as far as that goes, and the caller is told. -/
def giveUp (entries : List ModuleEntry) : PulseShell (GuardMemory × Bool) := do
  let (memory, _) ← restorePulseBluetoothModules ⟨true, entries⟩
  pure (memory, false)

def suspendPulseBluetoothModules (memory : GuardMemory) : PulseShell (GuardMemory × Bool) := do
  if ← available then
    match ← list with
    | none => pure (GuardMemory.fresh, false)
    | some rows =>
      match bluetoothRows (captured rows) with
      | [] => pure (GuardMemory.fresh, true)
      | entry :: others => do
        let (entries, unloaded) ← unloadModules (entry :: others)
        if unloaded then
          if ← persistPulseBluetoothGuard entries then pure (⟨true, entries⟩, true) else giveUp entries
        else giveUp entries
  else pure (memory, false)

inductive Presence where
  | present
  | absent
  | unknown
  deriving DecidableEq, Repr

def pulseBluetoothModulesPresent : PulseShell Presence := do
  if ← available then
    match ← list with
    | none => pure .unknown
    | some rows =>
      pure (if mentions policyModule (captured rows) || mentions discoverModule (captured rows) then .present else .absent)
  else pure .absent

/-- What an earlier shell left suspended is restored first. -/
def repairLeftover (memory : GuardMemory) : PulseShell (GuardMemory × Bool) := do
  if ← guardExists then restorePulseBluetoothModules memory else pure (memory, true)

/-- `setting` is `PULSEAUDIO_BLUETOOTH_GUARD`. -/
def beginPulseBluetoothGuard (setting : Bytes) (memory : GuardMemory) : PulseShell (GuardMemory × Bool) := do
  let (memory, ready) ← repairLeftover memory
  if ready then
    if asciiLower setting = ascii "auto" then
      match ← pulseBluetoothModulesPresent with
      | .present => suspendPulseBluetoothModules memory
      | .absent => pure (memory, true)
      | .unknown => pure (memory, false)
    else if [ascii "1", ascii "true", ascii "yes", ascii "on"].contains (asciiLower setting) then
      if ← available then suspendPulseBluetoothModules memory else pure (memory, false)
    else pure (memory, true)
  else pure (memory, false)

def restoreRepeatedly : Nat → GuardMemory → PulseShell Unit
  | 0, _ => pure ()
  | count + 1, memory => do
    let (memory, _) ← restorePulseBluetoothModules memory
    restoreRepeatedly count memory

end PulseShell

/-- What a shell does with the guard: it may begin one, and then restores any number of times. -/
structure PulseRole where
  begins : Bool
  restores : Nat

def PulseRole.program (setting : Bytes) (role : PulseRole) : PulseShell Unit := do
  if role.begins then do
    let (memory, _) ← PulseShell.beginPulseBluetoothGuard setting GuardMemory.fresh
    PulseShell.restoreRepeatedly role.restores memory
  else PulseShell.restoreRepeatedly role.restores GuardMemory.fresh

/-! ## The sound server and the snapshot file -/

structure PulseModule where
  index : Nat
  name : Bytes
  args : Bytes
  deriving DecidableEq, Repr

def PulseModule.row (module : PulseModule) : Bytes :=
  decimal module.index ++ 0x09 :: (module.name ++ 0x09 :: (module.args ++ [0x09]))

/-- The output of `pactl list modules short`. -/
def listing (modules : List PulseModule) : Bytes := (modules.map PulseModule.row).flatMap (· ++ [newline])

def PulseModule.instance? (module : PulseModule) : Option (Bytes × Bytes) :=
  if isBluetoothModule module.name then some (module.name, module.args) else none

/-- The names and arguments of the loaded Bluetooth modules. -/
def bluetooth (modules : List PulseModule) : List (Bytes × Bytes) := modules.filterMap PulseModule.instance?

/-- `exposed` is history: what was unloaded since the last snapshot and is not loaded again. -/
structure PulseWorld where
  modules : List PulseModule
  guard : Option Bytes
  linked : Bool
  exposed : List (Bytes × Bytes)
  deriving DecidableEq, Repr

namespace PulseWorld

def unloaded (world : PulseWorld) (id : Bytes) : PulseWorld :=
  { world with
    modules := world.modules.filter fun module => decimal module.index != id
    exposed := bluetooth (world.modules.filter fun module => decimal module.index == id) ++ world.exposed }

def loaded (world : PulseWorld) (module : PulseModule) : PulseWorld :=
  { world with
    modules := world.modules ++ [module]
    exposed := world.exposed.filter (· != (module.name, module.args)) }

def published (world : PulseWorld) (content : Bytes) : PulseWorld :=
  { world with guard := some content, exposed := [] }

def names (world : PulseWorld) : List Bytes := world.modules.map PulseModule.name

end PulseWorld

/-- When a module may be loaded, and when a shell may end. -/
structure PulseConduct where
  loads : PulseWorld → Bytes → Prop
  leaves : PulseWorld → Prop

namespace PulseConduct

def any : PulseConduct := ⟨fun _ _ => True, fun _ => True⟩

/-- No second module of a name is loaded, and no shell ends while a module is out that was
unloaded since the last snapshot. -/
def careful : PulseConduct := ⟨fun world name => name ∉ world.names, fun world => world.exposed = []⟩

end PulseConduct

/-- A command may fail and then changes nothing; where everything works none fails that need not. -/
def PulseWorld.Performs (conduct : PulseConduct) (works : Bool) :
    (call : PulseCall) → PulseWorld → call.Answer → PulseWorld → Prop
  | .available, world, answer, after => (answer = true ∨ works = false) ∧ after = world
  | .list, world, answer, after => (answer = some (listing world.modules) ∨ answer = none ∧ works = false) ∧ after = world
  | .unload id, world, answer, after =>
    (answer = true ∧ id ∈ world.modules.map (decimal ·.index) ∧ after = world.unloaded id) ∨
      (answer = false ∧ (works = false ∨ id ∉ world.modules.map (decimal ·.index)) ∧ after = world)
  | .load name args, world, answer, after =>
    (answer = true ∧ conduct.loads world name ∧
      ∃ index, index ∉ world.modules.map PulseModule.index ∧ after = world.loaded ⟨index, name, args.getD []⟩) ∨
      (answer = false ∧ works = false ∧ after = world)
  | .guardExists, world, answer, after => answer = world.guard.isSome ∧ after = world
  | .guardLinked, world, answer, after => answer = world.linked ∧ after = world
  | .readGuard, world, answer, after => answer = world.guard.getD [] ∧ after = world
  | .publish content, world, answer, after =>
    (answer = true ∧ after = world.published content) ∨ (answer = false ∧ works = false ∧ after = world)
  | .removeGuard, world, _, after => after = { world with guard := none }

/-- Shells run one after the other and may be killed at any point. -/
def pulseMachine (conduct : PulseConduct) (setting : Bytes) :
    Machine Unit PulseRole PulseWorld PulseCall PulseCall.Answer where
  program := PulseRole.program setting
  admits _ _ := True
  performs _ := PulseWorld.Performs conduct false
  leaves _ world after := conduct.leaves world ∧ after = world

/-- Nothing was suspended yet. -/
def Booted (original : List PulseModule) (world : PulseWorld) : Prop := world = ⟨original, none, false, []⟩

end PlayTogether.Legacy
