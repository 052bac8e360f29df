import PlayTogether.Device.Group

/-! The resolver of the legacy session. It keeps one cache for the objects that BlueZ already
knew and for the signals of the scan, and reads the merged view on every signal. -/

namespace PlayTogether.Legacy
open PlayTogether.Library PlayTogether.Device

set_option maxRecDepth 20000

/-! ## Values -/

/-- A dictionary by its entries. Text is ASCII. -/
abbrev Dict (V : Type) : Type := Bytes → Option V

namespace Dict
variable {V : Type}

def empty : Dict V := fun _ => none

def put (dict : Dict V) (key : Bytes) (value : V) : Dict V := Function.update dict key (some value)

def update (dict changed : Dict V) : Dict V := fun key => (changed key).or (dict key)

def pop (dict : Dict V) (key : Bytes) : Dict V := Function.update dict key none

theorem foldl_pop (dict : Dict V) (names : List Bytes) (key : Bytes) :
    names.foldl pop dict key = none ∨ names.foldl pop dict key = dict key := by
  induction names generalizing dict with
  | nil => exact .inr rfl
  | cons name names ih =>
    obtain none | same := ih (dict.pop name)
    · exact .inl none
    · rw [List.foldl_cons, same, pop, Function.update_apply]
      split
      · exact .inl rfl
      · exact .inr rfl

end Dict

/-- An unwrapped value: its text and, where it is a dictionary, its items with the bytes of those
that convert. -/
structure Value where
  text : Bytes
  items : Option (List (Bytes × Option Bytes))

abbrev Properties : Type := Dict Value

abbrev Interfaces : Type := Dict Properties

def bluezDeviceInterface : Bytes := ascii "org.bluez.Device1"

def fddfUuid : Bytes := ascii "0000fddf-0000-1000-8000-00805f9b34fb"

def toUpper (byte : UInt8) : UInt8 := if isLower byte then byte - 0x20 else byte

def asciiUpper (text : Bytes) : Bytes := text.map toUpper

/-- Six pairs of digits between colons. -/
def isMac (text : Bytes) : Bool :=
  text.length == 17 && text.zipIdx.all fun (byte, index) =>
    if index % 3 == 2 then byte == 0x3a else (hexNibble byte).isSome

def fromHex : Bytes → Option Bytes
  | [] => some []
  | [_] => none
  | high :: low :: rest => do
    let byte ← hexByte high low
    let bytes ← fromHex rest
    some (byte :: bytes)

/-! ## The candidate -/

/-- What the resolver reads of the configuration, as it was validated. -/
structure ResolverConfig where
  auraMac : Bytes
  auraV4Pid : Bytes
  macValid : isMac auraMac = true
  pidValid : auraV4Pid.length = 4 ∧ ∀ byte ∈ auraV4Pid, (hexNibble byte).isSome

def ResolverConfig.v4PayloadMatches (config : ResolverConfig) (payload : Bytes) : Bool :=
  if payload.length < 17 then false
  else match fromHex config.auraV4Pid, fromHex (config.auraMac.filter (· != 0x3a)) with
    | some pid, some stableAddress => payload.take 2 == pid.reverse && (payload.take 17).drop 11 == stableAddress
    | _, _ => false

def serviceData (value : Value) : Dict Bytes :=
  match value.items with
  | none => Dict.empty
  | some items => items.foldl (fun decoded (key, raw) => match raw with
    | none => decoded
    | some bytes => decoded.put (asciiLower key) bytes) Dict.empty

def textOf (properties : Properties) (name : Bytes) : Bytes := ((properties name).map Value.text).getD []

def payloadOf (properties : Properties) : Option Bytes :=
  serviceData ((properties (ascii "ServiceData")).getD ⟨[], some []⟩) fddfUuid

def candidateFromProperties (config : ResolverConfig) (properties : Properties) : Option Bytes :=
  let address := asciiUpper (textOf properties (ascii "Address"))
  let addressType := asciiLower (textOf properties (ascii "AddressType"))
  if !isMac address || addressType != ascii "random" then none
  else if address == config.auraMac then none
  else match payloadOf properties with
    | none => none
    | some payload => if !config.v4PayloadMatches payload then none else some address

/-! ## The resolution -/

/-- How far the resolution has come, apart from its signal handlers. -/
inductive Stage where
  | listing
  | watching (path : Bytes) (rest : List (Bytes × Interfaces))
  | filtering
  | scanning
  | ended (result : Option Bytes)

structure Resolver where
  stage : Stage
  deviceCache : Dict Properties
  propertySubscriptions : List Bytes
  watchTasks : List Bytes
  found : Option Bytes

/-- What the event loop delivers: a reply the resolution waits for, the end of a watch task, or
a signal. -/
inductive BusEvent where
  | managedObjects (existing : List (Bytes × Interfaces))
  | watchReturned (registered : Bool)
  | filterSet
  | failed
  | waitReturned
  | taskReturned (path : Bytes) (registered : Bool)
  | interfacesAdded (path : Bytes) (interfaces : Interfaces)
  | propertiesChanged (path interfaceName : Bytes) (changed : Properties) (invalidated : List Bytes)

namespace Resolver

def start : Resolver := ⟨.listing, Dict.empty, [], [], none⟩

def cached (self : Resolver) (path : Bytes) : Properties := (self.deviceCache path).getD Dict.empty

def maybeResolve (config : ResolverConfig) (path : Bytes) (self : Resolver) : Resolver :=
  match self.stage, self.found with
  | .scanning, none => match candidateFromProperties config (self.cached path) with
    | none => self
    | some candidate => { self with found := some candidate }
  | _, _ => self

def onPropertiesChanged (config : ResolverConfig) (path interfaceName : Bytes) (changed : Properties)
    (invalidated : List Bytes) (self : Resolver) : Resolver :=
  if interfaceName != bluezDeviceInterface then self
  else
    let merged := invalidated.foldl Dict.pop ((self.cached path).update changed)
    maybeResolve config path { self with deviceCache := self.deviceCache.put path merged }

def onInterfacesAdded (config : ResolverConfig) (path : Bytes) (interfaces : Interfaces) (self : Resolver) : Resolver :=
  match interfaces bluezDeviceInterface with
  | none => self
  | some properties =>
    let self := maybeResolve config path { self with deviceCache := self.deviceCache.put path properties }
    { self with watchTasks := path :: self.watchTasks }

/-- Register the handler of a device, unless its proxy was refused. -/
def watchDevice (path : Bytes) (registered : Bool) (self : Resolver) : Resolver :=
  if registered then { self with propertySubscriptions := path :: self.propertySubscriptions } else self

/-- Go on to the next device of the snapshot, or to the filter behind the last. -/
def visit : List (Bytes × Interfaces) → Resolver → Resolver
  | [], self => { self with stage := .filtering }
  | (path, interfaces) :: rest, self => match interfaces bluezDeviceInterface with
    | none => visit rest self
    | some properties =>
      { self with deviceCache := self.deviceCache.put path properties, stage := .watching path rest }

/-- One delivery. A handler runs only where it was registered. -/
def step (config : ResolverConfig) (self : Resolver) : BusEvent → Resolver
  | .managedObjects existing => match self.stage with
    | .listing => visit existing self
    | _ => self
  | .watchReturned registered => match self.stage with
    | .watching path rest => visit rest (watchDevice path registered self)
    | _ => self
  | .filterSet => match self.stage with
    | .filtering => { self with stage := .scanning }
    | _ => self
  | .failed => match self.stage with
    | .ended _ => self
    | _ => { self with stage := .ended none }
  | .waitReturned => match self.stage with
    | .scanning => { self with stage := .ended self.found }
    | _ => self
  | .taskReturned path registered =>
    if self.watchTasks.contains path then
      watchDevice path registered { self with watchTasks := self.watchTasks.erase path }
    else self
  | .interfacesAdded path interfaces => onInterfacesAdded config path interfaces self
  | .propertiesChanged path interfaceName changed invalidated =>
    if self.propertySubscriptions.contains path then
      onPropertiesChanged config path interfaceName changed invalidated self
    else self

def run (config : ResolverConfig) (events : List BusEvent) : Resolver := events.foldl (step config) start

end Resolver

/-! ## What is fresh -/

/-- Service data with the product and the stable address of the speaker. -/
def Advertises (config : ResolverConfig) (properties : Properties) : Prop :=
  ∃ payload, payloadOf properties = some payload ∧ config.v4PayloadMatches payload = true

/-- A signal that has itself carried such data for a device. -/
inductive Carries (config : ResolverConfig) (path : Bytes) : BusEvent → Prop where
  | added {interfaces : Interfaces} {properties : Properties}
      (device : interfaces bluezDeviceInterface = some properties) (data : Advertises config properties) :
      Carries config path (.interfacesAdded path interfaces)
  | changed {properties : Properties} {invalidated : List Bytes} (data : Advertises config properties) :
      Carries config path (.propertiesChanged path bluezDeviceInterface properties invalidated)

def BusEvent.device : BusEvent → Option Bytes
  | .interfacesAdded path _ | .propertiesChanged path .. => some path
  | .managedObjects _ | .watchReturned _ | .filterSet | .failed | .waitReturned | .taskReturned .. => none

/-- A handler takes the signal. -/
def Resolver.Receives (self : Resolver) : BusEvent → Prop
  | .propertiesChanged path .. => path ∈ self.propertySubscriptions
  | _ => True

/-- A signal that was received while scanning has carried the data of the device. -/
def Brought (config : ResolverConfig) (path : Bytes) (events : List BusEvent) : Prop :=
  ∃ earlier carrier later, events = earlier ++ carrier :: later ∧ (Resolver.run config earlier).stage = .scanning ∧
    (Resolver.run config earlier).Receives carrier ∧ Carries config path carrier

/-- The signal that resolves is about a device whose data the scan has brought. -/
def FreshlyResolved (config : ResolverConfig) (events : List BusEvent) : Prop :=
  ∀ before signal after address, events = before ++ signal :: after → (Resolver.run config before).found = none →
    (Resolver.run config (before ++ [signal])).found = some address →
    ∃ path, signal.device = some path ∧ Brought config path (before ++ [signal])

/-- The handler of a device is registered, or its registration is under way. -/
def Heard (self : Resolver) (path : Bytes) : Prop := path ∈ self.propertySubscriptions ∨ path ∈ self.watchTasks

theorem candidate_advertises {config : ResolverConfig} {properties : Properties} {address : Bytes}
    (candidate : candidateFromProperties config properties = some address) : Advertises config properties := by
  unfold candidateFromProperties at candidate
  dsimp only at candidate
  split at candidate
  · cases candidate
  · split at candidate
    · cases candidate
    · split at candidate
      next => cases candidate
      next payload found =>
        split at candidate
        · cases candidate
        next matched => exact ⟨payload, found, by simpa using matched⟩

/-- Data that the merged view advertises was just received or stood in the cache. -/
theorem advertises_merged {config : ResolverConfig} {old changed : Properties} {invalidated : List Bytes}
    (merged : Advertises config (invalidated.foldl Dict.pop (old.update changed))) :
    Advertises config changed ∨ Advertises config old := by
  obtain ⟨payload, found, matched⟩ := merged
  unfold payloadOf at found
  obtain gone | same := (old.update changed).foldl_pop invalidated (ascii "ServiceData")
  · rw [gone] at found
    cases found
  · rw [same] at found
    unfold Dict.update at found
    cases present : changed (ascii "ServiceData") with
    | none =>
      rw [present, Option.none_or] at found
      exact .inr ⟨payload, found, matched⟩
    | some value =>
      rw [present, Option.some_or] at found
      exact .inl ⟨payload, by rw [payloadOf, present]; exact found, matched⟩

/-! ## What a delivery changes -/

def Stage.rank : Stage → Nat
  | .listing | .watching .. => 0
  | .filtering => 1
  | .scanning => 2
  | .ended _ => 3

theorem Stage.scanning_of_rank {stage : Stage} (rank : stage.rank = 2) : stage = .scanning := by
  cases stage with
  | scanning => rfl
  | listing | watching | filtering | ended => cases rank

namespace Resolver
variable {config : ResolverConfig}

theorem maybeResolve_cases (config : ResolverConfig) (path : Bytes) (self : Resolver) :
    maybeResolve config path self = self ∨ self.stage = .scanning ∧ ∃ candidate,
      candidateFromProperties config (self.cached path) = some candidate ∧
        maybeResolve config path self = { self with found := some candidate } := by
  unfold maybeResolve
  split
  next scanning _ =>
    cases result : candidateFromProperties config (self.cached path) with
    | none => exact .inl rfl
    | some candidate => exact .inr ⟨scanning, candidate, rfl, rfl⟩
  next => exact .inl rfl

theorem maybeResolve_found {path address : Bytes} (self : Resolver) (scanning : self.stage = .scanning)
    (unresolved : self.found = none) (candidate : candidateFromProperties config (self.cached path) = some address) :
    (maybeResolve config path self).found = some address := by
  simp only [maybeResolve, scanning, unresolved, candidate]

section Frame
variable (config : ResolverConfig) (path : Bytes) (self : Resolver)

@[simp] theorem maybeResolve_stage : (maybeResolve config path self).stage = self.stage := by
  obtain same | ⟨_, _, _, same⟩ := maybeResolve_cases config path self <;> rw [same]

@[simp] theorem maybeResolve_cached (other : Bytes) :
    (maybeResolve config path self).cached other = self.cached other := by
  obtain same | ⟨_, _, _, same⟩ := maybeResolve_cases config path self <;> rw [same]
  rfl

@[simp] theorem maybeResolve_subscriptions :
    (maybeResolve config path self).propertySubscriptions = self.propertySubscriptions := by
  obtain same | ⟨_, _, _, same⟩ := maybeResolve_cases config path self <;> rw [same]

@[simp] theorem maybeResolve_tasks : (maybeResolve config path self).watchTasks = self.watchTasks := by
  obtain same | ⟨_, _, _, same⟩ := maybeResolve_cases config path self <;> rw [same]

variable (registered : Bool)

@[simp] theorem watchDevice_stage : (watchDevice path registered self).stage = self.stage := by
  unfold watchDevice
  split
  · rfl
  · rfl

@[simp] theorem watchDevice_found : (watchDevice path registered self).found = self.found := by
  unfold watchDevice
  split
  · rfl
  · rfl

@[simp] theorem watchDevice_cached (other : Bytes) : (watchDevice path registered self).cached other = self.cached other := by
  unfold watchDevice
  split
  · rfl
  · rfl

end Frame

/-- A watch task that ends lets no new device be heard. -/
theorem watchDevice_heard {self : Resolver} {path other : Bytes} {registered : Bool} (running : path ∈ self.watchTasks)
    (heard : Heard (watchDevice path registered { self with watchTasks := self.watchTasks.erase path }) other) :
    Heard self other := by
  unfold watchDevice at heard
  split at heard
  · obtain subscribed | pending := heard
    · obtain rfl | subscribed := List.mem_cons.mp subscribed
      · exact .inr running
      · exact .inl subscribed
    · exact .inr (List.mem_of_mem_erase pending)
  · obtain subscribed | pending := heard
    · exact .inl subscribed
    · exact .inr (List.mem_of_mem_erase pending)

theorem cached_put (self : Resolver) (path other : Bytes) (properties : Properties) :
    { self with deviceCache := self.deviceCache.put path properties }.cached other =
      if other = path then properties else self.cached other := by
  simp only [cached, Dict.put, Function.update_apply]
  split
  · rfl
  · rfl

theorem visit_rank (objects : List (Bytes × Interfaces)) (self : Resolver) : (visit objects self).stage.rank ≤ 1 := by
  induction objects with
  | nil => exact Nat.le_refl 1
  | cons object rest ih =>
    unfold visit
    split
    · exact ih
    · exact Nat.zero_le 1

theorem visit_found (objects : List (Bytes × Interfaces)) (self : Resolver) :
    (visit objects self).found = self.found := by
  induction objects with
  | nil => rfl
  | cons object rest ih =>
    unfold visit
    split
    · exact ih
    · rfl

/-- All that a delivery can do. -/
inductive Delivery (config : ResolverConfig) (self : Resolver) (event : BusEvent) : Resolver → Prop where
  | idle : Delivery config self event self
  | early {after : Resolver} (before : self.stage.rank = 0) (still : after.stage.rank ≤ 1)
      (found : after.found = self.found) : Delivery config self event after
  | moved {stage : Stage} (forward : self.stage.rank ≤ stage.rank) : Delivery config self event { self with stage }
  | task {path : Bytes} {registered : Bool} (running : path ∈ self.watchTasks) :
      Delivery config self event
        (watchDevice path registered { self with watchTasks := self.watchTasks.erase path })
  | signal {path : Bytes} {properties : Properties} {tasks : List Bytes} (device : event.device = some path)
      (received : self.Receives event) (heard : path ∈ self.propertySubscriptions ∨ path ∈ tasks)
      (known : ∀ other ∈ tasks, other = path ∨ other ∈ self.watchTasks)
      (source : Advertises config properties → Carries config path event ∨
        path ∈ self.propertySubscriptions ∧ Advertises config (self.cached path)) :
      Delivery config self event
        { maybeResolve config path { self with deviceCache := self.deviceCache.put path properties } with
          watchTasks := tasks }

theorem with_tasks {self : Resolver} {tasks : List Bytes} (same : self.watchTasks = tasks) :
    self = { self with watchTasks := tasks } := by
  subst same
  rfl

theorem propertiesChanged_delivery (self : Resolver) {path : Bytes} (interfaceName : Bytes) (changed : Properties)
    (invalidated : List Bytes) (subscribed : path ∈ self.propertySubscriptions) :
    Delivery config self (.propertiesChanged path interfaceName changed invalidated)
      (onPropertiesChanged config path interfaceName changed invalidated self) := by
  unfold onPropertiesChanged
  split
  · exact .idle
  next device =>
    obtain rfl : interfaceName = bluezDeviceInterface := by simpa using device
    rw [with_tasks (maybeResolve_tasks _ _ _)]
    refine .signal rfl subscribed (.inl subscribed) (fun other member => .inr member) fun merged => ?_
    obtain new | old := advertises_merged merged
    · exact .inl (.changed new)
    · exact .inr ⟨subscribed, old⟩

theorem step_delivery (config : ResolverConfig) (self : Resolver) (event : BusEvent) :
    Delivery config self event (step config self event) := by
  cases event with
  | managedObjects existing =>
    dsimp only [step]
    split
    next listing => exact .early (by rw [listing]; rfl) (visit_rank existing self) (visit_found existing self)
    next => exact .idle
  | watchReturned registered =>
    dsimp only [step]
    split
    next path rest watching =>
      exact .early (by rw [watching]; rfl) (visit_rank rest _) ((visit_found rest _).trans (watchDevice_found ..))
    next => exact .idle
  | filterSet =>
    dsimp only [step]
    split
    next filtering => exact .moved (by rw [filtering]; exact Nat.le_succ 1)
    next => exact .idle
  | failed =>
    dsimp only [step]
    split
    next => exact .idle
    next => exact .moved (by cases self.stage <;> simp [Stage.rank])
  | waitReturned =>
    dsimp only [step]
    split
    next scanning => exact .moved (by rw [scanning]; exact Nat.le_succ 2)
    next => exact .idle
  | taskReturned path registered =>
    dsimp only [step]
    split
    next running => exact .task (List.contains_iff_mem.mp running)
    next => exact .idle
  | interfacesAdded path interfaces =>
    dsimp only [step, onInterfacesAdded]
    split
    next => exact .idle
    next properties device =>
      refine .signal rfl trivial (.inr List.mem_cons_self) (fun other member => ?_) fun data => .inl (.added device data)
      rw [maybeResolve_tasks] at member
      exact List.mem_cons.mp member
  | propertiesChanged path interfaceName changed invalidated =>
    dsimp only [step]
    split
    next subscribed => exact propertiesChanged_delivery self _ _ _ (List.contains_iff_mem.mp subscribed)
    next => exact .idle

/-- The resolution never goes back. -/
theorem step_rank (config : ResolverConfig) (self : Resolver) (event : BusEvent) :
    self.stage.rank ≤ (step config self event).stage.rank := by
  have delivery := step_delivery config self event
  generalize step config self event = after at delivery
  cases delivery with
  | idle => exact Nat.le_refl _
  | early before still found => omega
  | moved forward => exact forward
  | task running => simp
  | signal device received heard known source => simp

theorem foldl_rank (events : List BusEvent) (self : Resolver) :
    self.stage.rank ≤ (events.foldl (step config) self).stage.rank := by
  induction events generalizing self with
  | nil => exact Nat.le_refl _
  | cons event rest ih => exact (step_rank config self event).trans (ih _)

theorem run_append (earlier later : List BusEvent) :
    run config (earlier ++ later) = later.foldl (step config) (run config earlier) := List.foldl_append ..

theorem run_snoc (earlier : List BusEvent) (event : BusEvent) :
    run config (earlier ++ [event]) = step config (run config earlier) event := run_append earlier [event]

theorem run_rank (config : ResolverConfig) (earlier later : List BusEvent) :
    (run config earlier).stage.rank ≤ (run config (earlier ++ later)).stage.rank := by
  rw [run_append]
  exact foldl_rank later _

/-- Nothing is resolved before the gate opens. -/
theorem run_unresolved (events : List BusEvent) (early : (run config events).stage.rank ≤ 1) :
    (run config events).found = none := by
  induction events using List.reverseRecOn with
  | nil => rfl
  | append_singleton events event ih =>
    have prior := ih ((run_rank config events [event]).trans early)
    rw [run_snoc] at early ⊢
    have delivery := step_delivery config (run config events) event
    generalize step config (run config events) event = after at delivery early
    cases delivery with
    | idle => exact prior
    | early before still found => exact found.trans prior
    | moved forward => exact prior
    | task running =>
      rw [watchDevice_found]
      exact prior
    | @signal path properties tasks device received heard known source =>
      obtain same | ⟨scanning, _⟩ := maybeResolve_cases config path
        { run config events with deviceCache := (run config events).deviceCache.put path properties }
      · rw [same]
        exact prior
      · dsimp only at scanning
        rw [maybeResolve_stage, scanning] at early
        exact absurd early (by decide)

/-- A delivery that resolves is a signal of the scan, about a device that is heard and whose merged
view advertises. -/
theorem step_resolves {self : Resolver} {event : BusEvent} {address : Bytes} (unresolved : self.found = none)
    (resolved : (step config self event).found = some address) :
    self.stage = .scanning ∧ (step config self event).stage = .scanning ∧ ∃ path, event.device = some path ∧
      Heard (step config self event) path ∧ Advertises config ((step config self event).cached path) := by
  have delivery := step_delivery config self event
  generalize step config self event = after at delivery resolved
  cases delivery with
  | idle =>
    rw [unresolved] at resolved
    cases resolved
  | early before still found =>
    rw [found, unresolved] at resolved
    cases resolved
  | moved forward =>
    rw [unresolved] at resolved
    cases resolved
  | task running =>
    rw [watchDevice_found, unresolved] at resolved
    cases resolved
  | @signal path properties tasks device received heard known source =>
    obtain same | ⟨scanning, candidate, found, same⟩ := maybeResolve_cases config path
      { self with deviceCache := self.deviceCache.put path properties }
    · rw [same] at resolved
      rw [unresolved] at resolved
      cases resolved
    · refine ⟨scanning, ?_, path, device, ?_, ?_⟩
      · rw [same]
        exact scanning
      · rw [same]
        exact heard
      · rw [same]
        exact candidate_advertises found

theorem brought_snoc {path : Bytes} {events : List BusEvent} (brought : Brought config path events)
    (event : BusEvent) : Brought config path (events ++ [event]) := by
  obtain ⟨earlier, carrier, later, rfl, scanning, received, carries⟩ := brought
  exact ⟨earlier, carrier, later ++ [event], List.append_assoc .., scanning, received, carries⟩

/-- Behind the gate: the scan has brought whatever a heard device advertises. -/
structure Traced (config : ResolverConfig) (events : List BusEvent) : Prop where
  opened : 2 ≤ (run config events).stage.rank
  carried : (run config events).stage = .scanning → ∀ path, Heard (run config events) path →
    Advertises config ((run config events).cached path) → Brought config path events

theorem Traced.snoc {events : List BusEvent} (traced : Traced config events) (event : BusEvent) :
    Traced config (events ++ [event]) := by
  have opened := traced.opened
  have forward := step_rank config (run config events) event
  rw [← run_snoc] at forward
  refine ⟨opened.trans forward, fun still path heard advertises => ?_⟩
  have scanning : (run config events).stage = .scanning := by
    rw [still] at forward
    exact Stage.scanning_of_rank (Nat.le_antisymm forward opened)
  -- what was brought before is brought still
  have kept {other : Bytes} (heard : Heard (run config events) other)
      (advertises : Advertises config ((run config events).cached other)) :
      Brought config other (events ++ [event]) :=
    brought_snoc (traced.carried scanning other heard advertises) event
  rw [run_snoc] at heard advertises
  have delivery := step_delivery config (run config events) event
  generalize step config (run config events) event = after at delivery heard advertises
  cases delivery with
  | idle => exact kept heard advertises
  | early before still found => omega
  | moved forward => exact kept heard advertises
  | task running =>
    rw [watchDevice_cached] at advertises
    exact kept (watchDevice_heard running heard) advertises
  | @signal other properties tasks device received now known source =>
    change Advertises config ((maybeResolve config other _).cached path) at advertises
    rw [maybeResolve_cached, cached_put] at advertises
    split at advertises
    next same =>
      subst same
      obtain carries | ⟨subscribed, old⟩ := source advertises
      · exact ⟨events, event, [], rfl, scanning, received, carries⟩
      · exact kept (.inl subscribed) old
    next different =>
      refine kept ?_ advertises
      obtain subscribed | pending := heard
      · exact .inl (by simpa using subscribed)
      · exact .inr ((known path pending).resolve_left different)

theorem Traced.append {prior : List BusEvent} (traced : Traced config prior) (signals : List BusEvent) :
    Traced config (prior ++ signals) := by
  induction signals using List.reverseRecOn with
  | nil => rwa [List.append_nil]
  | append_singleton signals event ih =>
    rw [← List.append_assoc]
    exact ih.snoc event

/-- A scanning state lies behind the gate. -/
theorem scanning_behind_gate {prior signals earlier later : List BusEvent} {event : BusEvent}
    (closed : (run config prior).stage = .filtering) (scanning : (run config earlier).stage = .scanning)
    (split : prior ++ .filterSet :: signals = earlier ++ event :: later) :
    ∃ scanned, earlier = prior ++ .filterSet :: scanned ∧ signals = scanned ++ event :: later := by
  obtain ⟨gap, rfl, rest⟩ | ⟨gap, rfl, rest⟩ := List.append_eq_append_iff.mp split
  · cases gap with
    | nil =>
      rw [List.append_nil, closed] at scanning
      cases scanning
    | cons first gap =>
      obtain ⟨rfl, rfl⟩ := List.cons.inj rest
      exact ⟨gap, rfl, rfl⟩
  · have rank := run_rank config earlier gap
    rw [scanning, closed] at rank
    exact absurd rank (by decide)

end Resolver

/-! ## When a resolution is fresh -/

/-- A change without service data. -/
def announce (address : Bytes) : Properties :=
  (Dict.empty.put (ascii "Address") ⟨address, none⟩).put (ascii "AddressType") ⟨ascii "random", none⟩

theorem announce_address (address : Bytes) : announce address (ascii "Address") = some ⟨address, none⟩ := by
  have names : ascii "Address" ≠ ascii "AddressType" := by decide
  rw [announce, Dict.put, Function.update_of_ne names, Dict.put, Function.update_self]

theorem announce_serviceData (address : Bytes) : announce address (ascii "ServiceData") = none := by
  have first : ascii "ServiceData" ≠ ascii "AddressType" := by decide
  have second : ascii "ServiceData" ≠ ascii "Address" := by decide
  rw [announce, Dict.put, Function.update_of_ne first, Dict.put, Function.update_of_ne second]
  rfl

theorem not_advertises_announce (config : ResolverConfig) (address : Bytes) :
    ¬Advertises config (announce address) := by
  intro advertises
  obtain ⟨payload, found, _⟩ := advertises
  rw [payloadOf, announce_serviceData] at found
  cases found

/-- An announced address makes a candidate of whatever data stood in the cache. -/
theorem candidate_announced {config : ResolverConfig} {old : Properties} (advertises : Advertises config old)
    {address : Bytes} (mac : isMac address = true) (upper : asciiUpper address = address)
    (other : address ≠ config.auraMac) :
    candidateFromProperties config (old.update (announce address)) = some address := by
  obtain ⟨payload, found, matched⟩ := advertises
  have named : textOf (old.update (announce address)) (ascii "Address") = address := by
    rw [textOf, Dict.update, announce_address]
    rfl
  have typed : textOf (old.update (announce address)) (ascii "AddressType") = ascii "random" := by
    rw [textOf, Dict.update, announce, Dict.put, Function.update_self]
    rfl
  have data : payloadOf (old.update (announce address)) = some payload := by
    rw [payloadOf, Dict.update, announce_serviceData, Option.none_or]
    exact found
  have random : (asciiLower (ascii "random") != ascii "random") = false := by decide
  rw [candidateFromProperties, named, typed, data, upper, mac, random, Bool.not_true, Bool.or_false,
    if_neg Bool.false_ne_true, if_neg (by simpa using other)]
  simp [matched]

section Gate
open Resolver
variable {config : ResolverConfig} {prior : List BusEvent}

theorem run_gate (closed : (run config prior).stage = .filtering) :
    run config (prior ++ [.filterSet]) = { run config prior with stage := .scanning } := by
  rw [run_snoc]
  simp only [step, closed]

/-- Where no heard device advertises yet, the scan itself has to bring the data. -/
theorem freshly_of_clean (closed : (run config prior).stage = .filtering)
    (clean : ∀ path, Heard (run config prior) path → ¬Advertises config ((run config prior).cached path))
    (signals : List BusEvent) : FreshlyResolved config (prior ++ .filterSet :: signals) := by
  intro before signal after address split unresolved resolved
  rw [run_snoc] at resolved
  obtain ⟨scanning, still, path, device, heard, advertises⟩ := step_resolves unresolved resolved
  obtain ⟨scanned, rfl, _⟩ := scanning_behind_gate closed scanning split
  have opened : Traced config (prior ++ [.filterSet]) := by
    constructor
    · rw [run_gate closed]
      exact Nat.le_refl 2
    · rw [run_gate closed]
      exact fun _ other heard advertises => absurd advertises (clean other heard)
  have reached : Traced config (prior ++ .filterSet :: scanned ++ [signal]) := by
    rw [List.append_cons prior]
    exact (opened.append scanned).snoc signal
  rw [← run_snoc] at still heard advertises
  exact ⟨path, device, reached.carried still path heard advertises⟩

theorem propertiesChanged_resolves {self : Resolver} {path address : Bytes} {changed : Properties}
    (scanning : self.stage = .scanning) (unresolved : self.found = none)
    (subscribed : path ∈ self.propertySubscriptions)
    (candidate : candidateFromProperties config ((self.cached path).update changed) = some address) :
    (step config self (.propertiesChanged path bluezDeviceInterface changed [])).found = some address := by
  have contained := List.contains_iff_mem.mpr subscribed
  have view := cached_put self path path ((self.cached path).update changed)
  rw [if_pos rfl] at view
  rw [← view] at candidate
  have resolved := maybeResolve_found { self with
    deviceCache := self.deviceCache.put path ((self.cached path).update changed) } scanning unresolved candidate
  simpa only [step, contained, onPropertiesChanged, bne_self_eq_false, List.foldl_nil, if_true, Bool.false_eq_true,
    if_false] using resolved

/-- Data that stood in the cache resolves with any announcement of an address. -/
theorem announced_not_fresh (signals : List BusEvent) (path : Bytes) {address : Bytes}
    (closed : (run config prior).stage = .filtering)
    (quiet : ∀ event ∈ signals, ¬Carries config path event)
    (scanning : (run config (prior ++ .filterSet :: signals)).stage = .scanning)
    (unresolved : (run config (prior ++ .filterSet :: signals)).found = none)
    (subscribed : path ∈ (run config (prior ++ .filterSet :: signals)).propertySubscriptions)
    (advertises : Advertises config ((run config (prior ++ .filterSet :: signals)).cached path))
    (mac : isMac address = true) (upper : asciiUpper address = address) (other : address ≠ config.auraMac) :
    ¬FreshlyResolved config (prior ++ .filterSet ::
      (signals ++ [.propertiesChanged path bluezDeviceInterface (announce address) []])) := by
  intro fresh
  have resolved : (run config (prior ++ .filterSet :: signals ++
      [.propertiesChanged path bluezDeviceInterface (announce address) []])).found = some address := by
    rw [run_snoc]
    exact propertiesChanged_resolves scanning unresolved subscribed (candidate_announced advertises mac upper other)
  obtain ⟨path', device, earlier, carrier, later, split, during, _, carries⟩ :=
    fresh (prior ++ .filterSet :: signals) _ [] address (by simp) unresolved resolved
  cases device
  rw [List.append_assoc, List.cons_append] at split
  obtain ⟨scanned, _, same⟩ := scanning_behind_gate closed during split
  have member : carrier ∈ signals ++ [.propertiesChanged path bluezDeviceInterface (announce address) []] := by
    rw [same]
    simp
  obtain inside | last := List.mem_append.mp member
  · exact quiet carrier inside carries
  · obtain rfl := List.mem_singleton.mp last
    cases carries with
    | changed data => exact not_advertises_announce config address data

end Gate

theorem exists_other_mac (config : ResolverConfig) :
    ∃ address, isMac address = true ∧ asciiUpper address = address ∧ address ≠ config.auraMac := by
  have different : ascii "40:00:00:00:00:01" ≠ ascii "40:00:00:00:00:02" := by decide
  by_cases same : ascii "40:00:00:00:00:01" = config.auraMac
  · exact ⟨ascii "40:00:00:00:00:02", by decide, by decide, fun other => different (same.trans other.symm)⟩
  · exact ⟨ascii "40:00:00:00:00:01", by decide, by decide, same⟩

/-- Every scan from a state resolves freshly exactly where, when the gate opens, no device that is
heard stands in the cache with matching service data. -/
theorem resolution_is_fresh_iff (config : ResolverConfig) (prior : List BusEvent)
    (closed : (Resolver.run config prior).stage = .filtering) :
    (∀ signals, FreshlyResolved config (prior ++ .filterSet :: signals)) ↔
      ∀ path, Heard (Resolver.run config prior) path →
        ¬Advertises config ((Resolver.run config prior).cached path) := by
  constructor
  · intro fresh path heard advertises
    obtain ⟨address, mac, upper, other⟩ := exists_other_mac config
    have unresolved : (Resolver.run config prior).found = none :=
      Resolver.run_unresolved prior (by rw [closed]; exact Nat.le_refl 1)
    have gate := run_gate closed
    by_cases subscribed : path ∈ (Resolver.run config prior).propertySubscriptions
    · refine announced_not_fresh [] path closed nofun ?_ ?_ ?_ ?_ mac upper other (fresh _)
      · rw [gate]
      · rw [gate]
        exact unresolved
      · rw [gate]
        exact subscribed
      · rw [gate]
        exact advertises
    · have pending : (Resolver.run config prior).watchTasks.contains path = true :=
        List.contains_iff_mem.mpr (heard.resolve_left subscribed)
      have registered : Resolver.run config (prior ++ .filterSet :: [.taskReturned path true]) =
          { Resolver.run config prior with
            stage := .scanning
            watchTasks := (Resolver.run config prior).watchTasks.erase path
            propertySubscriptions := path :: (Resolver.run config prior).propertySubscriptions } := by
        rw [List.append_cons, Resolver.run_snoc, gate]
        simp only [Resolver.step, pending, if_true, Resolver.watchDevice]
      refine announced_not_fresh [.taskReturned path true] path closed ?_ ?_ ?_ ?_ ?_ mac upper other (fresh _)
      · intro event member carries
        obtain rfl := List.mem_singleton.mp member
        cases carries
      · rw [registered]
      · rw [registered]
        exact unresolved
      · rw [registered]
        exact List.mem_cons_self
      · rw [registered]
        exact advertises
  · exact fun clean signals => freshly_of_clean closed clean signals

/-! ## A cached advertisement -/

def fixtureConfig : ResolverConfig :=
  ⟨ascii "02:00:00:00:00:02", ascii "212d", by decide, by decide, List.all_eq_true.mp (by decide)⟩

def fixtureObjectPath : Bytes := ascii "/org/bluez/hci0/dev_40_00_00_00_00_01"

def fixtureDevice (properties : Properties) : List BusEvent :=
  [.managedObjects [(fixtureObjectPath, Dict.empty.put bluezDeviceInterface properties)], .watchReturned true]

def rssiOnly : Properties := Dict.empty.put (ascii "RSSI") ⟨ascii "-60", none⟩

/-- What BlueZ still holds of a speaker that was heard before the scan. -/
def staleProperties : Properties :=
  (announce (ascii "40:00:00:00:00:01")).put (ascii "ServiceData") ⟨[], some [(fddfUuid,
    some [0x2d, 0x21, 0, 0, 0, 0, 0, 0, 0, 0, 0, 0x02, 0, 0, 0, 0, 0x02])]⟩

theorem not_advertises_rssiOnly : ¬Advertises fixtureConfig rssiOnly := by
  intro advertises
  obtain ⟨payload, found, _⟩ := advertises
  cases found

theorem silent_device_resolves_freshly :
    (Resolver.run fixtureConfig (fixtureDevice rssiOnly)).stage = .filtering ∧
      ∀ signals, FreshlyResolved fixtureConfig (fixtureDevice rssiOnly ++ .filterSet :: signals) := by
  have closed : (Resolver.run fixtureConfig (fixtureDevice rssiOnly)).stage = .filtering := rfl
  refine ⟨closed, (resolution_is_fresh_iff fixtureConfig (fixtureDevice rssiOnly) closed).mpr fun path heard => ?_⟩
  obtain subscribed | pending := heard
  · obtain rfl := List.mem_singleton.mp subscribed
    exact not_advertises_rssiOnly
  · cases pending

theorem cached_advertisement_resolves :
    ¬FreshlyResolved fixtureConfig (fixtureDevice staleProperties ++ .filterSet ::
      [.propertiesChanged fixtureObjectPath bluezDeviceInterface rssiOnly []]) := by
  intro fresh
  have closed : (Resolver.run fixtureConfig (fixtureDevice staleProperties)).stage = .filtering := rfl
  have unresolved : (Resolver.run fixtureConfig (fixtureDevice staleProperties ++ [.filterSet])).found = none := rfl
  have resolved : (Resolver.run fixtureConfig (fixtureDevice staleProperties ++ [.filterSet] ++
      [.propertiesChanged fixtureObjectPath bluezDeviceInterface rssiOnly []])).found =
        some (ascii "40:00:00:00:00:01") := by decide
  obtain ⟨path, _, earlier, carrier, later, split, during, _, carries⟩ :=
    fresh (fixtureDevice staleProperties ++ [.filterSet])
      (.propertiesChanged fixtureObjectPath bluezDeviceInterface rssiOnly []) [] (ascii "40:00:00:00:00:01")
      (List.append_cons ..) unresolved resolved
  obtain ⟨scanned, _, same⟩ := Resolver.scanning_behind_gate closed during split
  obtain rfl : carrier = .propertiesChanged fixtureObjectPath bluezDeviceInterface rssiOnly [] := by
    have member : carrier ∈ scanned ++ carrier :: later := by simp
    rw [← same] at member
    exact List.mem_singleton.mp member
  cases carries with
  | changed data => exact not_advertises_rssiOnly data

end PlayTogether.Legacy
