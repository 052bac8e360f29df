import PlayTogether.Device.Identity
import PlayTogether.Journal.StateRoot

/-! The runtime configuration: how it is loaded from a private file and the environment, and
how the installer writes that file. -/

namespace PlayTogether.Config
open PlayTogether.Library PlayTogether.Device PlayTogether.Journal

def maxConfigBytes : Nat := 65536

def defaultGenaCallbackPort : Nat := 8098

inductive BroadcastConfirmation where
  | ack
  | gena
  deriving DecidableEq, Repr

def defaultBroadcastConfirmation : BroadcastConfirmation := .ack

def allowedKeys : List Bytes :=
  [ascii "JBL_IP", ascii "JBL_LOCAL_API_CERT", ascii "JBL_LOCAL_API_KEY", ascii "JBL_LOCAL_API_TLS_SHA256",
    ascii "JBL_LOCAL_API_TIMEOUT", ascii "JBL_GENA_CALLBACK_PORT", ascii "JBL_BROADCAST_CONFIRMATION",
    ascii "JBL_BT_MAC", ascii "JBL_EXPECTED_MODEL", ascii "AURA_BT_MAC"]

/-- Values by their keys. -/
abbrev Settings : Type := Bytes → Option Bytes

def Settings.insert (values : Settings) (key value : Bytes) : Settings :=
  fun name => if name = key then some value else values name

/-- The overrides win. -/
def Settings.extend (values overrides : Settings) : Settings := fun name => (overrides name).or (values name)

/-- Override strings; a string is valid text. -/
structure Overrides where
  values : Settings
  text : ∀ key value, values key = some value → validUtf8 value = true

/-- Paths are their texts. -/
structure RuntimeConfig where
  address : Bytes
  certificate : Bytes
  privateKey : Bytes
  tlsSha256 : Bytes
  jblIdentity : DeviceIdentity
  expectedModel : Bytes
  auraIdentity : DeviceIdentity
  timeout : Nat
  genaCallbackPort : Nat
  broadcastConfirmation : BroadcastConfirmation
  deriving DecidableEq

/-! ## Private files -/

inductive PrivateFileKind where
  | config
  | certificate
  | privateKey
  deriving DecidableEq, Repr

inductive OpenPrivateError where
  | missing
  | permissionDenied
  | symlinkRejected
  | unsupported
  deriving DecidableEq, Repr

def PrivateFileKind.unavailable : PrivateFileKind → JblError
  | .config => .configUnavailable
  | .certificate => .certificateUnavailable
  | .privateKey => .privateKeyUnavailable

def PrivateFileKind.permissions : PrivateFileKind → JblError
  | .config => .configPermissions
  | .certificate => .certificatePermissions
  | .privateKey => .privateKeyPermissions

def PrivateFileKind.invalid : PrivateFileKind → JblError
  | .config => .invalidConfig
  | .certificate | .privateKey => .credentialFileInvalid

def PrivateFileKind.tooLarge : PrivateFileKind → JblError
  | .config => .configTooLarge
  | .certificate | .privateKey => .credentialTooLarge

inductive FileType where
  | regular
  | directory
  | symlink
  | other
  deriving DecidableEq, Repr

structure Metadata where
  fileType : FileType
  uid : Nat
  mode : Nat
  nlink : Nat
  deriving DecidableEq, Repr

/-- A directory entry; `readable` is whether this process may open it for reading. -/
structure Entry where
  metadata : Metadata
  readable : Bool
  content : Bytes
  deriving DecidableEq

/-- A path with the parent that its components give it. -/
structure FilePath where
  text : Bytes
  parent : Option Bytes
  deriving DecidableEq

structure CurrentDir where
  path : Bytes
  absolute : path.head? = some 0x2f

/-- The machine the program runs on: `linked` paths lead through a symbolic link before
their last component, and a `privileged` process reads files whatever their mode. -/
structure Host where
  euid : Nat
  umask : Nat
  privileged : Bool
  openat2 : Bool
  linked : FilePath → Bool
  currentDir : Option CurrentDir
  entries : FilePath → Option Entry

section Read
variable (host : Host) (path : FilePath) (max : Nat) (kind : PrivateFileKind)

/-- No symbolic link is followed anywhere on the way. -/
def openPrivate : Except OpenPrivateError Entry :=
  if !host.openat2 then .error .unsupported
  else if host.linked path then .error .symlinkRejected
  else match host.entries path with
    | none => .error .missing
    | some entry =>
      if entry.metadata.fileType = .symlink then .error .symlinkRejected
      else if !entry.readable then .error .permissionDenied
      else .ok entry

def validateMetadata (entry : Entry) : Except JblError Unit :=
  if entry.metadata.fileType ≠ .regular then .error kind.invalid
  else if entry.content.length > max then .error kind.tooLarge
  else if entry.metadata.uid ≠ host.euid then .error kind.permissions
  else if entry.metadata.mode &&& 0o077 ≠ 0 then .error kind.permissions
  else .ok ()

def readPrivateFileIfPresent : Except JblError (Option Bytes) :=
  match openPrivate host path with
  | .error .missing => .ok none
  | .error .permissionDenied => .error kind.permissions
  | .error .symlinkRejected => .error kind.invalid
  | .error .unsupported => .error kind.unavailable
  | .ok entry => do
    validateMetadata host max kind entry
    let payload := entry.content.take (max + 1)
    if payload.length > max then .error kind.tooLarge else .ok (some payload)

def readPrivateFile : Except JblError Bytes := do
  match ← readPrivateFileIfPresent host path max kind with
  | none => .error kind.unavailable
  | some payload => .ok payload

end Read

/-! ## Configuration text -/

def isQuote (byte : UInt8) : Bool := byte == 0x27 || byte == 0x22

/-- The value without the quotes around it, if both ends are the same quote. -/
def unquoted (value : Bytes) : Bytes :=
  if 2 ≤ value.length ∧ value.head?.any isQuote ∧ value.getLast? = value.head? then value.tail.dropLast else value

def parseConfigLine (values : Settings) (rawLine : Bytes) : Except JblError Settings :=
  let line := trim rawLine
  if line.isEmpty || line.head? == some 0x23 then .ok values
  else match splitOnce 0x3d line with
    | none => .error .invalidConfig
    | some (rawKey, rawValue) =>
      let key := trim rawKey
      if !allowedKeys.contains key then .ok values
      else if (values key).isSome then .error .invalidConfig
      else .ok (values.insert key (unquoted (trim rawValue)))

def parseConfigText (text : Bytes) : Except JblError Settings :=
  (lines text).foldlM parseConfigLine fun _ => none

/-! ## Loading -/

def isAbsolute (path : Bytes) : Bool := path.head? == some 0x2f

def joinPath (directory path : Bytes) : Bytes :=
  if isAbsolute path then path
  else if directory.isEmpty || directory.getLast? == some 0x2f then directory ++ path
  else directory ++ 0x2f :: path

inductive ConfigSource where
  | required (path : FilePath)
  | optionalDefault (path : FilePath)
  | none

def ConfigSource.path : ConfigSource → Option FilePath
  | .required path | .optionalDefault path => some path
  | .none => Option.none

def required (values : Settings) (key : String) : Except JblError Bytes :=
  match ((values (ascii key)).map trim).filter (!·.isEmpty) with
  | some value => .ok value
  | none => .error (.missingSetting key)

def timeoutSeconds (values : Settings) : Except JblError Nat :=
  match (parseUnsigned (2 ^ 64 - 1) ((values (ascii "JBL_LOCAL_API_TIMEOUT")).getD (ascii "5"))).filter
      fun value => 1 ≤ value ∧ value ≤ 30 with
  | some value => .ok value
  | none => .error .invalidTimeout

def genaCallbackPort (values : Settings) : Except JblError Nat :=
  match values (ascii "JBL_GENA_CALLBACK_PORT") with
  | none => .ok defaultGenaCallbackPort
  | some text => match (parseUnsigned (2 ^ 16 - 1) text).filter fun value => 1024 ≤ value ∧ value ≤ 2 ^ 16 - 1 with
    | some value => .ok value
    | none => .error .invalidConfig

def broadcastConfirmation (values : Settings) : Except JblError BroadcastConfirmation :=
  match values (ascii "JBL_BROADCAST_CONFIRMATION") with
  | none => .ok defaultBroadcastConfirmation
  | some text =>
    if text = ascii "ack" then .ok .ack else if text = ascii "gena" then .ok .gena else .error .invalidConfig

def requiredIdentity (values : Settings) (key : String) : Except JblError DeviceIdentity := do
  match DeviceIdentity.parse (← required values key) with
  | some identity => .ok identity
  | none => .error .invalidConfig

section Load
variable (host : Host) (source : ConfigSource)

def resolvePath (value : Bytes) : Except JblError Bytes :=
  if isAbsolute value then .ok value
  else match source.path.bind FilePath.parent with
    | some parent => .ok (joinPath parent value)
    | none => match host.currentDir with
      | some directory => .ok (joinPath directory.path value)
      | none => .error .invalidConfig

def configValues : Except JblError Settings := do
  let payload ← match source with
    | .required path => (readPrivateFile host path maxConfigBytes .config).map some
    | .optionalDefault path => readPrivateFileIfPresent host path maxConfigBytes .config
    | .none => .ok none
  match payload with
  | none => .ok fun _ => none
  | some text => if validUtf8 text then parseConfigText text else .error .invalidConfig

/-- What the values say, once they are collected. -/
def configOf (values : Settings) : Except JblError RuntimeConfig := do
  let certificateValue ← required values "JBL_LOCAL_API_CERT"
  let privateKeyValue ← required values "JBL_LOCAL_API_KEY"
  let timeout ← timeoutSeconds values
  let genaCallbackPort ← genaCallbackPort values
  let broadcastConfirmation ← broadcastConfirmation values
  let jblIdentity ← requiredIdentity values "JBL_BT_MAC"
  let auraIdentity ← requiredIdentity values "AURA_BT_MAC"
  if jblIdentity = auraIdentity then .error .invalidConfig
  else do
    let address ← required values "JBL_IP"
    let certificate ← resolvePath host source certificateValue
    let privateKey ← resolvePath host source privateKeyValue
    let tlsSha256 ← required values "JBL_LOCAL_API_TLS_SHA256"
    .ok { address, certificate, privateKey, tlsSha256, jblIdentity,
          expectedModel := (values (ascii "JBL_EXPECTED_MODEL")).getD (ascii "JBL Authentics 300"),
          auraIdentity, timeout, genaCallbackPort, broadcastConfirmation }

def loadFromSource (overrides : Overrides) : Except JblError RuntimeConfig := do
  let values ← configValues host source
  configOf host source (values.extend overrides.values)

end Load

/-! ## Installing -/

inductive Lookup where
  | found (metadata : Metadata)
  | notFound
  | failed

/-- What the operating system answers while a configuration is installed. -/
structure InstallReplies where
  createParent : Bool
  parentMetadata : Option Metadata
  existing : Lookup
  randBytes : Bool
  openTemporary : Bool
  writeAll : Bool
  syncFile : Bool
  rename : Bool
  syncParent : Bool

def safeConfigValue (value : Bytes) : Bool :=
  !(value.isEmpty || value.any (fun byte => byte == 0 || byte == 0x0a || byte == 0x0d) ||
    value.head?.any isQuote || value.getLast?.any isQuote)

def configEntries (config : RuntimeConfig) : List (Bytes × Bytes) :=
  [(ascii "JBL_IP", config.address), (ascii "JBL_EXPECTED_MODEL", config.expectedModel),
    (ascii "JBL_BT_MAC", config.jblIdentity.compactConfigValue),
    (ascii "AURA_BT_MAC", config.auraIdentity.compactConfigValue),
    (ascii "JBL_LOCAL_API_CERT", config.certificate), (ascii "JBL_LOCAL_API_KEY", config.privateKey),
    (ascii "JBL_LOCAL_API_TLS_SHA256", config.tlsSha256), (ascii "JBL_LOCAL_API_TIMEOUT", decimal config.timeout),
    (ascii "JBL_GENA_CALLBACK_PORT", decimal config.genaCallbackPort),
    (ascii "JBL_BROADCAST_CONFIRMATION", match config.broadcastConfirmation with
      | .ack => ascii "ack"
      | .gena => ascii "gena")]

def configPayload (config : RuntimeConfig) : Bytes :=
  (configEntries config).flatMap fun (key, value) => key ++ 0x3d :: (value ++ [0x0a])

section Install
variable (host : Host) (path : FilePath) (config : RuntimeConfig) (replies : InstallReplies)

/-- Everything before the temporary file. -/
def prepareInstall : Except JblError Unit :=
  if path.parent.isNone then .error .invalidConfig
  else if !replies.createParent then .error .configUnavailable
  else match replies.parentMetadata with
    | none => .error .configUnavailable
    | some parent =>
      if parent.fileType ≠ .directory ∨ parent.uid ≠ host.euid ∨ parent.mode &&& 0o777 ≠ 0o700 then
        .error .configPermissions
      else match replies.existing with
        | .failed => .error .configUnavailable
        | .found metadata =>
          if metadata.fileType = .regular ∧ metadata.uid = host.euid ∧ metadata.mode &&& 0o777 = 0o600 ∧
            metadata.nlink = 1 then .ok () else .error .configPermissions
        | .notFound => .ok ()

def checkValues : Except JblError Unit :=
  if !(validUtf8 config.certificate && safeConfigValue config.certificate) then .error .invalidConfig
  else if !(validUtf8 config.privateKey && safeConfigValue config.privateKey) then .error .invalidConfig
  else if !([config.address, config.tlsSha256, config.expectedModel].all safeConfigValue) then .error .invalidConfig
  else .ok ()

/-- The file as it was created and written. -/
def installedEntry : Entry :=
  let mode := StateRoot.maskedMode 0o600 host.umask
  { metadata := ⟨.regular, host.euid, mode, 1⟩
    readable := host.privileged || mode &&& 0o400 != 0
    content := configPayload config }

def placed : Host :=
  { host with entries := fun other => if other = path then some (installedEntry host config) else host.entries other }

/-- The result, and the machine with the file in place where the rename was reached. -/
def installPrivateConfig : Except JblError Unit × Host :=
  match prepareInstall host path replies with
  | .error error => (.error error, host)
  | .ok () => match checkValues config with
    | .error error => (.error error, host)
    | .ok () =>
      if !(replies.randBytes && replies.openTemporary && replies.writeAll && replies.syncFile && replies.rename) then
        (.error .configUnavailable, host)
      else if !replies.syncParent then (.error .configUnavailable, placed host path config)
      else (.ok (), placed host path config)

end Install

end PlayTogether.Config
