import PlayTogether.Journal.StateRoot

/-! The crash-persistent uncertainty journal. A pending record is committed before an
action begins; it is replaced by a clean one only after the action was acknowledged. -/

namespace PlayTogether.Journal
open PlayTogether.Library

def maxJournalBytes : Nat := 128

inductive JournalAction where
  | start
  | stop
  | shutdown
  | recoverStop
  deriving DecidableEq, Repr

def JournalAction.label : JournalAction → String
  | .start => "start"
  | .stop => "stop"
  | .shutdown => "shutdown"
  | .recoverStop => "recover-stop"

def JournalAction.parse (value : String) : Option JournalAction :=
  if value = "start" then some .start
  else if value = "stop" then some .stop
  else if value = "shutdown" then some .shutdown
  else if value = "recover-stop" then some .recoverStop
  else none

inductive JournalState where
  | clean
  | pending (action : JournalAction)
  deriving DecidableEq, Repr

def JournalState.isPending : JournalState → Bool
  | .clean => false
  | .pending _ => true

inductive JournalError where
  | stateDirectoryUnavailable
  | stateDirectoryUntrusted
  | journalUntrusted
  | journalInvalid
  | journalWriteFailed
  deriving DecidableEq, Repr

/-- The controller's view of a journal. The event type is what the journal itself issues
to its storage. -/
class UncertaintyJournal (J : Type) (γ : outParam Type) where
  isPending : J → Bool
  markPending : JournalAction → Proc γ J (Except JournalError Unit)
  clear : Proc γ J (Except JournalError Unit)

def encodeState : JournalState → String
  | .clean => "version=1\nstate=clean\n"
  | .pending action => "version=1\nstate=pending\naction=" ++ action.label ++ "\n"

def stripPrefix ( start text : String) : Option String :=
  if start.toList.isPrefixOf text.toList then some (String.ofList (text.toList.drop start.length)) else none

def stripSuffix (last : Char) (text : String) : Option String :=
  if text.toList.getLast? = some last then some (String.ofList text.toList.dropLast) else none

def parseState (payload : String) : Option JournalState :=
  if payload = "version=1\nstate=clean\n" then some .clean
  else do
    let rest ← stripPrefix "version=1\nstate=pending\naction=" payload
    let action ← stripSuffix '\n' rest
    let action ← JournalAction.parse action
    some (.pending action)

theorem parseState_encodeState (state : JournalState) : parseState (encodeState state) = some state := by
  rcases state with _ | action
  · decide
  · cases action <;> decide

theorem encodeState_short (state : JournalState) : (encodeState state).utf8ByteSize ≤ maxJournalBytes := by
  rcases state with _ | action
  · decide
  · cases action <;> decide

def validateDirectoryMetadata (euid : Nat) (metadata : DirectoryMetadata) : Bool :=
  metadata.isDir && metadata.uid == euid && metadata.mode &&& 0o777 == 0o700

def validateJournalMetadata (euid : Nat) (entry : FileEntry) (enforceSize : Bool) : Bool :=
  entry.isFile && entry.uid == euid && entry.mode &&& 0o777 == 0o600 && entry.nlink == 1 &&
    !(enforceSize && decide (maxJournalBytes < entry.payload.length))

namespace StateRoot

/-- A file operation whose failure ends the computation with the given error. -/
def step {α : Type} (event : JournalEvent) (change : StateRoot → StateRoot) (error : JournalError)
    (rest : Proc JournalEvent StateRoot (Except JournalError α)) :
    Proc JournalEvent StateRoot (Except JournalError α) := do
  if ← attempt event change then rest else pure (.error error)

def check {α : Type} (condition : Bool) (error : JournalError)
    (rest : Proc JournalEvent StateRoot (Except JournalError α)) :
    Proc JournalEvent StateRoot (Except JournalError α) :=
  if condition then rest else pure (.error error)

def parsePayload : Payload → Except JournalError (Option JournalState)
  | .undecodable _ => .error .journalInvalid
  | .text payload =>
    if maxJournalBytes < payload.utf8ByteSize then .error .journalInvalid
    else match parseState payload with
      | some state => .ok (some state)
      | none => .error .journalInvalid

def readState (file : JournalFile) : Proc JournalEvent StateRoot (Except JournalError (Option JournalState)) :=
  step (.openEntry file) id .journalUntrusted do
    let self ← Proc.get
    match (self.file file).current with
    | none => pure (.ok none)
    | some entry =>
      step (.statEntry file) id .journalUntrusted <|
      check (validateJournalMetadata self.euid entry true) .journalUntrusted <|
      step (.readEntry file) id .journalInvalid <|
      pure (parsePayload entry.payload)

/-- Write, synchronise and rename the temporary, then synchronise the directory. -/
def publish (target : JournalFile) (state : JournalState) :
    Proc JournalEvent StateRoot (Except JournalError Unit) :=
  step .writeTemporary (writeTemporary (encodeState state)) .journalWriteFailed <|
  step .syncTemporary syncTemporary .journalWriteFailed <|
  step (.renameTemporary target) (renameTemporary target) .journalWriteFailed <|
  step .syncDirectory syncDirectory .journalWriteFailed <|
  pure (.ok ())

/-- A failed publication removes its temporary if it can. -/
def discardFailed (result : Except JournalError Unit) : Proc JournalEvent StateRoot (Except JournalError Unit) :=
  match result with
  | .ok () => pure (.ok ())
  | .error error => do
    let _ ← attempt .unlinkTemporary unlinkTemporary
    pure (.error error)

def commit (target : JournalFile) (state : JournalState) : Proc JournalEvent StateRoot (Except JournalError Unit) :=
  step .randBytes id .journalWriteFailed <|
  step .createTemporary createTemporary .journalWriteFailed <|
  step .statTemporary id .journalWriteFailed do
    let self ← Proc.get
    match self.temporary with
    | none => pure (.error .journalWriteFailed)
    | some entry => check (validateJournalMetadata self.euid entry false) .journalWriteFailed do
      let result ← publish target state
      discardFailed result

def validateApplication (rest : Proc JournalEvent StateRoot (Except JournalError JournalState)) :
    Proc JournalEvent StateRoot (Except JournalError JournalState) := do
  let self ← Proc.get
  match self.application.current with
  | none => pure (.error .stateDirectoryUnavailable)
  | some metadata => check (validateDirectoryMetadata self.euid metadata) .stateDirectoryUntrusted rest

/-- The marker is the authority; a lone pending snapshot of the original one-file
journal is migrated before any controller sees it. -/
def loadState : Proc JournalEvent StateRoot (Except JournalError JournalState) :=
  Proc.thenOk (readState .journalFile) fun snapshot =>
  Proc.thenOk (readState .pendingFile) fun marker =>
  match marker with
  | some .clean => pure (.error .journalInvalid)
  | some (.pending action) => pure (.ok (.pending action))
  | none => match snapshot with
    | none | some .clean => pure (.ok .clean)
    | some (.pending action) => Proc.thenOk (commit .pendingFile (.pending action)) fun _ => pure (.ok (.pending action))

def openDirectory (rest : Proc JournalEvent StateRoot (Except JournalError JournalState)) :
    Proc JournalEvent StateRoot (Except JournalError JournalState) :=
  step .openDirectory id .stateDirectoryUntrusted do
    let self ← Proc.get
    check self.symlinkFree .stateDirectoryUntrusted <|
    step .statDirectory id .stateDirectoryUntrusted <|
    validateApplication rest

def openUnder : Proc JournalEvent StateRoot (Except JournalError JournalState) := do
  let self ← Proc.get
  check self.absolute .stateDirectoryUntrusted <|
  step .createRoot createRoot .stateDirectoryUnavailable <|
  step .statDirectory id .stateDirectoryUnavailable do
    let self ← Proc.get
    if self.application.current.isSome then validateApplication (openDirectory loadState)
    else
      step .createDirectory createDirectory .stateDirectoryUnavailable <|
      step .statDirectory id .stateDirectoryUnavailable <|
      validateApplication (openDirectory loadState)

end StateRoot

/-- Owner-only journal used by the service. -/
structure FileUncertaintyJournal where
  directory : StateRoot
  state : JournalState
  deriving DecidableEq, Repr

namespace FileUncertaintyJournal

def directoryField : Lens StateRoot FileUncertaintyJournal :=
  ⟨fun self => self.directory, fun directory self => { self with directory }⟩

def onDirectory {α : Type} (p : Proc JournalEvent StateRoot α) : Proc JournalEvent FileUncertaintyJournal α :=
  p.zoom directoryField id

def isPending (self : FileUncertaintyJournal) : Bool := self.state.isPending

/-- Memory is latched first: even a partly published marker must stop later writes. -/
def markPending (action : JournalAction) : Proc JournalEvent FileUncertaintyJournal (Except JournalError Unit) := do
  Proc.modify fun self => { self with state := .pending action }
  Proc.thenOk (onDirectory (StateRoot.commit .pendingFile (.pending action))) fun _ =>
    onDirectory (StateRoot.commit .journalFile (.pending action))

/-- The unlink is not synchronised: a crash may bring the durable marker back, but it
never turns a reported failure into a clean restart. -/
def unlinkPending : Proc JournalEvent FileUncertaintyJournal (Except JournalError Unit) := do
  if ← onDirectory (StateRoot.attempt .unlinkPending StateRoot.unlinkPending) then
    Proc.modify fun self => { self with state := .clean }
    pure (.ok ())
  else pure (.error .journalWriteFailed)

def clear : Proc JournalEvent FileUncertaintyJournal (Except JournalError Unit) :=
  Proc.thenOk (onDirectory (StateRoot.commit .journalFile .clean)) fun _ => unlinkPending

instance : UncertaintyJournal FileUncertaintyJournal JournalEvent where
  isPending := isPending
  markPending := markPending
  clear := clear

end FileUncertaintyJournal

end PlayTogether.Journal
