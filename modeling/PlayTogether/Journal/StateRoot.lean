import PlayTogether.Library.Durable
import PlayTogether.Library.Proc

/-! The state directory under the uncertainty journal. Every file operation can fail
or be the last one of its process, and its effect may have taken place in either case. -/

namespace PlayTogether.Journal
open PlayTogether.Library

inductive Payload where
  | text (content : String)
  | undecodable (length : Nat)
  deriving DecidableEq, Repr

def Payload.length : Payload → Nat
  | .text content => content.utf8ByteSize
  | .undecodable length => length

/-- A directory entry that is not a directory. Its content is durable once it was
synchronised. -/
structure FileEntry where
  isFile : Bool
  uid : Nat
  mode : Nat
  nlink : Nat
  payload : Payload
  synced : Bool
  deriving DecidableEq, Repr

structure DirectoryMetadata where
  isDir : Bool
  uid : Nat
  mode : Nat
  deriving DecidableEq, Repr

/-- What happens to one file operation. -/
inductive StepReply where
  | done
  | failed (applied : Bool)
  | killed (applied : Bool)
  deriving DecidableEq, Repr

inductive JournalFile where
  | journalFile
  | pendingFile
  deriving DecidableEq, Repr

inductive JournalEvent where
  | createRoot
  | statDirectory
  | createDirectory
  | openDirectory
  | openEntry (file : JournalFile)
  | statEntry (file : JournalFile)
  | readEntry (file : JournalFile)
  | randBytes
  | createTemporary
  | statTemporary
  | writeTemporary
  | syncTemporary
  | renameTemporary (target : JournalFile)
  | syncDirectory
  | unlinkTemporary
  | unlinkPending
  deriving DecidableEq, Repr

/-- A state root and its application directory. A rename or unlink inside the directory
is durable only after the directory was synchronised, and a created directory only after
its parent was, which this program never does. -/
structure StateRoot where
  absolute : Bool
  symlinkFree : Bool
  euid : Nat
  umask : Nat
  root : Cell Bool
  application : Cell (Option DirectoryMetadata)
  snapshot : Cell (Option FileEntry)
  marker : Cell (Option FileEntry)
  temporary : Option FileEntry
  faults : List StepReply
  deriving DecidableEq, Repr

namespace StateRoot

def file (target : JournalFile) (self : StateRoot) : Cell (Option FileEntry) :=
  match target with
  | .journalFile => self.snapshot
  | .pendingFile => self.marker

def advance (self : StateRoot) : StateRoot := { self with faults := self.faults.tail }

/-- One file operation. Without a planned fault it succeeds. -/
def attempt (event : JournalEvent) (change : StateRoot → StateRoot) : Proc JournalEvent StateRoot Bool :=
  fun self => match self.faults.head? with
    | none | some .done => ⟨[event], change self.advance, some true⟩
    | some (.failed applied) => ⟨[event], if applied then change self.advance else self.advance, some false⟩
    | some (.killed true) => ⟨[event], change self.advance, none⟩
    | some (.killed false) => ⟨[], self.advance, none⟩

def maskedMode (mode umask : Nat) : Nat := mode &&& (0o777 ^^^ (umask &&& 0o777))

def createRoot (self : StateRoot) : StateRoot :=
  if self.root.current then self else { self with root := self.root.write true }

def createDirectory (self : StateRoot) : StateRoot :=
  { self with application := self.application.write (some ⟨true, self.euid, maskedMode 0o700 self.umask⟩) }

def createTemporary (self : StateRoot) : StateRoot :=
  { self with temporary := some ⟨true, self.euid, maskedMode 0o600 self.umask, 1, .text "", false⟩ }

def writeTemporary (content : String) (self : StateRoot) : StateRoot :=
  { self with temporary := self.temporary.map fun entry => { entry with payload := .text content } }

def syncTemporary (self : StateRoot) : StateRoot :=
  { self with temporary := self.temporary.map fun entry => { entry with synced := true } }

/-- A rename replaces its target in one step. -/
def renameTemporary (target : JournalFile) (self : StateRoot) : StateRoot :=
  match target with
  | .journalFile => { self with snapshot := self.snapshot.write self.temporary, temporary := none }
  | .pendingFile => { self with marker := self.marker.write self.temporary, temporary := none }

def syncDirectory (self : StateRoot) : StateRoot :=
  { self with snapshot := self.snapshot.sync, marker := self.marker.sync }

def unlinkTemporary (self : StateRoot) : StateRoot := { self with temporary := none }

def unlinkPending (self : StateRoot) : StateRoot := { self with marker := self.marker.write none }

/-- What a host crash makes of a file: a synchronised one comes back as it was. -/
def FileSurvives (before after : Option FileEntry) : Prop :=
  match before with
  | none => after = none
  | some entry => entry.synced = true → after = some entry

/-- A host crash. Files are lost with their directory. -/
structure Crash (before after : StateRoot) : Prop where
  same : after.absolute = before.absolute ∧ after.symlinkFree = before.symlinkFree ∧
    after.euid = before.euid ∧ after.umask = before.umask
  root : Cell.Crash Eq before.root after.root
  application : Cell.Crash (fun value found => found = if after.root.current then value else none)
    before.application after.application
  snapshot : Cell.Crash (fun value found => if after.application.current.isSome then FileSurvives value found
    else found = none) before.snapshot after.snapshot
  marker : Cell.Crash (fun value found => if after.application.current.isSome then FileSurvives value found
    else found = none) before.marker after.marker

/-- The application directory exists and so does its entry on disk. -/
structure Established (found : StateRoot) : Prop where
  root : found.root = Cell.settled true
  application : ∃ metadata, found.application = Cell.settled (some metadata)

/-- An established, empty state directory whose file operations all succeed. -/
def empty : StateRoot :=
  ⟨true, true, 1000, 0o022, Cell.settled true, Cell.settled (some ⟨true, 1000, 0o700⟩), Cell.settled none,
    Cell.settled none, none, []⟩

theorem empty_established : empty.Established := ⟨rfl, _, rfl⟩

theorem attempt_cases (event : JournalEvent) (change : StateRoot → StateRoot) (self : StateRoot) :
    attempt event change self = ⟨[event], change self.advance, some true⟩ ∨
    (∃ next, (next = self.advance ∨ next = change self.advance) ∧ attempt event change self = ⟨[event], next, some false⟩) ∨
    attempt event change self = ⟨[event], change self.advance, none⟩ ∨
    attempt event change self = ⟨[], self.advance, none⟩ := by
  unfold attempt
  rcases self.faults.head? with _ | _ | (_ | _) | (_ | _)
  · exact .inl rfl
  · exact .inl rfl
  · exact .inr (.inl ⟨_, .inl rfl, rfl⟩)
  · exact .inr (.inl ⟨_, .inr rfl, rfl⟩)
  · exact .inr (.inr (.inr rfl))
  · exact .inr (.inr (.inl rfl))

end StateRoot

end PlayTogether.Journal
