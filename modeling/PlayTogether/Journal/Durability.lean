import PlayTogether.Journal.Uncertainty

/-! What every journal operation makes of the two journal files, whichever of its file
operations fails or is the last one of its process. -/

namespace PlayTogether.Journal
open PlayTogether.Library

namespace StateRoot

/-- Everything but the two journal files, the temporary and the planned faults. -/
structure SameRoot (before after : StateRoot) : Prop where
  absolute : after.absolute = before.absolute
  symlinkFree : after.symlinkFree = before.symlinkFree
  euid : after.euid = before.euid
  umask : after.umask = before.umask
  root : after.root = before.root
  application : after.application = before.application

theorem SameRoot.refl (self : StateRoot) : SameRoot self self := ⟨rfl, rfl, rfl, rfl, rfl, rfl⟩

theorem SameRoot.trans {first second third : StateRoot} (start : SameRoot first second)
    (next : SameRoot second third) : SameRoot first third :=
  ⟨next.absolute.trans start.absolute, next.symlinkFree.trans start.symlinkFree, next.euid.trans start.euid,
    next.umask.trans start.umask, next.root.trans start.root, next.application.trans start.application⟩

theorem SameRoot.established {before after : StateRoot} (same : SameRoot before after)
    (established : before.Established) : after.Established := by
  obtain ⟨metadata, found⟩ := established.application
  exact ⟨same.root.trans established.root, metadata, same.application.trans found⟩

/-- A file operation that failed, or was the last one, may have taken effect or not. -/
theorem attempt_ends (event : JournalEvent) (change : StateRoot → StateRoot) (self : StateRoot) :
    Ends (fun trace after out => (out = some true → trace = [event] ∧ after = change self.advance) ∧
      (after = self.advance ∨ after = change self.advance) ∧ (event ∉ trace → after = self.advance))
      (attempt event change) self := by
  unfold Ends
  rcases attempt_cases event change self with run | ⟨after, stands, run⟩ | run | run
  · rw [run]
    exact ⟨fun _ => ⟨rfl, rfl⟩, .inr rfl, by simp⟩
  · rw [run]
    exact ⟨by simp, stands, by simp⟩
  · rw [run]
    exact ⟨by simp, .inr rfl, by simp⟩
  · rw [run]
    exact ⟨by simp, .inl rfl, fun _ => rfl⟩

section Step
variable {α : Type} {event : JournalEvent} {change : StateRoot → StateRoot} {error : JournalError}
  {rest : Proc JournalEvent StateRoot (Except JournalError α)} {self : StateRoot}
  {post : List JournalEvent → StateRoot → Option (Except JournalError α) → Prop}

/-- The computation goes on only behind the effect of the operation. -/
theorem step_ends (untouched : ∀ trace out, Failed out → post trace self.advance out)
    (applied : ∀ trace out, Failed out → post trace (change self.advance) out)
    (next : Ends (fun later => post (event :: later)) rest (change self.advance)) :
    Ends post (step event change error rest) self := by
  refine ends_bind (attempt_ends event change self) ?_ ?_
  · intro trace after attempted
    rcases attempted.2.1 with rfl | rfl
    · exact untouched _ _ failed_none
    · exact applied _ _ failed_none
  · intro trace after done attempted
    obtain ⟨succeeded, stands, -⟩ := attempted
    cases done with
    | false =>
      rcases stands with rfl | rfl
      · exact untouched _ _ (failed_error error)
      · exact applied _ _ (failed_error error)
    | true =>
      obtain ⟨rfl, rfl⟩ := succeeded rfl
      exact next

theorem check_ends {condition : Bool} (refused : ∀ out, Failed out → post [] self out)
    (next : condition = true → Ends post rest self) : Ends post (check condition error rest) self := by
  unfold check
  cases condition with
  | false => exact refused _ (failed_error error)
  | true => exact next rfl

end Step

/-- A journal entry that reopening reads back as the given state, also after a crash. -/
def Readable (euid : Nat) (state : JournalState) (value : Option FileEntry) : Prop :=
  ∃ entry, value = some entry ∧ validateJournalMetadata euid entry true = true ∧
    entry.payload = .text (encodeState state) ∧ entry.synced = true

/-- What a publication can make of its target. -/
inductive Published (good : Option FileEntry → Prop) (before : Cell (Option FileEntry)) :
    Cell (Option FileEntry) → Prop where
  | unchanged : Published good before before
  | written {value : Option FileEntry} (fine : good value) : Published good before (before.write value)
  | synced {value : Option FileEntry} (fine : good value) : Published good before (before.write value).sync

/-- Another publication can only have synchronised the file. -/
inductive Bystander (before : Cell (Option FileEntry)) : Cell (Option FileEntry) → Prop where
  | unchanged : Bystander before before
  | synced : Bystander before before.sync

structure CommitPost (target : JournalFile) (state : JournalState) (before after : StateRoot)
    (out : Option (Except JournalError Unit)) : Prop where
  same : SameRoot before after
  published : Published (Readable before.euid state) (before.file target) (after.file target)
  other : ∀ file, file ≠ target → Bystander (before.file file) (after.file file)
  committed : out = some (.ok ()) → ∃ entry, Readable before.euid state (some entry) ∧
    after.file target = Cell.settled (some entry)

/-- Both files as they were. -/
structure SameFiles (before after : StateRoot) : Prop where
  same : SameRoot before after
  files : ∀ file, after.file file = before.file file

theorem SameFiles.refl (self : StateRoot) : SameFiles self self := ⟨.refl self, fun _ => rfl⟩

theorem SameFiles.trans {first second third : StateRoot} (start : SameFiles first second)
    (next : SameFiles second third) : SameFiles first third :=
  ⟨start.same.trans next.same, fun file => (next.files file).trans (start.files file)⟩

theorem sameFiles_advance (self : StateRoot) : SameFiles self self.advance :=
  ⟨⟨rfl, rfl, rfl, rfl, rfl, rfl⟩, fun file => by cases file <;> rfl⟩

theorem sameFiles_createTemporary (self : StateRoot) : SameFiles self self.createTemporary :=
  ⟨⟨rfl, rfl, rfl, rfl, rfl, rfl⟩, fun file => by cases file <;> rfl⟩

theorem sameFiles_writeTemporary (content : String) (self : StateRoot) :
    SameFiles self (self.writeTemporary content) :=
  ⟨⟨rfl, rfl, rfl, rfl, rfl, rfl⟩, fun file => by cases file <;> rfl⟩

theorem sameFiles_syncTemporary (self : StateRoot) : SameFiles self self.syncTemporary :=
  ⟨⟨rfl, rfl, rfl, rfl, rfl, rfl⟩, fun file => by cases file <;> rfl⟩

theorem sameFiles_unlinkTemporary (self : StateRoot) : SameFiles self self.unlinkTemporary :=
  ⟨⟨rfl, rfl, rfl, rfl, rfl, rfl⟩, fun file => by cases file <;> rfl⟩

theorem SameFiles.commit_failed {target : JournalFile} {state : JournalState} {before after : StateRoot}
    {out : Option (Except JournalError Unit)} (same : SameFiles before after)
    (failed : Failed out) : CommitPost target state before after out := by
  refine ⟨same.same, ?_, fun file _ => ?_, ?_⟩
  · rw [same.files]
    exact .unchanged
  · rw [same.files]
    exact .unchanged
  · intro committed
    exact absurd committed (failed ())

/-- The temporary is a fresh private file. -/
def PrivateTemporary (self : StateRoot) : Prop :=
  ∃ entry, self.temporary = some entry ∧ validateJournalMetadata self.euid entry false = true

theorem readable_written {euid : Nat} {entry : FileEntry} (state : JournalState)
    (valid : validateJournalMetadata euid entry false = true) :
    Readable euid state (some { entry with payload := .text (encodeState state), synced := true }) := by
  refine ⟨_, rfl, ?_, rfl, rfl⟩
  have short : ¬maxJournalBytes < (encodeState state).utf8ByteSize := Nat.not_lt.mpr (encodeState_short state)
  simpa [validateJournalMetadata, Payload.length, short] using valid

theorem renamed_files (target : JournalFile) (self : StateRoot) :
    (renameTemporary target self).file target = (self.file target).write self.temporary ∧
      ∀ file, file ≠ target → (renameTemporary target self).file file = self.file file := by
  cases target with
  | journalFile => exact ⟨rfl, fun file other => by cases file <;> trivial⟩
  | pendingFile => exact ⟨rfl, fun file other => by cases file <;> trivial⟩

theorem renamed_same (target : JournalFile) (self : StateRoot) : SameRoot self (renameTemporary target self) := by
  cases target <;> exact ⟨rfl, rfl, rfl, rfl, rfl, rfl⟩

theorem synced_file (file : JournalFile) (self : StateRoot) : (syncDirectory self).file file = (self.file file).sync := by
  cases file <;> rfl

section Publish
variable {before self : StateRoot} {target : JournalFile} {state : JournalState}

theorem renamed_post {after : StateRoot} {out : Option (Except JournalError Unit)} (same : SameFiles before self)
    (readable : Readable before.euid state self.temporary) (stands : SameFiles (renameTemporary target self) after)
    (failed : Failed out) : CommitPost target state before after out := by
  obtain ⟨mine, others⟩ := renamed_files target self
  refine ⟨(same.same.trans (renamed_same target self)).trans stands.same, ?_, fun file other => ?_, ?_⟩
  · rw [stands.files, mine, same.files]
    exact .written readable
  · rw [stands.files, others file other, same.files]
    exact .unchanged
  · intro committed
    exact absurd committed (failed ())

theorem synced_post {middle : StateRoot} (out : Option (Except JournalError Unit)) (same : SameFiles before self)
    (readable : Readable before.euid state self.temporary) (stands : SameFiles (renameTemporary target self) middle) :
    CommitPost target state before (syncDirectory middle) out := by
  obtain ⟨mine, others⟩ := renamed_files target self
  have reached : SameRoot middle (syncDirectory middle) := ⟨rfl, rfl, rfl, rfl, rfl, rfl⟩
  refine ⟨((same.same.trans (renamed_same target self)).trans stands.same).trans reached, ?_, fun file other => ?_, ?_⟩
  · rw [synced_file, stands.files, mine, same.files]
    exact .synced readable
  · rw [synced_file, stands.files, others file other, same.files]
    exact .synced
  · intro _
    obtain ⟨entry, found, valid⟩ := readable
    refine ⟨entry, ⟨entry, rfl, valid⟩, ?_⟩
    rw [synced_file, stands.files, mine, found]
    rfl

theorem publish_ends (same : SameFiles before self) (fresh : PrivateTemporary self) :
    Ends (fun _ after out => CommitPost target state before after out) (publish target state) self := by
  obtain ⟨entry, found, valid⟩ := fresh
  -- The temporary is empty, then written, then durable, before it takes the name.
  have opened := same.trans (sameFiles_advance self)
  have wrote := opened.trans (sameFiles_writeTemporary (encodeState state) self.advance)
  apply step_ends (fun _ _ => opened.commit_failed)
    (fun _ _ => wrote.commit_failed)
  have reached := wrote.trans (sameFiles_advance _)
  have durable := reached.trans (sameFiles_syncTemporary _)
  apply step_ends (fun _ _ => reached.commit_failed)
    (fun _ _ => durable.commit_failed)
  have ready := durable.trans (sameFiles_advance _)
  have readable : Readable before.euid state
      (writeTemporary (encodeState state) self.advance).advance.syncTemporary.advance.temporary := by
    simpa [writeTemporary, syncTemporary, advance, found] using readable_written state (same.same.euid ▸ valid)
  apply step_ends (fun _ _ => ready.commit_failed)
    (fun _ _ => renamed_post ready readable (.refl _))
  apply step_ends (fun _ _ => renamed_post ready readable (sameFiles_advance _))
    (fun _ out _ => synced_post out ready readable (sameFiles_advance _))
  exact ends_pure (synced_post _ ready readable (sameFiles_advance _))

/-- Removing the temporary touches neither file. -/
theorem discardFailed_ends (result : Except JournalError Unit)
    (reached : CommitPost target state before self (some result)) :
    Ends (fun _ after out => CommitPost target state before after out) (discardFailed result) self := by
  have moved {after : StateRoot} (out : Option (Except JournalError Unit)) (unmoved : SameFiles self after)
      (failed : Failed out) : CommitPost target state before after out := by
    refine ⟨reached.same.trans unmoved.same, ?_, fun file other => ?_, ?_⟩
    · rw [unmoved.files]
      exact reached.published
    · rw [unmoved.files]
      exact reached.other file other
    · intro committed
      exact absurd committed (failed ())
  rcases result with error | _
  · have removed : Ends (fun _ after _ => SameFiles self after) (attempt .unlinkTemporary unlinkTemporary) self := by
      apply ends_weaken (attempt_ends _ _ _)
      intro _ after _ post
      rcases post.2.1 with rfl | rfl
      · exact sameFiles_advance self
      · exact (sameFiles_advance self).trans (sameFiles_unlinkTemporary _)
    apply ends_bind removed (fun _ _ gone => moved _ gone failed_none)
    intro _ _ _ gone
    exact ends_pure (moved _ gone (failed_error error))
  · exact reached

end Publish

theorem commit_ends (target : JournalFile) (state : JournalState) (before : StateRoot) :
    Ends (fun _ after out => CommitPost target state before after out) (commit target state) before := by
  have drawn := sameFiles_advance before
  apply step_ends (fun _ _ => drawn.commit_failed)
    (fun _ _ => drawn.commit_failed)
  have kept := drawn.trans (sameFiles_advance _)
  have created := kept.trans (sameFiles_createTemporary _)
  apply step_ends (fun _ _ => kept.commit_failed)
    (fun _ _ => created.commit_failed)
  have looked := created.trans (sameFiles_advance _)
  apply step_ends (fun _ _ => looked.commit_failed)
    (fun _ _ => looked.commit_failed)
  apply ends_get
  apply check_ends (fun _ => looked.commit_failed)
  intro valid
  apply ends_bind (publish_ends looked ⟨_, rfl, valid⟩) (fun _ _ reached => reached)
  intro trace after result reached
  exact discardFailed_ends result reached

/-- The marker reads back as pending, or would do so whatever a crash leaves of it. -/
def MarkerPending (reach : Cell.Reach) (self : StateRoot) : Prop :=
  self.marker.Holds reach fun value => ∃ action, Readable self.euid (.pending action) value

theorem Published.holds {reach : Cell.Reach} {good holds : Option FileEntry → Prop}
    {before after : Cell (Option FileEntry)} (published : Published good before after)
    (fine : ∀ value, good value → holds value) (all : before.Holds reach holds) : after.Holds reach holds := by
  cases published with
  | unchanged => exact all
  | written here => exact Cell.holds_write (fine _ here) all
  | synced here => exact Cell.holds_settled (fine _ here)

theorem Bystander.holds {reach : Cell.Reach} {holds : Option FileEntry → Prop}
    {before after : Cell (Option FileEntry)} (bystander : Bystander before after) (all : before.Holds reach holds) :
    after.Holds reach holds := by
  cases bystander with
  | unchanged => exact all
  | synced => exact Cell.holds_sync all

section Marker
variable {target : JournalFile} {state : JournalState} {action : JournalAction} {before after : StateRoot}
  {out : Option (Except JournalError Unit)} {reach : Cell.Reach}

theorem CommitPost.keeps_marker (post : CommitPost .pendingFile (.pending action) before after out)
    (marked : MarkerPending reach before) : MarkerPending reach after := by
  unfold MarkerPending
  rw [post.same.euid]
  exact post.published.holds (fun _ readable => ⟨action, readable⟩) marked

theorem CommitPost.marks (post : CommitPost .pendingFile (.pending action) before after (some (.ok ()))) :
    MarkerPending reach after := by
  obtain ⟨entry, readable, found⟩ := post.committed rfl
  have settled : after.marker = Cell.settled (some entry) := found
  unfold MarkerPending
  rw [post.same.euid, settled]
  exact Cell.holds_settled ⟨action, readable⟩

theorem CommitPost.passes_marker (post : CommitPost .journalFile state before after out)
    (marked : MarkerPending reach before) : MarkerPending reach after := by
  unfold MarkerPending
  rw [post.same.euid]
  exact (post.other .pendingFile nofun).holds marked

theorem SameFiles.keeps_marker (same : SameFiles before after) (marked : MarkerPending reach before) :
    MarkerPending reach after := by
  have marker : after.marker = before.marker := same.files .pendingFile
  unfold MarkerPending
  rw [same.same.euid, marker]
  exact marked

end Marker

/-- Reading changes nothing, and what it returns is what the file holds. -/
structure ReadPost (current : Option FileEntry) (before after : StateRoot)
    (out : Option (Except JournalError (Option JournalState))) : Prop where
  same : SameFiles before after
  missing : current = none → ∀ value, out = some (.ok value) → value = none
  found : ∀ entry, current = some entry → ∀ value, out = some (.ok value) → parsePayload entry.payload = .ok value

theorem SameFiles.read_failed {current : Option FileEntry} {before after : StateRoot}
    {out : Option (Except JournalError (Option JournalState))} (same : SameFiles before after) (failed : Failed out) :
    ReadPost current before after out :=
  ⟨same, fun _ value returned => absurd returned (failed value), fun _ _ value returned => absurd returned (failed value)⟩

theorem readState_ends (file : JournalFile) (self : StateRoot) :
    Ends (fun _ => ReadPost (self.file file).current self) (readState file) self := by
  have opened := sameFiles_advance self
  apply step_ends (fun _ _ => opened.read_failed) (fun _ _ => opened.read_failed)
  apply ends_get
  have present : (id self.advance).file file = self.file file := opened.files file
  rw [present]
  rcases (self.file file).current with _ | entry
  · exact ends_pure ⟨opened, by simp, by simp⟩
  · have looked := opened.trans (sameFiles_advance _)
    have reading := looked.trans (sameFiles_advance _)
    apply step_ends (fun _ _ => looked.read_failed) (fun _ _ => looked.read_failed)
    apply check_ends (fun _ => looked.read_failed)
    intro _
    apply step_ends (fun _ _ => reading.read_failed) (fun _ _ => reading.read_failed)
    refine ends_pure ⟨reading, by simp, ?_⟩
    intro entry same value returned
    cases same
    exact Option.some.inj returned

theorem parsePayload_encodeState (state : JournalState) :
    parsePayload (.text (encodeState state)) = .ok (some state) := by
  have short : ¬maxJournalBytes < (encodeState state).utf8ByteSize := Nat.not_lt.mpr (encodeState_short state)
  simp only [parsePayload, short, if_false, parseState_encodeState]

/-- Both files as they were, and an established directory still is one. -/
structure Kept (before after : StateRoot) : Prop where
  euid : after.euid = before.euid
  files : ∀ file, after.file file = before.file file
  established : before.Established → after.Established

theorem SameFiles.kept {before after : StateRoot} (same : SameFiles before after) : Kept before after :=
  ⟨same.same.euid, same.files, same.same.established⟩

theorem Kept.trans {first second third : StateRoot} (start : Kept first second) (next : Kept second third) :
    Kept first third :=
  ⟨next.euid.trans start.euid, fun file => (next.files file).trans (start.files file),
    fun established => next.established (start.established established)⟩

theorem Kept.keeps_marker {before after : StateRoot} (kept : Kept before after) (reach : Cell.Reach)
    (marked : MarkerPending reach before) : MarkerPending reach after := by
  have marker : after.marker = before.marker := kept.files .pendingFile
  unfold MarkerPending
  rw [kept.euid, marker]
  exact marked

/-- What reopening makes of a pending marker. -/
structure OpenPost (before after : StateRoot) (out : Option (Except JournalError JournalState)) : Prop where
  established : before.Established → after.Established
  marker : ∀ reach, MarkerPending reach before → MarkerPending reach after
  pending : ∀ reach, MarkerPending reach before → ∀ state, out = some (.ok state) → state.isPending = true

theorem Kept.open_failed {before after : StateRoot} {out : Option (Except JournalError JournalState)}
    (kept : Kept before after) (failed : Failed out) : OpenPost before after out :=
  ⟨kept.established, kept.keeps_marker, fun _ _ state returned => absurd returned (failed state)⟩

theorem ReadPost.pending {before middle after : StateRoot} {value : Option JournalState} {reach : Cell.Reach}
    (read : ReadPost (middle.file .pendingFile).current middle after (some (.ok value)))
    (kept : Kept before middle) (marked : MarkerPending reach before) : ∃ action, value = some (.pending action) := by
  obtain ⟨action, entry, found, -, content, -⟩ := Cell.holds_current (kept.keeps_marker reach marked)
  have parsed := read.found entry found value rfl
  rw [content, parsePayload_encodeState] at parsed
  exact ⟨action, (Except.ok.inj parsed).symm⟩

theorem loadState_ends {before self : StateRoot} (kept : Kept before self) :
    Ends (fun _ => OpenPost before) loadState self := by
  refine ends_thenOk (readState_ends .journalFile self)
    (fun _ _ read => (kept.trans read.same.kept).open_failed failed_none)
    (fun _ _ error read => (kept.trans read.same.kept).open_failed (failed_error error)) fun _ middle snapshot first => ?_
  have reached := kept.trans first.same.kept
  refine ends_thenOk (readState_ends .pendingFile middle)
    (fun _ _ read => (reached.trans read.same.kept).open_failed failed_none)
    (fun _ _ error read => (reached.trans read.same.kept).open_failed (failed_error error)) fun _ after marker second => ?_
  have arrived := reached.trans second.same.kept
  rcases marker with _ | _ | action
  · have unmarked (reach : Cell.Reach) : ¬MarkerPending reach before := fun marked => by
      simpa using second.pending reached marked
    have nothing {found : StateRoot} {out : Option (Except JournalError JournalState)}
        (established : before.Established → found.Established) : OpenPost before found out :=
      ⟨established, fun reach marked => absurd marked (unmarked reach), fun reach marked => absurd marked (unmarked reach)⟩
    rcases snapshot with _ | _ | action
    · exact ends_pure (nothing arrived.established)
    · exact ends_pure (nothing arrived.established)
    · have migrates {found : StateRoot} {out : Option (Except JournalError Unit)}
          (migrated : CommitPost .pendingFile (.pending action) after found out) :
          before.Established → found.Established :=
        fun established => migrated.same.established (arrived.established established)
      refine ends_thenOk (commit_ends .pendingFile (.pending action) after) ?_ ?_ ?_
      · exact fun _ _ migrated => nothing (migrates migrated)
      · exact fun _ _ _ migrated => nothing (migrates migrated)
      · exact fun _ _ _ migrated => ends_pure (nothing (migrates migrated))
  · exact ends_pure (arrived.open_failed (failed_error _))
  · refine ends_pure ⟨arrived.established, arrived.keeps_marker, ?_⟩
    intro _ _ state same
    cases same
    rfl

theorem validateApplication_ends {before self : StateRoot}
    {rest : Proc JournalEvent StateRoot (Except JournalError JournalState)} (kept : Kept before self)
    (next : Ends (fun _ => OpenPost before) rest self) :
    Ends (fun _ => OpenPost before) (validateApplication rest) self := by
  apply ends_get
  rcases self.application.current with _ | metadata
  · exact ends_pure (kept.open_failed (failed_error _))
  · exact check_ends (fun _ => kept.open_failed) fun _ => next

theorem openDirectory_ends {before self : StateRoot} (kept : Kept before self) :
    Ends (fun _ => OpenPost before) (validateApplication (openDirectory loadState)) self := by
  have opened := kept.trans (sameFiles_advance self).kept
  have looked := opened.trans (sameFiles_advance self.advance).kept
  apply validateApplication_ends kept
  apply step_ends (fun _ _ => opened.open_failed) (fun _ _ => opened.open_failed)
  apply ends_get
  apply check_ends (fun _ => opened.open_failed)
  intro _
  apply step_ends (fun _ _ => looked.open_failed) (fun _ _ => looked.open_failed)
  exact validateApplication_ends looked (loadState_ends looked)

theorem createRoot_kept (self : StateRoot) : Kept self self.createRoot := by
  unfold createRoot
  split
  · exact (SameFiles.refl self).kept
  · next missing =>
    refine ⟨rfl, fun file => by cases file <;> rfl, fun established => ?_⟩
    rw [established.root] at missing
    exact absurd rfl missing

/-- A directory is created only where there was none. -/
theorem createDirectory_kept {self : StateRoot} (missing : ¬self.application.current.isSome = true) :
    Kept self self.createDirectory := by
  refine ⟨rfl, fun file => by cases file <;> rfl, fun established => ?_⟩
  obtain ⟨metadata, found⟩ := established.application
  rw [found] at missing
  exact absurd rfl missing

/-- From any state of the directory, opening never loses a pending marker. -/
theorem openUnder_ends (before : StateRoot) : Ends (fun _ => OpenPost before) openUnder before := by
  have here := (SameFiles.refl before).kept
  apply ends_get
  apply check_ends (fun _ => here.open_failed)
  intro _
  have first := (sameFiles_advance before).kept
  have rooted := first.trans (createRoot_kept _)
  apply step_ends (fun _ _ => first.open_failed) (fun _ _ => rooted.open_failed)
  have second := rooted.trans (sameFiles_advance _).kept
  apply step_ends (fun _ _ => second.open_failed) (fun _ _ => second.open_failed)
  apply ends_get
  split
  · exact openDirectory_ends second
  · next missing =>
    have third := second.trans (sameFiles_advance _).kept
    have created := third.trans (createDirectory_kept missing)
    apply step_ends (fun _ _ => third.open_failed) (fun _ _ => created.open_failed)
    have fourth := created.trans (sameFiles_advance _).kept
    apply step_ends (fun _ _ => fourth.open_failed) (fun _ _ => fourth.open_failed)
    exact openDirectory_ends fourth

theorem Crash.established {before after : StateRoot} (crash : Crash before after) (established : before.Established) :
    after.Established := by
  obtain ⟨metadata, found⟩ := established.application
  obtain ⟨value, survives, kept, rfl, rooted⟩ := crash.root
  rw [established.root] at survives
  obtain rfl : value = true := by simpa [Cell.survivors, Cell.settled] using survives
  obtain ⟨directory, here, result, same, applied⟩ := crash.application
  rw [found] at here
  obtain rfl : directory = some metadata := by simpa [Cell.survivors, Cell.settled] using here
  rw [rooted] at same
  exact ⟨rooted, metadata, by rw [applied, same]; rfl⟩

/-- A durable pending marker survives every host crash of an established directory. -/
theorem Crash.keeps_marker {before after : StateRoot} (crash : Crash before after)
    (established : before.Established) (marked : MarkerPending .durable before) : MarkerPending .durable after := by
  obtain ⟨metadata, found⟩ := (crash.established established).application
  have present : after.application.current.isSome = true := by rw [found]; rfl
  obtain ⟨-, -, euid, -⟩ := crash.same
  unfold MarkerPending Cell.Holds at marked ⊢
  rw [euid]
  refine Cell.everywhere_crash crash.marker ?_ marked
  intro value after pending survived
  obtain ⟨action, entry, rfl, valid, content, synced⟩ := pending
  rw [if_pos present] at survived
  exact ⟨action, entry, survived synced, valid, content, synced⟩

end StateRoot

namespace FileUncertaintyJournal
open StateRoot

/-- However marking ends, memory is latched and an older durable marker is kept. -/
structure MarkPost (action : JournalAction) (before after : FileUncertaintyJournal)
    (out : Option (Except JournalError Unit)) : Prop where
  same : SameRoot before.directory after.directory
  state : after.state = .pending action
  kept : ∀ reach, MarkerPending reach before.directory → MarkerPending reach after.directory
  marked : out = some (.ok ()) → ∀ reach, MarkerPending reach after.directory

theorem onDirectory_ends {α : Type} {post : List JournalEvent → StateRoot → Option α → Prop}
    {p : Proc JournalEvent StateRoot α} {self : FileUncertaintyJournal} (inner : Ends post p self.directory) :
    Ends (fun trace after out => post trace after.directory out ∧ after.state = self.state) (onDirectory p) self := by
  apply ends_zoom
  apply ends_weaken inner
  intro trace after out holds
  simpa [directoryField] using holds

theorem markPending_ends (action : JournalAction) (before : FileUncertaintyJournal) :
    Ends (fun _ => MarkPost action before) (markPending action) before := by
  refine ends_modify (ends_thenOk (onDirectory_ends (commit_ends .pendingFile (.pending action) _)) ?_ ?_ ?_)
  · exact fun _ _ ⟨post, latched⟩ => ⟨post.same, latched, fun _ => post.keeps_marker, by simp⟩
  · exact fun _ _ _ ⟨post, latched⟩ => ⟨post.same, latched, fun _ => post.keeps_marker, by simp⟩
  · intro _ middle _ marking
    obtain ⟨first, latched⟩ := marking
    apply ends_weaken (onDirectory_ends (commit_ends .journalFile (.pending action) _))
    intro _ after out writing
    obtain ⟨second, same⟩ := writing
    have marked (reach : Cell.Reach) : MarkerPending reach after.directory := second.passes_marker first.marks
    exact ⟨first.same.trans second.same, same.trans latched, fun reach _ => marked reach, fun _ => marked⟩

/-- Up to its unlink a clear keeps the marker, and only a completed one cleans memory. -/
structure ClearPost (before : FileUncertaintyJournal) (trace : List JournalEvent) (after : FileUncertaintyJournal)
    (out : Option (Except JournalError Unit)) : Prop where
  same : SameRoot before.directory after.directory
  kept : .unlinkPending ∉ trace → ∀ reach, MarkerPending reach before.directory → MarkerPending reach after.directory
  state : Failed out → after.state = before.state
  cleared : out = some (.ok ()) → after.state = .clean ∧ .unlinkPending ∈ trace

theorem unlinkPending_ends {before middle : FileUncertaintyJournal} (same : SameRoot before.directory middle.directory)
    (kept : ∀ reach, MarkerPending reach before.directory → MarkerPending reach middle.directory)
    (state : middle.state = before.state) : Ends (ClearPost before) unlinkPending middle := by
  have root {after : StateRoot} (stands : after = middle.directory.advance ∨
      after = StateRoot.unlinkPending middle.directory.advance) : SameRoot before.directory after := by
    rcases stands with rfl | rfl
    · exact same.trans (sameFiles_advance _).same
    · exact same.trans ⟨rfl, rfl, rfl, rfl, rfl, rfl⟩
  have marker {after : StateRoot} (untouched : after = middle.directory.advance) (reach : Cell.Reach)
      (marked : MarkerPending reach before.directory) : MarkerPending reach after :=
    untouched ▸ (sameFiles_advance _).keeps_marker (kept reach marked)
  refine ends_bind (onDirectory_ends (attempt_ends .unlinkPending StateRoot.unlinkPending _)) ?_ ?_
  · intro trace after post
    obtain ⟨⟨-, stands, unlinked⟩, unchanged⟩ := post
    exact ⟨root stands, fun missing => marker (unlinked missing), fun _ => unchanged.trans state, by simp⟩
  · intro trace after done post
    obtain ⟨⟨succeeded, stands, unlinked⟩, unchanged⟩ := post
    cases done with
    | false =>
      refine ends_pure ⟨root stands, fun missing => marker (unlinked ?_), fun _ => unchanged.trans state, by simp⟩
      simpa using missing
    | true =>
      have member : JournalEvent.unlinkPending ∈ trace ++ [] := by simp [(succeeded rfl).1]
      refine ends_modify (ends_pure ⟨root stands, fun missing => absurd member missing, ?_, fun _ => ⟨rfl, member⟩⟩)
      exact fun failed => absurd rfl (failed ())

theorem clear_ends (before : FileUncertaintyJournal) : Ends (ClearPost before) clear before := by
  refine ends_thenOk (onDirectory_ends (commit_ends .journalFile .clean _)) ?_ ?_ ?_
  · exact fun _ _ ⟨post, state⟩ => ⟨post.same, fun _ _ => post.passes_marker, fun _ => state, by simp⟩
  · exact fun _ _ _ ⟨post, state⟩ => ⟨post.same, fun _ _ => post.passes_marker, fun _ => state, by simp⟩
  · intro trace middle _ committed
    obtain ⟨post, state⟩ := committed
    apply ends_weaken (unlinkPending_ends post.same (fun _ => post.passes_marker) state)
    intro later after out finished
    refine ⟨finished.same, fun missing => finished.kept fun member => missing ?_, finished.state, fun done => ?_⟩
    · exact List.mem_append_right _ member
    · exact ⟨(finished.cleared done).1, List.mem_append_right _ (finished.cleared done).2⟩

end FileUncertaintyJournal

end PlayTogether.Journal
