import PlayTogether.Journal.Durability

/-! The first use of a state root. The journal synchronises its own directory but never the
parents of directories it has created, so a pending record is durable exactly where those
directories were durable before. -/

namespace PlayTogether.Journal
open PlayTogether.Library

namespace StateRoot

/-- The directory that opening would make. -/
def freshDirectory (self : StateRoot) : DirectoryMetadata := ⟨true, self.euid, maskedMode 0o700 self.umask⟩

/-- Every crash leaves the root and the application directory. -/
structure DirectoriesDurable (found : StateRoot) : Prop where
  root : found.root.Everywhere fun value => value = true
  application : found.application.Everywhere fun value => value.isSome = true

/-- What opening makes of the two directories. -/
structure Rooted (before after : StateRoot) : Prop where
  absolute : after.absolute = before.absolute
  symlinkFree : after.symlinkFree = before.symlinkFree
  euid : after.euid = before.euid
  umask : after.umask = before.umask
  root : after.root = before.root ∨ before.root.current = false ∧ after.root = before.root.write true
  application : after.application = before.application ∨
    before.application.current = none ∧ after.application = before.application.write (some before.freshDirectory)

theorem Rooted.refl (self : StateRoot) : Rooted self self := ⟨rfl, rfl, rfl, rfl, .inl rfl, .inl rfl⟩

theorem Rooted.trans {first second third : StateRoot} (start : Rooted first second) (next : SameRoot second third) :
    Rooted first third where
  absolute := next.absolute.trans start.absolute
  symlinkFree := next.symlinkFree.trans start.symlinkFree
  euid := next.euid.trans start.euid
  umask := next.umask.trans start.umask
  root := by
    rw [next.root]
    exact start.root
  application := by
    rw [next.application]
    exact start.application

/-- An opened journal stands in a trusted directory. -/
structure RootedPost (before after : StateRoot) (out : Option (Except JournalError JournalState)) : Prop where
  rooted : Rooted before after
  trusted : ∀ state, out = some (.ok state) → before.absolute = true ∧ before.symlinkFree = true ∧
    ∃ metadata, after.application.current = some metadata ∧ validateDirectoryMetadata before.euid metadata = true

theorem Rooted.open_failed {before after : StateRoot} {out : Option (Except JournalError JournalState)}
    (rooted : Rooted before after) (failed : Failed out) : RootedPost before after out :=
  ⟨rooted, fun state returned => absurd returned (failed state)⟩

theorem sameRoot_advance (self : StateRoot) : SameRoot self self.advance := (sameFiles_advance self).same

theorem loadState_root (self : StateRoot) : Ends (fun _ after _ => SameRoot self after) loadState self := by
  refine ends_thenOk (readState_ends .journalFile self) (fun _ _ read => read.same.same)
    (fun _ _ _ read => read.same.same) fun _ middle snapshot first => ?_
  refine ends_thenOk (readState_ends .pendingFile middle) (fun _ _ read => first.same.same.trans read.same.same)
    (fun _ _ _ read => first.same.same.trans read.same.same) fun _ after marker second => ?_
  have reached := first.same.same.trans second.same.same
  rcases marker with _ | _ | action
  · rcases snapshot with _ | _ | action
    · exact ends_pure reached
    · exact ends_pure reached
    · refine ends_thenOk (commit_ends .pendingFile (.pending action) after) ?_ ?_ ?_
      · exact fun _ _ migrated => reached.trans migrated.same
      · exact fun _ _ _ migrated => reached.trans migrated.same
      · exact fun _ _ _ migrated => ends_pure (reached.trans migrated.same)
  · exact ends_pure reached
  · exact ends_pure reached

theorem validateApplication_rooted {before self : StateRoot}
    {rest : Proc JournalEvent StateRoot (Except JournalError JournalState)} (rooted : Rooted before self)
    (next : ∀ metadata, self.application.current = some metadata →
      validateDirectoryMetadata before.euid metadata = true → Ends (fun _ => RootedPost before) rest self) :
    Ends (fun _ => RootedPost before) (validateApplication rest) self := by
  apply ends_get
  rcases found : self.application.current with _ | metadata
  · exact ends_pure (rooted.open_failed (failed_error _))
  · refine check_ends (fun _ => rooted.open_failed) fun valid => next metadata found ?_
    rw [← rooted.euid]
    exact valid

theorem openDirectory_rooted {before self : StateRoot} (rooted : Rooted before self) (absolute : before.absolute = true) :
    Ends (fun _ => RootedPost before) (validateApplication (openDirectory loadState)) self := by
  have opened := rooted.trans (sameRoot_advance self)
  have looked := opened.trans (sameRoot_advance self.advance)
  apply validateApplication_rooted rooted
  intro _ _ _
  apply step_ends (fun _ _ => opened.open_failed) (fun _ _ => opened.open_failed)
  apply ends_get
  apply check_ends (fun _ => opened.open_failed)
  intro plain
  apply step_ends (fun _ _ => looked.open_failed) (fun _ _ => looked.open_failed)
  apply validateApplication_rooted looked
  intro metadata found valid
  apply ends_weaken (loadState_root _)
  intro _ after out same
  refine ⟨looked.trans same, fun state _ => ⟨absolute, opened.symlinkFree.symm.trans plain, metadata, ?_, valid⟩⟩
  rw [same.application]
  exact found

theorem createRoot_rooted (self : StateRoot) : Rooted self self.createRoot := by
  unfold createRoot
  split
  next => exact Rooted.refl self
  next missing => exact ⟨rfl, rfl, rfl, rfl, .inr ⟨Bool.eq_false_iff.mpr missing, rfl⟩, .inl rfl⟩

theorem createRoot_application (self : StateRoot) : self.createRoot.application = self.application := by
  unfold createRoot
  split <;> rfl

/-- A directory is made only where there was none. -/
theorem Rooted.createDirectory {before self : StateRoot} (rooted : Rooted before self)
    (same : self.application = before.application) (missing : self.application.current = none) :
    Rooted before (StateRoot.createDirectory self) where
  absolute := rooted.absolute
  symlinkFree := rooted.symlinkFree
  euid := rooted.euid
  umask := rooted.umask
  root := rooted.root
  application := by
    rw [same] at missing
    refine .inr ⟨missing, ?_⟩
    unfold StateRoot.createDirectory freshDirectory
    rw [← rooted.euid, ← rooted.umask, ← same]

theorem openUnder_rooted (before : StateRoot) : Ends (fun _ => RootedPost before) openUnder before := by
  have here := Rooted.refl before
  apply ends_get
  apply check_ends (fun _ => here.open_failed)
  intro absolute
  have first := here.trans (sameRoot_advance before)
  have made : Rooted before before.advance.createRoot := by
    have moved := createRoot_rooted before.advance
    exact ⟨moved.absolute, moved.symlinkFree, moved.euid, moved.umask, moved.root, moved.application⟩
  have second := made.trans (sameRoot_advance _)
  apply step_ends (fun _ _ => first.open_failed) (fun _ _ => made.open_failed)
  apply step_ends (fun _ _ => second.open_failed) (fun _ _ => second.open_failed)
  apply ends_get
  split
  next => exact openDirectory_rooted second absolute
  next missing =>
    have third := second.trans (sameRoot_advance _)
    have application : before.advance.createRoot.advance.advance.application = before.application :=
      createRoot_application before.advance
    have created := third.createDirectory application (Option.not_isSome_iff_eq_none.mp missing)
    have fourth := created.trans (sameRoot_advance _)
    apply step_ends (fun _ _ => third.open_failed) (fun _ _ => created.open_failed)
    apply step_ends (fun _ _ => fourth.open_failed) (fun _ _ => fourth.open_failed)
    exact openDirectory_rooted fourth absolute

/-! ## After a crash -/

/-- Nothing of the state root is left but the names above it. -/
structure Bare (found : StateRoot) : Prop where
  absolute : found.absolute = true
  symlinkFree : found.symlinkFree = true
  application : found.application.current = none
  snapshot : found.snapshot.current = none
  marker : found.marker.current = none
  faults : found.faults = []

/-- Without a planned fault the computation goes on. -/
theorem step_done {α : Type} {self : StateRoot} (quiet : self.faults = []) (event : JournalEvent)
    (change : StateRoot → StateRoot) (error : JournalError)
    (rest : Proc JournalEvent StateRoot (Except JournalError α)) :
    step event change error rest self = (rest (change self)).after [event] := by
  have advanced : self.advance = self := by
    unfold advance
    rw [quiet]
    exact congrArg _ quiet.symm
  have ran : attempt event change self = ⟨[event], change self, some true⟩ := by
    unfold attempt
    rw [quiet, advanced]
    rfl
  unfold step
  rw [bind_value ran]
  rfl

theorem readState_missing {self : StateRoot} (quiet : self.faults = []) {file : JournalFile}
    (missing : (self.file file).current = none) : readState file self = ⟨[.openEntry file], self, some (.ok none)⟩ := by
  unfold readState
  rw [step_done quiet]
  simp only [get_bind_run, id_eq, missing]
  rfl

theorem loadState_missing {self : StateRoot} (quiet : self.faults = []) (snapshot : self.snapshot.current = none)
    (marker : self.marker.current = none) : (loadState self).out = some (.ok .clean) := by
  have first : readState .journalFile self = _ := readState_missing quiet snapshot
  have second : readState .pendingFile self = _ := readState_missing quiet marker
  simp only [loadState, Proc.thenOk, Proc.andThen, first, second, after_out]
  rfl

theorem openDirectory_trusted {self : StateRoot} (quiet : self.faults = []) (plain : self.symlinkFree = true)
    {metadata : DirectoryMetadata} (found : self.application.current = some metadata)
    (valid : validateDirectoryMetadata self.euid metadata = true) :
    (validateApplication (openDirectory loadState) self).out = (loadState self).out := by
  have passes (rest : Proc JournalEvent StateRoot (Except JournalError JournalState)) :
      validateApplication rest self = rest self := by
    unfold validateApplication
    rw [get_bind_run, found]
    change check _ _ _ self = _
    rw [valid]
    rfl
  rw [passes]
  unfold openDirectory
  rw [step_done quiet]
  change ((check self.symlinkFree _ _ : Proc _ _ _) self).out = _
  rw [plain]
  change (step _ _ _ _ self).out = _
  rw [step_done quiet, after_out]
  exact congrArg Exec.out (passes loadState)

/-- Over a bare root the journal opens clean. -/
theorem openUnder_bare {self : StateRoot} (bare : Bare self)
    (valid : validateDirectoryMetadata self.euid self.freshDirectory = true) :
    (openUnder self).out = some (.ok .clean) := by
  have quiet := bare.faults
  have rooted : self.createRoot.application.current = none ∧ self.createRoot.faults = [] := by
    rw [createRoot_application]
    refine ⟨bare.application, ?_⟩
    unfold createRoot
    split <;> exact quiet
  have made : self.createRoot.createDirectory.faults = [] ∧ self.createRoot.createDirectory.symlinkFree = true ∧
      self.createRoot.createDirectory.application.current = some self.freshDirectory ∧
      self.createRoot.createDirectory.euid = self.euid ∧
      self.createRoot.createDirectory.snapshot.current = none ∧
      self.createRoot.createDirectory.marker.current = none := by
    unfold createRoot
    split <;> exact ⟨quiet, bare.symlinkFree, rfl, rfl, bare.snapshot, bare.marker⟩
  obtain ⟨still, plain, application, euid, snapshot, marker⟩ := made
  change (check self.absolute _ _ self).out = _
  rw [bare.absolute]
  change (step _ _ _ _ self).out = _
  rw [step_done quiet, after_out, step_done rooted.2, after_out]
  change ((if self.createRoot.application.current.isSome then _ else _ : Proc _ _ _) self.createRoot).out = _
  rw [rooted.1]
  change (step _ _ _ _ self.createRoot).out = _
  rw [step_done rooted.2, after_out, step_done still, after_out]
  exact (openDirectory_trusted still plain application (euid.symm ▸ valid)).trans (loadState_missing still snapshot marker)

/-- What a crash may leave of the directories. -/
theorem Crash.lost {before : StateRoot} (lost : ¬before.DirectoriesDurable) :
    ∃ after, Crash before after ∧ after.application.current = none ∧ after.snapshot.current = none ∧
      after.marker.current = none ∧ after.faults = [] := by
  have chosen : ∃ root ∈ before.root.survivors, ∃ application ∈ before.application.survivors,
      (if root then application else none) = none := by
    by_cases rooted : ∀ value ∈ before.root.survivors, value = true
    · have vanished : ¬∀ value ∈ before.application.survivors, value.isSome = true := fun kept => lost ⟨rooted, kept⟩
      push Not at vanished
      obtain ⟨value, member, absent⟩ := vanished
      obtain rfl := Option.not_isSome_iff_eq_none.mp absent
      exact ⟨_, List.mem_cons_self .., none, member, ite_self _⟩
    · push Not at rooted
      obtain ⟨value, member, absent⟩ := rooted
      obtain rfl := Bool.eq_false_iff.mpr absent
      exact ⟨false, member, _, List.mem_cons_self .., rfl⟩
  obtain ⟨root, rooted, application, applied, gone⟩ := chosen
  refine ⟨{ before with
    root := Cell.settled root, application := Cell.settled none, snapshot := Cell.settled none,
    marker := Cell.settled none, faults := [] }, ⟨⟨rfl, rfl, rfl, rfl⟩, ?_, ?_, ?_, ?_⟩, rfl, rfl, rfl, rfl⟩
  · exact ⟨root, rooted, root, rfl, rfl⟩
  · exact ⟨application, applied, none, gone.symm, rfl⟩
  · exact ⟨_, List.mem_cons_self .., none, rfl, rfl⟩
  · exact ⟨_, List.mem_cons_self .., none, rfl, rfl⟩

/-- A durable marker survives with its directory. -/
theorem Crash.keeps_marker_with_directory {before after : StateRoot} (crash : Crash before after)
    (present : after.application.current.isSome = true) (marked : MarkerPending .durable before) :
    MarkerPending .durable after := by
  obtain ⟨-, -, euid, -⟩ := crash.same
  unfold MarkerPending Cell.Holds at marked ⊢
  rw [euid]
  refine Cell.everywhere_crash crash.marker ?_ marked
  intro value after pending survived
  obtain ⟨action, entry, rfl, valid, content, synced⟩ := pending
  rw [if_pos present] at survived
  exact ⟨action, entry, survived synced, valid, content, synced⟩

theorem Crash.keeps_directories {before after : StateRoot} (crash : Crash before after)
    (durable : before.DirectoriesDurable) : after.application.current.isSome = true := by
  obtain ⟨root, rooted, _, rfl, stands⟩ := crash.root
  obtain ⟨application, applied, found, same, settled⟩ := crash.application
  rw [stands] at same
  rw [settled]
  change found.isSome = true
  rw [same, durable.root root rooted]
  exact durable.application application applied

/-- Opening loses no survivor of either directory. -/
theorem Rooted.durable_iff {before after : StateRoot} (rooted : Rooted before after) :
    after.DirectoriesDurable ↔ before.DirectoriesDurable := by
  have root : (after.root.Everywhere fun value => value = true) ↔ before.root.Everywhere fun value => value = true := by
    obtain same | ⟨_, made⟩ := rooted.root
    · rw [same]
    · rw [made, Cell.everywhere_write]
      exact and_iff_right rfl
  have application : (after.application.Everywhere fun value => value.isSome = true) ↔
      before.application.Everywhere fun value => value.isSome = true := by
    obtain same | ⟨_, made⟩ := rooted.application
    · rw [same]
    · rw [made, Cell.everywhere_write]
      exact and_iff_right rfl
  constructor
  · intro durable
    exact ⟨root.mp durable.root, application.mp durable.application⟩
  · intro durable
    exact ⟨root.mpr durable.root, application.mpr durable.application⟩

/-- Every file system that a crash can leave makes a new opening fail or report pending. -/
def ReopensPending (self : StateRoot) : Prop :=
  ∀ crashed, Crash self crashed → ∀ state, (openUnder crashed).out = some (.ok state) → state.isPending = true

/-- A marked directory reopens pending exactly when it cannot be lost, or could not be made
again. -/
theorem reopensPending_iff {self : StateRoot} (absolute : self.absolute = true) (plain : self.symlinkFree = true)
    (marked : MarkerPending .durable self) :
    self.ReopensPending ↔
      self.DirectoriesDurable ∨ validateDirectoryMetadata self.euid self.freshDirectory = false := by
  constructor
  · intro pending
    by_contra neither
    push Not at neither
    obtain ⟨lost, valid⟩ := neither
    obtain ⟨crashed, crash, application, snapshot, marker, faults⟩ := Crash.lost lost
    obtain ⟨sameAbsolute, samePlain, euid, umask⟩ := crash.same
    have bare : crashed.Bare :=
      ⟨sameAbsolute.trans absolute, samePlain.trans plain, application, snapshot, marker, faults⟩
    have fresh : validateDirectoryMetadata crashed.euid crashed.freshDirectory = true := by
      unfold freshDirectory
      rw [euid, umask]
      exact (Bool.not_eq_false _).mp valid
    exact absurd (pending crashed crash .clean (openUnder_bare bare fresh)) (by decide)
  · intro safe crashed crash state returned
    have opened : RootedPost crashed _ _ := openUnder_rooted crashed
    obtain ⟨-, -, metadata, found, valid⟩ := opened.trusted state returned
    have present : crashed.application.current.isSome = true := by
      cases safe with
      | inl durable => exact crash.keeps_directories durable
      | inr invalid =>
        obtain same | ⟨missing, made⟩ := opened.rooted.application
        · rw [← same, found]
          rfl
        · -- A directory made now would not have been trusted.
          rw [made] at found
          obtain rfl : crashed.freshDirectory = metadata := Option.some.inj found
          unfold freshDirectory at invalid valid
          rw [crash.same.2.2.1, crash.same.2.2.2] at valid
          rw [valid] at invalid
          cases invalid
    have kept := crash.keeps_marker_with_directory present marked
    have reopened : OpenPost crashed _ _ := openUnder_ends crashed
    exact reopened.pending .durable kept state returned

end StateRoot

namespace FileUncertaintyJournal
open StateRoot

/-- Once opening and marking have returned, the record is durable exactly when the state root
and the application directory were durable before, or the umask keeps the journal from making
a directory that it trusts. -/
theorem marking_is_durable_iff {found : StateRoot} {action : JournalAction} {state : JournalState}
    (opened : (openUnder found).out = some (.ok state))
    (marked : (markPending action ⟨(openUnder found).state, state⟩).out = some (.ok ())) :
    (markPending action ⟨(openUnder found).state, state⟩).state.directory.ReopensPending ↔
      found.DirectoriesDurable ∨ validateDirectoryMetadata found.euid found.freshDirectory = false := by
  have opening : RootedPost found _ _ := openUnder_rooted found
  have marking : MarkPost action _ _ _ := markPending_ends action ⟨(openUnder found).state, state⟩
  obtain ⟨absolute, plain, -⟩ := opening.trusted state opened
  have reached := opening.rooted.trans marking.same
  have iff := reopensPending_iff (reached.absolute.trans absolute) (reached.symlinkFree.trans plain)
    (marking.marked marked .durable)
  rw [iff, reached.durable_iff]
  unfold freshDirectory
  rw [reached.euid, reached.umask]

/-- In an established directory. -/
theorem marking_is_durable_when_established :
    (markPending .start ⟨(openUnder StateRoot.empty).state, .clean⟩).state.directory.ReopensPending := by
  have opened : (openUnder StateRoot.empty).out = some (.ok .clean) := by decide
  refine (marking_is_durable_iff opened (by decide)).mpr (.inl ⟨?_, ?_⟩)
  · exact Cell.everywhere_settled rfl
  · exact Cell.everywhere_settled rfl

/-- A state root without the application directory. -/
def firstUse : StateRoot := { StateRoot.empty with application := Cell.settled none }

/-- The directory is made and marked, its parent is not synchronised, and the host crashes. -/
theorem first_mark_is_lost :
    (openUnder firstUse).out = some (.ok .clean) ∧
    (markPending .start ⟨(openUnder firstUse).state, .clean⟩).out = some (.ok ()) ∧
    ¬(markPending .start ⟨(openUnder firstUse).state, .clean⟩).state.directory.ReopensPending := by
  have opened : (openUnder firstUse).out = some (.ok .clean) := by decide
  have marked : (markPending .start ⟨(openUnder firstUse).state, .clean⟩).out = some (.ok ()) := by decide
  refine ⟨opened, marked, ?_⟩
  have marking : MarkPost .start _ _ _ := markPending_ends .start ⟨(openUnder firstUse).state, .clean⟩
  rw [reopensPending_iff (by decide) (by decide) (marking.marked marked .durable)]
  intro safe
  cases safe with
  | inl durable => exact absurd (durable.application none (by decide)) (by decide)
  | inr invalid => exact absurd invalid (by decide)

end FileUncertaintyJournal

end PlayTogether.Journal
