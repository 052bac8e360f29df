import Mathlib.Data.Nat.Bitwise
import PlayTogether.Config.RuntimeConfig

/-! An installed configuration read back. -/

namespace PlayTogether.Config
open PlayTogether.Library PlayTogether.Device PlayTogether.Journal

set_option maxRecDepth 20000

/-! ## One line -/

section Line
variable {key value : Bytes} {values : Settings}

/-- What trimming leaves of a value behind its key: the end is the end of the trimmed value. -/
theorem trim_entry (printing : ∀ byte ∈ key, 0x20 < byte ∧ byte < 0x7f) (filled : key ≠ []) (value : Bytes) :
    ∃ kept, trim (key ++ 0x3d :: value) = key ++ 0x3d :: kept ∧ trim kept = trim value := by
  obtain ⟨before, after, leading, trailing, split⟩ := trim_split value
  have bare := trim_bare value
  by_cases empty : trim value = []
  · refine ⟨[], ?_, ?_⟩
    · have blank : Blank value := by
        rw [split, empty, List.nil_append]
        exact leading.append trailing
      have whole : BareEnds (key ++ [0x3d]) := by
        apply bareEnds_of_printing
        intro byte member
        rcases List.mem_append.mp member with inside | last
        · exact printing byte inside
        · rw [List.mem_singleton.mp last]
          decide
      have trimmed := trim_surrounded whole MadeOf.nil blank
      rwa [List.nil_append, List.append_assoc, List.singleton_append] at trimmed
    · rw [empty]
      rfl
  · refine ⟨before ++ trim value, ?_, ?_⟩
    · have whole : BareEnds (key ++ 0x3d :: (before ++ trim value)) := by
        constructor
        · obtain ⟨first, rest, rfl⟩ := List.exists_cons_of_ne_nil filled
          exact printing_front (printing first List.mem_cons_self) _
        · have missing : ∀ char ∈ whiteSpace, 0x3d ∉ char := by decide
          intro char member ends
          exact bare_back empty bare.back leading char member (suffix_of_missing (missing char member) ends)
      have trimmed := trim_surrounded whole MadeOf.nil trailing
      rw [List.nil_append, List.append_assoc, List.cons_append, List.append_assoc, ← split] at trimmed
      exact trimmed
    · have trimmed := trim_surrounded bare leading MadeOf.nil
      rwa [List.append_nil] at trimmed

theorem allowedKeys_printing : ∀ key ∈ allowedKeys, key ≠ [] ∧ 0x3d ∉ key ∧ key.head? ≠ some 0x23 ∧
    ∀ byte ∈ key, 0x20 < byte ∧ byte < 0x7f := by
  have checked : (allowedKeys.all fun key => !key.isEmpty && !key.contains 0x3d && key.head? != some 0x23 &&
      key.all fun byte => decide (0x20 < byte) && decide (byte < 0x7f)) = true := by
    decide
  intro key known
  have here := List.all_eq_true.mp checked key known
  simpa [and_assoc] using here

theorem trim_bareEnds {text : Bytes} (bare : BareEnds text) : trim text = text := by
  have trimmed := trim_surrounded bare MadeOf.nil MadeOf.nil
  rwa [List.nil_append, List.append_nil] at trimmed

/-- A line with a key that is read for the first time adds its value. -/
theorem parseConfigLine_entry (known : key ∈ allowedKeys) (fresh : values key = none) (value : Bytes) :
    parseConfigLine values (key ++ 0x3d :: value) = .ok (values.insert key (unquoted (trim value))) := by
  obtain ⟨filled, clean, uncommented, printing⟩ := allowedKeys_printing key known
  obtain ⟨kept, whole, same⟩ := trim_entry printing filled value
  have listed : allowedKeys.contains key = true := List.contains_iff_mem.mpr known
  have started : ¬((key ++ 0x3d :: kept).isEmpty || (key ++ 0x3d :: kept).head? == some 0x23) = true := by
    obtain ⟨first, rest, rfl⟩ := List.exists_cons_of_ne_nil filled
    simpa using uncommented
  unfold parseConfigLine
  dsimp only
  rw [whole, if_neg started, splitOnce_append clean]
  dsimp only
  rw [trim_bareEnds (bareEnds_of_printing printing), listed, fresh, same]
  rfl

end Line

/-! ## The whole file -/

section File

/-- The values of a list of entries. -/
def settingsOf (entries : List (Bytes × Bytes)) : Settings := fun key => entries.lookup key

/-- An entry as it is read back. -/
def readBack (entry : Bytes × Bytes) : Bytes × Bytes := (entry.1, unquoted (trim entry.2))

theorem extend_cons {values : Settings} {key value : Bytes} {entries : List (Bytes × Bytes)}
    (absent : key ∉ entries.map Prod.fst) :
    (values.insert key value).extend (settingsOf entries) = values.extend (settingsOf ((key, value) :: entries)) := by
  funext name
  unfold Settings.extend Settings.insert settingsOf
  rw [List.lookup_cons]
  by_cases same : name = key
  · subst same
    have missing : entries.lookup name = none := by
      apply List.lookup_eq_none_iff.mpr
      intro entry member
      apply bne_iff_ne.mpr
      intro equal
      rw [equal] at absent
      exact absent (List.mem_map_of_mem member)
    rw [missing, if_pos rfl, beq_self_eq_true]
    rfl
  · rw [if_neg same, beq_false_of_ne same]

/-- Lines with distinct known keys are read one after the other. -/
theorem parse_entries {entries : List (Bytes × Bytes)} (known : ∀ entry ∈ entries, entry.1 ∈ allowedKeys)
    (distinct : (entries.map Prod.fst).Nodup) (clean : ∀ entry ∈ entries, 0x0a ∉ entry.2 ∧ 0x0d ∉ entry.2)
    {values : Settings} (fresh : ∀ entry ∈ entries, values entry.1 = none) :
    (lines (entries.flatMap fun (key, value) => key ++ 0x3d :: (value ++ [0x0a]))).foldlM parseConfigLine values =
      .ok (values.extend (settingsOf (entries.map readBack))) := by
  induction entries generalizing values with
  | nil => rfl
  | cons entry entries ih =>
    obtain ⟨key, value⟩ := entry
    obtain ⟨here, others⟩ := List.forall_mem_cons.mp known
    obtain ⟨cleanHere, cleanOthers⟩ := List.forall_mem_cons.mp clean
    obtain ⟨freshHere, freshOthers⟩ := List.forall_mem_cons.mp fresh
    rw [List.map_cons, List.nodup_cons] at distinct
    dsimp only at distinct
    have printing : ∀ byte ∈ key, 0x20 < byte ∧ byte < 0x7f := (allowedKeys_printing key here).2.2.2
    have feed : 0x0a ∉ key ++ 0x3d :: value := by
      intro member
      rcases List.mem_append.mp member with inside | behind
      · exact absurd (printing _ inside).1 (by decide)
      · exact cleanHere.1 (List.mem_of_ne_of_mem (by decide) behind)
    have carriage : 0x0d ∉ key ++ 0x3d :: value := by
      intro member
      rcases List.mem_append.mp member with inside | behind
      · exact absurd (printing _ inside).1 (by decide)
      · exact cleanHere.2 (List.mem_of_ne_of_mem (by decide) behind)
    have absent : key ∉ (entries.map readBack).map Prod.fst := by
      rw [List.map_map]
      exact distinct.1
    have later : ∀ entry ∈ entries, values.insert key (unquoted (trim value)) entry.1 = none := by
      intro entry member
      have other : entry.1 ≠ key := by
        intro same
        apply distinct.1
        rw [← same]
        exact List.mem_map_of_mem member
      unfold Settings.insert
      rw [if_neg other]
      exact freshOthers entry member
    rw [List.flatMap_cons]
    have shape (rest : Bytes) : key ++ 0x3d :: (value ++ [0x0a]) ++ rest = (key ++ 0x3d :: value) ++ 0x0a :: rest := by
      simp
    dsimp only
    rw [shape, lines_append feed carriage, List.foldlM_cons, parseConfigLine_entry here freshHere]
    have behind := ih others distinct.2 cleanOthers later
    rw [extend_cons absent] at behind
    exact behind

end File

/-! ## What loading leaves in a configuration -/

/-- A required value: trimmed and not empty. -/
def Kept (value : Bytes) : Prop := BareEnds value ∧ value ≠ []

/-- The fields that loading brought into their normal form; the model is not one of them. -/
structure Settled (config : RuntimeConfig) : Prop where
  address : Kept config.address
  certificate : Kept config.certificate ∧ isAbsolute config.certificate = true
  privateKey : Kept config.privateKey ∧ isAbsolute config.privateKey = true
  tlsSha256 : Kept config.tlsSha256
  distinct : config.jblIdentity ≠ config.auraIdentity
  timeout : 1 ≤ config.timeout ∧ config.timeout ≤ 30
  genaCallbackPort : 1024 ≤ config.genaCallbackPort ∧ config.genaCallbackPort ≤ 2 ^ 16 - 1

section Settle
variable {host : Host} {source : ConfigSource} {values : Settings} {config : RuntimeConfig} {value path : Bytes}

theorem required_eq_ok {key : String} : required values key = .ok value ↔
    ∃ raw, values (ascii key) = some raw ∧ trim raw = value ∧ value ≠ [] := by
  unfold required
  cases values (ascii key) with
  | none => simp
  | some raw =>
    by_cases empty : trim raw = []
    · simp only [Option.map_some, Option.filter, empty, List.isEmpty_nil, Bool.not_true, Bool.false_eq_true, if_false,
        Option.some.injEq, exists_eq_left', reduceCtorEq, false_iff, not_and, not_not]
      intro same
      exact same.symm
    · simp [empty, Option.filter]
      intro same filled
      exact empty (same.trans filled)

theorem kept_of_required {key : String} (found : required values key = .ok value) : Kept value := by
  obtain ⟨raw, _, rfl, filled⟩ := required_eq_ok.mp found
  exact ⟨trim_bare raw, filled⟩

/-- Behind a separator a kept value keeps its end. -/
theorem kept_joined {directory : CurrentDir} (kept : Kept value) :
    Kept (joinPath directory.path value) ∧ isAbsolute (joinPath directory.path value) = true := by
  obtain ⟨rest, rooted⟩ := List.head?_eq_some_iff.mp directory.absolute
  have missing : ∀ char ∈ whiteSpace, 0x2f ∉ char := by decide
  have behind (front : Bytes) (first : (front ++ 0x2f :: value).head? = some 0x2f) :
      Kept (front ++ 0x2f :: value) ∧ isAbsolute (front ++ 0x2f :: value) = true := by
    obtain ⟨tail, same⟩ := List.head?_eq_some_iff.mp first
    refine ⟨⟨⟨?_, ?_⟩, by simp⟩, beq_iff_eq.mpr first⟩
    · rw [same]
      exact printing_front (by decide) tail
    · intro char member ends
      exact kept.1.back char member (suffix_of_missing (missing char member) ends)
  unfold joinPath
  split
  · rename_i absolute
    exact ⟨kept, absolute⟩
  · split
    · rename_i ended
      have last : directory.path.getLast? = some 0x2f := by simpa [rooted] using ended
      obtain ⟨front, same⟩ := List.getLast?_eq_some_iff.mp last
      have joined : directory.path ++ value = front ++ 0x2f :: value := by
        rw [same, List.append_assoc, List.singleton_append]
      rw [joined]
      apply behind
      rw [← joined, rooted]
      rfl
    · apply behind
      rw [rooted]
      rfl

theorem resolvePath_none (kept : Kept value) (resolved : resolvePath host .none value = .ok path) :
    Kept path ∧ isAbsolute path = true := by
  unfold resolvePath at resolved
  split at resolved
  · rename_i absolute
    cases resolved
    exact ⟨kept, absolute⟩
  · dsimp only [ConfigSource.path, Option.bind_none] at resolved
    split at resolved
    · cases resolved
      exact kept_joined kept
    · cases resolved

/-- What a successful load read, value by value. -/
theorem configOf_eq_ok : configOf host source values = .ok config ↔
    ∃ certificateValue privateKeyValue, required values "JBL_LOCAL_API_CERT" = .ok certificateValue ∧
      required values "JBL_LOCAL_API_KEY" = .ok privateKeyValue ∧ timeoutSeconds values = .ok config.timeout ∧
      genaCallbackPort values = .ok config.genaCallbackPort ∧
      broadcastConfirmation values = .ok config.broadcastConfirmation ∧
      requiredIdentity values "JBL_BT_MAC" = .ok config.jblIdentity ∧
      requiredIdentity values "AURA_BT_MAC" = .ok config.auraIdentity ∧ config.jblIdentity ≠ config.auraIdentity ∧
      required values "JBL_IP" = .ok config.address ∧
      resolvePath host source certificateValue = .ok config.certificate ∧
      resolvePath host source privateKeyValue = .ok config.privateKey ∧
      required values "JBL_LOCAL_API_TLS_SHA256" = .ok config.tlsSha256 ∧
      config.expectedModel = (values (ascii "JBL_EXPECTED_MODEL")).getD (ascii "JBL Authentics 300") := by
  unfold configOf
  simp only [except_bind_eq_ok]
  constructor
  · intro loaded
    obtain ⟨certificateValue, certificateRead, privateKeyValue, privateKeyRead, timeout, timeoutRead, port, portRead,
      confirmation, confirmationRead, jbl, jblRead, aura, auraRead, checked⟩ := loaded
    split at checked
    · cases checked
    · rename_i distinct
      simp only [except_bind_eq_ok] at checked
      obtain ⟨address, addressRead, certificate, certificateAt, privateKey, privateKeyAt, tls, tlsRead, same⟩ := checked
      cases same
      exact ⟨certificateValue, privateKeyValue, certificateRead, privateKeyRead, timeoutRead, portRead, confirmationRead,
        jblRead, auraRead, distinct, addressRead, certificateAt, privateKeyAt, tlsRead, rfl⟩
  · intro read
    obtain ⟨certificateValue, privateKeyValue, certificateRead, privateKeyRead, timeoutRead, portRead, confirmationRead,
      jblRead, auraRead, distinct, addressRead, certificateAt, privateKeyAt, tlsRead, model⟩ := read
    refine ⟨certificateValue, certificateRead, privateKeyValue, privateKeyRead, _, timeoutRead, _, portRead, _,
      confirmationRead, _, jblRead, _, auraRead, ?_⟩
    rw [if_neg distinct]
    simp only [except_bind_eq_ok]
    refine ⟨_, addressRead, _, certificateAt, _, privateKeyAt, _, tlsRead, ?_⟩
    rw [← model]

theorem timeoutSeconds_bounds {seconds : Nat} (read : timeoutSeconds values = .ok seconds) :
    1 ≤ seconds ∧ seconds ≤ 30 := by
  unfold timeoutSeconds at read
  split at read
  · rename_i value kept
    cases read
    simpa using (Option.filter_eq_some_iff.mp kept).2
  · cases read

theorem genaCallbackPort_bounds {port : Nat} (read : genaCallbackPort values = .ok port) :
    1024 ≤ port ∧ port ≤ 2 ^ 16 - 1 := by
  unfold genaCallbackPort at read
  split at read
  · cases read
    decide
  · split at read
    · rename_i value kept
      cases read
      simpa using (Option.filter_eq_some_iff.mp kept).2
    · cases read

theorem settled_of_load (loaded : configOf host .none values = .ok config) : Settled config := by
  obtain ⟨certificateValue, privateKeyValue, certificateRead, privateKeyRead, timeoutRead, portRead, _, _, _, distinct,
    addressRead, certificateAt, privateKeyAt, tlsRead, _⟩ := configOf_eq_ok.mp loaded
  exact ⟨kept_of_required addressRead, resolvePath_none (kept_of_required certificateRead) certificateAt,
    resolvePath_none (kept_of_required privateKeyRead) privateKeyAt, kept_of_required tlsRead, distinct,
    timeoutSeconds_bounds timeoutRead, genaCallbackPort_bounds portRead⟩

end Settle

/-! ## What the installer wrote -/

/-- A value that stands on its line as it is. -/
structure Plain (value : Bytes) : Prop where
  feed : 0x0a ∉ value
  carriage : 0x0d ∉ value
  unquoted : value.head?.any isQuote = false

section Written
variable {value : Bytes} {config : RuntimeConfig}

theorem plain_of_safe (safe : safeConfigValue value = true) : Plain value := by
  unfold safeConfigValue at safe
  simp only [Bool.not_eq_true', Bool.or_eq_false_iff, List.any_eq_false] at safe
  obtain ⟨⟨⟨_, bytes⟩, first⟩, _⟩ := safe
  refine ⟨?_, ?_, first⟩
  · intro member
    exact absurd (bytes _ member) (by decide)
  · intro member
    exact absurd (bytes _ member) (by decide)

theorem plain_of_printing (printing : ∀ byte ∈ value, 0x27 < byte ∧ byte < 0x7f) : Plain value := by
  refine ⟨?_, ?_, ?_⟩
  · intro member
    exact absurd (printing _ member).1 (by decide)
  · intro member
    exact absurd (printing _ member).1 (by decide)
  · cases value with
    | nil => rfl
    | cons byte rest =>
      have all : ∀ byte : UInt8, 0x27 < byte ∧ byte < 0x7f → isQuote byte = false := forall_byte (by decide)
      exact all byte (printing byte List.mem_cons_self)

theorem unquoted_plain (plain : Plain value) : unquoted value = value := by
  apply if_neg
  intro quoted
  rw [plain.unquoted] at quoted
  exact Bool.false_ne_true quoted.2.1

/-- A plain value without white space at its ends is read as it was written. -/
theorem readBack_plain (plain : Plain value) (bare : BareEnds value) : unquoted (trim value) = value := by
  rw [trim_bareEnds bare, unquoted_plain plain]

theorem readBack_printing (printing : ∀ byte ∈ value, 0x27 < byte ∧ byte < 0x7f) : unquoted (trim value) = value := by
  apply readBack_plain (plain_of_printing printing)
  apply bareEnds_of_printing
  intro byte member
  obtain ⟨low, high⟩ := printing byte member
  exact ⟨UInt8.lt_trans (by decide) low, high⟩

theorem lowerHex_printing : ∀ byte ∈ hex value, 0x27 < byte ∧ byte < 0x7f := by
  have all : ∀ byte : UInt8, isLowerHex byte = true → 0x27 < byte ∧ byte < 0x7f := forall_byte (by decide)
  intro byte member
  exact all byte (hex_isLowerHex member)

theorem decimal_printing {number : Nat} : ∀ byte ∈ decimal number, 0x27 < byte ∧ byte < 0x7f := by
  have all : ∀ byte : UInt8, isDigit byte = true → 0x27 < byte ∧ byte < 0x7f := forall_byte (by decide)
  intro byte member
  exact all byte (decimal_isDigit member)

theorem checkValues_eq_ok : checkValues config = .ok () ↔
    validUtf8 config.certificate = true ∧ safeConfigValue config.certificate = true ∧
      validUtf8 config.privateKey = true ∧ safeConfigValue config.privateKey = true ∧
      safeConfigValue config.address = true ∧ safeConfigValue config.tlsSha256 = true ∧
      safeConfigValue config.expectedModel = true := by
  unfold checkValues
  split
  · rename_i refused
    simp only [Bool.not_eq_true', Bool.and_eq_false_iff] at refused
    grind
  · split
    · rename_i refused
      simp only [Bool.not_eq_true', Bool.and_eq_false_iff] at refused
      grind
    · split
      · rename_i refused
        simp at refused
        grind
      · simp_all

/-- The model as it is read back; every other field is read as it was written. -/
def reread (config : RuntimeConfig) : RuntimeConfig :=
  { config with expectedModel := unquoted (trim config.expectedModel) }

theorem configEntries_readBack (settled : Settled config) (checked : checkValues config = .ok ()) :
    (configEntries config).map readBack = configEntries (reread config) := by
  obtain ⟨_, certificate, _, privateKey, address, tls, _⟩ := checkValues_eq_ok.mp checked
  simp only [configEntries, readBack, reread, List.map_cons, List.map_nil,
    readBack_plain (plain_of_safe certificate) settled.certificate.1.1,
    readBack_plain (plain_of_safe privateKey) settled.privateKey.1.1,
    readBack_plain (plain_of_safe address) settled.address.1, readBack_plain (plain_of_safe tls) settled.tlsSha256.1,
    DeviceIdentity.compactConfigValue, readBack_printing lowerHex_printing, readBack_printing decimal_printing]
  cases config.broadcastConfirmation with
  | ack =>
    have printing : ∀ byte ∈ ascii "ack", 0x27 < byte ∧ byte < 0x7f := by decide
    rw [readBack_printing printing]
  | gena =>
    have printing : ∀ byte ∈ ascii "gena", 0x27 < byte ∧ byte < 0x7f := by decide
    rw [readBack_printing printing]

theorem plain_of_lineBytes (printing : ∀ byte ∈ value, 0x27 < byte ∧ byte < 0x7f) : 0x0a ∉ value ∧ 0x0d ∉ value :=
  ⟨(plain_of_printing printing).feed, (plain_of_printing printing).carriage⟩

theorem configEntries_clean (checked : checkValues config = .ok ()) :
    ∀ entry ∈ configEntries config, 0x0a ∉ entry.2 ∧ 0x0d ∉ entry.2 := by
  obtain ⟨_, certificate, _, privateKey, address, tls, model⟩ := checkValues_eq_ok.mp checked
  have safe {value : Bytes} (safe : safeConfigValue value = true) : 0x0a ∉ value ∧ 0x0d ∉ value :=
    ⟨(plain_of_safe safe).feed, (plain_of_safe safe).carriage⟩
  unfold configEntries
  simp only [List.forall_mem_cons]
  refine ⟨safe address, safe model, plain_of_lineBytes lowerHex_printing, plain_of_lineBytes lowerHex_printing,
    safe certificate, safe privateKey, safe tls, plain_of_lineBytes decimal_printing,
    plain_of_lineBytes decimal_printing, ?_, by simp⟩
  cases config.broadcastConfirmation with
  | ack => decide
  | gena => decide

theorem configEntries_known : ∀ entry ∈ configEntries config, entry.1 ∈ allowedKeys := by
  unfold configEntries
  simp only [List.forall_mem_cons]
  decide

theorem configEntries_distinct : ((configEntries config).map Prod.fst).Nodup := by
  unfold configEntries
  simp only [List.map_cons, List.map_nil]
  decide

/-- The text of an installed configuration holds its fields under their keys. -/
theorem parseConfigText_payload (settled : Settled config) (checked : checkValues config = .ok ()) :
    parseConfigText (configPayload config) = .ok (settingsOf (configEntries (reread config))) := by
  have read := @parse_entries _ configEntries_known configEntries_distinct (configEntries_clean checked)
    (fun _ => none) (fun _ _ => rfl)
  rw [configEntries_readBack settled checked] at read
  rw [parseConfigText, configPayload, read]
  congr 1
  funext name
  unfold Settings.extend
  rw [Option.or_none]

theorem settingsOf_entry {key value : Bytes} (member : (key, value) ∈ configEntries config) :
    settingsOf (configEntries config) key = some value :=
  (lookup_distinct configEntries_distinct).mpr member

theorem required_entry {key : String} (member : (ascii key, value) ∈ configEntries config) (kept : Kept value) :
    required (settingsOf (configEntries config)) key = .ok value :=
  required_eq_ok.mpr ⟨value, settingsOf_entry member, trim_bareEnds kept.1, kept.2⟩

theorem kept_compact (identity : DeviceIdentity) : Kept identity.compactConfigValue := by
  refine ⟨bareEnds_of_printing ?_, ?_⟩
  · intro byte member
    obtain ⟨low, high⟩ := lowerHex_printing byte member
    exact ⟨UInt8.lt_trans (by decide) low, high⟩
  · intro empty
    have size := congrArg List.length empty
    rw [DeviceIdentity.compactConfigValue, hex_length, Vector.length_toList] at size
    cases size

theorem requiredIdentity_entry {key : String} {identity : DeviceIdentity}
    (member : (ascii key, identity.compactConfigValue) ∈ configEntries config) :
    requiredIdentity (settingsOf (configEntries config)) key = .ok identity := by
  unfold requiredIdentity
  rw [required_entry member (kept_compact identity)]
  dsimp only [bind, Except.bind]
  rw [parse_compactConfigValue]

theorem resolvePath_absolute {host : Host} {source : ConfigSource} (absolute : isAbsolute value = true) :
    resolvePath host source value = .ok value := if_pos absolute

/-- The fields of a settled configuration, read from their entries, make that configuration. -/
theorem configOf_entries (host : Host) (source : ConfigSource) (settled : Settled config) :
    configOf host source (settingsOf (configEntries config)) = .ok config := by
  apply configOf_eq_ok.mpr
  refine ⟨config.certificate, config.privateKey, required_entry (by simp [configEntries]) settled.certificate.1,
    required_entry (by simp [configEntries]) settled.privateKey.1, ?_, ?_, ?_,
    requiredIdentity_entry (by simp [configEntries]), requiredIdentity_entry (by simp [configEntries]), settled.distinct,
    required_entry (by simp [configEntries]) settled.address, resolvePath_absolute settled.certificate.2,
    resolvePath_absolute settled.privateKey.2, required_entry (by simp [configEntries]) settled.tlsSha256, ?_⟩
  · obtain ⟨low, high⟩ := settled.timeout
    have read : parseUnsigned (2 ^ 64 - 1) (decimal config.timeout) = some config.timeout :=
      parseUnsigned_decimal (by omega)
    have kept : (parseUnsigned (2 ^ 64 - 1) (decimal config.timeout)).filter (fun value => 1 ≤ value ∧ value ≤ 30) =
        some config.timeout := Option.filter_eq_some_iff.mpr ⟨read, decide_eq_true settled.timeout⟩
    have written : settingsOf (configEntries config) (ascii "JBL_LOCAL_API_TIMEOUT") = some (decimal config.timeout) :=
      settingsOf_entry (by simp [configEntries])
    unfold timeoutSeconds
    rw [written, Option.getD_some, kept]
  · obtain ⟨low, high⟩ := settled.genaCallbackPort
    have written : settingsOf (configEntries config) (ascii "JBL_GENA_CALLBACK_PORT") =
        some (decimal config.genaCallbackPort) := settingsOf_entry (by simp [configEntries])
    unfold genaCallbackPort
    rw [written]
    dsimp only
    have kept : (parseUnsigned (2 ^ 16 - 1) (decimal config.genaCallbackPort)).filter
        (fun value => 1024 ≤ value ∧ value ≤ 2 ^ 16 - 1) = some config.genaCallbackPort :=
      Option.filter_eq_some_iff.mpr ⟨parseUnsigned_decimal high, decide_eq_true settled.genaCallbackPort⟩
    rw [kept]
  · unfold broadcastConfirmation
    cases confirmation : config.broadcastConfirmation with
    | ack =>
      have written : settingsOf (configEntries config) (ascii "JBL_BROADCAST_CONFIRMATION") = some (ascii "ack") :=
        settingsOf_entry (by simp [configEntries, confirmation])
      rw [written]
      rfl
    | gena =>
      have written : settingsOf (configEntries config) (ascii "JBL_BROADCAST_CONFIRMATION") = some (ascii "gena") :=
        settingsOf_entry (by simp [configEntries, confirmation])
      rw [written]
      rfl
  · have written : settingsOf (configEntries config) (ascii "JBL_EXPECTED_MODEL") = some config.expectedModel :=
      settingsOf_entry (by simp [configEntries])
    rw [written, Option.getD_some]

end Written

/-! ## The file read back -/

/-- The machine lets the process open a file that it created itself: the call exists, no
symbolic link stands on the way, and the owner keeps the right to read. -/
structure OpensOwnFile (host : Host) (path : FilePath) : Prop where
  openat2 : host.openat2 = true
  plain : host.linked path = false
  readable : host.privileged = true ∨ host.umask &&& 0o400 = 0

section Reload
variable {host : Host} {path : FilePath} {config : RuntimeConfig} {overrides : Overrides} {replies : InstallReplies}

theorem maskedMode_private (umask : Nat) : StateRoot.maskedMode 0o600 umask &&& 0o077 = 0 := by
  unfold StateRoot.maskedMode
  rw [Nat.and_comm 0o600, Nat.and_assoc]
  exact Nat.and_zero _

theorem maskedMode_readable (umask : Nat) : StateRoot.maskedMode 0o600 umask &&& 0o400 ≠ 0 ↔ umask &&& 0o400 = 0 := by
  have bit : umask &&& 0o400 = (umask.testBit 8).toNat * 2 ^ 8 := Nat.and_two_pow umask 8
  have masked : StateRoot.maskedMode 0o600 umask &&& 0o400 = 0o400 ^^^ (umask &&& 0o400) := by
    unfold StateRoot.maskedMode
    rw [Nat.and_comm 0o600, Nat.and_assoc, Nat.and_xor_distrib_right, Nat.and_assoc umask]
    rfl
  rw [masked, bit]
  cases umask.testBit 8 with
  | false => decide
  | true => decide

theorem installedEntry_readable :
    (installedEntry host config).readable = true ↔ host.privileged = true ∨ host.umask &&& 0o400 = 0 := by
  rw [← maskedMode_readable]
  simp [installedEntry]

theorem openPrivate_placed {entry : Entry} :
    openPrivate (placed host path config) path = .ok entry ↔
      OpensOwnFile host path ∧ entry = installedEntry host config := by
  have found : (placed host path config).entries path = some (installedEntry host config) := if_pos rfl
  have regular : (installedEntry host config).metadata.fileType ≠ .symlink := by
    intro same
    cases same
  unfold openPrivate
  rw [found]
  dsimp only
  rw [if_neg regular]
  constructor
  · intro opened
    split at opened
    · cases opened
    · rename_i openat2
      split at opened
      · cases opened
      · rename_i plain
        split at opened
        · cases opened
        · rename_i readable
          cases opened
          exact ⟨⟨by simpa [placed] using openat2, by simpa [placed] using plain,
            installedEntry_readable.mp (by simpa using readable)⟩, rfl⟩
  · intro own
    obtain ⟨opens, rfl⟩ := own
    have openat2 : (placed host path config).openat2 = true := opens.openat2
    have plain : (placed host path config).linked path = false := opens.plain
    rw [openat2, plain, installedEntry_readable.mpr opens.readable]
    rfl

theorem validateMetadata_installed :
    validateMetadata (placed host path config) maxConfigBytes .config (installedEntry host config) = .ok () ↔
      (configPayload config).length ≤ maxConfigBytes := by
  have mode : ¬(installedEntry host config).metadata.mode &&& 0o077 ≠ 0 := not_not.mpr (maskedMode_private host.umask)
  have owner : ¬(installedEntry host config).metadata.uid ≠ (placed host path config).euid := not_not.mpr rfl
  have regular : ¬(installedEntry host config).metadata.fileType ≠ .regular := not_not.mpr rfl
  have content : (installedEntry host config).content = configPayload config := rfl
  unfold validateMetadata
  rw [if_neg regular, content, if_neg owner, if_neg mode]
  split
  · rename_i long
    constructor
    · intro impossible
      cases impossible
    · intro short
      omega
  · simp only [true_iff]
    omega

theorem validateMetadata_length {entry : Entry} {max : Nat} {kind : PrivateFileKind}
    (valid : validateMetadata host max kind entry = .ok ()) : entry.content.length ≤ max := by
  unfold validateMetadata at valid
  split at valid
  · cases valid
  · split at valid
    · cases valid
    · omega

/-- A private file is read whole when it opens and its metadata is in order. -/
theorem readPrivateFile_eq_ok {text : Bytes} {max : Nat} {kind : PrivateFileKind} :
    readPrivateFile host path max kind = .ok text ↔
      ∃ entry, openPrivate host path = .ok entry ∧ validateMetadata host max kind entry = .ok () ∧
        text = entry.content := by
  unfold readPrivateFile readPrivateFileIfPresent
  cases openPrivate host path with
  | error error => cases error <;> simp [bind, Except.bind]
  | ok entry =>
    dsimp only
    cases valid : validateMetadata host max kind entry with
    | error error => simp [bind, Except.bind, valid]
    | ok _ =>
      have short := validateMetadata_length valid
      have whole : entry.content.take (max + 1) = entry.content := List.take_of_length_le (by omega)
      have fits : ¬entry.content.length > max := by omega
      simp [bind, Except.bind, valid, whole, fits, eq_comm]

/-- The installed file is read exactly when it can be opened and is not too long. -/
theorem readPrivateFile_placed {text : Bytes} :
    readPrivateFile (placed host path config) path maxConfigBytes .config = .ok text ↔
      OpensOwnFile host path ∧ (configPayload config).length ≤ maxConfigBytes ∧ text = configPayload config := by
  rw [readPrivateFile_eq_ok]
  constructor
  · intro read
    obtain ⟨entry, opened, valid, same⟩ := read
    obtain ⟨opens, rfl⟩ := openPrivate_placed.mp opened
    exact ⟨opens, validateMetadata_installed.mp valid, same⟩
  · intro readable
    obtain ⟨opens, short, same⟩ := readable
    exact ⟨_, openPrivate_placed.mpr ⟨opens, rfl⟩, validateMetadata_installed.mpr short, same⟩

/-! ## Valid text -/

theorem Overrides.trim_valid {key value : Bytes} (found : overrides.values key = some value) :
    validUtf8 (trim value) = true := validUtf8_trim (overrides.text key value found)

theorem entries_valid {entries : List (Bytes × Bytes)}
    (valid : ∀ entry ∈ entries, validUtf8 entry.1 = true ∧ validUtf8 entry.2 = true) :
    validUtf8 (entries.flatMap fun (key, value) => key ++ 0x3d :: (value ++ [0x0a])) = true := by
  induction entries with
  | nil => rfl
  | cons entry entries ih =>
    obtain ⟨here, others⟩ := List.forall_mem_cons.mp valid
    have separator : validUtf8 [0x3d] = true := by decide
    have feed : validUtf8 [0x0a] = true := by decide
    have line : validUtf8 (entry.1 ++ ([0x3d] ++ (entry.2 ++ [0x0a]))) = true :=
      validUtf8_append here.1 (validUtf8_append separator (validUtf8_append here.2 feed))
    exact validUtf8_append line (ih others)

theorem payload_valid (address : validUtf8 config.address = true) (model : validUtf8 config.expectedModel = true)
    (tls : validUtf8 config.tlsSha256 = true) (checked : checkValues config = .ok ()) :
    validUtf8 (configPayload config) = true := by
  obtain ⟨certificate, _, privateKey, _⟩ := checkValues_eq_ok.mp checked
  have printing {value : Bytes} (printing : ∀ byte ∈ value, 0x27 < byte ∧ byte < 0x7f) : validUtf8 value = true :=
    validUtf8_of_ascii fun byte member => UInt8.le_of_lt (printing byte member).2
  apply entries_valid
  unfold configEntries
  simp only [List.forall_mem_cons]
  refine ⟨⟨by decide, address⟩, ⟨by decide, model⟩, ⟨by decide, printing lowerHex_printing⟩,
    ⟨by decide, printing lowerHex_printing⟩, ⟨by decide, certificate⟩, ⟨by decide, privateKey⟩, ⟨by decide, tls⟩,
    ⟨by decide, printing decimal_printing⟩, ⟨by decide, printing decimal_printing⟩, ⟨by decide, ?_⟩, by simp⟩
  cases config.broadcastConfirmation with
  | ack => decide
  | gena => decide

theorem installPrivateConfig_eq_ok (installed : (installPrivateConfig host path config replies).1 = .ok ()) :
    checkValues config = .ok () ∧ (installPrivateConfig host path config replies).2 = placed host path config := by
  unfold installPrivateConfig at installed ⊢
  cases prepared : prepareInstall host path replies with
  | error error =>
    rw [prepared] at installed
    cases installed
  | ok _ =>
    cases checked : checkValues config with
    | error error =>
      rw [prepared, checked] at installed
      cases installed
    | ok _ =>
      rw [prepared, checked] at installed
      dsimp only at installed ⊢
      split at installed
      · cases installed
      · rename_i stepped
        split at installed
        · cases installed
        · rename_i synced
          rw [if_neg stepped, if_neg synced]
          exact ⟨rfl, rfl⟩

def Overrides.none : Overrides := ⟨fun _ => Option.none, fun _ _ impossible => nomatch impossible⟩

theorem extend_none (values : Settings) : values.extend Overrides.none.values = values := rfl

theorem none_extend (values : Settings) : Settings.extend (fun _ => none) values = values := by
  funext key
  exact Option.or_none

theorem loadFromSource_none : loadFromSource host .none overrides = configOf host .none overrides.values := by
  have values : configValues host .none = .ok fun _ => none := rfl
  unfold loadFromSource
  rw [values]
  dsimp only [bind, Except.bind]
  rw [none_extend]

/-- The text of every field that is written comes from valid text. -/
theorem payload_valid_of_load (loaded : loadFromSource host .none overrides = .ok config)
    (checked : checkValues config = .ok ()) : validUtf8 (configPayload config) = true := by
  rw [loadFromSource_none] at loaded
  obtain ⟨_, _, _, _, _, _, _, _, _, _, addressRead, _, _, tlsRead, model⟩ := configOf_eq_ok.mp loaded
  obtain ⟨_, addressRaw, address, _⟩ := required_eq_ok.mp addressRead
  obtain ⟨_, tlsRaw, tls, _⟩ := required_eq_ok.mp tlsRead
  apply payload_valid (address ▸ Overrides.trim_valid addressRaw) _ (tls ▸ Overrides.trim_valid tlsRaw) checked
  rw [model]
  cases given : overrides.values (ascii "JBL_EXPECTED_MODEL") with
  | none => decide
  | some value => exact overrides.text _ value given

theorem configValues_placed (valid : validUtf8 (configPayload config) = true) (settled : Settled config)
    (checked : checkValues config = .ok ()) {values : Settings} :
    configValues (placed host path config) (.required path) = .ok values ↔
      OpensOwnFile host path ∧ (configPayload config).length ≤ maxConfigBytes ∧
        values = settingsOf (configEntries (reread config)) := by
  have parsed := parseConfigText_payload settled checked
  unfold configValues
  rw [except_bind_eq_ok]
  constructor
  · intro loaded
    obtain ⟨payload, read, decoded⟩ := loaded
    cases found : readPrivateFile (placed host path config) path maxConfigBytes .config with
    | error error =>
      rw [found] at read
      cases read
    | ok text =>
      obtain ⟨opens, short, rfl⟩ := readPrivateFile_placed.mp found
      rw [found] at read
      cases read
      dsimp only at decoded
      rw [if_pos valid, parsed] at decoded
      cases decoded
      exact ⟨opens, short, rfl⟩
  · intro readable
    obtain ⟨opens, short, rfl⟩ := readable
    refine ⟨some (configPayload config), ?_, ?_⟩
    · rw [readPrivateFile_placed.mpr ⟨opens, short, rfl⟩]
      rfl
    · dsimp only
      rw [if_pos valid, parsed]

/-- What the loader makes of the installed file: the configuration with its model reread. -/
theorem reload_eq_ok (loaded : loadFromSource host .none overrides = .ok config)
    (installed : (installPrivateConfig host path config replies).1 = .ok ()) {again : RuntimeConfig} :
    loadFromSource (installPrivateConfig host path config replies).2 (.required path) Overrides.none = .ok again ↔
      OpensOwnFile host path ∧ (configPayload config).length ≤ maxConfigBytes ∧ again = reread config := by
  obtain ⟨checked, same⟩ := installPrivateConfig_eq_ok installed
  have settled := settled_of_load (loadFromSource_none ▸ loaded)
  have valid := payload_valid_of_load loaded checked
  have resettled : Settled (reread config) := ⟨settled.address, settled.certificate, settled.privateKey,
    settled.tlsSha256, settled.distinct, settled.timeout, settled.genaCallbackPort⟩
  rw [same, loadFromSource, except_bind_eq_ok]
  simp only [configValues_placed valid settled checked, extend_none]
  constructor
  · intro reloaded
    obtain ⟨values, ⟨opens, short, rfl⟩, read⟩ := reloaded
    rw [configOf_entries _ _ resettled] at read
    cases read
    exact ⟨opens, short, rfl⟩
  · intro readable
    obtain ⟨opens, short, rfl⟩ := readable
    exact ⟨_, ⟨opens, short, rfl⟩, configOf_entries _ _ resettled⟩

theorem unquoted_length (value : Bytes) : (unquoted value).length ≤ value.length := by
  unfold unquoted
  split
  · rw [List.length_dropLast, List.length_tail]
    omega
  · exact Nat.le_refl value.length

/-- Only white space at an end of the model is lost. -/
theorem reread_eq_iff (checked : checkValues config = .ok ()) :
    reread config = config ↔ trim config.expectedModel = config.expectedModel := by
  obtain ⟨_, _, _, _, _, _, safe⟩ := checkValues_eq_ok.mp checked
  constructor
  · intro same
    have model : unquoted (trim config.expectedModel) = config.expectedModel :=
      congrArg RuntimeConfig.expectedModel same
    have bound := unquoted_length (trim config.expectedModel)
    rw [model] at bound
    exact trim_of_length bound
  · intro trimmed
    unfold reread
    rw [trimmed, unquoted_plain (plain_of_safe safe)]

/-- An installed configuration comes back equal exactly when the given model has no white space
around it, the written text is within the limit of the reader, and the machine lets the
process open its own file. -/
theorem round_trip_iff (loaded : loadFromSource host .none overrides = .ok config)
    (installed : (installPrivateConfig host path config replies).1 = .ok ()) :
    loadFromSource (installPrivateConfig host path config replies).2 (.required path) Overrides.none = .ok config ↔
      (∀ model, overrides.values (ascii "JBL_EXPECTED_MODEL") = some model → trim model = model) ∧
        (configPayload config).length ≤ maxConfigBytes ∧ OpensOwnFile host path := by
  have checked := (installPrivateConfig_eq_ok installed).1
  have given : trim config.expectedModel = config.expectedModel ↔
      ∀ model, overrides.values (ascii "JBL_EXPECTED_MODEL") = some model → trim model = model := by
    rw [loadFromSource_none] at loaded
    obtain ⟨_, _, _, _, _, _, _, _, _, _, _, _, _, _, model⟩ := configOf_eq_ok.mp loaded
    rw [model]
    cases overrides.values (ascii "JBL_EXPECTED_MODEL") with
    | none =>
      have standard : trim (ascii "JBL Authentics 300") = ascii "JBL Authentics 300" := by decide
      simp [standard]
    | some value => simp
  rw [reload_eq_ok loaded installed, eq_comm (a := config), reread_eq_iff checked, given]
  constructor
  · intro reloaded
    exact ⟨reloaded.2.2, reloaded.2.1, reloaded.1⟩
  · intro met
    exact ⟨met.2.2, met.2.1, met.1⟩

end Reload

def fixtureHost : Host where
  euid := 1000
  umask := 0o022
  privileged := false
  openat2 := true
  linked _ := false
  currentDir := none
  entries _ := none

def fixturePath : FilePath := ⟨ascii "/c/devices.env", some (ascii "/c")⟩

def fixtureReplies : InstallReplies :=
  ⟨true, some ⟨.directory, 1000, 0o40700, 2⟩, .notFound, true, true, true, true, true, true⟩

def Overrides.ofEntries (entries : List (Bytes × Bytes)) (valid : ∀ entry ∈ entries, validUtf8 entry.2 = true) :
    Overrides where
  values key := entries.lookup key
  text key value found := by
    obtain ⟨entry, member, same⟩ : ∃ entry ∈ entries, entry.2 = value := by
      induction entries with
      | nil => cases found
      | cons entry entries ih =>
        rw [List.lookup_cons] at found
        split at found
        · cases found
          exact ⟨entry, List.mem_cons_self, rfl⟩
        · obtain ⟨other, member, same⟩ := ih (List.forall_mem_cons.mp valid).2 found
          exact ⟨other, List.mem_cons_of_mem entry member, same⟩
    exact same ▸ valid entry member

def fixtureEntries (model : String) : List (Bytes × Bytes) :=
  [(ascii "JBL_IP", ascii " 192.0.2.10"), (ascii "JBL_LOCAL_API_CERT", ascii "/c/cert"),
    (ascii "JBL_LOCAL_API_KEY", ascii "/c/key"), (ascii "JBL_LOCAL_API_TLS_SHA256", ascii "00"),
    (ascii "JBL_BT_MAC", ascii "02:00:00:00:00:21"), (ascii "AURA_BT_MAC", ascii "020000000022"),
    (ascii "JBL_EXPECTED_MODEL", ascii model)]

def fixtureConfig (model : String) : RuntimeConfig where
  address := ascii "192.0.2.10"
  certificate := ascii "/c/cert"
  privateKey := ascii "/c/key"
  tlsSha256 := ascii "00"
  jblIdentity := ⟨#v[2, 0, 0, 0, 0, 0x21], by decide, by decide⟩
  expectedModel := ascii model
  auraIdentity := ⟨#v[2, 0, 0, 0, 0, 0x22], by decide, by decide⟩
  timeout := 5
  genaCallbackPort := 8098
  broadcastConfirmation := .ack

theorem bare_model_comes_back :
    loadFromSource (installPrivateConfig fixtureHost fixturePath (fixtureConfig "Authentics") fixtureReplies).2
      (.required fixturePath) Overrides.none = .ok (fixtureConfig "Authentics") := by
  have loaded : loadFromSource fixtureHost .none (.ofEntries (fixtureEntries "Authentics") (by decide)) =
      .ok (fixtureConfig "Authentics") := by decide
  have installed : (installPrivateConfig fixtureHost fixturePath (fixtureConfig "Authentics") fixtureReplies).1 =
      .ok () := by decide
  apply (round_trip_iff loaded installed).mpr
  refine ⟨?_, by decide, rfl, rfl, .inr (by decide)⟩
  intro model given
  cases given
  decide

/-- A space behind the model is kept by the first load and lost by the second. -/
theorem padded_model_is_trimmed :
    loadFromSource fixtureHost .none (.ofEntries (fixtureEntries "Authentics ") (by decide)) =
        .ok (fixtureConfig "Authentics ") ∧
      (installPrivateConfig fixtureHost fixturePath (fixtureConfig "Authentics ") fixtureReplies).1 = .ok () ∧
      loadFromSource (installPrivateConfig fixtureHost fixturePath (fixtureConfig "Authentics ") fixtureReplies).2
        (.required fixturePath) Overrides.none ≠ .ok (fixtureConfig "Authentics ") := by
  decide

end PlayTogether.Config
