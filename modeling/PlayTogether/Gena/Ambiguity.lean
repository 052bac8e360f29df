import PlayTogether.Gena.Callbacks
import PlayTogether.Library.Trim

/-! How many action codes a body carries in all its shapes, and which of them the parser passes
over. At every place where two shapes are accepted the parser takes one and does not look at
the other: an attribute before the text, the first text node before the next, one spelling of
a key before the other. A code counts whatever it is and however large the JSON value is
around it. -/

namespace PlayTogether.Gena
open PlayTogether.Library

set_option maxRecDepth 20000

/-! ## Either of two shapes -/

section Shapes
variable {α : Type} (codes hidden : α → List Json)

def codesOf : Option α → List Json
  | none => []
  | some value => codes value

/-- The codes of two places for one thing. -/
def eitherCodes (first second : Option α) : List Json := codesOf codes first ++ codesOf codes second

/-- What is passed over when the first place is preferred. -/
def eitherHidden (first second : Option α) : List Json :=
  match first with
  | some value => hidden value ++ codesOf codes second
  | none => codesOf hidden second

variable {codes hidden}

theorem either_reads {first second : Option α} {value : α} {read : List Json} (chosen : first.or second = some value)
    (reads : codes value = read ++ hidden value) :
    eitherCodes codes first second = read ++ eitherHidden codes hidden first second := by
  cases first with
  | some other =>
    obtain rfl : other = value := Option.some.inj chosen
    unfold eitherCodes eitherHidden
    dsimp only [codesOf]
    rw [reads, List.append_assoc]
  | none =>
    obtain rfl : second = some value := chosen
    unfold eitherCodes eitherHidden
    dsimp only [codesOf]
    rw [reads, List.nil_append]

theorem or_some_getD (first : Option α) (fallback : α) : first.or (some fallback) = some (first.getD fallback) := by
  cases first <;> rfl

end Shapes

/-- The code that was read, as it stands in the body. -/
def readCode (result : Option Int) : List Json := result.toList.map Json.integer

/-! ## JSON -/

section Json
variable (decoders : Decoders)

/-- The action code of some information, be it a number in the range or not. -/
def infoCodes (value : Json) : List Json := ((value.get "info").bind (Json.get "action_code")).toList

/-- A JSON text of any size. -/
def readJson (text : Bytes) : Option Json := if text.isEmpty then none else decoders.fromStr text

/-- The value in which the information of a payload is looked up. -/
def payloadValue : Json → Option Json
  | .string text => readJson decoders text
  | .object fields => some (.object fields)
  | .null | .bool _ | .integer _ | .float _ | .array _ => none

def payloadCodes (payload : Json) : List Json :=
  codesOf (fun value => eitherCodes infoCodes (value.get notificationCommand) (some value)) (payloadValue decoders payload)

def payloadHidden (payload : Json) : List Json :=
  codesOf (fun value => eitherHidden infoCodes (fun _ => []) (value.get notificationCommand) (some value))
    (payloadValue decoders payload)

def isNotice (passString : Json) : Bool := (passString.get "command").bind Json.asStr == some (ascii notificationCommand)

def passStringCodes (passString : Json) : List Json :=
  if isNotice passString then
    codesOf (payloadCodes decoders) (passString.get "payload") ++ codesOf infoCodes (passString.get notificationCommand)
  else []

def passStringHidden (passString : Json) : List Json :=
  if isNotice passString then
    match passString.get "payload" with
    | some payload => payloadHidden decoders payload ++ codesOf infoCodes (passString.get notificationCommand)
    | none => []
  else []

def passThroughCodes (passThrough : Json) : List Json :=
  eitherCodes (passStringCodes decoders) (passThrough.get "pass_string") (passThrough.get "passString")

def passThroughHidden (passThrough : Json) : List Json :=
  eitherHidden (passStringCodes decoders) (passStringHidden decoders) (passThrough.get "pass_string")
    (passThrough.get "passString")

def rootCodes (root : Json) : List Json :=
  eitherCodes (passThroughCodes decoders) (root.get "pass_through") (root.get "passThrough")

def rootHidden (root : Json) : List Json :=
  eitherHidden (passThroughCodes decoders) (passThroughHidden decoders) (root.get "pass_through") (root.get "passThrough")

def notificationCodes (value : Json) : List Json :=
  eitherCodes (rootCodes decoders) (value.get "UpnpNotifyPassThrough") (some value)

def notificationHidden (value : Json) : List Json :=
  eitherHidden (rootCodes decoders) (rootHidden decoders) (value.get "UpnpNotifyPassThrough") (some value)

/-- The codes that a text carries in every accepted spelling. -/
def textCodes (text : Bytes) : List Json := codesOf (notificationCodes decoders) (readJson decoders text)

def textHidden (text : Bytes) : List Json := codesOf (notificationHidden decoders) (readJson decoders text)

variable {decoders}

theorem infoCodes_reads {value : Json} {code : Int} (read : extractInfoActionCode value = some code) :
    infoCodes value = [.integer code] := by
  unfold extractInfoActionCode at read
  obtain ⟨info, found, read⟩ := Option.bind_eq_some_iff.mp read
  obtain ⟨field, inside, read⟩ := Option.bind_eq_some_iff.mp read
  obtain ⟨number, decoded, read⟩ := Option.bind_eq_some_iff.mp read
  have same : number = code := by
    split at read
    · exact Option.some.inj read
    · cases read
  unfold infoCodes
  rw [found, Option.bind_some, inside]
  cases field with
  | integer value =>
    have whole : value = number := by
      unfold Json.asI64 at decoded
      dsimp only at decoded
      split at decoded
      · exact Option.some.inj decoded
      · cases decoded
    rw [whole, same]
    rfl
  | null | bool | float | string | array | object => cases decoded

theorem extractPayloadActionCode_reads {payload : Json} {code : Int}
    (read : extractPayloadActionCode decoders payload = some code) :
    payloadCodes decoders payload = [.integer code] ++ payloadHidden decoders payload := by
  have looked : ∃ value, payloadValue decoders payload = some value ∧
      extractInfoActionCode ((value.get notificationCommand).getD value) = some code := by
    cases payload with
    | string text =>
      simp only [extractPayloadActionCode] at read
      split at read
      next => cases read
      next bounded =>
        rw [Option.bind_eq_bind, Option.bind_eq_some_iff] at read
        obtain ⟨parsed, decoded, read⟩ := read
        cases limits : validateJsonLimits parsed with
        | false => simp [limits] at read
        | true =>
          refine ⟨parsed, ?_, by simpa [limits] using read⟩
          have filled : text.isEmpty = false := by
            simp only [Bool.or_eq_true, not_or] at bounded
            exact Bool.eq_false_iff.mpr bounded.1
          simp [payloadValue, readJson, filled, decoded]
    | object fields => exact ⟨_, rfl, read⟩
    | null | bool | integer | float | array => cases read
  obtain ⟨value, found, information⟩ := looked
  have chosen := or_some_getD (value.get notificationCommand) value
  unfold payloadCodes payloadHidden
  rw [found]
  refine either_reads chosen ?_
  rw [infoCodes_reads information]
  rfl

theorem passString_reads {passString : Json} {code : Int} (notice : isNotice passString = true)
    (read : (match passString.get "payload" with
      | some payload => extractPayloadActionCode decoders payload
      | none => (passString.get notificationCommand).bind extractInfoActionCode) = some code) :
    passStringCodes decoders passString = [.integer code] ++ passStringHidden decoders passString := by
  unfold passStringCodes passStringHidden
  rw [if_pos notice, if_pos notice]
  cases found : passString.get "payload" with
  | some payload =>
    rw [found] at read
    change payloadCodes decoders payload ++ _ = _
    rw [extractPayloadActionCode_reads read, List.append_assoc]
  | none =>
    rw [found] at read
    obtain ⟨value, inner, information⟩ := Option.bind_eq_some_iff.mp read
    rw [inner]
    exact infoCodes_reads information

/-- What a notification text is read as, and what is passed over in it, are its codes. -/
theorem parseNotificationJson_reads {text : Bytes} {result : Option Int}
    (read : parseNotificationJson decoders text = some result) :
    textCodes decoders text = readCode result ++ textHidden decoders text := by
  unfold parseNotificationJson at read
  split at read
  next => cases read
  next bounded =>
    rw [Option.bind_eq_bind, Option.bind_eq_some_iff] at read
    obtain ⟨value, decoded, read⟩ := read
    cases limits : validateJsonLimits value with
    | false => simp [limits] at read
    | true =>
      have found : readJson decoders text = some value := by
        simp only [Bool.or_eq_true, not_or] at bounded
        simp [readJson, bounded.1, decoded]
      simp only [limits, Bool.not_true, Bool.false_eq_true, if_false, Option.bind_eq_bind] at read
      obtain ⟨passThrough, through, read⟩ := Option.bind_eq_some_iff.mp read
      obtain ⟨passString, inside, read⟩ := Option.bind_eq_some_iff.mp read
      obtain ⟨command, named, read⟩ := Option.bind_eq_some_iff.mp read
      unfold textCodes textHidden
      rw [found]
      refine either_reads (or_some_getD _ value) (either_reads through (either_reads inside ?_))
      by_cases same : command = ascii notificationCommand
      · have notice : isNotice passString = true := by
          unfold isNotice
          rw [named, same]
          exact beq_self_eq_true _
        rw [if_neg (not_not_intro same)] at read
        have taken : ∃ code, result = some code ∧ (match passString.get "payload" with
            | some payload => extractPayloadActionCode decoders payload
            | none => (passString.get notificationCommand).bind extractInfoActionCode) = some code := by
          cases payload : passString.get "payload" with
          | some payload' =>
            rw [payload] at read
            obtain ⟨code, extracted, rfl⟩ := Option.map_eq_some_iff.mp read
            exact ⟨code, rfl, extracted⟩
          | none =>
            rw [payload] at read
            obtain ⟨info, here, mapped⟩ := Option.bind_eq_some_iff.mp read
            obtain ⟨code, extracted, rfl⟩ := Option.map_eq_some_iff.mp mapped
            exact ⟨code, rfl, Option.bind_eq_some_iff.mpr ⟨info, here, extracted⟩⟩
        obtain ⟨code, rfl, taken⟩ := taken
        exact passString_reads notice taken
      · have other : isNotice passString = false := by
          unfold isNotice
          rw [named]
          exact beq_eq_false_iff_ne.mpr fun equal => same (Option.some.inj equal)
        rw [if_pos same] at read
        obtain rfl := Option.some.inj read
        simp [passStringCodes, passStringHidden, other, readCode]

end Json

/-! ## XML -/

section Xml
variable (decoders : Decoders)

def trimmedCodes (text : Bytes) : List Json := textCodes decoders (trim text)

/-- A comment may part two payloads, or one payload in two. -/
def runCodes (run : List Bytes) : List Json := trimmedCodes decoders run.flatten

def groupedCodes (codes : List Bytes → List Json) (node : XmlNode) : List Json :=
  node.textGroups.flatMap (carriedRuns codes 0)

def elementCodes (node : XmlNode) : List Json :=
  codesOf (trimmedCodes decoders) (node.attributeOf "val") ++ codesOf (trimmedCodes decoders) (node.attributeOf "value") ++
    groupedCodes (runCodes decoders) node

/-- An attribute is read before any text, and of the texts the first one alone. -/
def elementHidden (node : XmlNode) : List Json :=
  match (node.attributeOf "val").or (node.attributeOf "value") with
  | some value => textHidden decoders (trim value) ++ groupedCodes (runCodes decoders) node
  | none => match textNodes node.children with
    | [] => []
    | text :: rest => textHidden decoders (trim text) ++ unread (runCodes decoders) [text] (text :: rest)

def carrierCodes (node : XmlNode) : List Json := if isPassThrough node.tagName then elementCodes decoders node else []

def carrierHidden (node : XmlNode) : List Json := if isPassThrough node.tagName then elementHidden decoders node else []

def nestedCodes (root : XmlNode) : List Json := (root.descendants.filter XmlNode.isElement).flatMap (carrierCodes decoders)

def nestedHidden (root : XmlNode) : List Json := (root.descendants.filter XmlNode.isElement).flatMap (carrierHidden decoders)

/-- The text of a `LastChange` is JSON or XML. -/
def changeTextCodes (text : Bytes) : List Json :=
  match text.head? with
  | some 0x7b => textCodes decoders text
  | some 0x3c => codesOf (fun document => nestedCodes decoders document.rootElement) (decoders.parseXml text)
  | _ => []

def changeTextHidden (text : Bytes) : List Json :=
  match text.head? with
  | some 0x7b => textHidden decoders text
  | some 0x3c => codesOf (fun document => nestedHidden decoders document.rootElement) (decoders.parseXml text)
  | _ => []

def changeRunCodes (run : List Bytes) : List Json := changeTextCodes decoders (trim run.flatten)

def lastChangeCodes (node : XmlNode) : List Json := nestedCodes decoders node ++ groupedCodes (changeRunCodes decoders) node

/-- Elements are read before the texts, and where there is none the texts as a whole. -/
def lastChangeHidden (node : XmlNode) : List Json :=
  if node.children.any XmlNode.isElement then nestedHidden decoders node ++ groupedCodes (changeRunCodes decoders) node
  else
    let texts := textNodes node.children
    changeTextHidden decoders (trim texts.flatten) ++ unread (changeRunCodes decoders) texts texts

def variableCodes (value : XmlNode) : List Json :=
  if isPassThrough value.tagName then elementCodes decoders value
  else if value.tagName = ascii "LastChange" then lastChangeCodes decoders value
  else []

def variableHidden (value : XmlNode) : List Json :=
  if isPassThrough value.tagName then elementHidden decoders value
  else if value.tagName = ascii "LastChange" then lastChangeHidden decoders value
  else []

/-- All action codes of a body, in every shape that the parser accepts somewhere. -/
def eventCodes (body : Bytes) : List Json :=
  codesOf (fun document => document.rootElement.elementChildren.flatMap fun property =>
    property.elementChildren.flatMap (variableCodes decoders)) (decoders.parseXml body)

/-- The codes in the shapes that the parser passes over. -/
def hiddenCodes (body : Bytes) : List Json :=
  codesOf (fun document => document.rootElement.elementChildren.flatMap fun property =>
    property.elementChildren.flatMap (variableHidden decoders)) (decoders.parseXml body)

/-- Behind an object a JSON text has blanks only. -/
structure EndsWithObject : Prop where
  trailing : ∀ text more fields, decoders.fromStr (trim text) = some (.object fields) → trim more ≠ [] →
    decoders.fromStr (trim (text ++ more)) = none

variable {decoders}

/-- Only an object carries codes. -/
theorem object_of_textCodes {text : Bytes} (filled : textCodes decoders text ≠ []) :
    ∃ fields, decoders.fromStr text = some (.object fields) := by
  have silent (value : Json) (flat : ∀ key, value.get key = none) : notificationCodes decoders value = [] := by
    simp [notificationCodes, rootCodes, eitherCodes, codesOf, flat]
  unfold textCodes readJson at filled
  split at filled
  · exact absurd rfl filled
  · cases decoded : decoders.fromStr text with
    | none =>
      rw [decoded] at filled
      exact absurd rfl filled
    | some value =>
      cases value with
      | object fields => exact ⟨fields, rfl⟩
      | null | bool | integer | float | string | array =>
        rw [decoded] at filled
        exact absurd (silent _ fun _ => rfl) filled

theorem runCodes_nil : runCodes decoders [] = [] := rfl

theorem changeRunCodes_nil : changeRunCodes decoders [] = [] := rfl

/-- The first text that carries something carries as much as any run that begins with it. -/
theorem EndsWithObject.alike (ends : EndsWithObject decoders) {text : Bytes} {rest run : List Bytes}
    (front : run <+: text :: rest) (read : runCodes decoders [text] ≠ []) (filled : runCodes decoders run ≠ []) :
    runCodes decoders run = runCodes decoders [text] := by
  cases run with
  | nil => exact absurd runCodes_nil filled
  | cons other more =>
    obtain ⟨rfl, _⟩ := List.cons_prefix_cons.mp front
    unfold runCodes trimmedCodes at read filled ⊢
    rw [List.flatten_singleton] at read ⊢
    rw [List.flatten_cons] at filled ⊢
    by_cases blank : trim more.flatten = []
    · rw [trim_append_blank (blank_of_trim blank)]
    · obtain ⟨fields, object⟩ := object_of_textCodes read
      obtain ⟨others, longer⟩ := object_of_textCodes filled
      rw [ends.trailing _ _ fields object blank] at longer
      cases longer

theorem nodePayload_leaves {node : XmlNode} {payload : Bytes} (found : nodePayload node = some payload) :
    node.children.any XmlNode.isElement = false := by
  unfold nodePayload at found
  split at found
  next => cases found
  next =>
    split at found
    next => cases found
    next plain => exact Bool.eq_false_iff.mpr fun inner => plain (by rw [inner]; rfl)
  next =>
    split at found
    next => cases found
    next plain => exact Bool.eq_false_iff.mpr fun inner => plain (by rw [inner]; rfl)
  next =>
    split at found
    next => cases found
    next plain => exact Bool.eq_false_iff.mpr plain

theorem nodePayload_cases {node : XmlNode} {payload : Bytes} (element : node.isElement = true)
    (found : nodePayload node = some payload) :
    (∃ value, payload = trim value ∧ (node.attributeOf "val" = some value ∧ node.attributeOf "value" = none ∨
      node.attributeOf "val" = none ∧ node.attributeOf "value" = some value)) ∨
    (node.attributeOf "val" = none ∧ node.attributeOf "value" = none ∧
      ∃ text rest, payload = trim text ∧ textNodes node.children = text :: rest) := by
  unfold nodePayload at found
  split at found
  next => cases found
  next value val none =>
    split at found
    · cases found
    · exact .inl ⟨value, (Option.some.inj found).symm, .inl ⟨val, none⟩⟩
  next value none val =>
    split at found
    · cases found
    · exact .inl ⟨value, (Option.some.inj found).symm, .inr ⟨none, val⟩⟩
  next val value =>
    refine .inr ⟨val, value, ?_⟩
    split at found
    · cases found
    · obtain ⟨text, first, found⟩ := Option.bind_eq_some_iff.mp found
      split at found
      · cases found
      · refine ⟨text, ?_⟩
        cases node with
        | text content => cases element
        | other => cases element
        | element uri name attributes children =>
          cases children with
          | nil => cases first
          | cons child rest =>
            cases child with
            | text content =>
              obtain rfl : content = text := Option.some.inj first
              exact ⟨textNodes rest, (Option.some.inj found).symm, rfl⟩
            | element => cases first
            | other => cases first

theorem parsePassThroughNode_reads (ends : EndsWithObject decoders) {node : XmlNode} {result : Option Int}
    (element : node.isElement = true) (read : parsePassThroughNode decoders node = some result) :
    elementCodes decoders node = readCode result ++ elementHidden decoders node := by
  obtain ⟨payload, found, read⟩ := Option.bind_eq_some_iff.mp read
  have reads := parseNotificationJson_reads read
  unfold elementCodes elementHidden
  obtain ⟨value, rfl, ⟨val, none⟩ | ⟨none, val⟩⟩ | ⟨val, none, text, rest, rfl, texts⟩ := nodePayload_cases element found
  · have codes : trimmedCodes decoders value = _ := reads
    simp [val, none, codesOf, codes]
  · have codes : trimmedCodes decoders value = _ := reads
    simp [val, none, codesOf, codes]
  · have codes : runCodes decoders [text] = readCode result ++ textHidden decoders (trim text) := by
      unfold runCodes trimmedCodes
      rw [List.flatten_singleton, reads]
    have groups := XmlNode.textGroups_of_leaves (nodePayload_leaves found)
    rw [val, none, texts]
    unfold groupedCodes
    rw [groups, texts, List.flatMap_singleton]
    have parts : carriedRuns (runCodes decoders) 0 (text :: rest) = _ :=
      carriedRuns_split runCodes_nil fun filled : runCodes decoders [text] ≠ [] =>
        firstRun_carries ⟨rest, rfl⟩ filled fun run front carries => ends.alike front filled carries
    change carriedRuns (runCodes decoders) 0 (text :: rest) =
      readCode result ++ (textHidden decoders (trim text) ++ unread (runCodes decoders) [text] (text :: rest))
    rw [parts, codes, List.append_assoc]

/-! ### Folds -/

section Fold
variable {α : Type} {step : Option Int → α → Option (Option Int)} {codes hidden : α → List Json}

/-- A step that adds what it reads and passes over the rest. -/
def Accounts (step : Option Int → α → Option (Option Int)) (codes hidden : α → List Json) (item : α) : Prop :=
  ∀ before after, step before item = some after → (readCode before ++ codes item).Perm (readCode after ++ hidden item)

theorem foldlM_accounts {items : List α} (each : ∀ item ∈ items, Accounts step codes hidden item)
    {before after : Option Int} (folded : items.foldlM step before = some after) :
    (readCode before ++ items.flatMap codes).Perm (readCode after ++ items.flatMap hidden) := by
  induction items generalizing before with
  | nil =>
    obtain rfl := Option.some.inj folded
    exact List.Perm.refl _
  | cons item rest ih =>
    rw [List.foldlM_cons] at folded
    obtain ⟨middle, first, onward⟩ := Option.bind_eq_some_iff.mp folded
    have here := each item (List.mem_cons_self ..) before middle first
    have later := ih (fun other member => each other (List.mem_cons_of_mem _ member)) onward
    rw [List.flatMap_cons, List.flatMap_cons, ← List.append_assoc, ← List.append_assoc]
    have moved : (readCode middle ++ hidden item ++ rest.flatMap codes).Perm
        (readCode middle ++ rest.flatMap codes ++ hidden item) := by
      rw [List.append_assoc, List.append_assoc]
      exact List.perm_append_comm.append_left _
    have back : (readCode after ++ rest.flatMap hidden ++ hidden item).Perm
        (readCode after ++ hidden item ++ rest.flatMap hidden) := by
      rw [List.append_assoc, List.append_assoc]
      exact List.perm_append_comm.append_left _
    exact (here.append_right _).trans (moved.trans ((later.append_right _).trans back))

end Fold

theorem mergeActionCode_accounts {before candidate after : Option Int} {codes hidden : List Json}
    (reads : codes.Perm (readCode candidate ++ hidden)) (merged : mergeActionCode before candidate = some after) :
    (readCode before ++ codes).Perm (readCode after ++ hidden) := by
  cases candidate with
  | none =>
    obtain rfl := Option.some.inj merged
    exact reads.append_left _
  | some code =>
    cases before with
    | some other => cases merged
    | none =>
      obtain rfl := Option.some.inj merged
      exact reads

theorem inspectNestedPassThrough_reads (ends : EndsWithObject decoders) {root : XmlNode} {result : Option Int}
    (read : inspectNestedPassThrough decoders root = some result) :
    (nestedCodes decoders root).Perm (readCode result ++ nestedHidden decoders root) := by
  refine foldlM_accounts (fun node member before after stepped => ?_) read
  have element := (List.mem_filter.mp member).2
  unfold carrierCodes carrierHidden
  split at stepped
  next carrier =>
    obtain ⟨candidate, parsed, merged⟩ := Option.bind_eq_some_iff.mp stepped
    rw [if_pos carrier, if_pos carrier]
    have reads := parsePassThroughNode_reads ends element parsed
    exact mergeActionCode_accounts (List.Perm.of_eq reads) merged
  next other =>
    obtain rfl := Option.some.inj stepped
    rw [if_neg other, if_neg other]

theorem collectDirectText_texts {children : List XmlNode} {start text : Bytes}
    (collected : collectDirectText children start = some text) : text = start ++ (textNodes children).flatten := by
  induction children generalizing start with
  | nil =>
    obtain rfl := Option.some.inj collected
    exact (List.append_nil _).symm
  | cons child rest ih =>
    cases child with
    | element => cases collected
    | other => exact ih collected
    | text content =>
      simp only [collectDirectText] at collected
      split at collected
      · cases collected
      · have joined := ih collected
        rw [List.append_assoc] at joined
        exact joined

theorem parseBoundedXml_parsed {xml : Bytes} {document : XmlDocument}
    (parsed : parseBoundedXml decoders xml = some document) : decoders.parseXml xml = some document := by
  unfold parseBoundedXml at parsed
  split at parsed
  · cases parsed
  · obtain ⟨other, read, limited⟩ := Option.bind_eq_some_iff.mp parsed
    split at limited
    · rw [read, Option.some.inj limited]
    · cases limited

/-- What the text of a `LastChange` is read as, and what is passed over in it, are its codes. -/
theorem changeText_reads (ends : EndsWithObject decoders) {text : Bytes} {result : Option Int}
    (read : (match text.head? with
      | none => some none
      | some 0x7b => parseNotificationJson decoders text
      | some 0x3c => (parseBoundedXml decoders text).bind fun nested =>
        inspectNestedPassThrough decoders nested.rootElement
      | some _ => some none) = some result) :
    (changeTextCodes decoders text).Perm (readCode result ++ changeTextHidden decoders text) := by
  unfold changeTextCodes changeTextHidden
  split at read
  next empty =>
    obtain rfl := Option.some.inj read
    rw [empty]
    exact List.Perm.refl _
  next brace =>
    rw [brace]
    exact List.Perm.of_eq (parseNotificationJson_reads read)
  next angle =>
    obtain ⟨document, parsed, read⟩ := Option.bind_eq_some_iff.mp read
    rw [angle]
    change (codesOf _ (decoders.parseXml text)).Perm (_ ++ codesOf _ (decoders.parseXml text))
    rw [parseBoundedXml_parsed parsed]
    exact inspectNestedPassThrough_reads ends read
  next first notBrace notAngle starts =>
    obtain rfl := Option.some.inj read
    rw [starts]
    split
    next found => exact absurd (Option.some.inj found) notBrace
    next found => exact absurd (Option.some.inj found) notAngle
    next => exact List.Perm.refl _

theorem parseLastChangeNode_reads (ends : EndsWithObject decoders) {node : XmlNode} {result : Option Int}
    (element : node.isElement = true) (named : node.tagName = ascii "LastChange")
    (read : parseLastChangeNode decoders node = some result) :
    (lastChangeCodes decoders node).Perm (readCode result ++ lastChangeHidden decoders node) := by
  unfold parseLastChangeNode at read
  unfold lastChangeCodes lastChangeHidden
  cases inner : node.children.any XmlNode.isElement with
  | true =>
    rw [inner, if_pos rfl] at read
    rw [if_pos rfl, ← List.append_assoc]
    exact (inspectNestedPassThrough_reads ends read).append_right _
  | false =>
    rw [inner, if_neg Bool.false_ne_true] at read
    rw [if_neg Bool.false_ne_true]
    have nothing : nestedCodes decoders node = [] := by
      unfold nestedCodes
      rw [XmlNode.descendants_of_leaves element inner, List.flatMap_singleton, carrierCodes, named]
      exact if_neg (by decide)
    obtain ⟨text, collected, read⟩ := Option.bind_eq_some_iff.mp read
    have whole : text = (textNodes node.children).flatten := collectDirectText_texts collected
    rw [whole] at read
    have reads := changeText_reads ends read
    unfold groupedCodes
    rw [nothing, List.nil_append, XmlNode.textGroups_of_leaves inner, List.flatMap_singleton]
    dsimp only
    generalize textNodes node.children = texts at reads ⊢
    have parts := carriedRuns_split changeRunCodes_nil fun filled : changeRunCodes decoders texts ≠ [] =>
      congrArg (changeRunCodes decoders) (firstRun_whole filled)
    rw [parts, ← List.append_assoc]
    exact reads.append_right _

theorem parseProperty_reads (ends : EndsWithObject decoders) {property : XmlNode} :
    Accounts (parseProperty decoders) (fun property => property.elementChildren.flatMap (variableCodes decoders))
      (fun property => property.elementChildren.flatMap (variableHidden decoders)) property := by
  intro before after stepped
  unfold parseProperty at stepped
  split at stepped
  next => cases stepped
  next =>
    split at stepped
    next value only =>
      have member : value ∈ property.elementChildren := by simp [only]
      have element : value.isElement = true := (List.mem_filter.mp member).2
      dsimp only
      rw [only, List.flatMap_singleton, List.flatMap_singleton]
      unfold variableCodes variableHidden
      dsimp only at stepped
      split at stepped
      next carrier =>
        obtain ⟨candidate, parsed, merged⟩ := Option.bind_eq_some_iff.mp stepped
        rw [if_pos carrier, if_pos carrier]
        exact mergeActionCode_accounts (List.Perm.of_eq (parsePassThroughNode_reads ends element parsed)) merged
      next other =>
        rw [if_neg other, if_neg other]
        split at stepped
        next named =>
          obtain ⟨candidate, parsed, merged⟩ := Option.bind_eq_some_iff.mp stepped
          rw [if_pos named, if_pos named]
          exact mergeActionCode_accounts (parseLastChangeNode_reads ends element named parsed) merged
        next unnamed =>
          obtain rfl := Option.some.inj stepped
          rw [if_neg unnamed, if_neg unnamed]
    next => cases stepped

/-- What is read and what is passed over are all codes of the body. -/
theorem parseEventBody_reads (ends : EndsWithObject decoders) {body : Bytes} {result : Option Int}
    (accepted : parseEventBody decoders body = some result) :
    (eventCodes decoders body).Perm (readCode result ++ hiddenCodes decoders body) := by
  unfold parseEventBody at accepted
  split at accepted
  next => cases accepted
  next =>
    obtain ⟨document, parsed, accepted⟩ := Option.bind_eq_some_iff.mp accepted
    dsimp only at accepted
    split at accepted
    next => cases accepted
    next =>
      unfold eventCodes hiddenCodes
      rw [parseBoundedXml_parsed parsed]
      exact foldlM_accounts (fun property _ => parseProperty_reads ends) accepted

/-- A body is read unambiguously just when no code is in a shape that is passed over, or when
the only code of the body is in one. -/
theorem body_is_unambiguous_iff (decoders : Decoders) (ends : EndsWithObject decoders) (body : Bytes)
    (result : Option Int) (accepted : parseEventBody decoders body = some result) :
    ((∀ code, result = some code → eventCodes decoders body = [.integer code]) ∧
        (eventCodes decoders body).length < 2) ↔
      (hiddenCodes decoders body = [] ∨
        (hiddenCodes decoders body).length = 1 ∧ eventCodes decoders body = hiddenCodes decoders body) := by
  have reads := parseEventBody_reads ends accepted
  cases result with
  | none =>
    have same : (eventCodes decoders body).Perm (hiddenCodes decoders body) := reads
    constructor
    · intro ⟨_, few⟩
      rw [same.length_eq] at few
      cases hidden : hiddenCodes decoders body with
      | nil => exact .inl rfl
      | cons code rest =>
        rw [hidden] at few same
        obtain rfl : rest = [] := List.length_eq_zero_iff.mp (by simp only [List.length_cons] at few; omega)
        exact .inr ⟨rfl, List.perm_singleton.mp same⟩
    · intro condition
      refine ⟨fun code read => (nomatch read), ?_⟩
      rw [same.length_eq]
      obtain none | ⟨one, _⟩ := condition
      · rw [none]
        exact Nat.zero_lt_two
      · omega
  | some code =>
    have length : (eventCodes decoders body).length = 1 + (hiddenCodes decoders body).length := by
      rw [reads.length_eq, List.length_append]
      rfl
    constructor
    · intro ⟨_, few⟩
      exact .inl (List.length_eq_zero_iff.mp (by omega))
    · intro condition
      obtain none | ⟨_, same⟩ := condition
      · rw [none] at reads length
        refine ⟨fun other read => ?_, by rw [length]; exact Nat.one_lt_two⟩
        obtain rfl := Option.some.inj read
        exact List.perm_singleton.mp reads
      · rw [same] at length
        omega

end Xml

/-- Decoders for objects of one size. -/
theorem endsWithObject_of_sized {decoders : Decoders} {size : Nat}
    (sized : ∀ text value, decoders.fromStr text = some value → ∃ rest, text = 0x7b :: rest ∧ rest.length = size) :
    EndsWithObject decoders := by
  constructor
  intro text more fields object filled
  cases longer : decoders.fromStr (trim (text ++ more)) with
  | none => rfl
  | some value =>
    obtain ⟨core, first, short⟩ := sized _ _ object
    obtain ⟨other, second, long⟩ := sized _ _ longer
    exact absurd (trim_of_blank (blank_of_trim_append (by decide) first second (short.trans long.symm))) filled

theorem fixtureDecoders_endWithObject : EndsWithObject fixtureDecoders := by
  apply @endsWithObject_of_sized _ ((renderPlain (fixtureNotification 33)).length - 1)
  intro text value decoded
  simp only [fixtureDecoders] at decoded
  split at decoded
  next same => exact ⟨_, same, rfl⟩
  next => cases decoded

theorem single_notification_is_unambiguous : parseEventBody fixtureDecoders (fixtureEvent 33) = some (some 33) ∧
    eventCodes fixtureDecoders (fixtureEvent 33) = [.integer 33] := by
  have accepted : parseEventBody fixtureDecoders (fixtureEvent 33) = some (some 33) := by decide
  have nothing : (hiddenCodes fixtureDecoders (fixtureEvent 33)).isEmpty = true := by decide
  have sound := (body_is_unambiguous_iff fixtureDecoders fixtureDecoders_endWithObject (fixtureEvent 33) (some 33)
    accepted).mpr (.inl (List.isEmpty_iff.mp nothing))
  exact ⟨accepted, sound.1 33 rfl⟩

/-! The text beside a `val` attribute is not looked at. -/

def doubledEvent : Bytes :=
  ascii "<e:propertyset xmlns:e=" ++ [0x22] ++ ascii eventNamespace ++ [0x22] ++ ascii "><e:property><PassThrough val=" ++
    [0x27] ++ renderPlain (fixtureNotification 33) ++ [0x27] ++ ascii ">" ++ renderPlain (fixtureNotification 34) ++
    ascii "</PassThrough></e:property>" ++ ascii "</e:propertyset>"

def doubledDocument : XmlDocument where
  before := 0
  rootElement := .element (some (ascii eventNamespace)) (ascii "propertyset") []
    [.element (some (ascii eventNamespace)) (ascii "property") []
      [.element none (ascii "PassThrough") [⟨none, ascii "val", renderPlain (fixtureNotification 33)⟩]
        [.text (renderPlain (fixtureNotification 34))]]]
  after := 0
  isElement := rfl

def doubledDecoders : Decoders where
  parseXml text := if text = doubledEvent then some doubledDocument else none
  fromStr text :=
    if text = renderPlain (fixtureNotification 33) then some (fixtureNotification 33)
    else if text = renderPlain (fixtureNotification 34) then some (fixtureNotification 34)
    else none

theorem doubledDecoders_endWithObject : EndsWithObject doubledDecoders := by
  apply @endsWithObject_of_sized _ ((renderPlain (fixtureNotification 33)).length - 1)
  intro text value decoded
  simp only [doubledDecoders] at decoded
  split at decoded
  next same => exact ⟨_, same, rfl⟩
  next =>
    split at decoded
    next same => exact ⟨_, same, rfl⟩
    next => cases decoded

theorem text_beside_attribute_is_not_read :
    ¬∀ (decoders : Decoders) (body : Bytes) (result : Option Int), EndsWithObject decoders →
      parseEventBody decoders body = some result →
      (∀ code, result = some code → eventCodes decoders body = [.integer code]) ∧
        (eventCodes decoders body).length < 2 := by
  intro claim
  have accepted : parseEventBody doubledDecoders doubledEvent = some (some 33) := by decide
  have both : (eventCodes doubledDecoders doubledEvent).length = 2 := by decide
  have few := (claim doubledDecoders doubledEvent (some 33) doubledDecoders_endWithObject accepted).2
  omega

end PlayTogether.Gena
