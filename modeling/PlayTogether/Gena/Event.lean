import PlayTogether.Gena.Http
import PlayTogether.Library.Json
import PlayTogether.Library.Xml

/-! The body of an event: a property set whose PassThrough properties, direct or inside
LastChange, carry the broadcast information as JSON text. Every failure is an invalid
callback, so no value stands for it. -/

namespace PlayTogether.Gena
open PlayTogether.Library

def maxXmlNodes : Nat := 256

def maxXmlDepth : Nat := 16

def maxXmlTextBytes : Nat := 64 * 1024

def maxJsonNodes : Nat := 256

def maxJsonDepth : Nat := 16

def maxJsonKeyBytes : Nat := 128

def eventNamespace : String := "urn:schemas-upnp-org:event-1-0"

def notificationCommand : String := "notifyDeviceAuracastBroadcastInfo"

/-- The two libraries that read the text of an XML document and of a JSON value. -/
structure Decoders where
  parseXml : Bytes → Option XmlDocument
  fromStr : Bytes → Option Json

/-! ## Limits -/

mutual

/-- Counts of nodes and of text bytes so far; no value means that a limit is passed. -/
def visit (depth : Nat) : Json → Nat × Nat → Option (Nat × Nat)
  | value, (nodes, textBytes) =>
    if depth > maxJsonDepth || nodes + 1 > maxJsonNodes then none
    else do
      let (nodes, textBytes) ← match value with
        | .string text => some (nodes + 1, textBytes + text.length)
        | .array items => visitItems (depth + 1) items (nodes + 1, textBytes)
        | .object fields => visitFields (depth + 1) fields (nodes + 1, textBytes)
        | .null | .bool _ | .integer _ | .float _ => some (nodes + 1, textBytes)
      if textBytes > maxBodyBytes then none else some (nodes, textBytes)

def visitItems (depth : Nat) : List Json → Nat × Nat → Option (Nat × Nat)
  | [], counts => some counts
  | item :: rest, counts => do
    let counts ← visit depth item counts
    visitItems depth rest counts

def visitFields (depth : Nat) : List (Bytes × Json) → Nat × Nat → Option (Nat × Nat)
  | [], counts => some counts
  | (key, value) :: rest, (nodes, textBytes) =>
    if key.length > maxJsonKeyBytes then none
    else do
      let counts ← visit depth value (nodes, textBytes + key.length)
      visitFields depth rest counts

end

def validateJsonLimits (value : Json) : Bool := (visit 1 value (0, 0)).isSome

def xmlLimits : List (Nat × XmlNode) → Nat → Nat → Bool
  | [], _, _ => true
  | (depth, node) :: rest, nodes, textBytes =>
    if nodes + 1 > maxXmlNodes || depth > maxXmlDepth then false
    else match node with
      | .text content =>
        if textBytes + content.length > maxXmlTextBytes then false
        else xmlLimits rest (nodes + 1) (textBytes + content.length)
      | .element .. | .other => xmlLimits rest (nodes + 1) textBytes

def validateXmlLimits (document : XmlDocument) : Bool := xmlLimits document.nodes 0 0

/-! ## JSON -/

section Json
variable (decoders : Decoders)

def extractInfoActionCode (value : Json) : Option Int := do
  let info ← value.get "info"
  let field ← info.get "action_code"
  let actionCode ← field.asI64
  if 0 ≤ actionCode ∧ actionCode ≤ 255 then some actionCode else none

def extractPayloadActionCode : Json → Option Int
  | .string text =>
    if text.isEmpty || text.length > maxBodyBytes then none
    else do
      let parsed ← decoders.fromStr text
      if !validateJsonLimits parsed then none
      else extractInfoActionCode ((parsed.get notificationCommand).getD parsed)
  | .object fields =>
    extractInfoActionCode (((Json.object fields).get notificationCommand).getD (.object fields))
  | .null | .bool _ | .integer _ | .float _ | .array _ => none

/-- The action code of a notification; no code when it is about something else. -/
def parseNotificationJson (text : Bytes) : Option (Option Int) :=
  if text.isEmpty || text.length > maxBodyBytes then none
  else do
    let value ← decoders.fromStr text
    if !validateJsonLimits value then none
    else
      let root := (value.get "UpnpNotifyPassThrough").getD value
      let passThrough ← (root.get "pass_through").or (root.get "passThrough")
      let passString ← (passThrough.get "pass_string").or (passThrough.get "passString")
      let command ← (passString.get "command").bind Json.asStr
      if command ≠ ascii notificationCommand then some none
      else match passString.get "payload" with
        | some payload => (extractPayloadActionCode decoders payload).map some
        | none => do
          let info ← passString.get notificationCommand
          (extractInfoActionCode info).map some

end Json

/-! ## XML -/

/-- A second code is refused. -/
def mergeActionCode (target candidate : Option Int) : Option (Option Int) :=
  match candidate with
  | none => some target
  | some code => if target.isSome then none else some (some code)

def isPassThrough (name : Bytes) : Bool := name == ascii "UpnpNotifyPassThrough" || name == ascii "PassThrough"

def nodePayload (node : XmlNode) : Option Bytes :=
  match node.attributeOf "val", node.attributeOf "value" with
  | some _, some _ => none
  | some value, none | none, some value =>
    if node.children.any XmlNode.isElement || value.length > maxXmlTextBytes then none else some (trim value)
  | none, none =>
    if node.children.any XmlNode.isElement then none
    else do
      let text ← node.textOf
      if (trim text).isEmpty || (trim text).length > maxXmlTextBytes then none else some (trim text)

def collectDirectText : List XmlNode → Bytes → Option Bytes
  | [], text => some text
  | .element .. :: _, _ => none
  | .text value :: rest, text =>
    if text.length + value.length > maxXmlTextBytes then none else collectDirectText rest (text ++ value)
  | .other :: rest, text => collectDirectText rest text

section Xml
variable (decoders : Decoders)

def parseBoundedXml (xml : Bytes) : Option XmlDocument :=
  if xml.length > maxBodyBytes || (findSubslice (ascii "<!DOCTYPE") xml).isSome ||
      (findSubslice (ascii "<!doctype") xml).isSome || (findSubslice (ascii "<!ENTITY") xml).isSome ||
      (findSubslice (ascii "<!entity") xml).isSome then none
  else do
    let document ← decoders.parseXml xml
    if validateXmlLimits document then some document else none

def parsePassThroughNode (node : XmlNode) : Option (Option Int) := do
  let payload ← nodePayload node
  parseNotificationJson decoders payload

def inspectNestedPassThrough (root : XmlNode) : Option (Option Int) :=
  (root.descendants.filter XmlNode.isElement).foldlM (fun result node =>
    if isPassThrough node.tagName then do
      let candidate ← parsePassThroughNode decoders node
      mergeActionCode result candidate
    else some result) none

def parseLastChangeNode (node : XmlNode) : Option (Option Int) :=
  if node.children.any XmlNode.isElement then inspectNestedPassThrough decoders node
  else do
    let text ← collectDirectText node.children []
    let trimmed := trim text
    match trimmed.head? with
    | none => some none
    | some 0x7b => parseNotificationJson decoders trimmed
    | some 0x3c => do
      let nested ← parseBoundedXml decoders trimmed
      inspectNestedPassThrough decoders nested.rootElement
    | some _ => some none

def parseProperty (result : Option Int) (property : XmlNode) : Option (Option Int) :=
  if property.tagName ≠ ascii "property" then none
  else match property.elementChildren with
    | [value] => do
      let candidate ←
        if isPassThrough value.tagName then parsePassThroughNode decoders value
        else if value.tagName = ascii "LastChange" then parseLastChangeNode decoders value
        else some none
      mergeActionCode result candidate
    | _ => none

def parseEventBody (body : Bytes) : Option (Option Int) :=
  if !validUtf8 body then none
  else do
    let document ← parseBoundedXml decoders body
    let root := document.rootElement
    if root.tagName ≠ ascii "propertyset" ∨ root.tagUri ≠ some (ascii eventNamespace) then none
    else root.elementChildren.foldlM (parseProperty decoders) none

end Xml

end PlayTogether.Gena
