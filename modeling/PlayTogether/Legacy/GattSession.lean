import PlayTogether.Library.Decode
import PlayTogether.Library.Substitution

/-! A gatttool session: a reader that fills a bounded buffer, and commands that wait in it
for their reply. -/

namespace PlayTogether.Legacy
open PlayTogether.Library

def maxBufferChars : Nat := 262144

/-- Which characters belong to words; on ASCII these are letters, digits and the underscore. -/
structure Characters where
  isWord : Char → Bool
  ascii : ∀ char, char.toNat < 0x80 → isWord char = (char.isAlphanum || char == '_')

/-- Words of ASCII alone. -/
def asciiCharacters : Characters := ⟨fun char => char.isAlphanum || char == '_', fun _ _ => rfl⟩

def isHexDigit (char : Char) : Bool :=
  ('0' ≤ char && char ≤ '9') || ('a' ≤ char && char ≤ 'f') || ('A' ≤ char && char ≤ 'F')

def isDecimal (char : Char) : Bool := '0' ≤ char && char ≤ '9'

/-! ## Patterns -/

def macShape : List (Char → Bool) :=
  let group := [isHexDigit, isHexDigit, (· == ':')]
  group ++ group ++ group ++ group ++ group ++ [isHexDigit, isHexDigit]

def macPattern : Pattern := [macShape.map .one]

def ansiPattern : Pattern :=
  [[.one (· == '\x1b'), .one (· == '['), .many fun char => isDecimal char || char == ';',
    .one fun char => char.isAlpha]]

def writeAck : Pattern := [literal "Characteristic value was written successfully"]

def connectAck : Pattern := [literal "Connection successful"]

def mtuAck : Pattern := [literal "MTU was exchanged successfully:" ++ spaces ++ [.one isDecimal, .many isDecimal]]

/-- Words with white space between them. -/
def spaced : List String → List Item
  | [] => []
  | [word] => literal word
  | word :: next :: rest => literal word ++ someSpaces ++ spaced (next :: rest)

def auraAck : Pattern :=
  [literal "Notification handle" ++ spaces ++ literal "=" ++ spaces ++ literal "0x03ec" ++ someSpaces ++
    literal "value:" ++ spaces ++ spaced ["aa", "00", "02", "13", "00"]]

def basicOkHex : Pattern :=
  [spaced ["7b", "22", "65", "72", "72", "6f", "72", "5f", "63", "6f", "64", "65", "22", "3a", "22", "30", "22", "7d"]]

def transportFailure : Pattern :=
  [literal "Command Failed", literal "Host is down", literal "Function not implemented", literal "Connection refused",
    literal "Disconnected", literal "connect failed", literal "No route to host"]

def disconnectEvent : Pattern :=
  [.boundary :: (literal "Disconnected" ++ [.boundary]), literal "Connection closed", literal "Connection terminated",
    literal "Connection lost"]

/-! ## Redaction -/

def bluetoothAddress : Text := "<bluetooth-address>".toList

def redactedFrame : Text := "<redacted-frame>".toList

/-- Only ASCII characters have the lower case of a character of a secret. -/
def lower (text : Text) : Text := text.map Char.toLower

def strip (text : Text) : Text := ((text.dropWhile isSpace).reverse.dropWhile isSpace).reverse

def lastChars (count : Nat) (text : Text) : Text := text.drop (text.length - count)

def secretPattern (secret : Text) : Pattern := [secret.map fun letter => .one (sameIgnoringCase letter)]

section Session
variable (characters : Characters) (redactions : List Text)

def redactSecret (value secret : Text) : Text :=
  if secret <:+: lower value then substituteAll characters.isWord (secretPattern secret) redactedFrame value else value

def redact (value : Text) : Text :=
  redactions.foldl (redactSecret characters)
    (substituteAll characters.isWord macPattern bluetoothAddress (substituteAll characters.isWord ansiPattern [] value))

/-! ## The buffer -/

/-- The reader thread and the commands share these fields under one lock. -/
structure GattSession where
  buffer : Text
  bufferOffset : Nat
  connected : Bool

namespace GattSession

def new : GattSession := ⟨[], 0, false⟩

/-- One chunk of output under the condition. -/
def readOutput (chunk : Bytes) (session : GattSession) : GattSession :=
  let text := decodeReplace chunk
  let buffer := session.buffer ++ text
  let connected := if (search characters.isWord disconnectEvent text).isSome then false else session.connected
  if buffer.length > maxBufferChars then
    let discarded := buffer.length - maxBufferChars
    ⟨buffer.drop discarded, session.bufferOffset + discarded, connected⟩
  else ⟨buffer, session.bufferOffset, connected⟩

/-- The end of the output. -/
def readEnd (session : GattSession) : GattSession := { session with connected := false }

def tail (start : Nat) (session : GattSession) : Text :=
  strip (redact characters redactions (lastChars 600 (session.buffer.drop (start - session.bufferOffset))))

end GattSession

/-! ## Waiting -/

inductive SessionError where
  | tooMuchOutput
  | transportFailed (failure output : Text)
  | processExited (output : Text)
  | timedOut (output : Text)
  | pipeFailed
  deriving DecidableEq, Repr

inductive Decision where
  | matched (text : Text)
  | raised (error : SessionError)
  | waiting
  deriving DecidableEq, Repr

/-- What a wait makes of the text it looks at; `output` is what an error shows of it. -/
def judge (pattern : Pattern) (current output : Text) (running expired : Bool) : Decision :=
  match search characters.isWord pattern current with
  | some found => .matched found
  | none => match search characters.isWord transportFailure current with
    | some failure => .raised (.transportFailed failure output)
    | none =>
      if !running then .raised (.processExited output)
      else if expired then .raised (.timedOut output)
      else .waiting

/-- One round of the loop of a wait. -/
def wait (pattern : Pattern) (start : Nat) (running expired : Bool) (session : GattSession) : Decision :=
  if start < session.bufferOffset then .raised .tooMuchOutput
  else judge characters pattern (session.buffer.drop (start - session.bufferOffset))
    (session.tail characters redactions start) running expired

/-! ## Commands -/

structure Command where
  line : String
  expected : Pattern
  second : Option Pattern
  connecting : Bool

namespace Command

def connect : Command := ⟨"connect", connectAck, none, true⟩

def setMtu (mtu : Nat) : Command := ⟨"mtu " ++ toString mtu, mtuAck, none, false⟩

def write (handle frame : String) : Command :=
  ⟨"char-write-req " ++ handle ++ " " ++ frame, writeAck, none, false⟩

def writeBasic (handle frame : String) : Command :=
  ⟨"char-write-req " ++ handle ++ " " ++ frame, writeAck, some basicOkHex, false⟩

def writeAura (handle frame : String) : Command :=
  ⟨"char-write-req " ++ handle ++ " " ++ frame, writeAck, some auraAck, false⟩

def writeAuraCommand (handle frame : String) : Command :=
  ⟨"char-write-cmd " ++ handle ++ " " ++ frame, auraAck, none, false⟩

end Command

/-- A command in progress: the wait for a reply, and for a second one after it. -/
structure Waiting where
  command : Command
  start : Nat
  expected : Pattern
  second : Option Pattern

/-- A session and the command that holds its lock. -/
structure Running where
  session : GattSession
  command : Option Waiting

inductive SessionEvent where
  | output (chunk : Bytes)
  | ended
  | connecting
  | issue (command : Command) (written : Bool)
  | poll (running expired : Bool)

namespace Running

def new : Running := ⟨.new, none⟩

/-- A failed connect takes the flag back. -/
def fail (connecting : Bool) (error : SessionError) (self : Running) : Running × Option (Except SessionError Unit) :=
  (⟨if connecting then self.session.readEnd else self.session, none⟩, some (.error error))

/-- Nothing happens while another command holds the lock. -/
def issue (command : Command) (written : Bool) (self : Running) : Running × Option (Except SessionError Unit) :=
  match self.command with
  | some _ => (self, none)
  | none =>
    let start := self.session.bufferOffset + self.session.buffer.length
    if written then ({ self with command := some ⟨command, start, command.expected, command.second⟩ }, none)
    else self.fail command.connecting .pipeFailed

def poll (running expired : Bool) (self : Running) : Running × Option (Except SessionError Unit) :=
  match self.command with
  | none => (self, none)
  | some waiting => match wait characters redactions waiting.expected waiting.start running expired self.session with
    | .waiting => (self, none)
    | .raised error => self.fail waiting.command.connecting error
    | .matched _ => match waiting.second with
      | some second => ({ self with command := some { waiting with expected := second, second := none } }, none)
      | none => ({ self with command := none }, some (.ok ()))

/-- One step, with the result of the command that ends there. -/
def step (self : Running) : SessionEvent → Running × Option (Except SessionError Unit)
  | .output chunk => ({ self with session := self.session.readOutput characters chunk }, none)
  | .ended => ({ self with session := self.session.readEnd }, none)
  | .connecting => ({ self with session := { self.session with connected := true } }, none)
  | .issue command written => self.issue command written
  | .poll running expired => self.poll characters redactions running expired

end Running

end Session

end PlayTogether.Legacy
