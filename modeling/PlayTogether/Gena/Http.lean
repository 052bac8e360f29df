import PlayTogether.Library.HttpHead

/-! HTTP messages as the event observer reads them from a socket: NOTIFY requests and the
responses to its own subscription requests. Every failure is an invalid callback, so no
value stands for it. -/

namespace PlayTogether.Gena
open PlayTogether.Library

def maxHeaderBytes : Nat := 16 * 1024

def maxHeaderCount : Nat := 64

def maxBodyBytes : Nat := 64 * 1024

inductive MessageKind where
  | request
  | response
  deriving DecidableEq, Repr

inductive StartLine where
  | request (method target : Bytes)
  | response (status : Nat)
  deriving DecidableEq

structure HttpMessage where
  startLine : StartLine
  headers : HeaderMap
  body : Bytes
  deriving DecidableEq

namespace HttpMessage

def status (message : HttpMessage) : Option Nat :=
  match message.startLine with
  | .response status => some status
  | .request _ _ => none

def header (message : HttpMessage) (name : String) : Option Bytes := message.headers.get (ascii name)

end HttpMessage

/-- Bytes of a field value or a reason phrase. -/
def isFieldByte (byte : UInt8) : Bool := !(byte == 0x7f || (byte < 0x20 && byte != 0x09))

def parseStatus (text : Bytes) : Option Nat :=
  if text.length ≠ 3 || !text.all isDigit then none
  else if 100 ≤ decimalValue text ∧ decimalValue text ≤ 599 then some (decimalValue text)
  else none

def parseStartLine (line : Bytes) : MessageKind → Option StartLine
  | .request => match line.splitOn 0x20 with
    | [method, target, version] =>
      if method.isEmpty || target.isEmpty || version ≠ ascii "HTTP/1.1" || !method.all isTchar then none
      else some (.request method target)
    | _ => none
  | .response => match splitOnce 0x20 line with
    | none => none
    | some (version, rest) =>
      if version ≠ ascii "HTTP/1.1" then none
      else match splitOnce 0x20 rest with
        | none => (parseStatus rest).map .response
        | some (statusText, reason) =>
          if reason.any (!isFieldByte ·) then none else (parseStatus statusText).map .response

/-- Digits only, in the range of a 64-bit size; leading zeros are allowed. -/
def parseDecimalUsize (value : Bytes) : Option Nat :=
  if value.isEmpty || !value.all isDigit then none else parseUnsigned (2 ^ 64 - 1) value

structure HttpHead where
  startLine : StartLine
  headers : HeaderMap
  contentLength : Nat
  deriving DecidableEq

def headContentLength (headers : HeaderMap) (contentLengthRequired : Bool) : Option Nat :=
  match headers.get (ascii "content-length") with
  | some value => parseDecimalUsize value
  | none => if contentLengthRequired then none else some 0

def parseHttpHead (head : Bytes) (kind : MessageKind) (contentLengthRequired : Bool) : Option HttpHead :=
  if !validUtf8 head then none
  else match splitCrlf head with
    | [] => none
    | first :: lines => do
      let startLine ← parseStartLine first kind
      let headers ← readHeaders (loweredField isFieldByte) maxHeaderCount .empty lines
      if headers.containsKey (ascii "transfer-encoding") then none
      else
        let contentLength ← headContentLength headers contentLengthRequired
        if contentLength > maxBodyBytes then none else some ⟨startLine, headers, contentLength⟩

/-- The second loop of the reader: up to exactly the announced length. -/
def readBody (total : Nat) : List Bytes → Bytes → Option Bytes
  | [], bytes => if bytes.length = total then some bytes else none
  | chunk :: reads, bytes =>
    if bytes.length > total then none
    else if bytes.length = total then some bytes
    else if chunk.isEmpty then none
    else readBody total reads (bytes ++ chunk)

/-- The first loop: up to the end of the head, and then the body. The reads are the results
of consecutive calls on the socket, of at most 4096 bytes each; none left means that the
next one fails, and an empty one that the peer has closed. -/
def readHead (kind : MessageKind) (contentLengthRequired : Bool) : List Bytes → Bytes → Option HttpMessage
  | [], _ => none
  | chunk :: reads, before =>
    if chunk.isEmpty then none
    else
      let bytes := before ++ chunk
      if bytes.length > maxHeaderBytes + 4 + maxBodyBytes then none
      else match findSubslice blankLine bytes with
        | some index =>
          if index > maxHeaderBytes then none
          else do
            let head ← parseHttpHead (bytes.take index) kind contentLengthRequired
            let whole ← readBody (index + 4 + head.contentLength) reads bytes
            some ⟨head.startLine, head.headers, whole.drop (index + 4)⟩
        | none =>
          if bytes.length > maxHeaderBytes + 4 then none
          else readHead kind contentLengthRequired reads bytes

def readHttpMessage (reads : List Bytes) (kind : MessageKind) (contentLengthRequired : Bool) : Option HttpMessage :=
  readHead kind contentLengthRequired reads []

end PlayTogether.Gena
