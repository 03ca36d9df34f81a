import Jianmen.Library.Utf8
import Jianmen.DBProxy.Sink

/-!
# PostgreSQL messages

The message types of the protocol, and which payloads of frontend and backend messages the
observer takes for well formed.
-/

namespace Jianmen.DBProxy.Postgres

open Utf8

/-! ## Message types -/

/-- The type byte of a message. -/
abbrev MessageType := UInt8

/-- Frontend message types. -/
def queryType : MessageType := 0x51
def parseType : MessageType := 0x50
def bindType : MessageType := 0x42
def executeType : MessageType := 0x45
def closeType : MessageType := 0x43
def describeType : MessageType := 0x44
def syncType : MessageType := 0x53
def flushType : MessageType := 0x48
def terminateType : MessageType := 0x58
def copyDataType : MessageType := 0x64
def copyDoneType : MessageType := 0x63
def copyFailType : MessageType := 0x66

/-- Backend message types. -/
def parseCompleteType : MessageType := 0x31
def bindCompleteType : MessageType := 0x32
def closeCompleteType : MessageType := 0x33
def notificationType : MessageType := 0x41
def commandCompleteType : MessageType := 0x43
def dataRowType : MessageType := 0x44
def errorType : MessageType := 0x45
def noticeType : MessageType := 0x4E
def emptyQueryType : MessageType := 0x49
def backendKeyType : MessageType := 0x4B
def parameterStatusType : MessageType := 0x53
def rowDescriptionType : MessageType := 0x54
def readyForQueryType : MessageType := 0x5A
def noDataType : MessageType := 0x6E
def portalSuspendedType : MessageType := 0x73
def parameterDescriptionType : MessageType := 0x74
def copyInType : MessageType := 0x47
def copyOutType : MessageType := 0x48
def copyBothType : MessageType := 0x57

/-- What a Close or Describe is about, and the transaction status of a ReadyForQuery. -/
def statementTarget : UInt8 := 0x53
def portalTarget : UInt8 := 0x50
def idleStatus : UInt8 := 0x49
def transactionStatus : UInt8 := 0x54
def failedStatus : UInt8 := 0x45

/-! ## Fields -/

/-- The text up to the first zero byte, and what follows that byte. -/
def splitCString (data : Bytes) : Bytes × Bytes :=
  (data.takeWhile (· != 0), (data.dropWhile (· != 0)).drop 1)

def trimCString (data : Bytes) : Bytes :=
  Utf8.trimSpace (data.takeWhile (· != 0))

/-- What follows a zero-terminated text; `none` without a zero byte. -/
def consumePostgresCString (payload : Bytes) : Option Bytes :=
  if payload.contains 0 then some ((payload.dropWhile (· != 0)).drop 1) else none

def isSinglePostgresCString (payload : Bytes) : Bool :=
  payload.dropWhile (· != 0) == [0]

def consumePostgresUint16 : Bytes → Option (ℕ × Bytes)
  | high :: low :: rest => some (bigEndian [high, low], rest)
  | _ => none

/-- The signed number in four big-endian bytes. -/
def int32 (bytes : Bytes) : Int :=
  if bigEndian bytes < 2 ^ 31 then bigEndian bytes else bigEndian bytes - 2 ^ 32

/-- Two-byte codes that are all 0 or 1, and nothing besides. -/
def validPostgresFormatCodes : Bytes → Bool
  | [] => true
  | [_] => false
  | high :: low :: rest => decide (bigEndian [high, low] ≤ 1) && validPostgresFormatCodes rest

/-- Skip values that come with their length, a length of -1 standing for no value. -/
def skipValues : ℕ → Bytes → Option Bytes
  | 0, rest => some rest
  | count + 1, rest =>
    if rest.length < 4 then none
    else
      let length := int32 (rest.take 4)
      let rest := rest.drop 4
      if length = -1 then skipValues count rest
      else if length < 0 ∨ (rest.length : Int) < length then none
      else skipValues count (rest.drop length.toNat)

/-! ## Frontend messages -/

def validPostgresParse (payload : Bytes) : Bool :=
  ((consumePostgresCString payload).bind consumePostgresCString).bind consumePostgresUint16
    |>.any fun counted => decide (counted.2.length = counted.1 * 4)

def validPostgresBind (payload : Bytes) : Bool :=
  match ((consumePostgresCString payload).bind consumePostgresCString).bind
      consumePostgresUint16 with
  | none => false
  | some (formatCount, rest) =>
    if rest.length < formatCount * 2 then false
    else if !validPostgresFormatCodes (rest.take (formatCount * 2)) then false
    else
      match consumePostgresUint16 (rest.drop (formatCount * 2)) with
      | none => false
      | some (parameterCount, rest) =>
        if formatCount ≠ 0 ∧ formatCount ≠ 1 ∧ formatCount ≠ parameterCount then false
        else
          ((skipValues parameterCount rest).bind consumePostgresUint16).any fun counted =>
            decide (counted.2.length = counted.1 * 2) && validPostgresFormatCodes counted.2

def validPostgresExecute (payload : Bytes) : Bool :=
  (consumePostgresCString payload).any fun rest =>
    decide (rest.length = 4) && decide (0 ≤ int32 rest)

def validPostgresTargetName : Bytes → Bool
  | target :: name =>
    decide (1 ≤ name.length) && (target == statementTarget || target == portalTarget) &&
      isSinglePostgresCString name
  | [] => false

def validPostgresFrontendMessage (messageType : MessageType) (payload : Bytes) : Bool :=
  if messageType == queryType || messageType == copyFailType then isSinglePostgresCString payload
  else if messageType == parseType then validPostgresParse payload
  else if messageType == bindType then validPostgresBind payload
  else if messageType == executeType then validPostgresExecute payload
  else if messageType == closeType || messageType == describeType then
    validPostgresTargetName payload
  else if messageType == flushType || messageType == syncType || messageType == terminateType ||
      messageType == copyDoneType then
    payload.isEmpty
  else messageType == copyDataType

/-! ## Backend messages -/

def validPostgresNotification (payload : Bytes) : Bool :=
  if payload.length < 6 then false
  else
    ((consumePostgresCString (payload.drop 4)).bind consumePostgresCString).any List.isEmpty

def validPostgresParameterStatus (payload : Bytes) : Bool :=
  ((consumePostgresCString payload).bind consumePostgresCString).any List.isEmpty

/-- Typed texts up to a final zero byte, at most `fuel` of them. -/
def validErrorFieldsUpTo : ℕ → Bytes → Bool
  | 0, _ => false
  | _ + 1, [] => false
  | fuel + 1, fieldType :: rest =>
    if fieldType = 0 then rest.isEmpty
    else (consumePostgresCString rest).any (validErrorFieldsUpTo fuel)

def validPostgresErrorFields (payload : Bytes) : Bool :=
  validErrorFieldsUpTo payload.length payload

def validPostgresDataRow (payload : Bytes) : Bool :=
  (consumePostgresUint16 payload).any fun counted =>
    (skipValues counted.1 counted.2).any List.isEmpty

/-- Skip column descriptions. -/
def skipColumns : ℕ → Bytes → Option Bytes
  | 0, rest => some rest
  | count + 1, rest =>
    match consumePostgresCString rest with
    | none => none
    | some rest =>
      if rest.length < 18 then none
      else if 1 < bigEndian ((rest.drop 16).take 2) then none
      else skipColumns count (rest.drop 18)

def validPostgresRowDescription (payload : Bytes) : Bool :=
  (consumePostgresUint16 payload).any fun counted =>
    (skipColumns counted.1 counted.2).any List.isEmpty

def validPostgresParameterDescription (payload : Bytes) : Bool :=
  (consumePostgresUint16 payload).any fun counted => decide (counted.2.length = counted.1 * 4)

def validPostgresCopyResponse : Bytes → Bool
  | format :: rest =>
    (format == 0 || format == 1) &&
      (consumePostgresUint16 rest).any fun counted =>
        decide (counted.2.length = counted.1 * 2) && validPostgresFormatCodes counted.2
  | [] => false

def minPostgresCancelSecretBytes : ℕ := 4
def maxPostgresCancelSecretBytes : ℕ := 256

/-- The size check of `parsePostgresBackendKey`. -/
def validPostgresBackendKey (payload : Bytes) : Bool :=
  decide (4 + minPostgresCancelSecretBytes ≤ payload.length) &&
    decide (payload.length ≤ 4 + maxPostgresCancelSecretBytes)

def validPostgresBackendMessage (messageType : MessageType) (payload : Bytes) : Bool :=
  if messageType == parseCompleteType || messageType == bindCompleteType ||
      messageType == closeCompleteType || messageType == emptyQueryType ||
      messageType == noDataType || messageType == portalSuspendedType ||
      messageType == copyDoneType then
    payload.isEmpty
  else if messageType == notificationType then validPostgresNotification payload
  else if messageType == commandCompleteType then isSinglePostgresCString payload
  else if messageType == dataRowType then validPostgresDataRow payload
  else if messageType == errorType || messageType == noticeType then
    validPostgresErrorFields payload
  else if messageType == copyInType || messageType == copyOutType ||
      messageType == copyBothType then
    validPostgresCopyResponse payload
  else if messageType == backendKeyType then validPostgresBackendKey payload
  else if messageType == parameterStatusType then validPostgresParameterStatus payload
  else if messageType == rowDescriptionType then validPostgresRowDescription payload
  else if messageType == readyForQueryType then
    payload == [idleStatus] || payload == [transactionStatus] || payload == [failedStatus]
  else if messageType == copyDataType then true
  else if messageType == parameterDescriptionType then validPostgresParameterDescription payload
  else false

/-! ## Outcomes -/

/-- The code and the message among typed texts, at most `fuel` of them; a later one replaces an
earlier one. -/
def errorFieldsUpTo : ℕ → Bytes → Bytes × Bytes → Bytes × Bytes
  | 0, _, found => found
  | _ + 1, [], found => found
  | fuel + 1, fieldType :: rest, found =>
    if fieldType = 0 then found
    else
      let split := splitCString rest
      let found :=
        if fieldType = 0x43 then (split.1, found.2)
        else if fieldType = 0x4D then (found.1, split.1)
        else found
      errorFieldsUpTo fuel split.2 found

/-- The code and the message of an ErrorResponse. -/
def parsePostgresError (payload : Bytes) : Bytes × Bytes :=
  errorFieldsUpTo payload.length payload ([], [])

/-- An SQLSTATE as it is, anything else as `PG_ERROR`. -/
def sanitizedPostgresErrorCode (code : Bytes) : Bytes :=
  if code.length = 5 ∧ (code.all fun value =>
      (0x30 ≤ value && value ≤ 0x39) || (0x41 ≤ value && value ≤ 0x5A)) then code
  else ascii "PG_ERROR"

def maxInt64 : Int := 2 ^ 63 - 1

/-- The decimal number a word of digits stands for, unless it overflows. -/
def decimalWord : List Rune → Int → Option Int
  | [], value => some value
  | rune :: rest, value =>
    match rune.value with
    | none => none
    | some code =>
      if code < 0x30 ∨ 0x39 < code then none
      else
        let digit : Int := code - 0x30
        if (maxInt64 - digit) / 10 < value then none
        else decimalWord rest (value * 10 + digit)

/-- The last field of a text, fields being separated by white space. -/
def lastField (text : Bytes) : List Rune :=
  (((runes text).reverse.dropWhile Rune.isSpace).takeWhile fun rune => !rune.isSpace).reverse

def parsePostgresRowsFromCommandTag (tag : Bytes) : Option Int :=
  if blank tag then none else decimalWord (lastField tag) 0

end Jianmen.DBProxy.Postgres
