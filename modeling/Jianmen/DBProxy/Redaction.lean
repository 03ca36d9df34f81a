import Jianmen.Library.Loop
import Jianmen.Library.Utf8
import Jianmen.DBProxy.Sink

/-!
# Audit copies of SQL

The text an observer hands to its sink is a copy of the statement: redacted by a byte-wise
stream redactor, or taken over as it is, and in both cases cut to the preview limit of the sink
and made well-formed UTF-8.  The redactor goes over a byte again whenever the byte ends the
token it was in; `rank` bounds how often.
-/

namespace Jianmen.DBProxy

open Utf8

/-- `[REDACTED]`. -/
def redactedMarker : Bytes := ascii "[REDACTED]"

def defaultPreviewBytes : ℕ := 64 * 1024
def maxDollarTagBytes : ℕ := 64 * 1024

def isDigit (value : UInt8) : Bool := 0x30 ≤ value && value ≤ 0x39

def isIdentifierStart (value : UInt8) : Bool :=
  value == 0x5F || (0x61 ≤ value && value ≤ 0x7A) || (0x41 ≤ value && value ≤ 0x5A)

/-- Identifier bytes of the stream redactor, the dollar sign included. -/
def isIdentifierPart (value : UInt8) : Bool :=
  isIdentifierStart value || isDigit value || value == 0x24

def lowerASCII (value : UInt8) : UInt8 :=
  if 0x41 ≤ value && value ≤ 0x5A then value + 0x20 else value

/-- Equality of ASCII words up to case. -/
def equalFold (first second : Bytes) : Bool :=
  first.map lowerASCII == second.map lowerASCII

/-! ## The stream redactor -/

/-- Where the redactor stands in the statement. -/
inductive RedactState where
  | normal
  | dash
  | slash
  | quoted
  | quotePending
  | lineComment
  | blockComment
  | blockStar
  | dollarCandidate
  | dollarBody
  | numeric
  | identifier
  | sensitiveSeparator
  | sensitiveB
  | sensitiveValueStart
  | sensitiveValue
  deriving DecidableEq

structure SQLStreamRedactor where
  state : RedactState := .normal
  quote : UInt8 := 0
  escaped : Bool := false
  previous : UInt8 := 0
  dollarTag : Bytes := []
  dollarMatch : ℕ := 0
  identifier : Bytes := []
  sensitiveParts : ℕ := 0
  deriving DecidableEq

def sensitiveAssignmentKeys : List Bytes :=
  [ascii "password", ascii "passwd", ascii "pwd", ascii "secret", ascii "token",
    ascii "authorization", ascii "api_key", ascii "access_token", ascii "refresh_token",
    ascii "client_secret"]

def isDatabaseSQLSensitiveAssignmentKey (identifier : Bytes) : Bool :=
  sensitiveAssignmentKeys.any (equalFold identifier)

def isDatabaseSQLSensitiveValuePart (value : UInt8) : Bool :=
  isIdentifierPart value || value == 0x2E || value == 0x2F || value == 0x2B || value == 0x2D

def startsDatabaseSQLStreamNumber (previous value : UInt8) : Bool :=
  isDigit value && (!isIdentifierPart previous && previous != 0x24)

def isDatabaseSQLStreamNumberPart (value : UInt8) : Bool :=
  isDigit value || (0x61 ≤ value && value ≤ 0x66) || (0x41 ≤ value && value ≤ 0x46) ||
    value == 0x2E || value == 0x78 || value == 0x58 || value == 0x62 || value == 0x42 ||
    value == 0x65 || value == 0x45 || value == 0x2B || value == 0x2D

/-- Blank, tab, carriage return and newline. -/
def isSQLBlank (value : UInt8) : Bool :=
  value == 0x20 || value == 0x09 || value == 0x0D || value == 0x0A

/-- Emit the collected dollar tag and fall back to plain text. -/
def SQLStreamRedactor.abandonTag (r : SQLStreamRedactor) : SQLStreamRedactor × Bytes × Bool :=
  ({ r with
      previous := r.dollarTag.getLastD 0
      dollarTag := []
      state := .normal }, r.dollarTag, true)

/-- One look at one byte: the next state, the output, and whether the byte is looked at again. -/
def SQLStreamRedactor.look (r : SQLStreamRedactor) (value : UInt8) :
    SQLStreamRedactor × Bytes × Bool :=
  match r.state with
  | .normal =>
    if value == 0x27 || value == 0x22 then
      ({ r with quote := value, escaped := false, state := .quoted },
        value :: redactedMarker, false)
    else if value == 0x2D then ({ r with state := .dash }, [], false)
    else if value == 0x2F then ({ r with state := .slash }, [], false)
    else if value == 0x23 then
      ({ r with state := .lineComment }, ascii "# " ++ redactedMarker, false)
    else if isIdentifierStart value then
      ({ r with identifier := [value], state := .identifier }, [], false)
    else if value == 0x24 then
      ({ r with dollarTag := [0x24], state := .dollarCandidate }, [], false)
    else if startsDatabaseSQLStreamNumber r.previous value then
      ({ r with state := .numeric }, redactedMarker, true)
    else ({ r with previous := value }, [value], false)
  | .dash =>
    if value == 0x2D then
      ({ r with state := .lineComment }, ascii "-- " ++ redactedMarker, false)
    else ({ r with previous := 0x2D, state := .normal }, [0x2D], true)
  | .slash =>
    if value == 0x2A then
      ({ r with state := .blockComment }, ascii "/* " ++ redactedMarker ++ ascii " */", false)
    else ({ r with previous := 0x2F, state := .normal }, [0x2F], true)
  | .quoted =>
    if r.escaped then ({ r with escaped := false }, [], false)
    else if value == 0x5C then ({ r with escaped := true }, [], false)
    else if value == r.quote then ({ r with state := .quotePending }, [], false)
    else (r, [], false)
  | .quotePending =>
    if value == r.quote then ({ r with state := .quoted }, [], false)
    else ({ r with previous := r.quote, state := .normal }, [r.quote], true)
  | .lineComment =>
    if value == 0x0A then ({ r with previous := 0x0A, state := .normal }, [0x0A], false)
    else (r, [], false)
  | .blockComment =>
    if value == 0x2A then ({ r with state := .blockStar }, [], false) else (r, [], false)
  | .blockStar =>
    if value == 0x2F then ({ r with previous := 0x2F, state := .normal }, [], false)
    else if value != 0x2A then ({ r with state := .blockComment }, [], false)
    else (r, [], false)
  | .dollarCandidate =>
    if value == 0x24 then
      ({ r with dollarTag := r.dollarTag ++ [0x24], dollarMatch := 0, state := .dollarBody },
        r.dollarTag ++ [0x24] ++ redactedMarker, false)
    else if (r.dollarTag.length == 1 && isIdentifierStart value) ||
        (1 < r.dollarTag.length && isIdentifierPart value) then
      if maxDollarTagBytes ≤ r.dollarTag.length then r.abandonTag
      else ({ r with dollarTag := r.dollarTag ++ [value] }, [], false)
    else r.abandonTag
  | .dollarBody =>
    if some value == r.dollarTag[r.dollarMatch]? then
      if r.dollarMatch + 1 == r.dollarTag.length then
        ({ r with previous := 0x24, dollarMatch := 0, dollarTag := [], state := .normal },
          r.dollarTag, false)
      else ({ r with dollarMatch := r.dollarMatch + 1 }, [], false)
    else if value == 0x24 then ({ r with dollarMatch := 1 }, [], false)
    else ({ r with dollarMatch := 0 }, [], false)
  | .numeric =>
    if isDatabaseSQLStreamNumberPart value then (r, [], false)
    else ({ r with state := .normal }, [], true)
  | .identifier =>
    if isIdentifierPart value && r.identifier.length < 256 then
      ({ r with identifier := r.identifier ++ [value] }, [], false)
    else
      ({ r with
          sensitiveParts := if equalFold r.identifier (ascii "authorization") then 2 else 1
          previous := r.identifier.getLastD 0
          identifier := []
          state := if isDatabaseSQLSensitiveAssignmentKey r.identifier then
              .sensitiveSeparator
            else .normal }, r.identifier, true)
  | .sensitiveSeparator =>
    if isSQLBlank value then (r, [value], false)
    else if value == 0x3D || value == 0x3A then
      ({ r with state := .sensitiveValueStart }, [value], false)
    else if value == 0x62 || value == 0x42 then ({ r with state := .sensitiveB }, [], false)
    else ({ r with state := .normal }, [], true)
  | .sensitiveB =>
    if value == 0x79 || value == 0x59 then
      ({ r with state := .sensitiveValueStart }, ascii "BY", false)
    else ({ r with previous := 0x42, state := .normal }, [0x42], true)
  | .sensitiveValueStart =>
    if isSQLBlank value then (r, [value], false)
    else if isDatabaseSQLSensitiveValuePart value then
      ({ r with state := .sensitiveValue }, redactedMarker, false)
    else ({ r with state := .normal }, [], true)
  | .sensitiveValue =>
    if isDatabaseSQLSensitiveValuePart value then (r, [], false)
    else if 1 < r.sensitiveParts && isSQLBlank value then
      ({ r with sensitiveParts := r.sensitiveParts - 1, state := .sensitiveValueStart },
        [value], false)
    else ({ r with state := .normal }, [], true)

/-- How many more looks a byte may take. -/
def SQLStreamRedactor.rank (value : UInt8) (r : SQLStreamRedactor) : ℕ :=
  match r.state with
  | .numeric => if isDatabaseSQLStreamNumberPart value then 0 else 2
  | .normal => 1
  | .identifier => 3
  | _ => 2

/-- One pass of the inner loop over a byte, collecting its output. -/
def SQLStreamRedactor.pass (value : UInt8) (progress : SQLStreamRedactor × Bytes) :
    Loop.Pass (SQLStreamRedactor × Bytes) (SQLStreamRedactor × Bytes) :=
  match progress.1.look value with
  | (r, output, true) => .again (r, progress.2 ++ output)
  | (r, output, false) => .leave (r, progress.2 ++ output)

/-- Redact one byte. -/
def SQLStreamRedactor.redactByte (r : SQLStreamRedactor) (value : UInt8) :
    SQLStreamRedactor × Bytes :=
  Loop.run (SQLStreamRedactor.pass value) (fun progress => progress.1.rank value) (r, []) (r, [])

/-- `Write`: redact a chunk. -/
def SQLStreamRedactor.write (r : SQLStreamRedactor) : Bytes → SQLStreamRedactor × Bytes
  | [] => (r, [])
  | value :: rest =>
    let (r, output) := r.redactByte value
    let (r, more) := r.write rest
    (r, output ++ more)

/-- `Flush`: what is still held back at the end of the statement. -/
def SQLStreamRedactor.flush (r : SQLStreamRedactor) : Bytes :=
  match r.state with
  | .dash => [0x2D]
  | .slash => [0x2F]
  | .quotePending => [r.quote]
  | .dollarCandidate => r.dollarTag
  | .identifier => r.identifier
  | .sensitiveB => [0x42]
  | _ => []

/-- The whole redacted statement. -/
def redactStream (data : Bytes) : Bytes :=
  let (r, output) := SQLStreamRedactor.write {} data
  output ++ r.flush

private theorem numberPart_of_starts {previous value : UInt8}
    (starts : startsDatabaseSQLStreamNumber previous value) :
    isDatabaseSQLStreamNumberPart value := by
  simp only [startsDatabaseSQLStreamNumber, Bool.and_eq_true] at starts
  simp [isDatabaseSQLStreamNumberPart, starts.1]

/-- A byte is looked at again only from a state of higher rank. -/
theorem SQLStreamRedactor.rank_look {r next : SQLStreamRedactor} {value : UInt8} {more : Bytes}
    (look : r.look value = (next, more, true)) : next.rank value < r.rank value := by
  cases state : r.state <;> simp only [SQLStreamRedactor.look, state] at look <;>
    repeat' split at look
  all_goals
    simp only [SQLStreamRedactor.abandonTag, Prod.mk.injEq, Bool.false_eq_true, and_false] at look
  all_goals
    obtain ⟨rfl, -⟩ := look
    simp_all [SQLStreamRedactor.rank]
  next starts => exact numberPart_of_starts starts

/-- The passes over one byte come to an end within its rank. -/
theorem SQLStreamRedactor.pass_decreases (value : UInt8) :
    Loop.Decreases (fun _ => True) (SQLStreamRedactor.pass value)
      (fun progress => progress.1.rank value) := by
  rintro ⟨_, _⟩ ⟨_, _⟩ - pass
  simp only [SQLStreamRedactor.pass] at pass
  split at pass
  · rename_i look
    obtain ⟨rfl, -⟩ := pass
    exact SQLStreamRedactor.rank_look look
  · simp at pass

/-! ## Previews -/

/-- Drop bytes from the end until the text is well formed. -/
def trimInvalid : ℕ → Bytes → Bytes
  | 0, text => text
  | fuel + 1, text =>
    if 0 < text.length && !valid text then trimInvalid fuel text.dropLast else text

/-- The result of a capture of one statement. -/
structure SQLResult where
  preview : Bytes
  originalBytes : ℕ
  storedBytes : ℕ
  truncated : Bool
  deriving DecidableEq

/-- `PreviewSQL`: process a statement and keep its first well-formed bytes. -/
def previewSQL (data : Bytes) (previewBytes : ℕ) (redact : Bool) : SQLResult :=
  let limit := if previewBytes = 0 then defaultPreviewBytes else previewBytes
  let stored := if redact then redactStream data else data
  let collected := stored.take limit
  let preview := trimInvalid collected.length collected
  { preview := preview
    originalBytes := data.length
    storedBytes := stored.length
    truncated := decide (preview.length < stored.length) }

def prepareDatabaseSQLAudit (sql : Bytes) (limit : ℕ) : DatabaseSQLAudit :=
  let result := previewSQL sql (normalizeMaxClientMessageBytes limit) true
  { text := result.preview
    originalBytes := result.originalBytes
    truncated := result.truncated
    artifact := .zero }

/-- U+FFFD, which stands for an ill-formed byte in a normalised text. -/
def replacementRune : Bytes := [0xEF, 0xBF, 0xBD]

/-- How a rune is written into a normalised text. -/
def normalizedRune (rune : Rune) : Bytes :=
  if rune.value.isSome then rune.bytes else replacementRune

/-- Copy runes while they fit; the flag says whether the text was changed. -/
def copyRunes (limit : ℕ) : List Rune → Bytes → Bool → Bytes × Bool
  | [], out, adjusted => (out, adjusted)
  | rune :: rest, out, adjusted =>
    if 0 < limit ∧ limit - out.length < (normalizedRune rune).length then
      (out, true)
    else
      copyRunes limit rest (out ++ normalizedRune rune) (adjusted || rune.value.isNone)

/-- A well-formed text within the limit; a limit of zero is none. -/
def normalizeAuditSQLUTF8 (value : Bytes) (limit : ℕ) : Bytes × Bool :=
  if valid value && (limit == 0 || value.length ≤ limit) then
    (value, false)
  else
    copyRunes limit (runes value) [] false

/-- `databaseAuditPolicy`: the preview limit and the redaction setting of a sink. -/
def databaseAuditPolicy (sink : QuerySink) (fallbackLimit : ℕ) : ℕ × Bool :=
  match sink.policy with
  | some policy =>
    (if policy.previewBytes ≤ 0 then postgresStreamAuditPreviewBytes
      else policy.previewBytes.toNat, policy.redactionEnabled)
  | none =>
    (if fallbackLimit = 0 then postgresStreamAuditPreviewBytes else fallbackLimit, true)

/-- The audit copy of a statement under a preview limit and a redaction setting. -/
def databaseSQLAudit (limit : ℕ) (redact : Bool) (sql : Bytes) : DatabaseSQLAudit :=
  if redact then
    prepareDatabaseSQLAudit sql limit
  else
    let (previewText, utf8Adjusted) := normalizeAuditSQLUTF8 (sql.take limit) limit
    { text := previewText
      originalBytes := sql.length
      truncated := decide (limit < sql.length) || utf8Adjusted
      artifact := .zero }

/-- Store the full statement and prepare its audit copy; `none` when storing fails. -/
def prepareAndCaptureDatabaseSQLBytes (sink : QuerySink) (calls : List SinkCall) (sql : Bytes)
    (fallbackLimit : ℕ) : List SinkCall × Option DatabaseSQLAudit :=
  let policy := databaseAuditPolicy sink fallbackLimit
  let captured := captureDatabaseAuditBytes sink calls .sql sql
  (captured.1, captured.2.map fun artifact =>
    { databaseSQLAudit policy.1 policy.2 sql with artifact := artifact })

/-- The audit text depends on the statement and the policy of the sink alone. -/
theorem prepareAndCaptureDatabaseSQLBytes_text {sink : QuerySink} {calls : List SinkCall}
    {sql : Bytes} {fallbackLimit : ℕ} {audit : DatabaseSQLAudit}
    (prepared : (prepareAndCaptureDatabaseSQLBytes sink calls sql fallbackLimit).2 = some audit) :
    audit.text = (databaseSQLAudit (databaseAuditPolicy sink fallbackLimit).1
      (databaseAuditPolicy sink fallbackLimit).2 sql).text := by
  simp only [prepareAndCaptureDatabaseSQLBytes, Option.map_eq_some_iff] at prepared
  obtain ⟨_, -, rfl⟩ := prepared
  rfl

end Jianmen.DBProxy
