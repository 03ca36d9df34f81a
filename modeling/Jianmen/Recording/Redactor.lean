import Jianmen.Library.Loop
import Jianmen.Library.Utf8
import Jianmen.DBProxy.PreviewRedaction

/-!
# Redaction of recorded streams

What a session prints and reads is redacted before it is stored.  The policy works on whole
values, so a stream is held back up to the end of its line; a policy may also tell how much of an
unfinished line can be let go.  The lines of a private key are kept together.
-/

namespace Jianmen.Recording

open DBProxy (Bytes ascii indexOf)

/-- What a recorded value is. -/
inductive AuditKind where
  | output
  | input
  | command
  deriving DecidableEq

/-- A policy.  The two optional parts are interfaces it may also have: how much of an unfinished
line is safe, and whether redaction is on at all. -/
structure AuditRedactor where
  redact : AuditKind → Bytes → Bytes
  safeStreamPrefix : Option (AuditKind → Bytes → Int) := none
  auditRedactionEnabled : Option Bool := none

/-- Whether a recorder takes redaction to be on. -/
def AuditRedactor.redactionEnabled (redactor : AuditRedactor) : Bool :=
  redactor.auditRedactionEnabled.getD true

/-! ## Letters -/

/-- `strings.ToLower`, as far as its results are ASCII letters. -/
def toLower (text : Bytes) : Bytes :=
  (Utf8.runes text).flatMap fun rune =>
    match rune.value with
    | none => Utf8.encode rune.lossy
    | some value =>
      if 0x41 ≤ value && value ≤ 0x5A then [(value + 0x20).toUInt8]
      else if value = 0x130 then ascii "i"
      else if value = 0x212A then ascii "k"
      else rune.bytes

/-- `strings.ToUpper`, as far as its results are ASCII letters. -/
def toUpper (text : Bytes) : Bytes :=
  (Utf8.runes text).flatMap fun rune =>
    match rune.value with
    | none => Utf8.encode rune.lossy
    | some value =>
      if 0x61 ≤ value && value ≤ 0x7A then [(value - 0x20).toUInt8]
      else if value = 0x131 then ascii "I"
      else if value = 0x17F then ascii "S"
      else rune.bytes

/-- `strings.Contains`. -/
def contains (text needle : Bytes) : Bool :=
  (indexOf needle text).isSome

def isSensitivePrompt (data : Bytes) : Bool :=
  let text := toLower data
  contains text (ascii "password:") || contains text (ascii "passphrase:") ||
    contains text (ascii "verification code:")

/-! ## The stream redactor -/

def maxAuditStreamBufferBytes : ℕ := 1024 * 1024

structure AuditStreamRedactor where
  kind : AuditKind
  pending : Bytes := []
  privateKeyBlock : Bytes := []
  inPrivateKey : Bool := false
  deriving DecidableEq

def containsPrivateKeyMarker (line marker : Bytes) : Bool :=
  let upper := toUpper line
  contains upper marker && contains upper (ascii "PRIVATE KEY-----")

def isLineEnd (byte : UInt8) : Bool :=
  byte == 0x0D || byte == 0x0A

/-- The first line of a text with the end of the line, and what follows it; `none` when the line
has no end. -/
def splitLine (text : Bytes) : Option (Bytes × Bytes) :=
  match text.findIdx? isLineEnd with
  | none => none
  | some lineEnd =>
    let delimiterEnd :=
      if (text.drop lineEnd).take 2 = [0x0D, 0x0A] then lineEnd + 2 else lineEnd + 1
    some (text.take delimiterEnd, text.drop delimiterEnd)

namespace AuditStreamRedactor

variable (redactor : AuditRedactor)

/-- Take a line: the redactor after it and what is written out. -/
def writeLine (s : AuditStreamRedactor) (line : Bytes) : AuditStreamRedactor × Bytes :=
  if s.inPrivateKey then
    let block := s.privateKeyBlock ++ line
    if containsPrivateKeyMarker line (ascii "-----END ") then
      ({ s with privateKeyBlock := [], inPrivateKey := false }, redactor.redact s.kind block)
    else ({ s with privateKeyBlock := block }, [])
  else if containsPrivateKeyMarker line (ascii "-----BEGIN ") &&
      !containsPrivateKeyMarker line (ascii "-----END ") then
    ({ s with inPrivateKey := true, privateKeyBlock := s.privateKeyBlock ++ line }, [])
  else (s, redactor.redact s.kind line)

/-- One pass of the loop over the complete lines. -/
def linePass (state : AuditStreamRedactor × Bytes) :
    Loop.Pass (AuditStreamRedactor × Bytes) (AuditStreamRedactor × Bytes) :=
  match splitLine state.1.pending with
  | none => .leave state
  | some (line, rest) =>
    let written := writeLine redactor { state.1 with pending := rest } line
    .again (written.1, state.2 ++ written.2)

/-- Take all complete lines. -/
def writeLines (s : AuditStreamRedactor) : AuditStreamRedactor × Bytes :=
  Loop.run (linePass redactor) (fun state => state.1.pending.length) (s, []) (s, [])

/-- How much of what is pending may be written out before its line ends. -/
def safePrefix (s : AuditStreamRedactor) : ℕ :=
  match redactor.safeStreamPrefix with
  | none => 0
  | some policy => min (policy s.kind s.pending).toNat s.pending.length

/-- `Write`; `none` when the buffer limit is exceeded. -/
def write (s : AuditStreamRedactor) (data : Bytes) : Option (AuditStreamRedactor × Bytes) :=
  if data.length = 0 then some (s, [])
  else if redactor.auditRedactionEnabled = some false then some (s, data)
  else if maxAuditStreamBufferBytes < s.pending.length + s.privateKeyBlock.length + data.length then
    none
  else
    let lines := writeLines redactor { s with pending := s.pending ++ data }
    let s := lines.1
    if !s.inPrivateKey ∧ 0 < s.pending.length ∧ 0 < s.safePrefix redactor then
      some
        ({ s with pending := s.pending.drop (s.safePrefix redactor) },
          lines.2 ++ redactor.redact s.kind (s.pending.take (s.safePrefix redactor)))
    else some lines

def flush (s : AuditStreamRedactor) : AuditStreamRedactor × Bytes :=
  let lines :=
    if 0 < s.pending.length then writeLine redactor { s with pending := [] } s.pending else (s, [])
  let s := lines.1
  if s.inPrivateKey then
    ({ s with privateKeyBlock := [], inPrivateKey := false },
      lines.2 ++ redactor.redact s.kind s.privateKeyBlock)
  else lines

end AuditStreamRedactor
end Jianmen.Recording
