import Jianmen.Library.Pattern
import Jianmen.DBProxy.Redaction

/-!
# Redaction of a statement preview

Statements too large to buffer are audited through the part of them that was kept.  That part is
redacted as a whole: comments, literals and numbers in one sweep over the bytes, credentials by
two patterns over the runes of what the sweep wrote.
-/

namespace Jianmen.DBProxy

open Utf8 List Option

/-! ## The bounded builder -/

structure SQLRedactionBuilder where
  text : Bytes := []
  limit : ℕ
  truncated : Bool := false
  deriving DecidableEq

namespace SQLRedactionBuilder

def writeString (builder : SQLRedactionBuilder) (value : Bytes) : SQLRedactionBuilder :=
  if value.length = 0 then builder
  else if builder.limit = 0 then { builder with text := builder.text ++ value }
  else if builder.limit ≤ builder.text.length then { builder with truncated := true }
  else
    let remaining := builder.limit - builder.text.length
    { builder with
      text := builder.text ++ value.take remaining
      truncated := builder.truncated || decide (remaining < value.length) }

def writeByte (builder : SQLRedactionBuilder) (value : UInt8) : SQLRedactionBuilder :=
  if 0 < builder.limit ∧ builder.limit ≤ builder.text.length then
    { builder with truncated := true }
  else { builder with text := builder.text ++ [value] }

end SQLRedactionBuilder

/-! ## Tokens -/

def isSQLIdentifierStart (value : UInt8) : Bool :=
  value == 0x5F || (0x61 ≤ value && value ≤ 0x7A) || (0x41 ≤ value && value ≤ 0x5A)

def isSQLIdentifierPart (value : UInt8) : Bool :=
  isSQLIdentifierStart value || (0x30 ≤ value && value ≤ 0x39)

def isSQLHexDigit (value : UInt8) : Bool :=
  (0x30 ≤ value && value ≤ 0x39) || (0x61 ≤ value && value ≤ 0x66) ||
    (0x41 ≤ value && value ≤ 0x46)

/-- `strings.Index`: the offset of the first occurrence of a text. -/
def indexOf (needle : Bytes) : Bytes → Option ℕ
  | [] => if needle.isEmpty then some 0 else none
  | byte :: rest =>
    if needle.isPrefixOf (byte :: rest) then some 0 else (indexOf needle rest).map (· + 1)

/-- How many bytes follow an opening quote up to and with the closing one, and whether there is a
closing one. -/
def quotedLength (quote : UInt8) : Bytes → ℕ × Bool
  | [] => (0, false)
  | byte :: rest =>
    if byte == 0x5C then
      match rest with
      | [] => (1, false)
      | _ :: rest => ((quotedLength quote rest).1 + 2, (quotedLength quote rest).2)
    else if byte != quote then ((quotedLength quote rest).1 + 1, (quotedLength quote rest).2)
    else
      match rest with
      | [] => (1, true)
      | next :: rest =>
        if next == quote then
          ((quotedLength quote rest).1 + 2, (quotedLength quote rest).2)
        else (1, true)

/-- Write a quoted literal that starts at the head of `rest`; the bytes it takes. -/
def redactSQLQuotedLiteral (out : SQLRedactionBuilder) (rest : Bytes) (quote : UInt8) :
    SQLRedactionBuilder × ℕ :=
  let out := (out.writeByte quote).writeString redactedMarker
  let quoted := quotedLength quote rest.tail
  if quoted.2 then (out.writeByte quote, 1 + quoted.1) else (out, rest.length)

/-- The length of the tag between two dollar signs, when there is one after the first. -/
def dollarTagLength : Bytes → ℕ → Option ℕ
  | [], _ => none
  | byte :: rest, length =>
    if byte == 0x24 then some length
    else if length = 0 && !isSQLIdentifierStart byte then none
    else if 0 < length && !isSQLIdentifierPart byte then none
    else dollarTagLength rest (length + 1)

/-- Write a dollar-quoted literal that starts at the head of `rest`, when there is one. -/
def redactSQLDollarLiteral (out : SQLRedactionBuilder) (rest : Bytes) :
    Option (SQLRedactionBuilder × ℕ) :=
  (dollarTagLength rest.tail 0).map fun length =>
    let delimiter := rest.take (length + 2)
    let out := (out.writeString delimiter).writeString redactedMarker
    match indexOf delimiter (rest.drop (length + 2)) with
    | none => (out, rest.length)
    | some offset => (out.writeString delimiter, length + 2 + offset + delimiter.length)

/-- Whether a number starts at the head of `rest`, after the byte `previous`. -/
def startsSQLNumericLiteral (previous : Option UInt8) : Bytes → Bool
  | [] => false
  | byte :: rest =>
    let digit := 0x30 ≤ byte && byte ≤ 0x39
    let leadingDecimal :=
      byte == 0x2E && rest.head?.any fun next => 0x30 ≤ next && next ≤ 0x39
    (digit || leadingDecimal) &&
      previous.all fun before => !isSQLIdentifierPart before && before != 0x24

/-- The bytes of a decimal number; an exponent is taken once, and a sign right after it. -/
def decimalLength : Bytes → Bool → Bool → ℕ
  | [], _, _ => 0
  | byte :: rest, seenExponent, signAllowed =>
    if (0x30 ≤ byte && byte ≤ 0x39) || byte == 0x2E then
      1 + decimalLength rest seenExponent false
    else if (byte == 0x65 || byte == 0x45) && !seenExponent then
      1 + decimalLength rest true true
    else if signAllowed && (byte == 0x2B || byte == 0x2D) then
      1 + decimalLength rest seenExponent false
    else 0

def consumeSQLNumericLiteral (rest : Bytes) : ℕ :=
  match rest with
  | 0x30 :: marker :: digits =>
    if marker == 0x62 || marker == 0x42 then
      2 + (digits.takeWhile fun byte => byte == 0x30 || byte == 0x31).length
    else if marker == 0x78 || marker == 0x58 then
      2 + (digits.takeWhile isSQLHexDigit).length
    else decimalLength rest false false
  | _ => decimalLength rest false false

/-- Write a line comment that starts at the head of `rest`. -/
def redactLineComment (out : SQLRedactionBuilder) (rest opening : Bytes) :
    SQLRedactionBuilder × ℕ :=
  let out := (out.writeString opening).writeString redactedMarker
  match indexOf [0x0A] rest with
  | none => (out, rest.length)
  | some offset => (out.writeByte 0x0A, offset + 1)

/-- Write the token at the head of `rest`, after the byte `previous`; the bytes it takes. -/
def redactToken (out : SQLRedactionBuilder) (previous : Option UInt8) (rest : Bytes) :
    SQLRedactionBuilder × ℕ :=
  let byte := rest.headD 0
  let following := rest.tail.head?
  if byte == 0x2D && following == some 0x2D then redactLineComment out rest (ascii "-- ")
  else if byte == 0x23 then redactLineComment out rest (ascii "# ")
  else if byte == 0x2F && following == some 0x2A then
    let out := ((out.writeString (ascii "/* ")).writeString redactedMarker).writeString (ascii " */")
    match indexOf (ascii "*/") (rest.drop 2) with
    | none => (out, rest.length)
    | some offset => (out, offset + 4)
  else if byte == 0x27 || byte == 0x22 then redactSQLQuotedLiteral out rest byte
  else if byte == 0x24 then
    (redactSQLDollarLiteral out rest).getD (out.writeByte byte, 1)
  else if startsSQLNumericLiteral previous rest then
    (out.writeString redactedMarker, consumeSQLNumericLiteral rest)
  else (out.writeByte byte, 1)

/-- Write the tokens of `rest`, at most `fuel` of them. -/
def redactTokens : ℕ → SQLRedactionBuilder → Option UInt8 → Bytes → SQLRedactionBuilder
  | 0, out, _, _ => out
  | fuel + 1, out, previous, rest =>
    if rest.length = 0 then out
    else
      let token := redactToken out previous rest
      redactTokens fuel token.1 rest[token.2 - 1]? (rest.drop token.2)

/-! ## Credentials -/

/-- Bytes of an ASCII word; every other rune is not part of one. -/
def isWordRune (rune : Rune) : Bool :=
  rune.value.any fun value =>
    (0x30 ≤ value && value ≤ 0x39) || (0x41 ≤ value && value ≤ 0x5A) ||
      (0x61 ≤ value && value ≤ 0x7A) || value == 0x5F

/-- The runes equal to an ASCII byte up to case: long s and the Kelvin sign among them. -/
def foldsTo (byte : UInt8) (rune : Rune) : Bool :=
  rune.value.any fun value =>
    value == byte.toNat ||
      (value < 0x80 && lowerASCII value.toUInt8 == lowerASCII byte) ||
      (value == 0x17F && lowerASCII byte == 0x73) || (value == 0x212A && lowerASCII byte == 0x6B)

/-- The runes of a class of ASCII letters, in either case, and of further bytes. -/
def letterOr (bytes : Bytes) (rune : Rune) : Bool :=
  rune.value.any fun value =>
    (0x41 ≤ value && value ≤ 0x5A) || (0x61 ≤ value && value ≤ 0x7A) || value == 0x17F ||
      value == 0x212A || bytes.any fun byte => value == byte.toNat

/-- The white space of a pattern. -/
def isPatternSpace (rune : Rune) : Bool :=
  rune.value.any fun value =>
    value == 0x09 || value == 0x0A || value == 0x0C || value == 0x0D || value == 0x20

/-- A word up to case. -/
def wordPattern : Bytes → Pattern Rune
  | [] => .many (.letter fun _ => false)
  | byte :: rest => .chain (.letter (foldsTo byte)) (rest.map fun next => .letter (foldsTo next))

/-- Digits as bytes. -/
def digitBytes : Bytes := ascii "0123456789"

def spacePattern : Pattern Rune := .many (.letter isPatternSpace)

/-- A sensitive name, an assignment and a bare value. -/
def sensitiveSQLAssignment : Pattern Rune :=
  .chain .edge
    [.group (.choice (wordPattern (ascii "password"))
      [wordPattern (ascii "passwd"), wordPattern (ascii "pwd"), wordPattern (ascii "secret"),
        wordPattern (ascii "token"), wordPattern (ascii "authorization"),
        wordPattern (ascii "api_key"), wordPattern (ascii "access_token"),
        wordPattern (ascii "refresh_token"), wordPattern (ascii "client_secret")]),
      .edge,
      .group (.chain spacePattern
        [.choice (wordPattern (ascii "="))
          [wordPattern (ascii ":"), .chain .edge [wordPattern (ascii "BY"), .edge]],
          spacePattern]),
      .group (.sequence (.letter (letterOr (ascii "_")))
        (.many (.letter (letterOr (digitBytes ++ ascii "_./+-")))))]

/-- An authorization header with its scheme and its credentials. -/
def sensitiveSQLAuthorization : Pattern Rune :=
  .chain .edge
    [.group (wordPattern (ascii "authorization")),
      .edge,
      .group (.chain spacePattern
        [.choice (wordPattern (ascii "=")) [wordPattern (ascii ":")], spacePattern]),
      .choice (wordPattern (ascii "basic")) [wordPattern (ascii "bearer")],
      .letter isPatternSpace, spacePattern,
      .letter (letterOr (digitBytes ++ ascii "._~+/-=")),
      .many (.letter (letterOr (digitBytes ++ ascii "._~+/-=")))]

/-- Replace the values a pattern finds, at most `fuel` of them, keeping its first two groups. -/
def redactMatches (pattern : Pattern Rune) :
    ℕ → List Rune → SQLRedactionBuilder → Bytes × Bool
  | 0, input, out =>
    let out := out.writeString (bytesOf input)
    (out.text, out.truncated)
  | fuel + 1, input, out =>
    match pattern.search isWordRune none input with
    | none =>
      let out := out.writeString (bytesOf input)
      (out.text, out.truncated)
    | some (skipped, found) =>
      let out := out.writeString (bytesOf skipped)
      let out := (found.groups.take 2).foldl
        (fun out group => out.writeString (bytesOf group)) out
      let out := out.writeString redactedMarker
      if 0 < out.limit ∧ out.limit ≤ out.text.length ∧ 0 < found.rest.length then
        (out.text, true)
      else redactMatches pattern fuel found.rest out

def redactSensitiveSQLPattern (input : Bytes) (pattern : Pattern Rune) (limit : ℕ) :
    Bytes × Bool :=
  redactMatches pattern (runes input).length (runes input) { limit := limit }

/-- Redact a kept part of a statement and cut it to the limit; a limit of zero is none.  The flag
says whether anything was cut or replaced. -/
def redactDatabaseSQLWithLimit (sql : Bytes) (limit : ℕ) : Bytes × Bool :=
  let out := redactTokens sql.length { limit := limit } none sql
  let authorization := redactSensitiveSQLPattern out.text sensitiveSQLAuthorization limit
  let assignment := redactSensitiveSQLPattern authorization.1 sensitiveSQLAssignment limit
  let normalized := normalizeAuditSQLUTF8 assignment.1 limit
  (normalized.1, out.truncated || authorization.2 || assignment.2 || normalized.2)

end Jianmen.DBProxy
