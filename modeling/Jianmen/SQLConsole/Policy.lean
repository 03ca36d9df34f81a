import Jianmen.Library.Loop
import Jianmen.DBProxy.PreviewRedaction

/-!
# Statements of the SQL console

What the console accepts: one statement, found by a scan of the text that knows quotes and comments,
which begins with one of a few keywords.  The statement is handed to the database as it stands,
without what follows the first semicolon.
-/

namespace Jianmen.SQLConsole

open DBProxy

inductive SQLConsoleError where
  /-- invalid SQL console request -/
  | invalid
  /-- only one SQL statement is allowed -/
  | multipleStatements
  /-- unsupported SQL statement -/
  | unsupported
  deriving DecidableEq

def maxSQLConsoleStatementBytes : ℕ := 64 * 1024

structure SQLStatementPolicy where
  sql : Bytes
  queryKind : Bytes
  readOnly : Bool := false
  deriving DecidableEq

/-! ## One statement -/

/-- The end of the line in which a comment stands. -/
def skipSQLLine (value : Bytes) (start : ℕ) : ℕ :=
  match (value.drop start).findIdx? (· == 0x0A) with
  | some next => start + next
  | none => value.length

/-- `hasSQLContent`: one pass of the loop. -/
def contentPass (value : Bytes) : Loop.Pass Bytes Bool :=
  let value := Utf8.trimSpace value
  if value = [] then .leave false
  else if (ascii "--").isPrefixOf value then
    .again (value.drop (min value.length (skipSQLLine value 2 + 1)))
  else if (ascii "#").isPrefixOf value then
    .again (value.drop (min value.length (skipSQLLine value 1 + 1)))
  else if (ascii "/*").isPrefixOf value then
    match indexOf (ascii "*/") (value.drop 2) with
    | none => .leave true
    | some last => .again (value.drop (last + 4))
  else .leave true

/-- Whether there is more than white space and comments. -/
def hasSQLContent (value : Bytes) : Bool :=
  Loop.run contentPass List.length true value

/-- Where the scan stands, and the quote it is in. -/
structure Scan where
  index : ℕ := 0
  state : Option UInt8 := none

/-- `singleSQLStatement`: one pass of the loop. -/
def scanPass (value : Bytes) (scan : Scan) : Loop.Pass Scan (Except SQLConsoleError Bytes) :=
  match value.drop scan.index with
  | [] =>
    .leave (if scan.state.isSome then .error .invalid else .ok (Utf8.trimSpace value))
  | current :: rest =>
    match scan.state with
    | some quote =>
      if current = 0x5C ∧ quote ≠ 0x60 then .again { scan with index := scan.index + 2 }
      else if current = quote then
        if rest.head? = some quote then .again { scan with index := scan.index + 2 }
        else .again { index := scan.index + 1 }
      else .again { scan with index := scan.index + 1 }
    | none =>
      if current = 0x27 ∨ current = 0x22 ∨ current = 0x60 then
        .again { index := scan.index + 1, state := some current }
      else if current = 0x2D ∧ rest.head? = some 0x2D then
        .again { index := skipSQLLine value (scan.index + 2) + 1 }
      else if current = 0x23 then .again { index := skipSQLLine value (scan.index + 1) + 1 }
      else if current = 0x2F ∧ rest.head? = some 0x2A then
        match indexOf (ascii "*/") (value.drop (scan.index + 2)) with
        | none => .leave (.error .invalid)
        | some last => .again { index := scan.index + last + 4 }
      else if current = 0x3B then
        if hasSQLContent rest then .leave (.error .multipleStatements)
        else .leave (.ok (Utf8.trimSpace (value.take scan.index)))
      else .again { index := scan.index + 1 }

def singleSQLStatement (value : Bytes) : Except SQLConsoleError Bytes :=
  Loop.run (scanPass value) (fun scan => value.length - scan.index) (.error .invalid) {}

/-! ## Keywords -/

/-- `stripLeadingSQLComments`: one pass of the loop. -/
def stripPass (value : Bytes) : Loop.Pass Bytes Bytes :=
  let value := Utf8.trimSpace value
  if (ascii "--").isPrefixOf value then
    let start := skipSQLLine value 2
    if value.length ≤ start then .leave [] else .again (value.drop (start + 1))
  else if (ascii "#").isPrefixOf value then
    let start := skipSQLLine value 1
    if value.length ≤ start then .leave [] else .again (value.drop (start + 1))
  else if (ascii "/*").isPrefixOf value then
    match indexOf (ascii "*/") (value.drop 2) with
    | none => .leave []
    | some last => .again (value.drop (last + 4))
  else .leave value

def stripLeadingSQLComments (value : Bytes) : Bytes :=
  Loop.run stripPass List.length [] value

/-- `unicode.IsLetter` of a byte taken for a code point. -/
def isLetter (value : UInt8) : Bool :=
  (0x41 ≤ value && value ≤ 0x5A) || (0x61 ≤ value && value ≤ 0x7A) || value == 0xAA ||
    value == 0xB5 || value == 0xBA || (0xC0 ≤ value && value != 0xD7 && value != 0xF7)

/-- The first word in lower case.  A word with bytes outside ASCII is none of those that are looked
for, whatever its lower case is. -/
def firstSQLKeyword (value : Bytes) : Bytes :=
  ((stripLeadingSQLComments value).takeWhile isLetter).map lowerASCII

/-- `strings.ToUpper` as far as it gives ASCII letters: a dotless i and a long s become some. -/
def toUpper : Bytes → Bytes
  | 0xC4 :: 0xB1 :: rest => 0x49 :: toUpper rest
  | 0xC5 :: 0xBF :: rest => 0x53 :: toUpper rest
  | value :: rest =>
    (if 0x61 ≤ value && value ≤ 0x7A then value - 0x20 else value) :: toUpper rest
  | [] => []

/-- The words of a text with one space between them: `strings.Join` of `strings.Fields`. -/
def joinFields (value : Bytes) : Bytes :=
  let words := ((Utf8.runes (Utf8.trimSpace value)).splitBy fun first second =>
    first.isSpace == second.isSpace)
  words.flatMap fun word =>
    if word.all Utf8.Rune.isSpace then [0x20] else Utf8.bytesOf word

def containsUnsafeSelectClause (value : Bytes) : Bool :=
  let normalized := toUpper (joinFields value)
  (indexOf (ascii " INTO ") normalized).isSome ||
    (indexOf (ascii " FOR UPDATE") normalized).isSome ||
    (indexOf (ascii " LOCK IN SHARE MODE") normalized).isSome

def readKeywords : List Bytes :=
  [ascii "show", ascii "describe", ascii "desc", ascii "explain", ascii "with", ascii "values"]

def writeKeywords : List Bytes :=
  [ascii "insert", ascii "update", ascii "delete", ascii "replace", ascii "create", ascii "alter",
    ascii "drop", ascii "truncate"]

def inspectSQLStatement (value : Bytes) : Except SQLConsoleError SQLStatementPolicy :=
  let value := Utf8.trimSpace value
  if value = [] ∨ maxSQLConsoleStatementBytes < value.length then .error .invalid
  else do
    let statement ← singleSQLStatement value
    let keyword := firstSQLKeyword statement
    if keyword = ascii "select" then
      if containsUnsafeSelectClause statement then .error .unsupported
      else .ok { sql := statement, queryKind := keyword, readOnly := true }
    else if keyword ∈ readKeywords then
      .ok { sql := statement, queryKind := keyword, readOnly := true }
    else if keyword ∈ writeKeywords then .ok { sql := statement, queryKind := keyword }
    else .error .unsupported

end Jianmen.SQLConsole
