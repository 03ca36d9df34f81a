import Jianmen.DBProxy.Redaction

/-!
# Statements by the rules of a dialect

How the two databases, and the console, divide a text into statements, read byte by byte.  A
statement ends at a semicolon outside literals, quoted names and comments; it is empty if there is
nothing but white space and comments in it.
-/

namespace Jianmen.SQLConsole

open DBProxy

/-- The rules a text is read by: those of a database, or those the console goes by, which are
neither's: all quotes but backticks have escapes, two minus signs and a hash mark begin a comment
whatever follows, and there are no tags, nested comments or executed comments. -/
inductive Dialect where
  | mysql
  | postgres
  | console
  deriving DecidableEq

/-- Where a lexer stands between two bytes. -/
inductive Lexer where
  /-- Between tokens. -/
  | plain
  /-- In a word; whether it is the letter E alone, which a quote makes an escape string. -/
  | word (letterE : Bool)
  /-- After a minus sign. -/
  | minus
  /-- After two minus signs, which begin a comment in MySQL if a blank follows. -/
  | dashes
  /-- After a slash. -/
  | slash
  /-- In a literal or a quoted name; whether a backslash escapes. -/
  | quoted (quote : UInt8) (escapes : Bool)
  /-- After the backslash of an escape. -/
  | escaped (quote : UInt8)
  /-- After a quote that ends the literal unless another one follows. -/
  | closing (quote : UInt8) (escapes : Bool)
  /-- In a comment that ends with the line. -/
  | line
  /-- After a carriage return that ended such a comment. -/
  | returned
  /-- After the opening of a comment in MySQL; one with an exclamation mark is executed. -/
  | opening
  /-- In a comment, so deep, after a byte. -/
  | block (depth : ℕ) (last : UInt8)
  /-- After a dollar sign and the beginning of a tag. -/
  | candidate (tag : Bytes)
  /-- In a dollar-quoted literal, after some bytes. -/
  | dollar (tag seen : Bytes)
  deriving DecidableEq

def isBlank (value : UInt8) : Bool :=
  value == 0x20 || (0x09 ≤ value && value ≤ 0x0D)

/-- White space or a control character. -/
def isGap (value : UInt8) : Bool :=
  value ≤ 0x20 || value == 0x7F

/-- Letters, underscores and bytes outside ASCII. -/
def startsWord (value : UInt8) : Bool :=
  isIdentifierStart value || 0x80 ≤ value

def continuesWord (value : UInt8) : Bool :=
  startsWord value || isDigit value || value == 0x24

/-- A text divided so far: where the lexer stands, whether the last statement has any content, and
whether those before it have. -/
structure Splitter where
  lexer : Lexer := .plain
  filled : Bool := false
  closed : List Bool := []
  deriving DecidableEq

namespace Splitter

/-- The quote of an escape string; in PostgreSQL that is one after the letter E. -/
def escapes (dialect : Dialect) (quote : UInt8) (letterE : Bool) : Bool :=
  match dialect with
  | .mysql | .console => quote != 0x60
  | .postgres => quote == 0x27 && letterE

/-- A byte that begins something; `letterE` says whether it follows the letter E. -/
def begin (dialect : Dialect) (letterE : Bool) (splitter : Splitter) (value : UInt8) : Splitter :=
  if value = 0x3B then { closed := splitter.closed ++ [splitter.filled] }
  else if isBlank value then { splitter with lexer := .plain }
  else if value = 0x27 ∨ value = 0x22 ∨ (value = 0x60 ∧ dialect ≠ .postgres) then
    { splitter with lexer := .quoted value (escapes dialect value letterE), filled := true }
  else if value = 0x2D then { splitter with lexer := .minus }
  else if value = 0x2F then { splitter with lexer := .slash }
  else if value = 0x23 ∧ dialect ≠ .postgres then { splitter with lexer := .line }
  else if value = 0x24 ∧ dialect = .postgres then
    { splitter with lexer := .candidate [], filled := true }
  else if startsWord value then
    { splitter with lexer := .word (value == 0x45 || value == 0x65), filled := true }
  else { splitter with lexer := .plain, filled := true }

/-- A byte in a comment between marks. -/
def inBlock (dialect : Dialect) (splitter : Splitter) (depth : ℕ) (last value : UInt8) : Splitter :=
  if last = 0x2A ∧ value = 0x2F then
    { splitter with lexer := if depth ≤ 1 then .plain else .block (depth - 1) 0 }
  else if dialect = .postgres ∧ last = 0x2F ∧ value = 0x2A then
    { splitter with lexer := .block (depth + 1) 0 }
  else { splitter with lexer := .block depth value }

/-- Read one byte. -/
def step (dialect : Dialect) (splitter : Splitter) (value : UInt8) : Splitter :=
  match splitter.lexer with
  | .plain | .returned => splitter.begin dialect false value
  | .word letterE =>
    if continuesWord value then { splitter with lexer := .word false, filled := true }
    else splitter.begin dialect letterE value
  | .minus =>
    if value = 0x2D then
      { splitter with lexer := if dialect = .mysql then .dashes else .line }
    else { splitter with filled := true }.begin dialect false value
  | .dashes =>
    if value = 0x0A then { splitter with lexer := .plain }
    else if isGap value then { splitter with lexer := .line }
    else { splitter with filled := true }.begin dialect false value
  | .slash =>
    if value = 0x2A then
      { splitter with lexer := if dialect = .mysql then .opening else .block 1 0 }
    else { splitter with filled := true }.begin dialect false value
  | .quoted quote escapes =>
    if value = 0x5C ∧ escapes = true then { splitter with lexer := .escaped quote }
    else if value = quote then { splitter with lexer := .closing quote escapes }
    else splitter
  | .escaped quote => { splitter with lexer := .quoted quote true }
  | .closing quote escapes =>
    if value = quote then { splitter with lexer := .quoted quote escapes }
    else splitter.begin dialect false value
  | .line =>
    if value = 0x0A then { splitter with lexer := .plain }
    else if dialect = .postgres ∧ value = 0x0D then { splitter with lexer := .returned }
    else splitter
  | .opening =>
    if value = 0x21 then { splitter with lexer := .plain, filled := true }
    else splitter.inBlock dialect 1 0 value
  | .block depth last => splitter.inBlock dialect depth last value
  | .candidate tag =>
    if value = 0x24 then { splitter with lexer := .dollar tag [] }
    else if startsWord value || (!tag.isEmpty && isDigit value) then
      { splitter with lexer := .candidate (tag ++ [value]), filled := true }
    else splitter.begin dialect (tag == [0x45] || tag == [0x65]) value
  | .dollar tag seen =>
    if ((0x24 : UInt8) :: tag ++ [0x24]).isSuffixOf (seen ++ [value]) then
      { splitter with lexer := .plain }
    else { splitter with lexer := .dollar tag (seen ++ [value]) }

/-- Read a text. -/
def read (dialect : Dialect) (splitter : Splitter) (text : Bytes) : Splitter :=
  text.foldl (step dialect) splitter

/-- Whether the last statement has any content; a mark that begins nothing is some. -/
def last (splitter : Splitter) : Bool :=
  splitter.filled || splitter.lexer == .minus || splitter.lexer == .slash

end Splitter

/-- How many statements of a text are not empty. -/
def statements (dialect : Dialect) (text : Bytes) : ℕ :=
  let splitter := Splitter.read dialect {} text
  (splitter.closed ++ [splitter.last]).count true

/-- A semicolon after the text ends a statement. -/
def Separates (dialect : Dialect) (front : Bytes) : Prop :=
  (Splitter.read dialect {} (front ++ [0x3B])).closed ≠ (Splitter.read dialect {} front).closed

instance (dialect : Dialect) (front : Bytes) : Decidable (Separates dialect front) :=
  inferInstanceAs (Decidable (_ ≠ _))

/-- The text before the first semicolon that ends a statement for the console. -/
def upToSeparator : Splitter → Bytes → Bytes
  | _, [] => []
  | splitter, value :: rest =>
    if (splitter.step .console value).closed = [] then
      value :: upToSeparator (splitter.step .console value) rest
    else []

/-- A semicolon of the text ends a statement for the database and none for the console, and there
are statements with content both before and behind it. -/
def HidesSeparator (dialect : Dialect) (text : Bytes) : Prop :=
  ∃ front rear, text = front ++ 0x3B :: rear ∧ Separates dialect front ∧ ¬Separates .console front ∧
    true ∈ (Splitter.read dialect {} (front ++ [0x3B])).closed ∧ statements dialect rear ≠ 0

end Jianmen.SQLConsole
