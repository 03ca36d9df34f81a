import Jianmen.Library.Slices
import Jianmen.DBProxy.Redaction

/-!
# The statements of an account

The statements that create an account, give it privileges and drop it again are put together from
fixed words and quoted texts.  MySQL's lexer takes them apart again into the same words and texts;
but the name of a database in a grant is a pattern to MySQL, in which an underscore stands for any
character.
-/

namespace Jianmen.Provisioning

open DBProxy Slices List

/-! ## Statements -/

structure DBGrant where
  database : Bytes
  privilege : Bytes
  deriving DecidableEq

/-- Why a statement is not built. -/
inductive StatementError where
  | usernameLength
  | usernameCharacter
  | hostLength
  | hostPattern
  | hostTooLong
  | hostLabel
  | hostCharacter
  | passwordLength
  | passwordCharacter
  | databaseLength
  | databaseCharacter
  | noGrants
  | tooManyGrants
  | unsupportedPrivilege (privilege : Bytes)
  deriving DecidableEq

def mysqlNoBackslashEscapesSQL : Bytes :=
  ascii ("SET SESSION sql_mode = CONCAT_WS(',', NULLIF(@@SESSION.sql_mode, ''), " ++
    "'NO_BACKSLASH_ESCAPES')")

/-- A text with a byte written twice. -/
def doubled (quote : UInt8) (value : Bytes) : Bytes :=
  value.flatMap fun byte => if byte = quote then [byte, byte] else [byte]

def quoteMySQLString (value : Bytes) : Bytes :=
  0x27 :: doubled 0x27 value ++ [0x27]

def isASCIIAlphaNumeric (character : UInt8) : Bool :=
  (0x61 ≤ character && character ≤ 0x7A) || (0x41 ≤ character && character ≤ 0x5A) ||
    (0x30 ≤ character && character ≤ 0x39)

/-- Letters, digits, underscores, dollar and minus signs.  The source goes over the characters; one
outside ASCII, which is refused, has bytes outside ASCII only. -/
def isMySQLIdentifierCharacter (character : UInt8) : Bool :=
  isASCIIAlphaNumeric character || character == 0x5F || character == 0x24 || character == 0x2D

def isMySQLUsernameCharacter (character : UInt8) : Bool :=
  isMySQLIdentifierCharacter character || character == 0x2E || character == 0x27

def quoteMySQLDatabaseIdentifier (value : Bytes) : Except StatementError Bytes :=
  if value = [] ∨ 64 < value.length then .error .databaseLength
  else if !value.all isMySQLIdentifierCharacter then .error .databaseCharacter
  else .ok (0x60 :: doubled 0x60 value ++ [0x60])

def validateMySQLAccountName (value : Bytes) : Except StatementError Unit :=
  if value = [] ∨ 32 < value.length then .error .usernameLength
  else if !value.all isMySQLUsernameCharacter then .error .usernameCharacter
  else .ok ()

/-- The check of one label of a host name. -/
def validateHostLabel (label : Bytes) : Except StatementError Unit :=
  if label = [] ∨ 63 < label.length ∨ label.head? = some 0x2D ∨ label.getLast? = some 0x2D then
    .error .hostLabel
  else if !label.all fun character => isASCIIAlphaNumeric character || character == 0x2D then
    .error .hostCharacter
  else .ok ()

/-- An address or an exact host name; `parseIP` says what an address is. -/
def validateMySQLAccountHost (parseIP : Bytes → Bool) (value : Bytes) : Except StatementError Unit :=
  if value = [] ∨ 255 < value.length then .error .hostLength
  else if value.any fun character => character == 0x25 || character == 0x5F then .error .hostPattern
  else if parseIP value then .ok ()
  else if 253 < value.length then .error .hostTooLong
  else (value.splitOn 0x2E).forM validateHostLabel

def validateMySQLPassword (value : Bytes) : Except StatementError Unit :=
  if value = [] ∨ 1024 < value.length then .error .passwordLength
  else if value.any fun character => character == 0x00 || character == 0x0D || character == 0x0A then
    .error .passwordCharacter
  else .ok ()

/-- An account in a statement. -/
def quotedAccount (username host : Bytes) : Bytes :=
  quoteMySQLString username ++ ascii "@" ++ quoteMySQLString host

def buildMySQLCreateStatements (parseIP : Bytes → Bool) (username password host : Bytes) :
    Except StatementError (List Bytes) := do
  validateMySQLAccountName username
  validateMySQLAccountHost parseIP host
  validateMySQLPassword password
  return [mysqlNoBackslashEscapesSQL,
    ascii "CREATE USER " ++ quotedAccount username host ++ ascii " IDENTIFIED BY " ++
      quoteMySQLString password]

/-- The statement for one grant. -/
def grantStatement (username host : Bytes) (grant : DBGrant) : Except StatementError Bytes := do
  let database ← quoteMySQLDatabaseIdentifier grant.database
  let privileges ←
    if grant.privilege = ascii "read" then .ok (ascii "SELECT")
    else if grant.privilege = ascii "readwrite" then .ok (ascii "SELECT, INSERT, UPDATE, DELETE")
    else .error (.unsupportedPrivilege grant.privilege)
  return ascii "GRANT " ++ privileges ++ ascii " ON " ++ database ++ ascii ".* TO " ++
    quotedAccount username host

def buildMySQLGrantStatements (parseIP : Bytes → Bool) (username host : Bytes)
    (grants : List DBGrant) : Except StatementError (List Bytes) := do
  validateMySQLAccountName username
  validateMySQLAccountHost parseIP host
  if grants = [] then .error .noGrants
  else if 128 < grants.length then .error .tooManyGrants
  else
    let statements ← grants.mapM (grantStatement username host)
    return mysqlNoBackslashEscapesSQL :: statements

def dropMySQLUserStatement (username host : Bytes) : Bytes :=
  ascii "DROP USER IF EXISTS " ++ quotedAccount username host

/-! ## MySQL's lexer -/

/-- The modes a statement is read in, as far as they matter for its tokens. -/
structure SQLMode where
  ansiQuotes : Bool
  noBackslashEscapes : Bool

inductive Token where
  | word (text : Bytes)
  | text (value : Bytes)
  /-- A quoted name. -/
  | name (value : Bytes)
  | symbol (value : UInt8)
  deriving DecidableEq

/-- Where the lexer stands between two bytes. -/
inductive Reading where
  | start
  | word (text : Bytes)
  | quoted (quote : UInt8) (value : Bytes)
  /-- After a backslash. -/
  | escaped (quote : UInt8) (value : Bytes)
  /-- After a quote that ends the text unless another one follows. -/
  | closing (quote : UInt8) (value : Bytes)
  | minus
  | dashes
  | slash
  /-- After the mark of a comment; one with an exclamation mark is executed. -/
  | opening
  | line
  | block (last : UInt8)

structure Lexer where
  reading : Reading := .start
  tokens : List Token := []

namespace Lexer

def isWordByte (value : UInt8) : Bool :=
  isIdentifierPart value || 0x80 ≤ value

def isGap (value : UInt8) : Bool :=
  value ≤ 0x20 || value == 0x7F

/-- Double quotes are quotes of a name in one of the modes. -/
def quotesName (mode : SQLMode) (quote : UInt8) : Bool :=
  quote == 0x60 || (quote == 0x22 && mode.ansiQuotes)

def quotedToken (mode : SQLMode) (quote : UInt8) (value : Bytes) : Token :=
  if quotesName mode quote then .name value else .text value

/-- What an escape sequence stands for. -/
def unescape (value : UInt8) : Bytes :=
  if value = 0x30 then [0x00] else if value = 0x62 then [0x08] else if value = 0x6E then [0x0A]
  else if value = 0x72 then [0x0D] else if value = 0x74 then [0x09] else if value = 0x5A then [0x1A]
  else if value = 0x25 ∨ value = 0x5F then [0x5C, value] else [value]

def emit (lexer : Lexer) (token : Token) : Lexer :=
  { lexer with tokens := lexer.tokens ++ [token] }

/-- A byte that begins something. -/
def begin (lexer : Lexer) (value : UInt8) : Lexer :=
  if isGap value then { lexer with reading := .start }
  else if value = 0x27 ∨ value = 0x22 ∨ value = 0x60 then { lexer with reading := .quoted value [] }
  else if value = 0x2D then { lexer with reading := .minus }
  else if value = 0x2F then { lexer with reading := .slash }
  else if value = 0x23 then { lexer with reading := .line }
  else if isWordByte value then { lexer with reading := .word [value] }
  else { lexer with reading := .start }.emit (.symbol value)

def step (mode : SQLMode) (lexer : Lexer) (value : UInt8) : Lexer :=
  match lexer.reading with
  | .start => lexer.begin value
  | .word text =>
    if isWordByte value then { lexer with reading := .word (text ++ [value]) }
    else (lexer.emit (.word text)).begin value
  | .quoted quote text =>
    if value = 0x5C ∧ mode.noBackslashEscapes = false ∧ quotesName mode quote = false then
      { lexer with reading := .escaped quote text }
    else if value = quote then { lexer with reading := .closing quote text }
    else { lexer with reading := .quoted quote (text ++ [value]) }
  | .escaped quote text => { lexer with reading := .quoted quote (text ++ unescape value) }
  | .closing quote text =>
    if value = quote then { lexer with reading := .quoted quote (text ++ [value]) }
    else (lexer.emit (quotedToken mode quote text)).begin value
  | .minus =>
    if value = 0x2D then { lexer with reading := .dashes }
    else (lexer.emit (.symbol 0x2D)).begin value
  | .dashes =>
    if value = 0x0A then { lexer with reading := .start }
    else if isGap value then { lexer with reading := .line }
    else ((lexer.emit (.symbol 0x2D)).emit (.symbol 0x2D)).begin value
  | .slash =>
    if value = 0x2A then { lexer with reading := .opening }
    else (lexer.emit (.symbol 0x2F)).begin value
  | .opening => { lexer with reading := if value = 0x21 then .start else .block value }
  | .line => if value = 0x0A then { lexer with reading := .start } else lexer
  | .block last =>
    { lexer with reading := if last = 0x2A ∧ value = 0x2F then .start else .block value }

/-- The tokens at the end of a statement; a text or a comment that does not end is an error. -/
def finish (mode : SQLMode) (lexer : Lexer) : Option (List Token) :=
  match lexer.reading with
  | .start | .dashes | .line => some lexer.tokens
  | .word text => some (lexer.tokens ++ [.word text])
  | .closing quote text => some (lexer.tokens ++ [quotedToken mode quote text])
  | .minus => some (lexer.tokens ++ [.symbol 0x2D])
  | .slash => some (lexer.tokens ++ [.symbol 0x2F])
  | .quoted _ _ | .escaped _ _ | .opening | .block _ => none

end Lexer

/-- A statement as MySQL reads it. -/
def tokenize (mode : SQLMode) (statement : Bytes) : Option (List Token) :=
  (statement.foldl (Lexer.step mode) {}).finish mode

/-! ## Quoted texts -/

variable {mode : SQLMode} {parseIP : Bytes → Bool} {username password host : Bytes} {quote : UInt8}
  {grant : DBGrant} {statement : Bytes} {statements : List Bytes}

/-- The bytes between the quotes are the text. -/
theorem foldl_doubled (plain : mode.noBackslashEscapes ∨ quote = 0x60)
    (tokens : List Token) (value before : Bytes) :
    (doubled quote value).foldl (Lexer.step mode)
    { reading := .quoted quote before, tokens := tokens } =
      { reading := .quoted quote (before ++ value), tokens := tokens } := by
  have escapes : ∀ byte : UInt8, ¬(byte = 0x5C ∧ mode.noBackslashEscapes = false ∧
      Lexer.quotesName mode quote = false) := by
    rintro byte ⟨-, off, other⟩
    obtain on | rfl := plain
    · rw [on] at off
      cases off
    · cases other
  induction value generalizing before with
  | nil => rw [append_nil]; rfl
  | cons byte _ ih =>
    have first : (if byte = quote then [byte, byte] else [byte]).foldl (Lexer.step mode)
        { reading := .quoted quote before, tokens := tokens } =
        { reading := .quoted quote (before ++ [byte]), tokens := tokens } := by
      split
      · rename_i same
        simp [Lexer.step, if_neg (escapes byte), if_pos same]
      · rename_i other
        simp [Lexer.step, if_neg (escapes byte), if_neg other]
    rw [doubled, flatMap_cons, foldl_append, first]
    exact (ih (before ++ [byte])).trans (by rw [append_assoc]; rfl)

/-- A text in quotes is read up to its closing quote. -/
theorem foldl_quoted (mark : quote = 0x27 ∨ quote = 0x60)
    (plain : mode.noBackslashEscapes ∨ quote = 0x60) (tokens : List Token) (value : Bytes) :
    (quote :: doubled quote value ++ [quote]).foldl (Lexer.step mode) { tokens := tokens } =
      { reading := .closing quote value, tokens := tokens } := by
  have opened : Lexer.step mode { tokens := tokens } quote =
      { reading := .quoted quote [], tokens := tokens } := by
    obtain rfl | rfl := mark
    · rfl
    · rfl
  have closed : Lexer.step mode { reading := .quoted quote value, tokens := tokens } quote =
      { reading := .closing quote value, tokens := tokens } := by
    obtain rfl | rfl := mark
    · rfl
    · rfl
  rw [cons_append, foldl_cons, foldl_append, opened, foldl_doubled plain,
    nil_append, foldl_cons, closed, foldl_nil]

theorem foldl_string (plain : mode.noBackslashEscapes) (tokens : List Token) (value : Bytes) :
    (quoteMySQLString value).foldl (Lexer.step mode) { tokens := tokens } =
      { reading := .closing 0x27 value, tokens := tokens } :=
  foldl_quoted (.inl rfl) (.inl plain) tokens value

theorem foldl_account (plain : mode.noBackslashEscapes) (tokens : List Token) :
    (quotedAccount username host).foldl (Lexer.step mode) { tokens := tokens } =
      { reading := .closing 0x27 host, tokens := tokens ++ [.text username] ++ [.symbol 0x40] } := by
  rw [quotedAccount, foldl_append, foldl_append, foldl_string plain]
  exact foldl_string plain _ host

/-! ## Tokens of the statements -/

def setTokens : List Token :=
  [.word (ascii "SET"), .word (ascii "SESSION"), .word (ascii "sql_mode"), .symbol 0x3D,
    .word (ascii "CONCAT_WS"), .symbol 0x28, .text (ascii ","), .symbol 0x2C, .word (ascii "NULLIF"),
    .symbol 0x28, .symbol 0x40, .symbol 0x40, .word (ascii "SESSION"), .symbol 0x2E,
    .word (ascii "sql_mode"), .symbol 0x2C, .text [], .symbol 0x29, .symbol 0x2C,
    .text (ascii "NO_BACKSLASH_ESCAPES"), .symbol 0x29]

def accountTokens (username host : Bytes) : List Token :=
  [.text username, .symbol 0x40, .text host]

/-- The privileges a request asks for. -/
def requestedPrivileges (privilege : Bytes) : List Bytes :=
  if privilege = ascii "read" then [ascii "SELECT"]
  else if privilege = ascii "readwrite" then
    [ascii "SELECT", ascii "INSERT", ascii "UPDATE", ascii "DELETE"]
  else []

/-- The privileges as a list in a statement. -/
def privilegeTokens (privileges : List Bytes) : List Token :=
  (privileges.map Token.word).intersperse (.symbol 0x2C)

def grantTokens (username host : Bytes) (grant : DBGrant) : List Token :=
  .word (ascii "GRANT") :: privilegeTokens (requestedPrivileges grant.privilege) ++
    .word (ascii "ON") :: .name grant.database :: .symbol 0x2E :: .symbol 0x2A ::
      .word (ascii "TO") :: accountTokens username host

theorem tokenize_set (mode : SQLMode) :
    tokenize mode mysqlNoBackslashEscapesSQL = some setTokens := by
  obtain ⟨ansiQuotes, noBackslashEscapes⟩ := mode
  cases ansiQuotes
  all_goals
    cases noBackslashEscapes
    all_goals
      decide +kernel

/-- A statement that was built for a grant, and how it begins. -/
theorem grantStatement_ok (built : grantStatement username host grant = .ok statement) :
    grant.database.all isMySQLIdentifierCharacter = true ∧
      (grant.privilege = ascii "read" ∨ grant.privilege = ascii "readwrite") ∧ ∃ front,
      statement = front ++ (0x60 :: doubled 0x60 grant.database ++ [0x60]) ++ ascii ".* TO " ++
        quotedAccount username host ∧
      ∀ mode, front.foldl (Lexer.step mode) {} =
        { tokens := .word (ascii "GRANT") :: privilegeTokens (requestedPrivileges grant.privilege) ++
            [.word (ascii "ON")] } := by
  unfold grantStatement quoteMySQLDatabaseIdentifier at built
  split at built
  · cases built
  split at built
  · cases built
  next accepted =>
  rw [Bool.not_eq_true', Bool.not_eq_false] at accepted
  refine ⟨accepted, ?_⟩
  split at built
  · rename_i read
    rw [read]
    exact ⟨.inl rfl, _, (Except.ok.inj built).symm, fun _ => rfl⟩
  split at built
  · rename_i readwrite
    rw [readwrite]
    exact ⟨.inr rfl, _, (Except.ok.inj built).symm, fun _ => rfl⟩
  · cases built

theorem tokenize_grant (plain : mode.noBackslashEscapes)
    (built : grantStatement username host grant = .ok statement) :
    tokenize mode statement = some (grantTokens username host grant) := by
  obtain ⟨-, -, _, rfl, words⟩ := grantStatement_ok built
  rw [tokenize, foldl_append, foldl_append, foldl_append, words,
    foldl_quoted (.inr rfl) (.inr rfl), grantTokens]
  generalize privilegeTokens (requestedPrivileges grant.privilege) = privileges at *
  have target : (ascii ".* TO ").foldl (Lexer.step mode)
      { reading := .closing 0x60 grant.database,
        tokens := .word (ascii "GRANT") :: privileges ++ [.word (ascii "ON")] } =
      { tokens := (.word (ascii "GRANT") :: privileges ++ [.word (ascii "ON")]) ++
          [.name grant.database] ++ [.symbol 0x2E] ++ [.symbol 0x2A] ++ [.word (ascii "TO")] } := rfl
  rw [target, foldl_account plain]
  simp [Lexer.finish, Lexer.quotedToken, Lexer.quotesName, accountTokens]

theorem tokenize_create (plain : mode.noBackslashEscapes) :
    tokenize mode (ascii "CREATE USER " ++ quotedAccount username host ++ ascii " IDENTIFIED BY " ++
      quoteMySQLString password) =
    some ([.word (ascii "CREATE"), .word (ascii "USER")] ++ accountTokens username host ++
      [.word (ascii "IDENTIFIED"), .word (ascii "BY"), .text password]) := by
  have front : (ascii "CREATE USER ").foldl (Lexer.step mode) {} =
      { tokens := [.word (ascii "CREATE"), .word (ascii "USER")] } := rfl
  have middle : ∀ tokens, (ascii " IDENTIFIED BY ").foldl (Lexer.step mode)
      { reading := .closing 0x27 host, tokens := tokens } =
      { tokens := tokens ++ [.text host] ++ [.word (ascii "IDENTIFIED")] ++ [.word (ascii "BY")] } :=
    fun _ => rfl
  rw [tokenize, foldl_append, foldl_append, foldl_append, front, foldl_account plain,
    middle, foldl_string plain]
  rfl

theorem tokenize_drop (plain : mode.noBackslashEscapes) :
    tokenize mode (dropMySQLUserStatement username host) =
    some ([.word (ascii "DROP"), .word (ascii "USER"), .word (ascii "IF"), .word (ascii "EXISTS")] ++
      accountTokens username host) := by
  have front : (ascii "DROP USER IF EXISTS ").foldl (Lexer.step mode) {} =
      { tokens := [.word (ascii "DROP"), .word (ascii "USER"), .word (ascii "IF"),
          .word (ascii "EXISTS")] } := rfl
  rw [tokenize, dropMySQLUserStatement, foldl_append, front, foldl_account plain]
  rfl

/-- The statements for some grants. -/
theorem buildMySQLGrantStatements_ok {grants : List DBGrant}
    (built : buildMySQLGrantStatements parseIP username host grants = .ok statements) :
    ∃ rest, statements = mysqlNoBackslashEscapesSQL :: rest ∧
      List.Forall₂ (fun grant statement => grantStatement username host grant = .ok statement)
        grants rest := by
  have all : ∀ {grants : List DBGrant} {rest : List Bytes},
      grants.mapM (grantStatement username host) = .ok rest →
      List.Forall₂ (fun grant statement => grantStatement username host grant = .ok statement)
        grants rest := by
    intro grants
    induction grants with
    | nil =>
      rintro rest ⟨⟩
      exact .nil
    | cons grant grants ih =>
      intro rest mapped
      rw [mapM_cons] at mapped
      obtain ⟨statement, first, mapped⟩ := bind_ok mapped
      obtain ⟨_, later, mapped⟩ := bind_ok mapped
      cases mapped
      exact .cons first (ih later)
  obtain ⟨-, -, built⟩ := bind_ok built
  obtain ⟨-, -, built⟩ := bind_ok built
  split at built
  · cases built
  split at built
  · cases built
  obtain ⟨rest, mapped, built⟩ := bind_ok built
  exact ⟨rest, (Except.ok.inj built).symm, all mapped⟩

theorem buildMySQLCreateStatements_ok {parseIP : Bytes → Bool} {username password host : Bytes}
    (built : buildMySQLCreateStatements parseIP username password host = .ok statements) :
    statements = [mysqlNoBackslashEscapesSQL,
      ascii "CREATE USER " ++ quotedAccount username host ++ ascii " IDENTIFIED BY " ++
        quoteMySQLString password] := by
  obtain ⟨-, -, built⟩ := bind_ok built
  obtain ⟨-, -, built⟩ := bind_ok built
  obtain ⟨-, -, built⟩ := bind_ok built
  exact (Except.ok.inj built).symm

/-- With backslashes as ordinary characters, whatever the other modes are, the statements built for
an account are read as their fixed words with the user name, the host and the password as texts and
the databases as names. -/
theorem statements_read_as_built (mode : SQLMode) (plain : mode.noBackslashEscapes = true)
    (parseIP : Bytes → Bool) (username password host : Bytes) (grants : List DBGrant) :
    (∀ statements, buildMySQLCreateStatements parseIP username password host = .ok statements →
      statements.map (tokenize mode) = [some setTokens,
        some ([.word (ascii "CREATE"), .word (ascii "USER")] ++ accountTokens username host ++
          [.word (ascii "IDENTIFIED"), .word (ascii "BY"), .text password])]) ∧
    (∀ statements, buildMySQLGrantStatements parseIP username host grants = .ok statements →
      statements.map (tokenize mode) =
        some setTokens :: grants.map fun grant => some (grantTokens username host grant)) ∧
    tokenize mode (dropMySQLUserStatement username host) =
      some ([.word (ascii "DROP"), .word (ascii "USER"), .word (ascii "IF"), .word (ascii "EXISTS")] ++
        accountTokens username host) := by
  refine ⟨fun statements built => ?_, fun statements built => ?_, tokenize_drop plain⟩
  · rw [buildMySQLCreateStatements_ok built, List.map_cons, List.map_singleton, tokenize_set,
      tokenize_create plain]
  · obtain ⟨_, rfl, each⟩ := buildMySQLGrantStatements_ok built
    rw [List.map_cons, tokenize_set]
    apply congrArg _
    clear built
    induction each with
    | nil => rfl
    | cons first _ ih =>
      rw [List.map_cons, List.map_cons, tokenize_grant plain first, ih]

/-- What the validators accept is put into statements. -/
theorem buildMySQLCreateStatements_accepts
    (named : validateMySQLAccountName username = .ok ())
    (located : validateMySQLAccountHost parseIP host = .ok ())
    (secret : validateMySQLPassword password = .ok ()) :
    ∃ statements, buildMySQLCreateStatements parseIP username password host = .ok statements := by
  rw [buildMySQLCreateStatements, named, located, secret]
  exact ⟨_, rfl⟩

/-- So are grants of known privileges on databases whose names are accepted. -/
theorem buildMySQLGrantStatements_accepts {grants : List DBGrant}
    (named : validateMySQLAccountName username = .ok ())
    (located : validateMySQLAccountHost parseIP host = .ok ())
    (asked : grants ≠ []) (few : grants.length ≤ 128)
    (each : ∀ grant ∈ grants, (∃ quoted, quoteMySQLDatabaseIdentifier grant.database = .ok quoted) ∧
      grant.privilege ∈ [ascii "read", ascii "readwrite"]) :
    ∃ statements, buildMySQLGrantStatements parseIP username host grants = .ok statements := by
  have all : ∃ rest, grants.mapM (grantStatement username host) = .ok rest := by
    clear asked few
    induction grants with
    | nil => exact ⟨[], rfl⟩
    | cons grant grants ih =>
      obtain ⟨⟨quoted, accepted⟩, known⟩ := each grant (.head _)
      obtain ⟨rest, mapped⟩ := ih fun other member => each other (.tail _ member)
      have first : ∃ statement, grantStatement username host grant = .ok statement := by
        rw [mem_cons, mem_singleton] at known
        obtain read | readwrite := known
        · rw [grantStatement, accepted, read]
          exact ⟨_, rfl⟩
        · rw [grantStatement, accepted, readwrite]
          exact ⟨_, rfl⟩
      obtain ⟨statement, built⟩ := first
      rw [mapM_cons, built, mapped]
      exact ⟨_, rfl⟩
  obtain ⟨rest, mapped⟩ := all
  rw [buildMySQLGrantStatements, named, located, mapped]
  simp only [if_neg asked, if_neg (Nat.not_lt.mpr few)]
  exact ⟨_, rfl⟩

/-- A user name with a quote, a password that ends with a backslash, and two grants. -/
theorem statements_read_as_built_quotes :
    (∃ statements, buildMySQLCreateStatements (fun _ => false) (ascii "o'b") (ascii "p'\\")
        (ascii "h") = .ok statements ∧
      statements.map (tokenize ⟨true, true⟩) = [some setTokens,
        some ([.word (ascii "CREATE"), .word (ascii "USER")] ++ accountTokens (ascii "o'b")
          (ascii "h") ++
          [.word (ascii "IDENTIFIED"), .word (ascii "BY"), .text (ascii "p'\\")])]) ∧
    ∃ statements, buildMySQLGrantStatements (fun _ => false) (ascii "o'b") (ascii "h")
        [⟨ascii "a_b", ascii "read"⟩, ⟨ascii "c$d", ascii "readwrite"⟩] = .ok statements ∧
      statements.map (tokenize ⟨true, true⟩) = [some setTokens,
        some (grantTokens (ascii "o'b") (ascii "h") ⟨ascii "a_b", ascii "read"⟩),
        some (grantTokens (ascii "o'b") (ascii "h") ⟨ascii "c$d", ascii "readwrite"⟩)] := by
  obtain ⟨creates, grants, -⟩ := statements_read_as_built ⟨true, true⟩ rfl (fun _ => false)
    (ascii "o'b") (ascii "p'\\") (ascii "h")
    [⟨ascii "a_b", ascii "read"⟩, ⟨ascii "c$d", ascii "readwrite"⟩]
  obtain ⟨created, built⟩ := @buildMySQLCreateStatements_accepts (fun _ => false) (ascii "o'b")
    (ascii "p'\\") (ascii "h") rfl rfl rfl
  obtain ⟨granted, also⟩ := @buildMySQLGrantStatements_accepts (fun _ => false) (ascii "o'b")
    (ascii "h") [⟨ascii "a_b", ascii "read"⟩, ⟨ascii "c$d", ascii "readwrite"⟩] rfl rfl (by simp)
    (by decide) (by
      rintro grant (_ | ⟨_, _ | ⟨_, ⟨⟩⟩⟩)
      · exact ⟨⟨_, rfl⟩, .head _⟩
      · exact ⟨⟨_, rfl⟩, .tail _ (.head _)⟩)
  exact ⟨⟨created, built, creates created built⟩, granted, also, grants granted also⟩

/-! ## The scope of a grant -/

/-- How MySQL compares a database with the name in a grant: an underscore stands for any character,
a percent sign for any characters. -/
inductive Like : Bytes → Bytes → Prop
  | nil : Like [] []
  | any {pattern name : Bytes} (value : UInt8) (later : Like pattern name) :
      Like (0x5F :: pattern) (value :: name)
  | none {pattern name : Bytes} (later : Like pattern name) : Like (0x25 :: pattern) name
  | more {pattern name : Bytes} (value : UInt8) (later : Like (0x25 :: pattern) name) :
      Like (0x25 :: pattern) (value :: name)
  | escaped {pattern name : Bytes} (value : UInt8) (later : Like pattern name) :
      Like (0x5C :: value :: pattern) (value :: name)
  | same {pattern name : Bytes} {value : UInt8} (plain : value ∉ [0x5F, 0x25, 0x5C])
      (later : Like pattern name) : Like (value :: pattern) (value :: name)

theorem like_iff {pattern : Bytes} (plain : ∀ value ∈ pattern, value ∉ [0x5F, 0x25, 0x5C])
    (name : Bytes) : Like pattern name ↔ pattern = name := by
  constructor
  · intro like
    induction like with
    | nil => rfl
    | any | none | more | escaped => exact absurd (plain _ (.head _)) (by decide)
    | same _ _ ih => rw [ih fun value member => plain value (.tail _ member)]
  · rintro rfl
    induction pattern with
    | nil => exact .nil
    | cons value _ ih =>
      exact .same (plain value (.head _)) (ih fun other member => plain other (.tail _ member))

/-- A list of privileges at the head of some tokens, and the tokens after it. -/
def splitPrivileges : List Token → List Bytes × List Token
  | .word privilege :: .symbol 0x2C :: rest =>
    (privilege :: (splitPrivileges rest).1, (splitPrivileges rest).2)
  | .word privilege :: rest => ([privilege], rest)
  | rest => ([], rest)

/-- A statement gives a privilege on a database. -/
def Grants (mode : SQLMode) (statement database privilege : Bytes) : Prop :=
  match tokenize mode statement with
  | some (.word keyword :: rest) =>
    keyword = ascii "GRANT" ∧
      match splitPrivileges rest with
      | (privileges, .word _ :: .name pattern :: _) =>
        privilege ∈ privileges ∧ Like pattern database
      | _ => False
  | _ => False

theorem grants_statement (plain : mode.noBackslashEscapes)
    (built : grantStatement username host grant = .ok statement) (database privilege : Bytes) :
    Grants mode statement database privilege ↔
      privilege ∈ requestedPrivileges grant.privilege ∧ Like grant.database database := by
  obtain ⟨-, known, -⟩ := grantStatement_ok built
  rw [Grants, tokenize_grant plain built, grantTokens]
  obtain read | readwrite := known
  · rw [read]
    exact ⟨fun granted => granted.2, fun granted => ⟨rfl, granted⟩⟩
  · rw [readwrite]
    exact ⟨fun granted => granted.2, fun granted => ⟨rfl, granted⟩⟩

/-- A name with an underscore in it also stands for the name with blanks instead. -/
theorem like_blank {pattern : Bytes} (accepted : pattern.all isMySQLIdentifierCharacter = true) :
    Like pattern (pattern.map fun value => if value = 0x5F then 0x20 else value) := by
  induction pattern with
  | nil => exact .nil
  | cons value rest ih =>
    rw [all_cons, Bool.and_eq_true] at accepted
    rw [map_cons]
    split
    · rename_i underscore
      rw [underscore]
      exact .any _ (ih accepted.2)
    · rename_i other
      refine .same ?_ (ih accepted.2)
      intro listed
      simp only [mem_cons, not_mem_nil, or_false] at listed
      obtain rfl | rfl | rfl := listed
      · exact other rfl
      · exact absurd accepted.1 (by decide)
      · exact absurd accepted.1 (by decide)

/-- What the statements for some grants give. -/
theorem grants_statements {grants : List DBGrant} (plain : mode.noBackslashEscapes)
    (built : buildMySQLGrantStatements parseIP username host grants = .ok statements)
    (database privilege : Bytes) :
    (∃ statement ∈ statements, Grants mode statement database privilege) ↔
      ∃ grant ∈ grants, Like grant.database database ∧
        privilege ∈ requestedPrivileges grant.privilege := by
  obtain ⟨_, rfl, each⟩ := buildMySQLGrantStatements_ok built
  have set_grants : ¬Grants mode mysqlNoBackslashEscapesSQL database privilege := by
    rw [Grants, tokenize_set]
    rintro ⟨keyword, -⟩
    exact absurd keyword (by decide)
  rw [exists_mem_cons_iff, or_iff_right set_grants]
  clear built
  induction each with
  | nil => simp
  | cons first _ ih =>
    rw [exists_mem_cons_iff, exists_mem_cons_iff]
    refine or_congr ?_ ih
    rw [grants_statement plain first, and_comm]

/-- The names and privileges of grants that statements were built for. -/
theorem buildMySQLGrantStatements_grants {grants : List DBGrant}
    (built : buildMySQLGrantStatements parseIP username host grants = .ok statements) :
    ∀ grant ∈ grants, grant.database.all isMySQLIdentifierCharacter = true ∧
      ascii "SELECT" ∈ requestedPrivileges grant.privilege := by
  obtain ⟨_, -, each⟩ := buildMySQLGrantStatements_ok built
  clear built
  induction each with
  | nil => nofun
  | cons first _ ih =>
    rintro grant (_ | ⟨_, later⟩)
    · obtain ⟨accepted, read | readwrite, -⟩ := grantStatement_ok first
      · rw [read]
        exact ⟨accepted, by decide⟩
      · rw [readwrite]
        exact ⟨accepted, by decide⟩
    · exact ih grant later

/-- The statements give the privileges asked for on the databases asked for, and no others, if and
only if no name has an underscore in it. -/
theorem grants_as_requested (mode : SQLMode) (plain : mode.noBackslashEscapes = true)
    (parseIP : Bytes → Bool) (username host : Bytes) (grants : List DBGrant)
    (statements : List Bytes)
    (built : buildMySQLGrantStatements parseIP username host grants = .ok statements) :
    (∀ database privilege, (∃ statement ∈ statements, Grants mode statement database privilege) ↔
      ∃ grant ∈ grants, grant.database = database ∧
        privilege ∈ requestedPrivileges grant.privilege) ↔
      ∀ grant ∈ grants, 0x5F ∉ grant.database := by
  have accepted := buildMySQLGrantStatements_grants built
  constructor
  · intro scope grant member underscore
    obtain ⟨named, select⟩ := accepted grant member
    have granted := (grants_statements plain built _ (ascii "SELECT")).mpr
      ⟨grant, member, like_blank named, select⟩
    obtain ⟨other, asked, same, -⟩ := (scope _ _).mp granted
    have blank : (0x20 : UInt8) ∈ other.database := by
      rw [same]
      exact List.mem_map.mpr ⟨0x5F, underscore, rfl⟩
    exact absurd (List.all_eq_true.mp (accepted other asked).1 0x20 blank) (by decide)
  · intro exact_names database privilege
    rw [grants_statements plain built]
    refine exists_congr fun grant => and_congr_right fun member => and_congr_left fun _ => ?_
    apply like_iff
    intro value inside listed
    have allowed := List.all_eq_true.mp (accepted grant member).1 value inside
    simp only [List.mem_cons, List.not_mem_nil, or_false] at listed
    obtain rfl | rfl | rfl := listed
    · exact exact_names grant member inside
    · exact absurd allowed (by decide)
    · exact absurd allowed (by decide)

/-- Reading a database. -/
theorem grants_as_requested_read : ∃ statements,
    buildMySQLGrantStatements (fun _ => false) (ascii "u") (ascii "h") [⟨ascii "a", ascii "read"⟩] =
        .ok statements ∧
      ∀ database privilege,
        (∃ statement ∈ statements, Grants ⟨false, true⟩ statement database privilege) ↔
          ∃ grant ∈ [(⟨ascii "a", ascii "read"⟩ : DBGrant)], grant.database = database ∧
            privilege ∈ requestedPrivileges grant.privilege :=
  ⟨_, rfl, (grants_as_requested ⟨false, true⟩ rfl (fun _ => false) (ascii "u") (ascii "h")
    [⟨ascii "a", ascii "read"⟩] _ rfl).mpr (by decide)⟩

/-- A grant on the database a_b is one on axb. -/
theorem underscore_grants_more : ∃ statements,
    buildMySQLGrantStatements (fun _ => false) (ascii "u") (ascii "h") [⟨ascii "a_b", ascii "read"⟩] =
        .ok statements ∧
      ∃ statement ∈ statements, Grants ⟨false, true⟩ statement (ascii "axb") (ascii "SELECT") := by
  refine ⟨_, rfl, _, .tail _ (.head _), ?_⟩
  have built : grantStatement (ascii "u") (ascii "h") ⟨ascii "a_b", ascii "read"⟩ = .ok _ := rfl
  rw [grants_statement rfl built]
  exact ⟨.head _, .same (by decide) (.any 0x78 (.same (by decide) .nil))⟩

end Jianmen.Provisioning
