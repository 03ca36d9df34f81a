import Jianmen.Library.Text
import Jianmen.Library.Utf8
import Jianmen.DBProxy.Redaction

/-!
# Audit texts of Redis commands

A command is audited by its name and its first key; the other arguments are left out.  Where the
first key stands depends on the command, so a command whose form is not known has no audit text,
and is not let through.
-/

namespace Jianmen.DBProxy

open Option

/-! ## Words and numbers -/

/-- `strings.EqualFold` with a word of ASCII letters.  Outside ASCII a long s and the Kelvin sign
fold to letters. -/
def equalFoldWord : Bytes → Bytes → Bool
  | [], [] => true
  | 0xC5 :: 0xBF :: text, letter :: word => lowerASCII letter == 0x73 && equalFoldWord text word
  | 0xE2 :: 0x84 :: 0xAA :: text, letter :: word =>
    lowerASCII letter == 0x6B && equalFoldWord text word
  | value :: text, letter :: word =>
    lowerASCII value == lowerASCII letter && equalFoldWord text word
  | [], _ :: _ => false
  | _ :: _, [] => false

/-- `strings.ToUpper` as far as it gives ASCII letters: a dotless i and a long s become some. -/
def upperCommand : Bytes → Bytes
  | 0xC4 :: 0xB1 :: rest => 0x49 :: upperCommand rest
  | 0xC5 :: 0xBF :: rest => 0x53 :: upperCommand rest
  | value :: rest =>
    (if 0x61 ≤ value && value ≤ 0x7A then value - 0x20 else value) :: upperCommand rest
  | [] => []

def maxInt64Value : ℕ := 9223372036854775807

/-- The digits that are left, after the value of those before. -/
def respDigits (maximum : ℕ) : ℕ → Bytes → Option ℕ
  | value, [] => some value
  | value, digit :: rest =>
    if !isDigit digit then none
    else
      let number := digit.toNat - 0x30
      if (maxInt64Value - number) / 10 < value then none
      else if maximum < value * 10 + number then none
      else respDigits maximum (value * 10 + number) rest

/-- A decimal number without a sign or leading zeros. -/
def parseCanonicalRESPUnsigned (raw : Bytes) (maximum : ℕ) : Option ℕ :=
  if raw = [] ∨ (1 < raw.length ∧ raw.head? = some 0x30) then none
  else respDigits maximum 0 raw

def parseCanonicalRESPNumber (raw : Bytes) : Option ℕ :=
  parseCanonicalRESPUnsigned raw maxInt64Value

/-- `strconv.Atoi`. -/
def atoi (text : Bytes) : Option ℤ :=
  parseInt64 text

/-! ## Keys -/

def maxRedisAuditKeyBytes : ℕ := 256

/-- Unicode control characters. -/
def isControlValue (value : ℕ) : Bool :=
  value ≤ 0x1F || (0x7F ≤ value && value ≤ 0x9F)

/-- Unicode format characters. -/
def isFormatValue (value : ℕ) : Bool :=
  [0xAD, 0x61C, 0x6DD, 0x70F, 0x8E2, 0x180E, 0xFEFF, 0x110BD, 0x110CD, 0xE0001].contains value ||
    (0x600 ≤ value && value ≤ 0x605) || (0x890 ≤ value && value ≤ 0x891) ||
    (0x200B ≤ value && value ≤ 0x200F) || (0x202A ≤ value && value ≤ 0x202E) ||
    (0x2060 ≤ value && value ≤ 0x2064) || (0x2066 ≤ value && value ≤ 0x206F) ||
    (0xFFF9 ≤ value && value ≤ 0xFFFB) || (0x13430 ≤ value && value ≤ 0x1343F) ||
    (0x1BCA0 ≤ value && value ≤ 0x1BCA3) || (0x1D173 ≤ value && value ≤ 0x1D17A) ||
    (0xE0020 ≤ value && value ≤ 0xE007F)

/-- A key as it is audited: as it stands if it is short and plain text. -/
def redisAuditKey (key : Bytes) : Bytes :=
  if key = [] ∨ maxRedisAuditKeyBytes < key.length ∨ !Utf8.valid key then redactedMarker
  else if (Utf8.runes key).any fun rune =>
      rune.isSpace || isControlValue rune.lossy || isFormatValue rune.lossy then redactedMarker
  else key

/-- A command with a key and further arguments left out. -/
def keyedAudit (command key : Bytes) : Bytes :=
  command ++ ascii " " ++ redisAuditKey key ++ ascii " " ++ redactedMarker

/-- A command with its arguments left out. -/
def keylessAudit (command : Bytes) : Bytes :=
  command ++ ascii " " ++ redactedMarker

/-- The argument at a place; there is one wherever this is used. -/
def argument (args : List Bytes) (index : ℕ) : Bytes :=
  args.getD index []

/-! ## Commands by the place of their first key -/

/-- A count of keys, its place, the keys after it, and a direction after them. -/
def redisAuditPrefixedCountedKeyCommand (command : Bytes) (args : List Bytes)
    (countIndex keyIndex : ℕ) : Option Bytes :=
  if args.length ≤ keyIndex then none
  else
    match parseCanonicalRESPNumber (argument args countIndex) with
    | none => none
    | some keyCount =>
      if keyCount = 0 ∨ args.length - keyIndex - 1 < keyCount then none
      else
        let direction := argument args (keyIndex + keyCount)
        if !equalFoldWord direction (ascii "LEFT") ∧
            !equalFoldWord direction (ascii "RIGHT") then none
        else some (keyedAudit command (argument args keyIndex))

def redisAuditObjectCommand (args : List Bytes) : Option Bytes :=
  if args.length = 2 ∧ equalFoldWord (argument args 1) (ascii "HELP") then
    some (keylessAudit (ascii "OBJECT"))
  else if args.length ≠ 3 then none
  else if [ascii "ENCODING", ascii "FREQ", ascii "IDLETIME", ascii "REFCOUNT"].contains
      (upperCommand (argument args 1)) then
    some (keyedAudit (ascii "OBJECT") (argument args 2))
  else none

/-- Whether the arguments of an `XINFO` subcommand have its form. -/
def xinfoForm (args : List Bytes) : Bool :=
  let subcommand := upperCommand (argument args 1)
  if subcommand = ascii "CONSUMERS" then args.length == 4
  else if subcommand = ascii "GROUPS" then args.length == 3
  else if subcommand = ascii "STREAM" then
    args.length == 3 || (args.length == 4 && equalFoldWord (argument args 3) (ascii "FULL")) ||
      (args.length == 6 && equalFoldWord (argument args 3) (ascii "FULL") &&
        equalFoldWord (argument args 4) (ascii "COUNT") &&
        (parseCanonicalRESPNumber (argument args 5)).isSome)
  else false

def redisAuditXInfoCommand (args : List Bytes) : Option Bytes :=
  if args.length = 2 ∧ equalFoldWord (argument args 1) (ascii "HELP") then
    some (keylessAudit (ascii "XINFO"))
  else if args.length < 3 then none
  else if xinfoForm args then some (keyedAudit (ascii "XINFO") (argument args 2))
  else none

def redisAuditCountedKeyCommand (command : Bytes) (args : List Bytes) : Option Bytes :=
  if args.length < 3 then none
  else
    match parseCanonicalRESPNumber (argument args 1) with
    | none => none
    | some keyCount =>
      if keyCount = 0 ∨ args.length - 2 < keyCount then none
      else some (keyedAudit command (argument args 2))

def redisAuditDestinationCountedKeyCommand (command : Bytes) (args : List Bytes) : Option Bytes :=
  if args.length < 4 then none
  else
    match parseCanonicalRESPNumber (argument args 2) with
    | none => none
    | some keyCount =>
      if keyCount = 0 ∨ args.length - 3 < keyCount then none
      else some (keyedAudit command (argument args 1))

/-- Scripts and functions: the number of keys may be zero. -/
def redisAuditScriptCommand (command : Bytes) (args : List Bytes) : Option Bytes :=
  if args.length < 3 then none
  else
    match atoi (argument args 2) with
    | none => none
    | some keyCount =>
      if keyCount < 0 ∨ (args.length : ℤ) - 3 < keyCount then none
      else if 0 < keyCount then some (keyedAudit command (argument args 3))
      else some (keylessAudit command)

def redisAuditEvalCommand (command : Bytes) (args : List Bytes) : Option Bytes :=
  redisAuditScriptCommand command args

def redisAuditFunctionCommand (command : Bytes) (args : List Bytes) : Option Bytes :=
  redisAuditScriptCommand command args

def redisAuditBITOPCommand (args : List Bytes) : Option Bytes :=
  if args.length < 4 then none
  else
    let operation := upperCommand (argument args 1)
    if [ascii "AND", ascii "OR", ascii "XOR"].contains operation ∨
        (operation = ascii "NOT" ∧ args.length = 4) then
      some (keyedAudit (ascii "BITOP") (argument args 2))
    else none

/-- The first argument that reads `STREAMS` is taken for the keyword. -/
def redisAuditXReadCommand (command : Bytes) (args : List Bytes) : Option Bytes :=
  match (args.drop 1).findIdx? (equalFoldWord · (ascii "STREAMS")) with
  | none => none
  | some found =>
    let streams := found + 1
    let remaining := args.length - streams - 1
    if remaining < 2 ∨ remaining % 2 ≠ 0 then none
    else if command = ascii "XREADGROUP" ∧
        (args.length < 7 ∨ !equalFoldWord (argument args 1) (ascii "GROUP")) then none
    else some (keyedAudit command (argument args (streams + 1)))

def redisAuditXGroupCommand (args : List Bytes) : Option Bytes :=
  if args.length < 4 then none
  else if [ascii "CREATE", ascii "CREATECONSUMER", ascii "DELCONSUMER", ascii "DESTROY",
      ascii "SETID"].contains (upperCommand (argument args 1)) then
    some (keyedAudit (ascii "XGROUP") (argument args 2))
  else none

def redisAuditNoKeyCommand (command : Bytes) (args : List Bytes) : Option Bytes :=
  if command = ascii "PING" ∧ 2 < args.length then none
  else if command = ascii "SELECT" ∧ args.length ≠ 2 then none
  else if 1 < args.length then some (keylessAudit command)
  else some command

def redisAuditNoKey (command : Bytes) : Bool :=
  (["ASKING", "COMMAND", "DBSIZE", "DISCARD", "ECHO", "EXEC", "INFO", "KEYS", "LASTSAVE", "MULTI",
    "PING", "QUIT", "RANDOMKEY", "READONLY", "READWRITE", "SCAN", "SELECT", "TIME", "UNWATCH",
    "WAIT", "HELLO", "CLIENT", "SUBSCRIBE", "PSUBSCRIBE", "SSUBSCRIBE", "UNSUBSCRIBE",
    "PUNSUBSCRIBE", "SUNSUBSCRIBE"].map ascii).contains command

def redisAuditHasFirstKey (command : Bytes) : Bool :=
  (["APPEND", "DECR", "DECRBY", "DEL", "DUMP", "EXISTS", "BITCOUNT", "BITFIELD", "BITFIELD_RO",
    "BITPOS", "BLMOVE", "BLPOP", "BRPOP", "BRPOPLPUSH", "BZPOPMAX", "BZPOPMIN", "COPY", "EXPIRE",
    "EXPIREAT", "EXPIRETIME", "GET", "GETBIT", "GETDEL", "GETEX", "GETRANGE", "GETSET", "HDEL",
    "HEXISTS", "HGET", "HGETALL", "HEXPIRE", "HEXPIREAT", "HEXPIRETIME", "HGETDEL", "HGETEX",
    "HINCRBY", "HINCRBYFLOAT", "HKEYS", "HLEN", "HMGET", "HMSET", "HPERSIST", "HPEXPIRE",
    "HPEXPIREAT", "HPEXPIRETIME", "HPTTL", "HRANDFIELD", "HSCAN", "HSET", "HSETEX", "HSETNX",
    "HSTRLEN", "HTTL", "HVALS", "INCR", "INCRBY", "INCRBYFLOAT", "LINDEX", "LINSERT", "LLEN",
    "LCS", "LMOVE", "LPOP", "LPOS", "LPUSH", "LPUSHX", "LRANGE", "LREM", "LSET", "LTRIM", "MGET",
    "MOVE", "MSET", "MSETNX", "PERSIST", "PEXPIRE", "PEXPIREAT", "PEXPIRETIME", "PFADD", "PFCOUNT",
    "PFMERGE", "PUBLISH", "PSETEX", "PTTL", "RENAME", "RENAMENX", "RESTORE", "RPOP", "RPOPLPUSH",
    "RPUSH", "RPUSHX", "SADD", "SCARD", "SDIFF", "SDIFFSTORE", "SET", "SETEX", "SETBIT", "SETNX",
    "SETRANGE", "SINTER", "SINTERSTORE", "SISMEMBER", "SMEMBERS", "SMISMEMBER", "SMOVE", "SPOP",
    "SRANDMEMBER", "SREM", "SORT", "SORT_RO", "SSCAN", "STRLEN", "SUNION", "SUNIONSTORE", "TOUCH",
    "TTL", "TYPE", "UNLINK", "WATCH", "XACK", "XADD", "XAUTOCLAIM", "XCLAIM", "XDEL", "XLEN",
    "XPENDING", "XRANGE", "XREVRANGE", "XSETID", "XTRIM", "GEOADD", "GEODIST", "GEOHASH", "GEOPOS",
    "GEOSEARCH", "GEOSEARCHSTORE", "GEORADIUS", "GEORADIUSBYMEMBER", "ZADD", "ZCARD", "ZCOUNT",
    "ZINCRBY", "ZLEXCOUNT", "ZPOPMAX", "ZPOPMIN", "ZMSCORE", "ZRANDMEMBER", "ZRANGE",
    "ZRANGEBYLEX", "ZRANGEBYSCORE", "ZRANGESTORE", "ZRANK", "ZREM", "ZREMRANGEBYLEX",
    "ZREMRANGEBYRANK", "ZREMRANGEBYSCORE", "ZREVRANGE", "ZREVRANK", "ZSCAN",
    "ZSCORE"].map ascii).contains command

/-- The audit text of a command, if its form is known. -/
def redisAuditCommandChecked (args : List Bytes) : Option Bytes :=
  match args with
  | [] => none
  | name :: _ =>
    let command := upperCommand name
    if command = ascii "EVAL" ∨ command = ascii "EVALSHA" then redisAuditEvalCommand command args
    else if command = ascii "FCALL" ∨ command = ascii "FCALL_RO" then
      redisAuditFunctionCommand command args
    else if command = ascii "SINTERCARD" ∨ command = ascii "ZINTER" ∨ command = ascii "ZDIFF" ∨
        command = ascii "ZUNION" ∨ command = ascii "ZINTERCARD" then
      redisAuditCountedKeyCommand command args
    else if command = ascii "ZINTERSTORE" ∨ command = ascii "ZDIFFSTORE" ∨
        command = ascii "ZUNIONSTORE" then
      redisAuditDestinationCountedKeyCommand command args
    else if command = ascii "BITOP" then redisAuditBITOPCommand args
    else if command = ascii "BLMPOP" then redisAuditPrefixedCountedKeyCommand command args 2 3
    else if command = ascii "LMPOP" ∨ command = ascii "ZMPOP" then
      redisAuditPrefixedCountedKeyCommand command args 1 2
    else if command = ascii "OBJECT" then redisAuditObjectCommand args
    else if command = ascii "XREAD" ∨ command = ascii "XREADGROUP" then
      redisAuditXReadCommand command args
    else if command = ascii "XGROUP" then redisAuditXGroupCommand args
    else if command = ascii "XINFO" then redisAuditXInfoCommand args
    else if redisAuditNoKey command then redisAuditNoKeyCommand command args
    else if !redisAuditHasFirstKey command ∨ args.length < 2 then none
    else if 2 < args.length then some (keyedAudit command (argument args 1))
    else some (command ++ ascii " " ++ redisAuditKey (argument args 1))

/-! ## What a text depends on -/

/-- The place of the key that is put into the text of a command; some have none. -/
def redisAuditKeyPosition (command : Bytes) (args : List Bytes) : Option ℕ :=
  if command = ascii "EVAL" ∨ command = ascii "EVALSHA" then
    if (atoi (argument args 2)).getD 0 = 0 then none else some 3
  else if command = ascii "FCALL" ∨ command = ascii "FCALL_RO" then
    if (atoi (argument args 2)).getD 0 = 0 then none else some 3
  else if command = ascii "SINTERCARD" ∨ command = ascii "ZINTER" ∨ command = ascii "ZDIFF" ∨
      command = ascii "ZUNION" ∨ command = ascii "ZINTERCARD" then some 2
  else if command = ascii "ZINTERSTORE" ∨ command = ascii "ZDIFFSTORE" ∨
      command = ascii "ZUNIONSTORE" then some 1
  else if command = ascii "BITOP" then some 2
  else if command = ascii "BLMPOP" then some 3
  else if command = ascii "LMPOP" ∨ command = ascii "ZMPOP" then some 2
  else if command = ascii "OBJECT" then if args.length = 2 then none else some 2
  else if command = ascii "XREAD" ∨ command = ascii "XREADGROUP" then
    ((args.drop 1).findIdx? (equalFoldWord · (ascii "STREAMS"))).map (· + 2)
  else if command = ascii "XGROUP" then some 2
  else if command = ascii "XINFO" then if args.length = 2 then none else some 2
  else if redisAuditNoKey command then none
  else some 1

/-- A text from the command, the number of its arguments and a key. -/
def auditText (command : Bytes) (length : ℕ) : Option Bytes → Bytes
  | none => if 1 < length then keylessAudit command else command
  | some key =>
    if 2 < length then keyedAudit command key else command ++ ascii " " ++ redisAuditKey key

variable {args : List Bytes} {command text key : Bytes}

theorem text_of_keyed (enough : 2 < args.length)
    (audited : some (keyedAudit command key) = some text) :
    text = auditText command args.length (some key) := by
  rw [auditText, if_pos enough]
  exact (some.inj audited).symm

theorem text_of_keyless (enough : 1 < args.length)
    (audited : some (keylessAudit command) = some text) :
    text = auditText command args.length none := by
  rw [auditText, if_pos enough]
  exact (some.inj audited).symm

theorem redisAuditScriptCommand_text (audited : redisAuditScriptCommand command args = some text) :
    text = auditText command args.length
      ((if (atoi (argument args 2)).getD 0 = 0 then none else some 3).map (argument args)) := by
  unfold redisAuditScriptCommand at audited
  split at audited
  · cases audited
  split at audited
  · cases audited
  next keyCount counted =>
  rw [counted, getD_some]
  split at audited
  · cases audited
  split at audited
  · rw [if_neg (by omega)]
    exact text_of_keyed (by omega) audited
  · rw [if_pos (by omega)]
    exact text_of_keyless (by omega) audited

theorem redisAuditCountedKeyCommand_text
    (audited : redisAuditCountedKeyCommand command args = some text) :
    text = auditText command args.length (some (argument args 2)) := by
  unfold redisAuditCountedKeyCommand at audited
  split at audited
  · cases audited
  split at audited
  · cases audited
  split at audited
  · cases audited
  · exact text_of_keyed (by omega) audited

theorem redisAuditDestinationCountedKeyCommand_text
    (audited : redisAuditDestinationCountedKeyCommand command args = some text) :
    text = auditText command args.length (some (argument args 1)) := by
  unfold redisAuditDestinationCountedKeyCommand at audited
  split at audited
  · cases audited
  split at audited
  · cases audited
  split at audited
  · cases audited
  · exact text_of_keyed (by omega) audited

theorem redisAuditPrefixedCountedKeyCommand_text {countIndex keyIndex : ℕ} (behind : 1 < keyIndex)
    (audited : redisAuditPrefixedCountedKeyCommand command args countIndex keyIndex = some text) :
    text = auditText command args.length (some (argument args keyIndex)) := by
  unfold redisAuditPrefixedCountedKeyCommand at audited
  split at audited
  · cases audited
  split at audited
  · cases audited
  split at audited
  · cases audited
  dsimp only at audited
  split at audited
  · cases audited
  · exact text_of_keyed (by omega) audited

/-- A command with a subcommand before its key. -/
theorem text_of_subcommand {form : Prop} [Decidable form] (audited : (if args.length < 4 then none
      else if form then some (keyedAudit command (argument args 2)) else none) = some text) :
    text = auditText command args.length (some (argument args 2)) := by
  split at audited
  · cases audited
  split at audited
  · exact text_of_keyed (by omega) audited
  · cases audited

/-- A command with subcommands, of which HELP has no key. -/
theorem text_of_help {help short form : Prop} [Decidable help] [Decidable short] [Decidable form]
    (long : ¬short → 2 < args.length)
    (audited : (if args.length = 2 ∧ help then some (keylessAudit command)
      else if short then none
      else if form then some (keyedAudit command (argument args 2)) else none) = some text) :
    text = auditText command args.length
      ((if args.length = 2 then none else some 2).map (argument args)) := by
  split at audited
  · rename_i help
    rw [if_pos help.1]
    exact text_of_keyless (by omega) audited
  split at audited
  · cases audited
  next enough =>
  have three := long enough
  split at audited
  · rw [if_neg (by omega)]
    exact text_of_keyed three audited
  · cases audited

theorem redisAuditXReadCommand_text (audited : redisAuditXReadCommand command args = some text) :
    text = auditText command args.length
      ((((args.drop 1).findIdx? (equalFoldWord · (ascii "STREAMS"))).map (· + 2)).map
        (argument args)) := by
  unfold redisAuditXReadCommand at audited
  split at audited
  · cases audited
  next found place =>
  rw [place]
  dsimp only at audited
  split at audited
  · cases audited
  split at audited
  · cases audited
  · exact text_of_keyed (by omega) audited

theorem redisAuditNoKeyCommand_text (audited : redisAuditNoKeyCommand command args = some text) :
    text = auditText command args.length none := by
  unfold redisAuditNoKeyCommand at audited
  split at audited
  · cases audited
  split at audited
  · cases audited
  split at audited
  · next some_argument => exact text_of_keyless some_argument audited
  · rename_i no_argument
    rw [auditText, if_neg no_argument]
    exact (some.inj audited).symm

/-- The two chains of cases go together. -/
theorem text_of_case {which : Prop} [Decidable which] {here there : Option Bytes}
    {place other : Option ℕ} (audited : (if which then here else there) = some text)
    (yes : which → here = some text →
      text = auditText command args.length (place.map (argument args)))
    (no : there = some text → text = auditText command args.length (other.map (argument args))) :
    text = auditText command args.length
      ((if which then place else other).map (argument args)) := by
  split at audited
  · rename_i case
    rw [if_pos case]
    exact yes case audited
  · rename_i case
    rw [if_neg case]
    exact no audited

/-- A text is made of the command, the number of arguments and the key. -/
theorem redisAuditCommandChecked_text {name : Bytes} {rest : List Bytes}
    (audited : redisAuditCommandChecked (name :: rest) = some text) :
    text = auditText (upperCommand name) (name :: rest).length
      ((redisAuditKeyPosition (upperCommand name) (name :: rest)).map (argument (name :: rest))) := by
  refine text_of_case audited (fun _ => redisAuditScriptCommand_text) fun audited => ?_
  refine text_of_case audited (fun _ => redisAuditScriptCommand_text) fun audited => ?_
  refine text_of_case audited (fun _ => redisAuditCountedKeyCommand_text) fun audited => ?_
  refine text_of_case audited (fun _ => redisAuditDestinationCountedKeyCommand_text)
    fun audited => ?_
  refine text_of_case audited (fun named audited => ?_) fun audited => ?_
  · rw [named]
    exact text_of_subcommand audited
  refine text_of_case audited (fun _ => redisAuditPrefixedCountedKeyCommand_text (by decide))
    fun audited => ?_
  refine text_of_case audited (fun _ => redisAuditPrefixedCountedKeyCommand_text (by decide))
    fun audited => ?_
  refine text_of_case audited (fun named audited => ?_) fun audited => ?_
  · rw [named]
    exact text_of_help (by omega) audited
  refine text_of_case audited (fun _ => redisAuditXReadCommand_text) fun audited => ?_
  refine text_of_case audited (fun named audited => ?_) fun audited => ?_
  · rw [named]
    exact text_of_subcommand audited
  refine text_of_case audited (fun named audited => ?_) fun audited => ?_
  · rw [named]
    exact text_of_help (by omega) audited
  refine text_of_case audited (fun _ => redisAuditNoKeyCommand_text) fun audited => ?_
  split at audited
  · cases audited
  split at audited
  · next further => exact text_of_keyed further audited
  · rename_i alone
    rw [map_some, auditText, if_neg alone]
    exact (some.inj audited).symm

/-- Two commands of one name and length with the same key at the same place have the same text,
whatever their other arguments are. -/
theorem audit_text_hides_arguments (name : Bytes) (rest others : List Bytes) (text other : Bytes)
    (audited : redisAuditCommandChecked (name :: rest) = some text)
    (also : redisAuditCommandChecked (name :: others) = some other)
    (length : rest.length = others.length)
    (place : redisAuditKeyPosition (upperCommand name) (name :: rest) =
      redisAuditKeyPosition (upperCommand name) (name :: others))
    (key : ∀ position, redisAuditKeyPosition (upperCommand name) (name :: rest) = some position →
      argument (name :: rest) position = argument (name :: others) position) :
    text = other := by
  rw [redisAuditCommandChecked_text audited, redisAuditCommandChecked_text also, ← place,
    List.length_cons, length]
  refine congrArg _ (Option.map_congr fun position found => key position ?_)
  exact found

/-- Two values for one key. -/
theorem audit_text_hides_arguments_set : ∃ text other,
    redisAuditCommandChecked [ascii "set", ascii "k", ascii "a"] = some text ∧
      redisAuditCommandChecked [ascii "set", ascii "k", ascii "b"] = some other ∧ text = other := by
  have first : redisAuditCommandChecked [ascii "set", ascii "k", ascii "a"] =
      some (ascii "SET k [REDACTED]") := by
    decide +kernel
  have second : redisAuditCommandChecked [ascii "set", ascii "k", ascii "b"] =
      some (ascii "SET k [REDACTED]") := by
    decide +kernel
  exact ⟨_, _, first, second, audit_text_hides_arguments (ascii "set") [ascii "k", ascii "a"]
    [ascii "k", ascii "b"] _ _ first second rfl (by decide +kernel) (by decide +kernel)⟩

end Jianmen.DBProxy
