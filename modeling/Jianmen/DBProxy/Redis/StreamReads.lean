import Jianmen.DBProxy.Redis.Audit

/-!
# Reading streams

`XREAD` and `XREADGROUP` take options in any order before the keyword `STREAMS`; a consumer group
and a consumer have names of the client's choice.  The audit looks for the keyword in all arguments:
when such a name reads like it, what comes after the name is taken for the first key.
-/

namespace Jianmen.DBProxy

open List

/-! ## What Redis reads -/

/-- Redis compares keywords byte by byte, up to ASCII case. -/
def isKeyword (argument : Bytes) (word : String) : Bool :=
  equalFold argument (ascii word)

/-- The value of a numeric option: digits, after a minus sign perhaps. -/
def isInteger (value : Bytes) : Bool :=
  let digits := if value.head? = some 0x2D then value.drop 1 else value
  !digits.isEmpty && digits.all isDigit

/-- What a read asks for: the names of groups and consumers it gives, each with the argument behind
it, and the keys of the streams with the identifiers to read from. -/
structure StreamRead where
  names : List (Bytes × Bytes) := []
  streams : List Bytes
  deriving DecidableEq

/-- The options up to the keyword `STREAMS`, as Redis goes through them; `group` is set for
`XREADGROUP`. -/
def readOptions (group : Bool) : List Bytes → Option StreamRead
  | [] => none
  | [_] => none
  | option :: value :: rest =>
    if isKeyword option "BLOCK" || isKeyword option "COUNT" ||
        (group && isKeyword option "CLAIM") then
      if isInteger value then readOptions group rest else none
    else if isKeyword option "STREAMS" then
      if (value :: rest).length % 2 = 0 then some { streams := value :: rest } else none
    else if group && isKeyword option "NOACK" then readOptions group (value :: rest)
    else if group && isKeyword option "GROUP" then
      match rest with
      | [] => none
      | consumer :: rest =>
        (readOptions group rest).map fun read =>
          { read with names := (value, consumer) :: (consumer, rest.headD []) :: read.names }
    else none

/-- The keys that Redis reads: the first half of what follows the keyword.  `XREADGROUP` needs a
group.  Which identifiers are well formed is not looked at. -/
def StreamRead.keys (read : StreamRead) : List Bytes :=
  read.streams.take (read.streams.length / 2)

/-- What Redis takes the arguments of a stream read for, if it accepts them. -/
def parseStreamRead : List Bytes → Option StreamRead
  | [] => none
  | name :: args =>
    if isKeyword name "XREAD" then readOptions false args
    else if isKeyword name "XREADGROUP" then
      (readOptions true args).filter fun read => !read.names.isEmpty
    else none

/-! ## Words -/

variable {value letter : UInt8} {name : Bytes}

theorem lowerASCII_low (low : value < 0x80) : lowerASCII value < 0x80 := by
  unfold lowerASCII
  split
  · simp only [Bool.and_eq_true, decide_eq_true_eq, UInt8.le_iff_toNat_le, UInt8.lt_iff_toNat_lt,
      UInt8.toNat_add] at *
    simp only [UInt8.reduceToNat] at *
    omega
  · exact low

theorem lowerASCII_digit (digit : isDigit value) : lowerASCII value = value := by
  unfold lowerASCII
  rw [if_neg]
  simp only [isDigit, Bool.and_eq_true, decide_eq_true_eq, UInt8.le_iff_toNat_le] at *
  simp only [UInt8.reduceToNat] at *
  omega

variable {text word : Bytes} {args : List Bytes} {read : StreamRead}

theorem equalFoldWord_length (same : equalFoldWord text word) : word.length ≤ text.length := by
  fun_induction equalFoldWord text word with
  | case1 => exact Nat.le_refl _
  | case2 text letter word ih =>
    have shorter := ih (Bool.and_eq_true_iff.mp same).2
    simp only [length_cons]
    omega
  | case3 text letter word ih =>
    have shorter := ih (Bool.and_eq_true_iff.mp same).2
    simp only [length_cons]
    omega
  | case4 _ text letter word _ _ ih =>
    have shorter := ih (Bool.and_eq_true_iff.mp same).2
    simp only [length_cons]
    omega
  | case5 => cases same
  | case6 => cases same

/-- A keyword of another length does not read `STREAMS`. -/
theorem isKeyword_short {argument : Bytes} {word : String}
    (keyword : isKeyword argument word) (short : (ascii word).length < 7) :
    equalFoldWord argument (ascii "STREAMS") = false := by
  by_contra reads
  have long : (ascii "STREAMS").length ≤ argument.length :=
    equalFoldWord_length (by simpa using reads)
  have letters : (ascii "STREAMS").length = 7 := rfl
  have same := congrArg length (beq_iff_eq.mp keyword)
  simp only [length_map] at same
  omega

theorem equalFoldWord_head {first : UInt8} {rest word : Bytes}
    (same : equalFoldWord (first :: rest) (letter :: word)) :
    first = 0xC5 ∨ first = 0xE2 ∨ lowerASCII first = lowerASCII letter := by
  unfold equalFoldWord at same
  split at same
  all_goals simp_all

/-- A number does not read `STREAMS`. -/
theorem isInteger_unlike {value : Bytes} (integer : isInteger value) :
    equalFoldWord value (ascii "STREAMS") = false := by
  cases value with
  | nil => rfl
  | cons first =>
    have start : first = 0x2D ∨ isDigit first := by
      by_cases negative : first = 0x2D
      · exact .inl negative
      · simp [isInteger, negative] at integer
        exact .inr integer.1
    by_contra reads
    rw [Bool.not_eq_false] at reads
    have head := equalFoldWord_head reads
    rcases start with rfl | digit
    · revert head
      decide
    · rw [lowerASCII_digit digit] at head
      rcases head with rfl | rfl | rfl
      all_goals exact absurd digit (by decide)

/-- What is a word up to ASCII case reads as it. -/
theorem equalFoldWord_of_equalFold (letters : ∀ letter ∈ word, letter < 0x80)
    (same : equalFold text word) : equalFoldWord text word := by
  rw [equalFold, beq_iff_eq] at same
  fun_induction equalFoldWord text word with
  | case1 => rfl
  | case2 text letter word ih =>
    have low := lowerASCII_low (letters letter mem_cons_self)
    rw [← (cons.inj same).1] at low
    exact absurd low (by decide)
  | case3 text letter word ih =>
    have low := lowerASCII_low (letters letter mem_cons_self)
    rw [← (cons.inj same).1] at low
    exact absurd low (by decide)
  | case4 _ text letter word _ _ ih =>
    simp only [map_cons, cons.injEq] at same
    simp only [same.1, beq_self_eq_true]
    exact ih (fun other member => letters other (mem_cons_of_mem _ member)) same.2
  | case5 => simp at same
  | case6 => simp at same

/-- A letter up to case is the letter in upper case. -/
theorem upper_of_lowerASCII (upper : 0x41 ≤ letter ∧ letter ≤ 0x5A)
    (same : lowerASCII value = lowerASCII letter) :
    (if 0x61 ≤ value && value ≤ 0x7A then value - 0x20 else value) = letter := by
  unfold lowerASCII at same
  simp only [Bool.and_eq_true, decide_eq_true_eq] at same ⊢
  split at same
  all_goals
    split
    all_goals
      simp only [UInt8.le_iff_toNat_le, ← UInt8.toNat_inj, UInt8.toNat_add, UInt8.toNat_sub] at *
      simp only [UInt8.reduceToNat] at *
      omega

/-- A name that is a command up to case is it in upper case. -/
theorem upperCommand_of_equalFold (letters : ∀ letter ∈ word, 0x41 ≤ letter ∧ letter ≤ 0x5A)
    (same : equalFold text word) : upperCommand text = word := by
  rw [equalFold, beq_iff_eq] at same
  have narrow : ∀ letter ∈ word, lowerASCII letter < 0x80 := by
    intro letter member
    exact lowerASCII_low (UInt8.lt_of_le_of_lt (letters letter member).2 (by decide))
  fun_induction upperCommand text generalizing word with
  | case4 =>
    simpa using same
  | case1 rest ih =>
    cases word with
    | nil => simp at same
    | cons letter word =>
      have low := narrow letter mem_cons_self
      rw [← (cons.inj same).1] at low
      exact absurd low (by decide)
  | case2 rest ih =>
    cases word with
    | nil => simp at same
    | cons letter word =>
      have low := narrow letter mem_cons_self
      rw [← (cons.inj same).1] at low
      exact absurd low (by decide)
  | case3 _ rest _ _ ih =>
    cases word with
    | nil => simp at same
    | cons letter word =>
      obtain ⟨first, later⟩ := cons.inj same
      rw [upper_of_lowerASCII (letters letter mem_cons_self) first,
        ih (fun other member => letters other (mem_cons_of_mem _ member)) later
          fun other member => narrow other (mem_cons_of_mem _ member)]

/-! ## The first key -/

/-- The first name that reads `STREAMS`, with the argument behind it. -/
def StreamRead.decoy (read : StreamRead) : Option (Bytes × Bytes) :=
  read.names.find? fun given => equalFoldWord given.1 (ascii "STREAMS")

/-- What comes behind the first argument that reads `STREAMS`. -/
def StreamRead.behind (read : StreamRead) : Bytes :=
  match read.decoy with
  | some (_, next) => next
  | none => read.streams.headD []

/-- The first argument that reads `STREAMS` has behind it what the read says. -/
def SplitsAt (args : List Bytes) (read : StreamRead) : Prop :=
  ∃ front keyword rest, args = front ++ keyword :: read.behind :: rest ∧
    equalFoldWord keyword (ascii "STREAMS") = true ∧
    ∀ option ∈ front, equalFoldWord option (ascii "STREAMS") = false

/-- An option in front that does not read like the keyword. -/
theorem SplitsAt.cons (splits : SplitsAt args read) {option : Bytes}
    (unlike : equalFoldWord option (ascii "STREAMS") = false) : SplitsAt (option :: args) read := by
  obtain ⟨front, keyword, rest, rfl, reads, others⟩ := splits
  refine ⟨option :: front, keyword, rest, rfl, reads, ?_⟩
  rintro other (_ | ⟨_, member⟩)
  · exact unlike
  · exact others other member

/-- A name in front. -/
theorem SplitsAt.named (splits : SplitsAt args read) (given : Bytes) :
    SplitsAt (given :: args) { read with names := (given, args.headD []) :: read.names } := by
  cases reads : equalFoldWord given (ascii "STREAMS") with
  | true =>
    obtain ⟨front, keyword, rest, rfl, -, -⟩ := splits
    refine ⟨[], given, (front ++ keyword :: read.behind :: rest).tail, ?_, reads, by simp⟩
    simp only [StreamRead.behind, StreamRead.decoy, find?_cons, reads]
    cases front
    all_goals rfl
  | false =>
    have same : { read with names := (given, args.headD []) :: read.names : StreamRead }.behind =
        read.behind := by
      simp only [StreamRead.behind, StreamRead.decoy, find?_cons, reads]
    obtain ⟨front, keyword, rest, split, others⟩ := splits.cons reads
    exact ⟨front, keyword, rest, same ▸ split, others⟩

theorem readOptions_splits {group : Bool} (accepted : readOptions group args = some read) :
    SplitsAt args read ∧ read.streams.length % 2 = 0 ∧ 0 < read.streams.length := by
  fun_induction readOptions group args generalizing read with
  | case3 option value rest numeric integer ih =>
    obtain ⟨splits, form⟩ := ih accepted
    have keyword : equalFoldWord option (ascii "STREAMS") = false := by
      simp only [Bool.or_eq_true, Bool.and_eq_true] at numeric
      rcases numeric with (block | count) | ⟨-, claim⟩
      · exact isKeyword_short block (by decide)
      · exact isKeyword_short count (by decide)
      · exact isKeyword_short claim (by decide)
    exact ⟨(splits.cons (isInteger_unlike integer)).cons keyword, form⟩
  | case5 option value rest _ keyword even =>
    cases accepted
    refine ⟨⟨[], option, rest, rfl, ?_, by simp⟩, even, by simp⟩
    exact equalFoldWord_of_equalFold (by decide +kernel) keyword
  | case7 option value rest _ _ flag ih =>
    obtain ⟨splits, form⟩ := ih accepted
    exact ⟨splits.cons (isKeyword_short (Bool.and_eq_true_iff.mp flag).2 (by decide)), form⟩
  | case9 option name _ _ _ grouping consumer rest ih =>
    obtain ⟨_, parsed, rfl⟩ := Option.map_eq_some_iff.mp accepted
    obtain ⟨splits, form⟩ := ih parsed
    have keyword := isKeyword_short (Bool.and_eq_true_iff.mp grouping).2 (by decide)
    exact ⟨((splits.named consumer).named name).cons keyword, form⟩
  | _ => cases accepted

theorem parseStreamRead_splits (accepted : parseStreamRead (name :: args) = some read) :
    (isKeyword name "XREAD" ∨ isKeyword name "XREADGROUP") ∧
      SplitsAt args read ∧ read.streams.length % 2 = 0 ∧ 0 < read.streams.length := by
  simp only [parseStreamRead] at accepted
  split at accepted
  · next keyword => exact ⟨.inl keyword, readOptions_splits accepted⟩
  split at accepted
  · rename_i keyword
    exact ⟨.inr keyword, readOptions_splits (Option.filter_eq_some_iff.mp accepted).1⟩
  · cases accepted

theorem redisAuditCommandChecked_streamRead (args : List Bytes)
    (command : upperCommand name = ascii "XREAD" ∨ upperCommand name = ascii "XREADGROUP") :
    redisAuditCommandChecked (name :: args) =
      redisAuditXReadCommand (upperCommand name) (name :: args) := by
  rcases command with command | command
  all_goals
    simp only [redisAuditCommandChecked, command]
    rfl

/-- What the audit writes for a stream read that Redis accepts. -/
theorem redisAuditCommandChecked_behind {text : Bytes}
    (accepted : parseStreamRead (name :: args) = some read)
    (audited : redisAuditCommandChecked (name :: args) = some text) :
    upperCommand name ∈ [ascii "XREAD", ascii "XREADGROUP"] ∧
      text = keyedAudit (upperCommand name) read.behind := by
  obtain ⟨keyword, ⟨front, streams, rest, rfl, reads, others⟩, -⟩ := parseStreamRead_splits accepted
  have command : upperCommand name = ascii "XREAD" ∨ upperCommand name = ascii "XREADGROUP" :=
    keyword.imp (upperCommand_of_equalFold (by decide +kernel))
      (upperCommand_of_equalFold (by decide +kernel))
  refine ⟨by simpa using command, ?_⟩
  have found : ((name :: (front ++ streams :: read.behind :: rest)).drop 1).findIdx?
      (equalFoldWord · (ascii "STREAMS")) = some front.length := by
    rw [List.drop_one, List.tail_cons, List.findIdx?_append, List.findIdx?_eq_none_iff.mpr others,
      List.findIdx?_cons, reads]
    simp
  have place : argument (name :: (front ++ streams :: read.behind :: rest))
      (front.length + 1 + 1) = read.behind := by
    simp [argument]
  rw [redisAuditCommandChecked_streamRead _ command, redisAuditXReadCommand, found] at audited
  dsimp only at audited
  split at audited
  · cases audited
  split at audited
  · cases audited
  rw [← Option.some.inj audited, place]

/-- The keyword of an audit text can be told from its first six bytes. -/
theorem keyedAudit_inj {command other key second : Bytes}
    (known : command ∈ [ascii "XREAD", ascii "XREADGROUP"])
    (other_known : other ∈ [ascii "XREAD", ascii "XREADGROUP"])
    (same : keyedAudit command key = keyedAudit other second) :
    redisAuditKey key = redisAuditKey second := by
  have start : (command ++ ascii " ").take 6 = (other ++ ascii " ").take 6 := by
    have six : ∀ first ∈ [ascii "XREAD", ascii "XREADGROUP"], 6 ≤ (first ++ ascii " ").length := by
      decide +kernel
    have texts := congrArg (take 6) same
    simp only [keyedAudit, append_assoc (_ ++ ascii " ")] at texts
    rwa [take_append_of_le_length (six _ known), take_append_of_le_length (six _ other_known)]
      at texts
  have commands : command = other := by
    have apart : ∀ first ∈ [ascii "XREAD", ascii "XREADGROUP"],
        ∀ last ∈ [ascii "XREAD", ascii "XREADGROUP"],
        (first ++ ascii " ").take 6 = (last ++ ascii " ").take 6 → first = last := by
      decide +kernel
    exact apart _ known _ other_known start
  subst commands
  simp only [keyedAudit, append_assoc] at same
  exact (append_left_inj _).mp ((append_right_inj _).mp ((append_right_inj _).mp same))

/-- For every stream read that Redis accepts and the audit lets through, the audited key is the
first one Redis reads if and only if no group or consumer has a name that reads `STREAMS`, or the
argument behind the first such name is audited like that key. -/
theorem streamRead_audits_first_key {args : List Bytes} {read : StreamRead} {text : Bytes}
    (accepted : parseStreamRead args = some read)
    (audited : redisAuditCommandChecked args = some text) :
    (∃ command ∈ [ascii "XREAD", ascii "XREADGROUP"], ∃ key, read.keys.head? = some key ∧
      text = command ++ ascii " " ++ redisAuditKey key ++ ascii " " ++ redactedMarker) ↔
    ∀ given next key, read.decoy = some (given, next) → read.keys.head? = some key →
      redisAuditKey next = redisAuditKey key := by
  cases args with
  | nil => cases accepted
  | cons name args =>
    obtain ⟨known, rfl⟩ := redisAuditCommandChecked_behind accepted audited
    obtain ⟨-, -, even, some_streams⟩ := parseStreamRead_splits accepted
    obtain ⟨key, rest, streams⟩ := exists_cons_of_length_pos some_streams
    have first : read.keys.head? = some key := by
      rw [streams] at even
      have two : (key :: rest).length / 2 = (rest.length - 1) / 2 + 1 := by
        simp only [List.length_cons] at even ⊢
        omega
      rw [StreamRead.keys, streams, two, List.take_succ_cons, List.head?_cons]
    constructor
    · rintro ⟨command, other_known, other, found, same⟩ given next shown decoy shown_first
      obtain rfl := Option.some.inj (found.symm.trans shown_first)
      have behind : read.behind = next := by rw [StreamRead.behind, decoy]
      rw [← behind]
      exact keyedAudit_inj known other_known same
    · intro alike
      refine ⟨_, known, key, first, ?_⟩
      have shown : redisAuditKey read.behind = redisAuditKey key := by
        cases decoy : read.decoy with
        | none => rw [StreamRead.behind, decoy, streams, headD_cons]
        | some pair =>
          rw [StreamRead.behind, decoy]
          exact alike _ _ _ decoy first
      rw [keyedAudit, shown]

/-- The second command has a group called `streams`, and its consumer has the name of the key. -/
theorem streamRead_audits_first_key_orders :
    (∃ command ∈ [ascii "XREAD", ascii "XREADGROUP"], ∃ key, some (ascii "orders") = some key ∧
      ascii "XREADGROUP orders [REDACTED]" =
        command ++ ascii " " ++ redisAuditKey key ++ ascii " " ++ redactedMarker) ∧
    (∃ command ∈ [ascii "XREAD", ascii "XREADGROUP"], ∃ key, some (ascii "refunds") = some key ∧
      ascii "XREADGROUP refunds [REDACTED]" =
        command ++ ascii " " ++ redisAuditKey key ++ ascii " " ++ redactedMarker) := by
  constructor
  · refine (@streamRead_audits_first_key
      (["xreadgroup", "GROUP", "billing", "worker", "COUNT", "10", "streams", "orders", "refunds",
        ">", ">"].map ascii)
      { names := [(ascii "billing", ascii "worker"), (ascii "worker", ascii "COUNT")]
        streams := ["orders", "refunds", ">", ">"].map ascii } _ (by decide) (by decide)).mpr ?_
    rintro given next key decoy
    cases decoy
  · refine (@streamRead_audits_first_key
      (["XREADGROUP", "GROUP", "streams", "refunds", "STREAMS", "refunds", ">"].map ascii)
      { names := [(ascii "streams", ascii "refunds"), (ascii "refunds", ascii "STREAMS")]
        streams := ["refunds", ">"].map ascii } _ (by decide) (by decide)).mpr ?_
    rintro given next key decoy first
    have behind : (ascii "streams", ascii "refunds") = (given, next) := Option.some.inj decoy
    have shown : ascii "refunds" = key := Option.some.inj first
    rw [← (Prod.mk.inj behind).2, shown]

/-- The group is called `streams`, so the audit takes its consumer for the first key. -/
theorem audited_key_is_consumer : ∃ args read text, parseStreamRead args = some read ∧
      redisAuditCommandChecked args = some text ∧ read.keys = [ascii "orders"] ∧
      text = ascii "XREADGROUP worker [REDACTED]" ∧
      ∀ command ∈ [ascii "XREAD", ascii "XREADGROUP"], text ≠
        command ++ ascii " " ++ redisAuditKey (ascii "orders") ++ ascii " [REDACTED]" :=
  ⟨["XREADGROUP", "GROUP", "streams", "worker", "STREAMS", "orders", ">"].map ascii,
    { names := [(ascii "streams", ascii "worker"), (ascii "worker", ascii "STREAMS")]
      streams := [ascii "orders", ascii ">"] },
    ascii "XREADGROUP worker [REDACTED]", by decide, by decide, by decide, rfl, by decide⟩

end Jianmen.DBProxy
