import Jianmen.Library.Slices
import Jianmen.DBProxy.MySQL.Observer
import Jianmen.DBProxy.Postgres.Messages

/-!
# The login packet of a MySQL client

The gateway reads the first packet of a client before it knows who the client is.  Lengths in the
packet are numbers of up to 64 bits that the client chose; where one of them is made a signed
integer and added to a position, the position can become negative.  A call panics exactly then, if
something is expected behind the position.
-/

namespace Jianmen.DBProxy

open Loop Slices Postgres List Option

def mysqlClientConnectWithDB : ℕ := 3
def mysqlClientProtocol41 : ℕ := 9
def mysqlClientSSL : ℕ := 11
def mysqlClientSecureConnection : ℕ := 15
def mysqlClientPluginAuth : ℕ := 19
def mysqlClientConnectAttrs : ℕ := 20
def mysqlClientPluginAuthLenencClientData : ℕ := 21

structure LoginObservation where
  user : Bytes := []
  database : Bytes := []
  connectAttrs : List (Bytes × Bytes) := []
  tlsRequested : Bool := false
  metadataVisible : Bool := false
  observation : String
  deriving DecidableEq

/-- What a call returns: an observation, a request for more data or an error. -/
inductive LoginResult where
  | more
  | observed (observation : LoginObservation)
  | failed (reason : String)
  deriving DecidableEq

/-- The length of a response is followed by the response; the result is where it ends. -/
def skipMySQLAuthResponse (payload : Bytes) (pos : ℤ) (capabilities : ℕ) : Option ℤ :=
  if payload.length ≤ pos then some pos
  else
    (startingAt payload pos).bind fun data =>
      if capabilities.testBit mysqlClientPluginAuthLenencClientData then
        match readLengthEncodedInt data with
        | none => some (payload.length + 1)
        | some (length, n) => some (int64 (pos + n + int64 length))
      else if capabilities.testBit mysqlClientSecureConnection then
        data.head?.map fun length => pos + 1 + length.toNat
      else some (payload.length - (splitCString data).2.length)

/-- A text after its length, and the data after the text. -/
def mysqlConnectAttr (reason : String) (data : Bytes) : Option (Except String (Bytes × Bytes)) :=
  match readLengthEncodedInt data with
  | none => some (.error reason)
  | some (length, n) =>
    (startingAt data n).bind fun data =>
      if data.length < length then some (.error reason)
      else (upTo data length).bind fun text => (startingAt data length).map fun rest =>
        .ok (text, rest)

/-- One attribute: a key and a value, which replaces an earlier one. -/
def connectAttrsPass (state : Bytes × List (Bytes × Bytes)) :
    Pass (Bytes × List (Bytes × Bytes)) (Option (Except String (List (Bytes × Bytes)))) :=
  if state.1 = [] then .leave (some (.ok state.2))
  else
    match mysqlConnectAttr "invalid mysql connect attr key" state.1 with
    | none => .leave none
    | some (.error reason) => .leave (some (.error reason))
    | some (.ok (key, data)) =>
      match mysqlConnectAttr "invalid mysql connect attr value" data with
      | none => .leave none
      | some (.error reason) => .leave (some (.error reason))
      | some (.ok (value, rest)) =>
        .again (rest, (state.2.filter fun attr => attr.1 != key) ++ [(key, value)])

def parseMySQLConnectAttrs (data : Bytes) : Option (Except String (List (Bytes × Bytes))) :=
  match readLengthEncodedInt data with
  | none => some (.error "invalid mysql connect attrs length")
  | some (totalLen, n) =>
    (startingAt data n).bind fun data =>
      if data.length < totalLen then some (.error "truncated mysql connect attrs")
      else (upTo data totalLen).bind fun data =>
        run connectAttrsPass (fun state => state.1.length) none (data, [])

/-- An optional text that ends with a zero, if its flag is set and there is data left; and where it
ends. -/
def optionalCString (payload : Bytes) (flag : Bool) (pos : ℤ) : Option (Bytes × ℤ) :=
  if flag ∧ pos < payload.length then
    (startingAt payload pos).map fun data =>
      ((splitCString data).1, payload.length - (splitCString data).2.length)
  else some ([], pos)

/-- What follows the response of the client: a database, a plugin and attributes. -/
def loginMetadata (payload username : Bytes) (capabilities : ℕ) (pos : ℤ) : Option LoginResult :=
  (optionalCString payload (capabilities.testBit mysqlClientConnectWithDB) pos).bind fun database =>
    (optionalCString payload (capabilities.testBit mysqlClientPluginAuth) database.2).bind fun
    plugin => let observation : LoginObservation :=
        { user := username, database := database.1, metadataVisible := true,
          observation := "plaintext" }
      if capabilities.testBit mysqlClientConnectAttrs ∧ plugin.2 < payload.length then
        (startingAt payload plugin.2).bind fun data =>
          (parseMySQLConnectAttrs data).map fun
            | .ok attrs => .observed { observation with connectAttrs := attrs }
            | .error _ => .observed observation
      else some (.observed observation)

/-- The payload of the login packet. -/
def observePayload (payload : Bytes) : Option LoginResult :=
  if payload.length < 4 then some (.failed "invalid mysql login packet")
  else
    (upTo payload 4).bind fun flags =>
      let capabilities := littleEndian flags
      if capabilities.testBit mysqlClientSSL ∧ payload.length = 32 then
        some (.observed { tlsRequested := true, observation := "hidden_by_tls" })
      else if capabilities.testBit mysqlClientProtocol41 = false then
        some (.failed "unsupported mysql pre-4.1 login packet")
      else if payload.length < 33 then some (.failed "invalid mysql protocol 4.1 login packet")
      else
        (startingAt payload 32).bind fun data =>
          let username := Utf8.trimSpace (splitCString data).1
          if username = [] then some (.failed "mysql login packet has empty username")
          else
            (skipMySQLAuthResponse payload (payload.length - (splitCString data).2.length)
              capabilities).bind fun pos =>
                if payload.length < pos then some (.failed "invalid mysql auth response")
                else loginMetadata payload username capabilities pos

/-- `MySQLLoginParser.Observe` with what has been received by then; nothing if it panics. -/
def observeLogin (buf : Bytes) : Option LoginResult :=
  if buf.length < 4 then some .more
  else
    let payloadLen := littleEndian (buf.take 3)
    if payloadLen = 0 ∨ 128 * 1024 * 1024 < payloadLen then
      some (.failed "invalid mysql login packet length")
    else if buf.length < 4 + payloadLen then some .more
    else (slice buf 4 ↑(4 + payloadLen)).bind observePayload

/-- The results of the calls with some chunks; the parser keeps what it was given. -/
def observeChunks : Bytes → List Bytes → List (Option LoginResult)
  | _, [] => []
  | buf, data :: rest => observeLogin (buf ++ data) :: observeChunks (buf ++ data) rest

/-- The response of the client in a login packet; nothing if the function panics. -/
def mysqlLoginAuthResponse (payload : Bytes) : Option (Except String Bytes) :=
  if payload.length < 33 then some (.error "invalid mysql protocol 4.1 login packet")
  else
    (upTo payload 4).bind fun flags =>
      let capabilities := littleEndian flags
      if capabilities.testBit mysqlClientProtocol41 = false then
        some (.error "unsupported mysql pre-4.1 login packet")
      else
        (startingAt payload 32).bind fun data =>
          let position : ℤ := payload.length - (splitCString data).2.length
          if payload.length ≤ position then some (.error "missing mysql auth response")
          else
            (startingAt payload position).bind fun data =>
              let response (position length : ℤ) : Option (Except String Bytes) :=
                if length < 0 ∨ payload.length < position + length then
                  some (.error "truncated mysql auth response")
                else (slice payload position (position + length)).map .ok
              if capabilities.testBit mysqlClientPluginAuthLenencClientData then
                match readLengthEncodedInt data with
                | none => some (.error "invalid mysql auth response length")
                | some (value, count) =>
                  if payload.length < value then
                    some (.error "invalid mysql auth response length")
                  else response (position + count) value
              else if capabilities.testBit mysqlClientSecureConnection then
                data.head?.bind fun length => response (position + 1) length.toNat
              else response position (data.length - (splitCString data).2.length - 1)

/-! ## Slices in range -/

theorem startingAt_isSome {data : Bytes} {position : ℤ} (low : 0 ≤ position)
    (high : position ≤ data.length) : ∃ rest, startingAt data position = some rest ∧
      rest.length = data.length - position.toNat := by
  obtain ⟨_, rfl⟩ := Int.eq_ofNat_of_zero_le low
  refine ⟨_, startingAt_eq_some (by omega), ?_⟩
  simp

theorem splitCString_rest (data : Bytes) : (splitCString data).2.length ≤ data.length := by
  have shorter := (dropWhile_suffix (l := data) (· != 0)).length_le
  rw [splitCString, length_drop]
  omega

theorem readLengthEncodedInt_width {data : Bytes} {length n : ℕ}
    (read : readLengthEncodedInt data = some (length, n)) : 0 < n ∧ n ≤ data.length := by
  unfold readLengthEncodedInt at read
  all_goals
    repeat' split at read
    all_goals
      cases read
    all_goals
      simp only [length_cons] at *
      omega

/-- A text of an attribute is read, with less data after it, or refused. -/
theorem mysqlConnectAttr_spec (reason : String) (data : Bytes) :
    mysqlConnectAttr reason data = some (.error reason) ∨
      ∃ text rest, mysqlConnectAttr reason data = some (.ok (text, rest)) ∧
        rest.length < data.length := by
  unfold mysqlConnectAttr
  split
  · exact .inl rfl
  next length n read =>
  obtain ⟨_, width⟩ := readLengthEncodedInt_width read
  rw [startingAt_eq_some width, bind_some]
  split
  · exact .inl rfl
  next fits =>
  rw [upTo_eq_some (Nat.le_of_not_lt fits), startingAt_eq_some (Nat.le_of_not_lt fits)]
  refine .inr ⟨_, _, rfl, ?_⟩
  simp only [length_drop]
  omega

theorem parseMySQLConnectAttrs_isSome (data : Bytes) : (parseMySQLConnectAttrs data).isSome := by
  unfold parseMySQLConnectAttrs
  split
  · rfl
  next totalLen n read =>
  rw [startingAt_eq_some (readLengthEncodedInt_width read).2, bind_some]
  split
  · rfl
  next fits =>
  rw [upTo_eq_some (Nat.le_of_not_lt fits)]
  refine @run_proceeds _ _ connectAttrsPass (fun _ => True) (fun state => state.1.length) none
    (·.isSome) ?_ _ trivial
  rintro state -
  unfold connectAttrsPass
  split
  · rfl
  obtain refused | ⟨key, data, found, shorter⟩ :=
    mysqlConnectAttr_spec "invalid mysql connect attr key" state.1
  · rw [refused]
    rfl
  obtain refused | ⟨value, _, also, less⟩ :=
    mysqlConnectAttr_spec "invalid mysql connect attr value" data
  · rw [found]
    dsimp only
    rw [refused]
    rfl
  · rw [found]
    dsimp only
    rw [also]
    exact ⟨trivial, Nat.lt_trans less shorter⟩

theorem optionalCString_isSome {payload : Bytes} (flag : Bool) {pos : ℤ} (low : 0 ≤ pos) :
    ∃ text next, optionalCString payload flag pos = some (text, next) ∧ 0 ≤ next := by
  unfold optionalCString
  split
  · rename_i within
    obtain ⟨data, found, _⟩ := startingAt_isSome low (Int.le_of_lt within.2)
    have shorter := splitCString_rest data
    rw [found]
    exact ⟨_, _, rfl, by omega⟩
  · exact ⟨_, _, rfl, low⟩

theorem optionalCString_negative (payload : Bytes) (flag : Bool) {pos : ℤ} (negative : pos < 0) :
    optionalCString payload flag pos = if flag then none else some ([], pos) := by
  cases flag with
  | false => rfl
  | true =>
    have outside : startingAt payload pos = none := slice_eq_none.mpr (.inl negative)
    rw [optionalCString, if_pos ⟨rfl, by omega⟩, outside]
    rfl

/-- The rest of the packet is read unless it begins before the packet and something is expected in
it. -/
theorem loginMetadata_eq_none (payload username : Bytes) (capabilities : ℕ) (pos : ℤ) :
    loginMetadata payload username capabilities pos = none ↔
      pos < 0 ∧ (capabilities.testBit mysqlClientConnectWithDB ∨
        capabilities.testBit mysqlClientPluginAuth ∨
        capabilities.testBit mysqlClientConnectAttrs) := by
  unfold loginMetadata
  by_cases negative : pos < 0
  · rw [optionalCString_negative payload _ negative]
    cases capabilities.testBit mysqlClientConnectWithDB with
    | true => simp [negative]
    | false =>
      rw [if_neg Bool.false_ne_true, bind_some, optionalCString_negative payload _ negative]
      cases capabilities.testBit mysqlClientPluginAuth with
      | true => simp [negative]
      | false =>
        have outside : startingAt payload pos = none := slice_eq_none.mpr (.inl negative)
        have before : pos < payload.length := by omega
        cases capabilities.testBit mysqlClientConnectAttrs
        all_goals simp [negative, outside, before]
  · obtain ⟨_, next, found, after⟩ := @optionalCString_isSome payload
      (capabilities.testBit mysqlClientConnectWithDB) pos (Int.not_lt.mp negative)
    rw [found, bind_some]
    obtain ⟨_, _, found, behind⟩ := @optionalCString_isSome payload
      (capabilities.testBit mysqlClientPluginAuth) next after
    rw [found, bind_some]
    refine iff_of_false ?_ fun both => negative both.1
    rw [← Ne, ← isSome_iff_ne_none]
    split
    · rename_i within
      obtain ⟨data, found, -⟩ := startingAt_isSome behind (Int.le_of_lt within.2)
      rw [found, bind_some, isSome_map]
      exact parseMySQLConnectAttrs_isSome data
    · rfl

/-- The response of the client is found in any payload, or the payload is refused. -/
theorem mysqlLoginAuthResponse_isSome (payload : Bytes) :
    (mysqlLoginAuthResponse payload).isSome := by
  unfold mysqlLoginAuthResponse
  split
  · rfl
  next long =>
  rw [show (4 : ℤ) = (4 : ℕ) from rfl, upTo_eq_some (by omega), bind_some]
  dsimp only
  split
  · rfl
  rw [show (32 : ℤ) = (32 : ℕ) from rfl, startingAt_eq_some (by omega), bind_some]
  split
  · rfl
  next within =>
  have shorter := splitCString_rest (payload.drop 32)
  rw [length_drop] at shorter
  obtain ⟨data, found, length⟩ := @startingAt_isSome payload
    (payload.length - (splitCString (payload.drop 32)).2.length) (by omega) (by omega)
  have response : ∀ position length : ℤ, 0 ≤ position →
      (if length < 0 ∨ payload.length < position + length then
        some (.error "truncated mysql auth response")
      else (slice payload position (position + length)).map
        (.ok : Bytes → Except String Bytes)).isSome := by
    intro position length low
    split
    · rfl
    · rw [isSome_map, isSome_iff_ne_none, Ne, slice_eq_none]
      omega
  rw [found, bind_some]
  split
  · split
    · rfl
    · split
      · rfl
      · exact response _ _ (by omega)
  split
  · cases data with
    | nil =>
      rw [length_nil] at length
      omega
    | cons => exact response _ _ (by omega)
  · exact response _ _ (by omega)

/-! ## Calls -/

/-- After the name of the user comes the length of a response whose end, computed in signed integers
of 64 bits, lies before the packet; and a database, a plugin or attributes are to follow it. -/
def AuthLengthWraps (payload : Bytes) : Prop :=
  let capabilities := littleEndian (payload.take 4)
  let user := (splitCString (payload.drop 32)).1
  let rest := (splitCString (payload.drop 32)).2
  capabilities.testBit mysqlClientProtocol41 ∧
    capabilities.testBit mysqlClientPluginAuthLenencClientData ∧
    (capabilities.testBit mysqlClientConnectWithDB ∨
      capabilities.testBit mysqlClientPluginAuth ∨
      capabilities.testBit mysqlClientConnectAttrs) ∧
    Utf8.trimSpace user ≠ [] ∧
    ∃ length n, readLengthEncodedInt rest = some (length, n) ∧
      2 ^ 63 ≤ payload.length - rest.length + n + length ∧
      payload.length - rest.length + n + length < 2 ^ 64

theorem int64_add_neg {position n length : ℕ} (small : position + n < 2 ^ 32)
    (width : length < 2 ^ 64) : int64 (position + n + int64 length) < 0 ↔
      2 ^ 63 ≤ position + n + length ∧ position + n + length < 2 ^ 64 := by
  unfold int64 Int.bmod
  dsimp only
  split
  all_goals
    split
    all_goals omega

theorem readLengthEncodedInt_lt {data : Bytes} {length n : ℕ}
    (read : readLengthEncodedInt data = some (length, n)) : length < 2 ^ 64 := by
  have bytes : ∀ (text : Bytes) (count : ℕ), count ≤ 8 →
      littleEndian (text.take count) < 2 ^ 64 := by
    intro text count few
    have fits := littleEndian_lt (text.take count)
    have fewer : (text.take count).length ≤ 8 := by
      rw [length_take]
      omega
    exact lt_of_lt_of_le fits (Nat.pow_le_pow_right (n := 256) (by decide) fewer)
  unfold readLengthEncodedInt at read
  repeat' split at read
  all_goals cases read
  · exact bytes _ 2 (by decide)
  · exact bytes _ 3 (by decide)
  · exact bytes _ 8 (by decide)
  · exact Nat.lt_trans (UInt8.toNat_lt _) (by decide)

/-- The end of the response is found; it lies before the packet if the sum wraps around. -/
theorem skipMySQLAuthResponse_spec {payload : Bytes} {pos : ℕ} (within : pos ≤ payload.length)
    (small : payload.length < 2 ^ 24) (capabilities : ℕ) :
    ∃ next, skipMySQLAuthResponse payload pos capabilities = some next ∧ (next < 0 ↔
      capabilities.testBit mysqlClientPluginAuthLenencClientData ∧
        ∃ length n, readLengthEncodedInt (payload.drop pos) = some (length, n) ∧
          2 ^ 63 ≤ pos + n + length ∧ pos + n + length < 2 ^ 64) := by
  unfold skipMySQLAuthResponse
  split
  · rename_i ended
    refine ⟨_, rfl, iff_of_false (by omega) ?_⟩
    rintro ⟨-, length, n, read, -⟩
    rw [drop_eq_nil_of_le (by omega)] at read
    cases read
  rw [startingAt_eq_some within, bind_some]
  split
  · rename_i lenenc
    cases read : readLengthEncodedInt (payload.drop pos) with
    | none => exact ⟨_, rfl, iff_of_false (by omega) (by simp)⟩
    | some pair =>
      obtain ⟨length, n⟩ := pair
      obtain ⟨-, width⟩ := readLengthEncodedInt_width read
      rw [length_drop] at width
      refine ⟨_, rfl, ?_⟩
      rw [int64_add_neg (by omega) (readLengthEncodedInt_lt read)]
      simp [lenenc]
  · rename_i plain
    have never : ¬(capabilities.testBit mysqlClientPluginAuthLenencClientData ∧
        ∃ length n, readLengthEncodedInt (payload.drop pos) = some (length, n) ∧
          2 ^ 63 ≤ pos + n + length ∧ pos + n + length < 2 ^ 64) := fun both => plain both.1
    split
    · cases data : payload.drop pos with
      | nil =>
        have none_left := congrArg List.length data
        rw [length_drop, length_nil] at none_left
        omega
      | cons first =>
        rw [data] at never
        refine ⟨_, rfl, iff_of_false (fun negative => ?_) never⟩
        dsimp only at negative
        omega
    · have shorter := splitCString_rest (payload.drop pos)
      rw [length_drop] at shorter
      exact ⟨_, rfl, iff_of_false (by omega) never⟩

theorem observePayload_eq_none {payload : Bytes} (small : payload.length < 2 ^ 24) :
    observePayload payload = none ↔ AuthLengthWraps payload := by
  unfold AuthLengthWraps
  have cut : (splitCString (payload.drop 32)).2 =
      payload.drop (payload.length - (splitCString (payload.drop 32)).2.length) := by
    refine suffix_iff_eq_drop.mp (IsSuffix.trans ?_ (drop_suffix 32 payload))
    exact (drop_suffix _ _).trans (dropWhile_suffix _)
  have shorter := splitCString_rest (payload.drop 32)
  rw [length_drop] at shorter
  obtain ⟨next, skipped, negative⟩ := @skipMySQLAuthResponse_spec payload
    (payload.length - (splitCString (payload.drop 32)).2.length) (by omega) small
      (littleEndian (payload.take 4))
  rw [← cut] at negative
  by_cases short : payload.length < 33
  · refine iff_of_false ?_ ?_
    · unfold observePayload
      split
      · nofun
      rw [show (4 : ℤ) = (4 : ℕ) from rfl, upTo_eq_some (by omega), bind_some]
      dsimp only
      split
      · nofun
      split
      · nofun
      nofun
    · rintro ⟨-, -, -, named, -⟩
      rw [drop_eq_nil_of_le (by omega)] at named
      exact named rfl
  unfold observePayload
  rw [if_neg (by omega), show (4 : ℤ) = (4 : ℕ) from rfl, upTo_eq_some (by omega), bind_some]
  dsimp only
  rw [if_neg (by omega)]
  split
  · rename_i old
    simp [old]
  rename_i recent
  rw [show (32 : ℤ) = (32 : ℕ) from rfl, startingAt_eq_some (by omega), bind_some]
  split
  · rename_i unnamed
    simp [unnamed]
  rename_i named
  rw [show ((payload.length : ℤ) - (splitCString (payload.drop 32)).2.length) =
    ((payload.length - (splitCString (payload.drop 32)).2.length : ℕ) : ℤ) by omega, skipped,
    bind_some]
  split
  · rename_i beyond
    refine iff_of_false nofun ?_
    rintro ⟨-, lenenc, -, -, wraps⟩
    have before := negative.mpr ⟨lenenc, wraps⟩
    omega
  · rw [loginMetadata_eq_none, negative]
    constructor
    · rintro ⟨⟨lenenc, wraps⟩, follows⟩
      exact ⟨by simpa using recent, lenenc, follows, named, wraps⟩
    · rintro ⟨-, lenenc, follows, -, wraps⟩
      exact ⟨⟨lenenc, wraps⟩, follows⟩

/-- The payload of the first packet of a stream, if there is a whole one. -/
def loginPayload (stream : Bytes) : Option Bytes :=
  let payloadLen := littleEndian (stream.take 3)
  if 4 + payloadLen ≤ stream.length then some ((stream.drop 4).take payloadLen) else none

theorem observeLogin_eq_none (buf : Bytes) :
    observeLogin buf = none ↔
      ∃ payload, loginPayload buf = some payload ∧ AuthLengthWraps payload := by
  have three := littleEndian_lt (buf.take 3)
  have width : littleEndian (buf.take 3) < 2 ^ 24 := by
    refine lt_of_lt_of_le three (Nat.pow_le_pow_right (n := 256) (by decide) (j := 3) ?_)
    rw [length_take]
    omega
  unfold observeLogin loginPayload
  dsimp only
  split
  · rw [if_neg (by omega)]
    simp
  split
  · rename_i refused
    have empty : littleEndian (buf.take 3) = 0 := by omega
    refine iff_of_false nofun ?_
    rintro ⟨payload, found, -, -, -, named, -⟩
    rw [empty, if_pos (by omega), take_zero] at found
    cases found
    exact named rfl
  split
  · rw [if_neg (by omega)]
    simp
  · have found := @slice_eq_some _ buf 4 (4 + littleEndian (buf.take 3)) (by omega) (by omega)
    rw [show (4 : ℤ) = (4 : ℕ) from rfl, found, drop_take, Nat.add_sub_cancel_left,
      if_pos (by omega), bind_some, observePayload_eq_none]
    · simp
    · rw [length_take]
      omega

/-- More data does not change the first packet. -/
theorem loginPayload_append {stream payload : Bytes} (found : loginPayload stream = some payload)
    (more : Bytes) : loginPayload (stream ++ more) = some payload := by
  unfold loginPayload at found ⊢
  dsimp only at found ⊢
  split at found
  · rw [take_append_of_le_length (by omega), if_pos,
      drop_append_of_le_length (by omega), take_append_of_le_length, found]
    · rw [length_drop]
      omega
    · rw [length_append]
      omega
  · cases found

/-- Each call is made with a beginning of the stream, and the last one with all of it. -/
theorem mem_observeChunks {chunks : List Bytes} {buf : Bytes} :
    (∀ result ∈ observeChunks buf chunks, ∃ more seen, buf ++ chunks.flatten = seen ++ more ∧
      result = observeLogin seen) ∧
    (chunks ≠ [] → observeLogin (buf ++ chunks.flatten) ∈ observeChunks buf chunks) := by
  induction chunks generalizing buf with
  | nil => exact ⟨nofun, fun some_chunk => absurd rfl some_chunk⟩
  | cons data rest ih =>
    obtain ⟨seen, last⟩ := @ih (buf ++ data)
    rw [flatten_cons, ← append_assoc]
    constructor
    · rintro result (_ | ⟨_, later⟩)
      · exact ⟨_, _, rfl, rfl⟩
      · exact seen result later
    · intro _
      cases rest with
      | nil => simp [observeChunks]
      | cons => exact mem_cons_of_mem _ (last (cons_ne_nil _ _))

/-- Every call with a chunk of what a client sends returns if and only if the length of the response
in the first packet does not wrap around; the response of any packet is read or refused. -/
theorem mysqlLogin_returns (chunks : List Bytes) :
    ((∀ result ∈ observeChunks [] chunks, ∃ value, result = some value) ↔
      ∀ payload, loginPayload chunks.flatten = some payload → ¬AuthLengthWraps payload) ∧
      ∀ payload, ∃ value, mysqlLoginAuthResponse payload = some value := by
  obtain ⟨seen, last⟩ := @mem_observeChunks chunks []
  rw [List.nil_append] at seen last
  refine ⟨⟨fun returns payload found wraps => ?_, fun fits result member => ?_⟩, fun payload => ?_⟩
  · have some_chunk : chunks ≠ [] := by
      rintro rfl
      cases found
    obtain ⟨value, returned⟩ := returns _ (last some_chunk)
    cases ((observeLogin_eq_none _).mpr ⟨payload, found, wraps⟩).symm.trans returned
  · obtain ⟨more, buf, whole, rfl⟩ := seen result member
    rw [← Option.ne_none_iff_exists', Ne, observeLogin_eq_none]
    rintro ⟨payload, found, wraps⟩
    exact fits payload (whole ▸ loginPayload_append found more) wraps
  · exact Option.isSome_iff_exists.mp (mysqlLoginAuthResponse_isSome payload)

/-- A packet of the user u with a response in so many bytes. -/
def loginPacket (length : Bytes) : Bytes :=
  let payload := [0x08, 0x02, 0x20, 0x00] ++ List.replicate 28 0x00 ++ [0x75, 0x00, 0xFE] ++ length
  UInt8.ofNat payload.length :: 0x00 :: 0x00 :: 0x01 :: payload

/-- A response of 2⁶³ bytes. -/
theorem mysqlLogin_panics :
    observeChunks [] [loginPacket (List.replicate 7 0x00 ++ [0x80])] = [none] := by
  decide +kernel

end Jianmen.DBProxy
