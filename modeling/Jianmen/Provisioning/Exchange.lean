import Jianmen.DBProxy.MySQL.Audit
import Jianmen.Provisioning.Programs
import Jianmen.Provisioning.Rows
import Jianmen.Provisioning.Statements
import Mathlib.Data.List.Infix

/-!
# Creating an account over a connection

The statements of an account are sent one after the other over a connection that may fail at any
byte.  What is reported of the account rests on how many bytes of a packet were written and on the
first byte of an answer.
-/

namespace Jianmen.Provisioning

open DBProxy MySQLObserver List

/-! ## Packets -/

/-- A server answers each packet that it has received as a whole, in their order; an answer may
depend on all the packets up to its own. -/
structure Server where
  answer : List Bytes → Bytes

/-- The server answers each statement with one packet, whatever is in it. -/
def Server.Proper (server : Server) : Prop :=
  ∀ asked, IsPacket (server.answer asked)

/-- What a server answers to the bytes it has received. -/
def Server.answers (server : Server) (received : Bytes) : Bytes :=
  (packetPayloads received).inits.tail.flatMap server.answer

/-- What becomes of the calls that one statement makes on its connection. -/
structure Conditions where
  context : Bool := true
  /-- The context is done, or no deadline can be set, before the first byte. -/
  interrupted : Bool := false
  /-- How many bytes each call of `Write` takes, and whether it fails. -/
  writes : List (ℕ × Bool)
  /-- How many bytes can be read before reading fails. -/
  arrives : ℕ

/-- A connection after the login: what was written to it, and how much was read. -/
structure Conn where
  sent : Bytes := []
  consumed : ℕ := 0

def maxPacketPayloadBytes : ℕ := 0xFFFFFF
def maxMySQLProvisionPacketSize : ℕ := maxPacketPayloadBytes
def mysqlProvisionTimeout : ℤ := 5

/-- The bytes of a packet. -/
def packetBytes (sequence : UInt8) (payload : Bytes) : Bytes :=
  littleEndianBytes 3 payload.length ++ sequence :: payload

def encodePacket (sequence : UInt8) (payload : Bytes) : Option Bytes :=
  if maxPacketPayloadBytes < payload.length then none else some (packetBytes sequence payload)

/-- How many bytes were written, and whether these are all. -/
def writePacketBytes : List (ℕ × Bool) → Bytes → ℕ × Bool
  | [], packet => (0, packet.isEmpty)
  | (taken, failed) :: writes, packet =>
    if packet = [] then (0, true)
    else
      let written := min taken packet.length
      if failed || written == 0 then (written, false)
      else
        let rest := writePacketBytes writes (packet.drop written)
        (written + rest.1, rest.2)

/-- An error comes with what `WrittenBytes` finds in it. -/
def writePacket (conditions : Conditions) (conn : Conn) (sequence : UInt8) (payload : Bytes) :
    Except ℕ Unit × Conn :=
  if maxPacketPayloadBytes < payload.length || conditions.interrupted then (.error 0, conn)
  else
    match encodePacket sequence payload with
    | none => (.error 0, conn)
    | some packet =>
      let (written, complete) := writePacketBytes conditions.writes packet
      (if complete then .ok () else .error written,
        { conn with sent := conn.sent ++ packet.take written })

/-- The payload of the next packet among the answers. -/
def readPacket (server : Server) (conditions : Conditions) (conn : Conn) (maxPayloadBytes : ℕ) :
    Option (Bytes × Conn) :=
  let available := ((server.answers conn.sent).drop conn.consumed).take conditions.arrives
  let payloadLength := packetPayloadLength available
  if available.length < 4 ∨ maxPayloadBytes < payloadLength ∨ available.length < 4 + payloadLength then
    none
  else
    some ((available.take (4 + payloadLength)).drop 4,
      { conn with consumed := conn.consumed + (4 + payloadLength) })

/-! ## Statements -/

inductive StatementFailure where
  | notSent
  | rejected
  | outcomeUncertain
  deriving DecidableEq

def mysqlExecWithTimeout (server : Server) (conditions : Conditions) (conn : Conn) (statement : Bytes)
    (timeout : ℤ) : Except StatementFailure Unit × Conn :=
  if !conditions.context || timeout ≤ 0 then (.error .notSent, conn)
  else
    match writePacket conditions conn 0 (0x03 :: statement) with
    | (.error written, conn) =>
      (.error (if written = 0 then .notSent else .outcomeUncertain), conn)
    | (.ok (), conn) =>
      match readPacket server conditions conn maxMySQLProvisionPacketSize with
      | none => (.error .outcomeUncertain, conn)
      | some (payload, conn) =>
        (match payload.head? with
          | some 0x00 => .ok ()
          | some 0xFF => .error .rejected
          | _ => .error .outcomeUncertain,
          conn)

/-- What is reported when a statement fails. -/
def failedDisposition (index : ℕ) (failure : StatementFailure) : Disposition :=
  if index = 0 then .notSent
  else if failure = .outcomeUncertain then .mayBeApplied
  else if failure = .notSent then .notSent
  else if failure = .rejected then .notCreated
  else .notSent

/-- The loop over the statements. -/
def runStatements (server : Server) (conditions : ℕ → Conditions) :
    ℕ → List Bytes → Conn → Disposition × Conn
  | _, [], conn => (.applied, conn)
  | index, statement :: rest, conn =>
    match mysqlExecWithTimeout server (conditions index) conn statement mysqlProvisionTimeout with
    | (.error failure, conn) => (failedDisposition index failure, conn)
    | (.ok (), conn) => runStatements server conditions (index + 1) rest conn

def runMySQLCreateStatements (server : Server) (conditions : ℕ → Conditions)
    (parseIP : Bytes → Bool) (username password host : Bytes) (conn : Conn) : Disposition × Conn :=
  match buildMySQLCreateStatements parseIP username password host with
  | .error _ => (.notSent, conn)
  | .ok statements => runStatements server conditions 0 statements conn

/-- Without a connection nothing is sent. -/
def createMySQLAccount (server : Server) (connects : Bool) (conditions : ℕ → Conditions)
    (parseIP : Bytes → Bool) (username password host : Bytes) : Disposition × Conn :=
  if connects then runMySQLCreateStatements server conditions parseIP username password host {}
  else (.notSent, {})

/-! ## What the server receives and what the client reads -/

/-- Of the packets of a stream, a part of it holds the first ones. -/
theorem packetsUpTo_start {fuel more : ℕ} (enough : fuel ≤ more) {part whole : Bytes}
    (starts : part <+: whole) : packetsUpTo fuel part <+: packetsUpTo more whole := by
  induction fuel generalizing more part whole with
  | zero => exact nil_prefix
  | succ fuel ih =>
    obtain ⟨more, rfl⟩ : ∃ fewer, more = fewer + 1 := ⟨more - 1, by omega⟩
    obtain ⟨rest, rfl⟩ := starts
    rw [packetsUpTo]
    split
    · exact nil_prefix
    have longer : packetPayloadLength (part ++ rest) = packetPayloadLength part :=
      packetPayloadLength_append rest (by omega)
    rw [packetsUpTo, longer, if_neg (by rw [length_append]; omega),
      take_append_of_le_length (by omega), drop_append_of_le_length (by omega)]
    exact cons_prefix_cons.mpr ⟨rfl, ih (by omega) (prefix_append _ rest)⟩

theorem packetPayloads_start {part whole : Bytes} (starts : part <+: whole) :
    packetPayloads part <+: packetPayloads whole :=
  packetsUpTo_start starts.length_le starts

/-- The bytes that statements are sent in. -/
def streamOf (payloads : List Bytes) : Bytes :=
  payloads.flatMap (packetBytes 0)

/-- The payloads fit into packets. -/
def AllFit (payloads : List Bytes) : Prop :=
  ∀ payload ∈ payloads, payload.length ≤ maxPacketPayloadBytes

theorem packetBytes_proper {payload : Bytes} (fits : payload.length ≤ maxPacketPayloadBytes) :
    IsPacket (packetBytes 0 payload) := by
  have small : payload.length < 256 ^ 3 := by
    rw [maxPacketPayloadBytes] at fits
    omega
  refine ⟨by simp [packetBytes]; omega, ?_⟩
  rw [packetBytes, packetPayloadLength, take_left' (littleEndianBytes_length 3 _),
    littleEndian_bytes small, length_append, littleEndianBytes_length, length_cons]
  omega

theorem packetPayloads_streamOf {payloads : List Bytes} (fit : AllFit payloads) :
    packetPayloads (streamOf payloads) = payloads := by
  have payload_eq : (·.drop 4) ∘ packetBytes 0 = id := by
    funext payload
    rw [Function.comp_apply, packetBytes, append_cons, drop_left' (by simp), id]
  rw [streamOf, flatMap_def, packetPayloads_flatten, map_map, payload_eq, map_id]
  intro packet member
  obtain ⟨payload, present, rfl⟩ := mem_map.mp member
  exact packetBytes_proper (fit payload present)

theorem writePacketBytes_written (writes : List (ℕ × Bool)) (packet : Bytes) :
    (writePacketBytes writes packet).2 → (writePacketBytes writes packet).1 = packet.length := by
  induction writes generalizing packet with
  | nil =>
    intro complete
    rw [writePacketBytes, List.isEmpty_iff] at complete
    rw [complete]
    rfl
  | cons _ writes ih =>
    rw [writePacketBytes]
    split
    · rename_i empty
      rw [empty]
      intro
      rfl
    dsimp only
    split
    · nofun
    intro complete
    have rest := ih _ complete
    rw [length_drop] at rest
    omega

section Exchange

variable {server : Server} {asked : List Bytes} {payload : Bytes} {conn : Conn}

/-- One more statement is answered once more. -/
theorem answers_concat (fit : AllFit (asked ++ [payload])) :
    server.answers (streamOf (asked ++ [payload])) =
      server.answers (streamOf asked) ++ server.answer (asked ++ [payload]) := by
  have earlier : AllFit asked := fun other member => fit other (mem_append_left _ member)
  rw [Server.answers, Server.answers, packetPayloads_streamOf fit,
    packetPayloads_streamOf earlier, inits_append,
    tail_append_of_ne_nil (ne_nil_of_length_pos (by simp))]
  simp

/-- Statements were sent, and the answers to all but the last one were read. -/
structure Asked (server : Server) (asked : List Bytes) (payload : Bytes) (conn : Conn) : Prop where
  fit : AllFit (asked ++ [payload])
  sent : conn.sent = streamOf (asked ++ [payload])
  consumed : conn.consumed = (server.answers (streamOf asked)).length

/-- The next packet that is read is the answer to the last statement. -/
theorem Asked.readPacket (proper : server.Proper) (ready : Asked server asked payload conn)
    {conditions : Conditions}
    {limit : ℕ} {response : Bytes} {next : Conn}
    (read : readPacket server conditions conn limit = some (response, next)) :
    response = (server.answer (asked ++ [payload])).drop 4 ∧ next.sent = conn.sent ∧
      next.consumed = (server.answers conn.sent).length := by
  unfold Provisioning.readPacket at read
  rw [ready.sent, answers_concat ready.fit, ready.consumed, drop_left] at read
  rw [ready.sent, answers_concat ready.fit]
  obtain ⟨_, size⟩ := proper (asked ++ [payload])
  generalize server.answer (asked ++ [payload]) = answer at *
  dsimp only at read
  split at read
  · cases read
  rename_i complete
  cases read
  have same : packetPayloadLength (answer.take conditions.arrives) =
      packetPayloadLength answer := by
    have whole := packetPayloadLength_append (answer.drop conditions.arrives)
      (show 4 ≤ (answer.take conditions.arrives).length by omega)
    rw [← whole, take_append_drop]
  rw [same, ← size] at complete ⊢
  have all : answer.take conditions.arrives = answer := by
    rw [take_eq_self_iff]
    rw [length_take] at complete
    omega
  exact ⟨by rw [all, take_length], rfl, by rw [length_append]⟩

/-- A part of the last packet at least was sent. -/
def SentInPart (asked : List Bytes) (payload : Bytes) (conn : Conn) : Prop :=
  payload.length ≤ maxPacketPayloadBytes ∧
    ∃ part, part <+: packetBytes 0 payload ∧ part ≠ [] ∧ conn.sent = streamOf asked ++ part

theorem Asked.inPart (ready : Asked server asked payload conn) : SentInPart asked payload conn := by
  refine ⟨ready.fit payload (by simp), packetBytes 0 payload, prefix_refl _,
    by simp [packetBytes], ?_⟩
  rw [ready.sent, streamOf, flatMap_append, flatMap_singleton, streamOf]

/-- A packet is sent as a whole, or not at all, or in part at least. -/
def Writes (server : Server) (asked : List Bytes) (payload : Bytes) :
    Except ℕ Unit × Conn → Prop
  | (.ok (), next) => Asked server asked payload next
  | (.error 0, next) => next.sent = streamOf asked
  | (.error (_ + 1), next) => SentInPart asked payload next

theorem writePacket_writes (conditions : Conditions) (payload : Bytes) (fit : AllFit asked)
    (sent : conn.sent = streamOf asked)
    (consumed : conn.consumed = (server.answers conn.sent).length) :
    Writes server asked payload (writePacket conditions conn 0 payload) := by
  unfold writePacket encodePacket
  split
  · exact sent
  rename_i started
  have small : payload.length ≤ maxPacketPayloadBytes := by
    simp only [Bool.or_eq_true, decide_eq_true_eq] at started
    omega
  have complete := writePacketBytes_written conditions.writes (packetBytes 0 payload)
  rw [if_neg (by omega)]
  dsimp only
  generalize writePacketBytes conditions.writes (packetBytes 0 payload) = outcome at complete ⊢
  obtain ⟨written, whole⟩ := outcome
  cases whole with
  | true =>
    obtain rfl := complete rfl
    refine ⟨?_, ?_, by rw [← sent]; exact consumed⟩
    · simp only [AllFit, mem_append, mem_singleton]
      rintro other (earlier | rfl)
      · exact fit other earlier
      · exact small
    · simp [sent, streamOf]
  | false =>
    cases written with
    | zero => simpa [Writes] using sent
    | succ written =>
      refine ⟨small, _, take_prefix (written + 1) _, ?_, by rw [sent]⟩
      simp [packetBytes]

/-- A statement was answered with a first byte, and the answer was read. -/
structure Answered (server : Server) (asked : List Bytes) (payload : Bytes) (conn : Conn)
    (first : UInt8) : Prop where
  fit : AllFit (asked ++ [payload])
  sent : conn.sent = streamOf (asked ++ [payload])
  consumed : conn.consumed = (server.answers conn.sent).length
  answer : ((server.answer (asked ++ [payload])).drop 4).head? = some first

/-- What an error says of the packet of a statement, and what success says of its answer. -/
def Tells (server : Server) (asked : List Bytes) (payload : Bytes) :
    Except StatementFailure Unit × Conn → Prop
  | (.ok (), next) => Answered server asked payload next 0x00
  | (.error .rejected, next) => Answered server asked payload next 0xFF
  | (.error .notSent, next) => next.sent = streamOf asked
  | (.error .outcomeUncertain, next) => SentInPart asked payload next

theorem mysqlExecWithTimeout_tells (proper : server.Proper) (conditions : Conditions)
    (statement : Bytes) (timeout : ℤ) (fit : AllFit asked) (sent : conn.sent = streamOf asked)
    (consumed : conn.consumed = (server.answers conn.sent).length) :
    Tells server asked (0x03 :: statement)
      (mysqlExecWithTimeout server conditions conn statement timeout) := by
  unfold mysqlExecWithTimeout
  split
  · exact sent
  have wrote := writePacket_writes conditions (0x03 :: statement) fit sent consumed
  match writePacket conditions conn 0 (0x03 :: statement), wrote with
  | (.error 0, next), unsent => exact unsent
  | (.error (_ + 1), next), inPart => exact inPart
  | (.ok (), next), ready =>
    dsimp only
    split
    · exact ready.inPart
    rename_i payload last read
    obtain ⟨response, last_sent, last_consumed⟩ := ready.readPacket proper read
    have answered : ∀ first, payload.head? = some first →
        Answered server asked (0x03 :: statement) last first := by
      intro first head
      exact ⟨ready.fit, last_sent.trans ready.sent, by rw [last_consumed, last_sent],
        response ▸ head⟩
    split
    · next ok => exact answered 0x00 ok
    · next rejected => exact answered 0xFF rejected
    · change SentInPart asked (0x03 :: statement) last
      rw [SentInPart, last_sent]
      exact ready.inPart

end Exchange

/-! ## What is reported of an account -/

variable (server : Server) (parseIP : Bytes → Bool) (username password host : Bytes)

/-- The statement that creates the account was received as a whole and answered with a first byte.
-/
def CreateAnswered (conn : Conn) (first : UInt8) : Prop :=
  ∃ set create,
    buildMySQLCreateStatements parseIP username password host = .ok [set, create] ∧
    packetPayloads conn.sent = [0x03 :: set, 0x03 :: create] ∧
    ((server.answer [0x03 :: set, 0x03 :: create]).drop 4).head? = some first

/-- The facts that a report on an account rests on. -/
def Justified : Disposition × Conn → Prop
  | (.applied, conn) => CreateAnswered server parseIP username password host conn 0x00
  | (.notCreated, conn) => CreateAnswered server parseIP username password host conn 0xFF
  | (.notSent, conn) => ∀ received, received <+: conn.sent → ∀ set create,
      buildMySQLCreateStatements parseIP username password host = .ok [set, create] →
        0x03 :: create ∉ packetPayloads received
  | (.mayBeApplied, conn) => ∃ set create,
      buildMySQLCreateStatements parseIP username password host = .ok [set, create] ∧
        SentInPart [0x03 :: set] (0x03 :: create) conn

section Reports

variable {server parseIP username password host} {conn : Conn}

/-- A server that has received no more than the first statement has not received the other one. -/
theorem Justified.notSent
    (few : packetPayloads conn.sent <+: [0x03 :: mysqlNoBackslashEscapesSQL]) :
    Justified server parseIP username password host (.notSent, conn) := by
  intro received starts set create built member
  have same := mem_singleton.mp (((packetPayloads_start starts).trans few).subset member)
  have statements := buildMySQLCreateStatements_ok built
  simp only [cons.injEq, true_and, and_true] at same statements
  have heads : some (0x43 : UInt8) = some 0x53 :=
    congrArg head? (statements.2.symm.trans same)
  exact absurd heads (by decide)

/-- After the first statement failed. -/
theorem Justified.afterFirst {failure : StatementFailure}
    (tells : Tells server [] (0x03 :: mysqlNoBackslashEscapesSQL) (.error failure, conn)) :
    Justified server parseIP username password host (failedDisposition 0 failure, conn) := by
  apply Justified.notSent
  match failure, tells with
  | .notSent, sent =>
    rw [show conn.sent = [] from sent]
    exact nil_prefix
  | .rejected, answered =>
    rw [answered.sent, packetPayloads_streamOf answered.fit]
    exact prefix_refl _
  | .outcomeUncertain, ⟨small, part, starts, _, sent⟩ =>
    have whole := @packetPayloads_streamOf [0x03 :: mysqlNoBackslashEscapesSQL] (by simpa [AllFit])
    rw [← whole, sent]
    apply packetPayloads_start
    simpa [streamOf] using starts

/-- After the other statement. -/
theorem Justified.afterCreate {set create : Bytes} {result : Except StatementFailure Unit}
    (built : buildMySQLCreateStatements parseIP username password host = .ok [set, create])
    (fit : AllFit [0x03 :: set])
    (tells : Tells server [0x03 :: set] (0x03 :: create) (result, conn)) :
    Justified server parseIP username password host (match result with
        | .error failure => failedDisposition 1 failure
        | .ok () => .applied, conn) := by
  have answered : ∀ first, Answered server [0x03 :: set] (0x03 :: create) conn first →
      CreateAnswered server parseIP username password host conn first := by
    intro first answered
    refine ⟨set, create, built, ?_, answered.answer⟩
    rw [answered.sent, packetPayloads_streamOf answered.fit]
    rfl
  match result, tells with
  | .ok (), ok => exact answered 0x00 ok
  | .error .rejected, rejected => exact answered 0xFF rejected
  | .error .outcomeUncertain, inPart => exact ⟨set, create, built, inPart⟩
  | .error .notSent, sent =>
    apply Justified.notSent
    obtain ⟨rfl, -⟩ := cons.inj (buildMySQLCreateStatements_ok built)
    rw [show conn.sent = streamOf _ from sent, packetPayloads_streamOf fit]

end Reports

/-- Whatever the network does, a report on an account is justified by what the server received and
by what it answered, if it answers each statement with one packet. -/
theorem createMySQLAccount_justified (proper : server.Proper) (connects : Bool)
    (conditions : ℕ → Conditions) :
    Justified server parseIP username password host
      (createMySQLAccount server connects conditions parseIP username password host) := by
  unfold createMySQLAccount runMySQLCreateStatements
  cases connects with
  | false => exact .notSent List.nil_prefix
  | true =>
    cases built : buildMySQLCreateStatements parseIP username password host with
    | error => exact .notSent List.nil_prefix
    | ok =>
      obtain rfl := buildMySQLCreateStatements_ok built
      generalize ascii "CREATE USER " ++ quotedAccount username host ++
        ascii " IDENTIFIED BY " ++ quoteMySQLString password = create at built ⊢
      simp only [runStatements]
      have first := @mysqlExecWithTimeout_tells server [] {} proper (conditions 0)
        mysqlNoBackslashEscapesSQL mysqlProvisionTimeout nofun rfl rfl
      generalize mysqlExecWithTimeout server (conditions 0) {} mysqlNoBackslashEscapesSQL
        mysqlProvisionTimeout = ran at first ⊢
      match ran, first with
      | (.error failure, conn), tells => exact .afterFirst tells
      | (.ok (), conn), answered =>
        have second := mysqlExecWithTimeout_tells proper (conditions 1) create
          mysqlProvisionTimeout answered.fit answered.sent answered.consumed
        dsimp only
        generalize mysqlExecWithTimeout server (conditions (0 + 1)) conn create
          mysqlProvisionTimeout = ran at second ⊢
        match ran, second with
        | (.error _, conn), tells => exact .afterCreate built answered.fit tells
        | (.ok (), conn), tells => exact .afterCreate built answered.fit tells

/-- A server that accepts the first statement and refuses every later one. -/
def refusing : Server where
  answer asked :=
    packetBytes 1 (if asked.length = 1 then [0x00, 0x00, 0x00] else [0xFF, 0x7D, 0x04])

/-- The connection takes each packet in two parts; then the second packet is cut off. -/
theorem createMySQLAccount_justified_refusing :
    (∃ conn, CreateAnswered refusing (fun _ => false) (ascii "u") (ascii "p") (ascii "h") conn
      0xFF) ∧
      ∃ conn set create,
        buildMySQLCreateStatements (fun _ => false) (ascii "u") (ascii "p") (ascii "h") =
          .ok [set, create] ∧ SentInPart [0x03 :: set] (0x03 :: create) conn := by
  have proper : refusing.Proper := by
    intro asked
    unfold refusing
    dsimp only
    split
    · exact ⟨by decide, by decide⟩
    · exact ⟨by decide, by decide⟩
  have report : ∀ conditions disposition, (createMySQLAccount refusing true conditions
      (fun _ => false) (ascii "u") (ascii "p") (ascii "h")).1 = disposition →
      ∃ conn, Justified refusing (fun _ => false) (ascii "u") (ascii "p") (ascii "h")
        (disposition, conn) := by
    rintro conditions _ rfl
    exact ⟨_, createMySQLAccount_justified refusing _ _ _ _ proper true conditions⟩
  obtain ⟨refused, answered⟩ := report
    (fun _ => { writes := [(9, false), (200, false)], arrives := 7 }) .notCreated
    (by decide +kernel)
  obtain ⟨uncertain, sent⟩ := report
    (fun index => { writes := [(9, false), (20, index == 1), (200, false)], arrives := 7 })
    .mayBeApplied (by decide +kernel)
  exact ⟨⟨refused, answered⟩, uncertain, sent⟩

end Jianmen.Provisioning
