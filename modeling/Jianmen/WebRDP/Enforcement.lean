import Jianmen.Library.Slices
import Jianmen.WebRDP.Channels

/-!
# What the filter of a direction enforces

Seen from one stream the filter is a small automaton: the stream is idle, dropped, or followed with
the size of the data that went through.  The maps of the filter hold these automata side by side,
and what is guaranteed about a stream is read off its automaton.
-/

namespace Jianmen.WebRDP

open List ChannelFilter

open Slices (bind_ok)

/-- The policy or the direction forbids an instruction. -/
inductive Forbidden (policy : WebRDPChannelPolicy) : Direction → String → Prop
  | clipboardWrite (off : policy.clipboardWrite = false) :
      Forbidden policy .browserToRemote "clipboard"
  | clipboardRead (off : policy.clipboardRead = false) :
      Forbidden policy .remoteToBrowser "clipboard"
  | upload (off : policy.fileUpload = false) : Forbidden policy .browserToRemote "file"
  | download (off : policy.fileDownload = false) : Forbidden policy .remoteToBrowser "file"
  | put (off : policy.fileUpload = false) : Forbidden policy .browserToRemote "put"
  | putBack : Forbidden policy .remoteToBrowser "put"
  | get (off : policy.fileDownload = false) : Forbidden policy .browserToRemote "get"
  | getBack : Forbidden policy .remoteToBrowser "get"
  | body (off : policy.fileDownload = false) : Forbidden policy .remoteToBrowser "body"
  | bodyForth : Forbidden policy .browserToRemote "body"
  | filesystem (off : policy.driveMapping = false) : Forbidden policy .remoteToBrowser "filesystem"
  | filesystemForth : Forbidden policy .browserToRemote "filesystem"

/-- The instructions that the policy is about. -/
def channelOpcodes : List String :=
  ["clipboard", "file", "put", "get", "body", "filesystem"]

namespace Instruction

/-- Data for a stream. -/
def IsBlob (instruction : Instruction) (streamId : String) : Prop :=
  instruction.opcode = "blob" ∧ firstArg instruction = streamId

instance (instruction : Instruction) (streamId : String) :
    Decidable (instruction.IsBlob streamId) :=
  inferInstanceAs (Decidable (_ ∧ _))

/-- The end of a stream. -/
def IsEnd (instruction : Instruction) (streamId : String) : Prop :=
  instruction.opcode = "end" ∧ firstArg instruction = streamId

instance (instruction : Instruction) (streamId : String) :
    Decidable (instruction.IsEnd streamId) :=
  inferInstanceAs (Decidable (_ ∧ _))

end Instruction

/-! ## Steps -/

variable {filter next last : ChannelFilter} {answer : Answer}

/-- What a call that returns without an error can have done. -/
inductive Passes (filter : ChannelFilter) : Answer → ChannelFilter → Prop
  | blobDropped {instruction : Instruction} (blob : instruction.opcode = "blob")
      (blocked : firstArg instruction ∈ filter.blocked) :
      Passes filter { instruction := instruction, allowed := false } filter
  | blobPassed {instruction : Instruction} (blob : instruction.opcode = "blob")
      (unblocked : firstArg instruction ∉ filter.blocked)
      (untracked : filter.streams.lookup (firstArg instruction) = none) :
      Passes filter { instruction := instruction, allowed := true } filter
  | blobCounted {instruction : Instruction} {stream : ChannelStream} {data : List UInt8}
      (blob : instruction.opcode = "blob") (unblocked : firstArg instruction ∉ filter.blocked)
      (tracked : filter.streams.lookup (firstArg instruction) = some stream)
      (decoded : decodedBlob (argument instruction 1) = .ok data)
      (short : data.length < 9223372036854775808)
      (fits : ¬int64 (stream.bytes + data.length) < stream.bytes) :
      Passes filter { instruction := instruction, allowed := true }
        { filter with
          streams := filter.streams.map fun entry =>
            if entry.1 = firstArg instruction then
              (entry.1, { stream with bytes := int64 (stream.bytes + data.length) })
            else entry }
  | endDropped {instruction : Instruction} (ends : instruction.opcode = "end")
      (blocked : firstArg instruction ∈ filter.blocked) :
      Passes filter { instruction := instruction, allowed := false }
        { filter with blocked := filter.blocked.filter (· != firstArg instruction) }
  | endPassed {instruction : Instruction} (ends : instruction.opcode = "end")
      (unblocked : firstArg instruction ∉ filter.blocked)
      (untracked : filter.streams.lookup (firstArg instruction) = none) :
      Passes filter { instruction := instruction, allowed := true } filter
  | endRecorded {instruction : Instruction} {stream : ChannelStream}
      (ends : instruction.opcode = "end") (unblocked : firstArg instruction ∉ filter.blocked)
      (tracked : filter.streams.lookup (firstArg instruction) = some stream) :
      Passes filter
        { instruction := instruction
          allowed := true
          event := some
            { auditSessionId := filter.sessionId, channel := stream.channel,
              direction := filter.direction, operation := "end", bytes := stream.bytes,
              outcome := .allowed, reason := "" } }
        { filter with
          auditEvents := filter.auditEvents + 1
          streams := filter.streams.filter fun entry => entry.1 != firstArg instruction }
  | other {instruction : Instruction} (blob : instruction.opcode ≠ "blob")
      (ends : instruction.opcode ≠ "end")
      (irrelevant : filter.channelDecision instruction.opcode = none) :
      Passes filter { instruction := instruction, allowed := true } filter
  | decided {instruction : Instruction} {channel : Channel} {allowed : Bool} {denialReason : String}
      {reason : String} (blob : instruction.opcode ≠ "blob") (ends : instruction.opcode ≠ "end")
      (relevant : filter.channelDecision instruction.opcode = some (channel, allowed, denialReason))
      (streamless : channelStreamID instruction = none) :
      Passes filter
        { instruction := instruction
          allowed := allowed
          event := some
            { auditSessionId := filter.sessionId, channel := channel,
              direction := filter.direction, operation := instruction.opcode, bytes := 0,
              outcome := if allowed then .allowed else .denied, reason := reason } }
        { filter with auditEvents := filter.auditEvents + 1 }
  | opened {instruction : Instruction} {channel : Channel} {allowed : Bool} {denialReason : String}
      {reason streamId : String} (blob : instruction.opcode ≠ "blob")
      (ends : instruction.opcode ≠ "end")
      (relevant : filter.channelDecision instruction.opcode = some (channel, allowed, denialReason))
      (stream : channelStreamID instruction = some streamId) (unblocked : streamId ∉ filter.blocked)
      (untracked : filter.streams.lookup streamId = none)
      (room : filter.blocked.length + filter.streams.length < maxTrackedChannelStreams) :
      Passes filter
        { instruction := instruction
          allowed := allowed
          event := some
            { auditSessionId := filter.sessionId, channel := channel,
              direction := filter.direction, operation := instruction.opcode, bytes := 0,
              outcome := if allowed then .allowed else .denied, reason := reason } }
        (({ filter with auditEvents := filter.auditEvents + 1 } : ChannelFilter).openStream channel
          allowed streamId)

variable {bytes : ℤ} {streamId key : String} {instruction : Instruction}
  {entries : List (String × ChannelStream)} {failure : Option String} {answers : List Answer}

theorem writeAuditEvent_ok {channel : Channel} {operation : String}
    {outcome : Outcome} {reason : String} {event : AuditRDPChannelEvent}
    (stored : filter.writeAuditEvent failure channel operation outcome reason bytes =
      .ok (event, next)) :
    event = { auditSessionId := filter.sessionId, channel := channel,
              direction := filter.direction, operation := operation, bytes := bytes,
              outcome := outcome, reason := reason } ∧
      next = { filter with auditEvents := filter.auditEvents + 1 } := by
  unfold writeAuditEvent at stored
  split at stored
  · cases stored
  split at stored
  · cases stored
  · cases stored
    exact ⟨rfl, rfl⟩

theorem checkStream_ok (checked : filter.checkStream streamId = .ok ()) :
    streamId ∉ filter.blocked ∧ filter.streams.lookup streamId = none ∧
      filter.blocked.length + filter.streams.length < maxTrackedChannelStreams := by
  unfold checkStream at checked
  split at checked
  · cases checked
  next unblocked =>
  split at checked
  · cases checked
  next untracked =>
  split at checked
  · cases checked
  next room =>
  rw [contains_eq_mem, decide_eq_true_eq] at unblocked
  rw [Bool.not_eq_true, Option.isSome_eq_false_iff, Option.isNone_iff_eq_none] at untracked
  exact ⟨unblocked, untracked, Nat.lt_of_not_ge room⟩

/-- No string is longer than a signed 64-bit number says. -/
def Instruction.Fits (instruction : Instruction) : Prop :=
  ∀ text ∈ instruction.args, text.utf8ByteSize < 9223372036854775808

instance (instruction : Instruction) : Decidable instruction.Fits :=
  inferInstanceAs (Decidable (∀ _ ∈ _, _))

theorem decodedBlobSize_ok {encoded : String} {size : ℤ}
    (short : encoded.utf8ByteSize < 9223372036854775808)
    (sized : decodedBlobSize encoded = .ok size) : ∃ data, decodedBlob encoded = .ok data ∧
      data.length < 9223372036854775808 ∧ size = data.length := by
  unfold decodedBlobSize at sized
  split at sized
  · rename_i data decoded
    rw [Except.ok.injEq] at sized
    have shorter : data.length ≤ encoded.utf8ByteSize := Base64.decodeStream_length decoded
    have small : data.length < 9223372036854775808 := Nat.lt_of_le_of_lt shorter short
    exact ⟨data, decoded, small, sized ▸ Int.bmod_eq_of_le (by omega) (by omega)⟩
  · cases sized
  · cases sized

theorem argument_fits (fits : instruction.Fits) (index : ℕ) :
    (argument instruction index).utf8ByteSize < 9223372036854775808 := by
  unfold argument
  rw [getD_eq_getElem?_getD]
  cases found : instruction.args[index]? with
  | none => decide
  | some text => exact fits text (mem_of_getElem? found)

theorem allowBlob_passes (blob : instruction.opcode = "blob") (short : instruction.Fits)
    (returned : filter.allowBlob instruction = .ok (answer, next)) :
    Passes filter answer next := by
  unfold allowBlob at returned
  split at returned
  · cases returned
  obtain ⟨-, -, returned⟩ := bind_ok returned
  split at returned
  · rename_i blocked
    rw [contains_eq_mem, decide_eq_true_eq] at blocked
    cases returned
    exact .blobDropped blob blocked
  next unblocked =>
  rw [contains_eq_mem, decide_eq_true_eq] at unblocked
  split at returned
  · rename_i untracked
    cases returned
    exact .blobPassed blob unblocked untracked
  next stream tracked =>
  split at returned
  · cases returned
  next size sized =>
  obtain ⟨data, decoded, small, rfl⟩ := decodedBlobSize_ok (argument_fits short 1) sized
  dsimp only at returned
  split at returned
  · cases returned
  next fits =>
  cases returned
  exact .blobCounted blob unblocked tracked decoded small fits

theorem allowEnd_passes (ends : instruction.opcode = "end")
    (returned : filter.allowEnd failure instruction = .ok (answer, next)) :
    Passes filter answer next := by
  unfold allowEnd at returned
  split at returned
  · cases returned
  obtain ⟨-, -, returned⟩ := bind_ok returned
  split at returned
  · rename_i blocked
    rw [contains_eq_mem, decide_eq_true_eq] at blocked
    cases returned
    exact .endDropped ends blocked
  next unblocked =>
  rw [contains_eq_mem, decide_eq_true_eq] at unblocked
  split at returned
  · rename_i untracked
    cases returned
    exact .endPassed ends unblocked untracked
  next stream tracked =>
  obtain ⟨⟨_, _⟩, stored, returned⟩ := bind_ok returned
  obtain ⟨rfl, rfl⟩ := writeAuditEvent_ok stored
  cases returned
  rw [ends]
  exact .endRecorded ends unblocked tracked

theorem allow_passes {call : Call} (short : call.instruction.Fits)
    (returned : filter.allow call = .ok (answer, next)) :
    Passes filter answer next := by
  unfold allow at returned
  dsimp only at returned
  split at returned
  · next blob => exact allowBlob_passes blob short returned
  next blob =>
  split at returned
  · next ends => exact allowEnd_passes ends returned
  next ends =>
  split at returned
  · rename_i irrelevant
    cases returned
    exact .other blob ends irrelevant
  next channel allowed denialReason relevant =>
  obtain ⟨-, -, returned⟩ := bind_ok returned
  cases stream : channelStreamID call.instruction with
  | none =>
    rw [stream] at returned
    obtain ⟨-, -, returned⟩ := bind_ok returned
    obtain ⟨⟨event, counted⟩, stored, returned⟩ := bind_ok returned
    obtain ⟨rfl, rfl⟩ := writeAuditEvent_ok stored
    cases returned
    exact .decided blob ends relevant stream
  | some =>
    rw [stream] at returned
    obtain ⟨_, checked, returned⟩ := bind_ok returned
    obtain ⟨unblocked, untracked, room⟩ := checkStream_ok checked
    obtain ⟨⟨event, counted⟩, stored, returned⟩ := bind_ok returned
    obtain ⟨rfl, rfl⟩ := writeAuditEvent_ok stored
    cases returned
    exact .opened blob ends relevant stream unblocked untracked room

/-! ## Streams -/

/-- What the filter does with a stream. -/
inductive Track where
  | idle
  /-- The stream is dropped. -/
  | blocked
  /-- The stream goes through; so many bytes have. -/
  | tracked (bytes : ℤ)
  deriving DecidableEq

/-- A stream in the maps of the filter. -/
def ChannelFilter.track (filter : ChannelFilter) (streamId : String) : Track :=
  if streamId ∈ filter.blocked then .blocked
  else ((filter.streams.lookup streamId).map fun stream => Track.tracked stream.bytes).getD .idle

/-- The maps are disjoint and small, and sizes are 64-bit numbers. -/
structure Sound (filter : ChannelFilter) : Prop where
  apart : ∀ streamId ∈ filter.blocked, filter.streams.lookup streamId = none
  sized : ∀ streamId stream, filter.streams.lookup streamId = some stream → 0 ≤ stream.bytes ∧
    stream.bytes < 9223372036854775808
  few : filter.blocked.length + filter.streams.length ≤ maxTrackedChannelStreams

/-- A sum that did not overflow. -/
theorem int64_add {size : ℕ} (low : 0 ≤ bytes) (high : bytes < 9223372036854775808)
    (small : size < 9223372036854775808) (fits : ¬int64 (bytes + size) < bytes) :
    int64 (bytes + size) = bytes + size ∧ bytes + size < 9223372036854775808 := by
  unfold int64 Int.bmod at *
  dsimp only at *
  split at fits
  · omega
  · omega

/-- Looking up after the value under a key has been changed. -/
theorem lookup_map {stream : ChannelStream} (other : String) :
    (entries.map fun entry => if entry.1 = key then (entry.1, stream) else entry).lookup other =
      if other = key then (entries.lookup other).map fun _ => stream else entries.lookup other := by
  induction entries with
  | nil => simp
  | cons entry _ ih =>
    obtain ⟨name, _⟩ := entry
    by_cases named : name = key
    · by_cases same : other = name
      · simp [named, same]
      · simp [if_pos named, List.lookup_cons, beq_false_of_ne same, ih]
    · by_cases same : other = name
      · simp [named, same]
      · simp [if_neg named, List.lookup_cons, beq_false_of_ne same, ih]

/-- Looking up after a key has been removed. -/
theorem lookup_filter (other : String) : (entries.filter fun entry => entry.1 != key).lookup other =
      if other = key then none else entries.lookup other := by
  induction entries with
  | nil => simp
  | cons entry _ ih =>
    obtain ⟨name, _⟩ := entry
    by_cases named : name = key
    · rw [List.filter_cons_of_neg (by simp [named]), ih, List.lookup_cons]
      by_cases same : other = key
      · rw [if_pos same, if_pos same]
      · rw [if_neg same, if_neg same, beq_false_of_ne (named ▸ same)]
    rw [List.filter_cons_of_pos (by simp [named]), List.lookup_cons, List.lookup_cons, ih]
    by_cases same : other = name
    · have different : other ≠ key := same ▸ named
      rw [if_neg different, if_neg different]
    · rw [beq_false_of_ne same]

/-- Looking up after a new key has been added. -/
theorem lookup_append (fresh : entries.lookup key = none) {stream : ChannelStream}
    (other : String) :
    (entries ++ [(key, stream)]).lookup other =
      if other = key then some stream else entries.lookup other := by
  rw [List.lookup_append]
  by_cases same : other = key
  · rw [same, fresh, if_pos rfl, List.lookup_cons_self]
    rfl
  · rw [if_neg same, List.lookup_cons, beq_false_of_ne same, List.lookup_nil, Option.or_none]

theorem track_eq_blocked : filter.track streamId = .blocked ↔ streamId ∈ filter.blocked := by
  unfold track
  split
  · next member => exact ⟨fun _ => member, fun _ => rfl⟩
  rename_i missing
  refine ⟨fun same => ?_, fun member => absurd member missing⟩
  cases found : filter.streams.lookup streamId with
  | none | some => rw [found] at same; cases same

theorem track_eq_tracked : filter.track streamId = .tracked bytes ↔ streamId ∉ filter.blocked ∧
      ∃ stream, filter.streams.lookup streamId = some stream ∧ stream.bytes = bytes := by
  unfold track
  split
  · rename_i member
    constructor
    · intro same
      cases same
    · rintro ⟨missing, -⟩
      exact absurd member missing
  · rename_i missing
    cases found : filter.streams.lookup streamId with
    | none => simp
    | some stream => simp [missing]

/-- The size of the data for a stream that went through with an answer. -/
def Answer.blobSize (streamId : String) (answer : Answer) : ℤ :=
  if answer.allowed = true ∧ answer.instruction.IsBlob streamId then
    match decodedBlob (argument answer.instruction 1) with
    | .ok data => data.length
    | .error _ => 0
  else 0

/-- An instruction that opens a stream is one the policy is about. -/
theorem opens_stream (stream : channelStreamID instruction = some streamId) :
    instruction.opcode ≠ "blob" ∧ instruction.opcode ≠ "end" ∧
      filter.channelDecision instruction.opcode ≠ none := by
  have opcode : instruction.opcode = "clipboard" ∨ instruction.opcode = "file" ∨
      instruction.opcode = "put" ∨ instruction.opcode = "body" := by
    unfold channelStreamID at stream
    split at stream
    · tauto
    · split at stream
      · tauto
      · cases stream
  refine ⟨?_, ?_, ?_⟩
  · rintro blob
    simp [blob] at opcode
  · rintro ends
    simp [ends] at opcode
  · obtain opcode | opcode | opcode | opcode := opcode
    all_goals
      rw [opcode]
      cases direction : filter.direction with
      | browserToRemote | remoteToBrowser => simp [channelDecision, direction]

/-- A call keeps the filter sound. -/
theorem Passes.sound (passes : Passes filter answer next) (sound : Sound filter) :
    Sound next := by
  obtain ⟨apart, sized, few⟩ := sound
  cases passes with
  | blobDropped | blobPassed | endPassed | other => exact ⟨apart, sized, few⟩
  | decided => exact ⟨apart, sized, few⟩
  | @blobCounted instruction stream data blob unblocked tracked decoded short fits =>
    obtain ⟨low, high⟩ := sized _ _ tracked
    obtain ⟨exact_sum, bounded⟩ := int64_add low high short fits
    refine ⟨fun streamId member => ?_, fun streamId other found => ?_, ?_⟩
    · have missing := apart streamId member
      simp only [lookup_map, missing]
      split
      · rfl
      · rfl
    · rw [lookup_map] at found
      split at found
      · obtain ⟨_, -, rfl⟩ := Option.map_eq_some_iff.mp found
        simp only [exact_sum]
        omega
      · exact sized streamId other found
    · simpa using few
  | @endDropped instruction ends blocked =>
    refine ⟨fun streamId member => apart streamId (mem_filter.mp member).1, sized, ?_⟩
    have fewer := length_filter_le (· != firstArg instruction) filter.blocked
    simp only
    omega
  | @endRecorded instruction stream ends unblocked tracked =>
    refine ⟨fun streamId member => ?_, fun streamId other found => ?_, ?_⟩
    · rw [lookup_filter, apart streamId member]
      split
      · rfl
      · rfl
    · rw [lookup_filter] at found
      split at found
      · cases found
      · exact sized streamId other found
    · have fewer := length_filter_le (fun entry => entry.1 != firstArg instruction) filter.streams
      simp only
      omega
  | @opened instruction channel allowed denialReason reason streamId blob ends relevant stream
      unblocked untracked room =>
      cases allowed with
      | true =>
        refine ⟨fun other member => ?_, fun other value found => ?_, ?_⟩
        · have different : other ≠ streamId := fun same => unblocked (same ▸ member)
          simp only [openStream, if_true, lookup_append untracked, if_neg different]
          exact apart other member
        · simp only [openStream, if_true, lookup_append untracked] at found
          split at found
          · cases found
            change (0 : ℤ) ≤ 0 ∧ (0 : ℤ) < 9223372036854775808
            decide
          · exact sized other value found
        · simp only [openStream, if_true, length_append, length_singleton]
          omega
      | false =>
        refine ⟨fun other member => ?_, sized, ?_⟩
        · obtain earlier | new := mem_append.mp member
          · exact apart other earlier
          · rw [mem_singleton.mp new]
            exact untracked
        · simp only [openStream, Bool.false_eq_true, if_false, length_append, length_singleton]
          omega

/-- The first call of a stream decides what becomes of it. -/
theorem Passes.opens (passes : Passes filter answer next)
    (stream : channelStreamID answer.instruction = some streamId) :
    next.track streamId = if answer.allowed then .tracked 0 else .blocked := by
  obtain ⟨no_blob, no_end, relevant⟩ := @opens_stream filter _ _ stream
  cases passes with
  | blobDropped blob | blobPassed blob | blobCounted blob => exact absurd blob no_blob
  | endDropped ends | endPassed ends | endRecorded ends => exact absurd ends no_end
  | other _ _ irrelevant => exact absurd irrelevant relevant
  | decided _ _ _ streamless => rw [stream] at streamless; cases streamless
  | @opened instruction channel allowed denialReason reason other blob ends decided opened unblocked
      untracked room =>
      cases opened.symm.trans stream
      cases allowed with
      | true =>
        refine track_eq_tracked.mpr ⟨unblocked, { channel := channel }, ?_, rfl⟩
        simp [openStream, lookup_append untracked]
      | false =>
        apply track_eq_blocked.mpr
        simp [openStream]

/-- Other instructions leave open streams alone. -/
theorem untouched (blob : instruction.opcode ≠ "blob") (ends : instruction.opcode ≠ "end") :
    ¬(instruction.IsBlob streamId ∨ instruction.IsEnd streamId) := by
  rintro (⟨same, -⟩ | ⟨same, -⟩)
  · exact blob same
  · exact ends same

/-- Data does not end a stream. -/
theorem not_isEnd_of_blob (blob : instruction.opcode = "blob") (streamId : String) :
    ¬instruction.IsEnd streamId := by
  rintro ⟨ends, -⟩
  rw [blob] at ends
  simp at ends

theorem not_isBlob_of_end (ends : instruction.opcode = "end") (streamId : String) :
    ¬instruction.IsBlob streamId := by
  rintro ⟨blob, -⟩
  rw [ends] at blob
  simp at blob

/-- A stream that is dropped stays so up to its end. -/
theorem Passes.dropped (passes : Passes filter answer next)
    (blocked : filter.track streamId = .blocked) :
    (answer.instruction.IsBlob streamId ∨ answer.instruction.IsEnd streamId →
      answer.allowed = false) ∧
    (¬answer.instruction.IsEnd streamId → next.track streamId = .blocked) := by
  have member := track_eq_blocked.mp blocked
  cases passes with
  | blobDropped => exact ⟨fun _ => rfl, fun _ => blocked⟩
  | blobPassed blob unblocked =>
    refine ⟨?_, fun _ => blocked⟩
    rintro (⟨-, rfl⟩ | ends)
    · exact absurd member unblocked
    · exact absurd ends (not_isEnd_of_blob blob streamId)
  | blobCounted blob unblocked =>
    refine ⟨?_, fun _ => track_eq_blocked.mpr member⟩
    rintro (⟨-, rfl⟩ | ends)
    · exact absurd member unblocked
    · exact absurd ends (not_isEnd_of_blob blob streamId)
  | endDropped ends =>
    refine ⟨fun _ => rfl, fun other => track_eq_blocked.mpr ?_⟩
    refine mem_filter.mpr ⟨member, ?_⟩
    rw [bne_iff_ne]
    rintro rfl
    exact other ⟨ends, rfl⟩
  | endPassed ends unblocked | endRecorded ends unblocked =>
    refine ⟨?_, fun _ => track_eq_blocked.mpr member⟩
    rintro (blob | ⟨-, rfl⟩)
    · exact absurd blob (not_isBlob_of_end ends streamId)
    · exact absurd member unblocked
  | other blob ends => exact ⟨fun touched => absurd touched (untouched blob ends), fun _ => blocked⟩
  | decided blob ends =>
    exact ⟨fun touched => absurd touched (untouched blob ends),
      fun _ => track_eq_blocked.mpr member⟩
  | @opened instruction channel allowed denialReason reason other blob ends =>
    refine ⟨fun touched => absurd touched (untouched blob ends), fun _ => track_eq_blocked.mpr ?_⟩
    cases allowed with
    | true => exact member
    | false => exact mem_append_left _ member

/-- An answer without data for a stream adds nothing to its size. -/
theorem Answer.blobSize_of_not_isBlob (other : ¬answer.instruction.IsBlob streamId) :
    answer.blobSize streamId = 0 := by
  rw [Answer.blobSize, if_neg fun blob => other blob.2]

/-- A stream that goes through is counted up to its end, which is recorded with its size. -/
theorem Passes.counted (passes : Passes filter answer next) (sound : Sound filter)
    (tracked : filter.track streamId = .tracked bytes) :
    (answer.instruction.IsEnd streamId → ∃ event, answer.event = some event ∧
      event.operation = "end" ∧ event.bytes = bytes) ∧
    (¬answer.instruction.IsEnd streamId →
      next.track streamId = .tracked (bytes + answer.blobSize streamId)) := by
  obtain ⟨unblocked, stream, found, size_eq⟩ := track_eq_tracked.mp tracked
  have kept : ∀ {other : Answer}, ¬other.instruction.IsBlob streamId →
      filter.track streamId = .tracked (bytes + other.blobSize streamId) := by
    intro other no_blob
    rw [Answer.blobSize_of_not_isBlob no_blob, Int.add_zero]
    exact tracked
  cases passes with
  | @blobDropped instruction blob blocked =>
    have other : ¬instruction.IsBlob streamId := by
      rintro ⟨-, rfl⟩
      exact unblocked blocked
    exact ⟨fun ends => absurd ends (not_isEnd_of_blob blob streamId), fun _ => kept other⟩
  | @blobPassed instruction blob _ untracked =>
    have other : ¬instruction.IsBlob streamId := by
      rintro ⟨-, rfl⟩
      rw [untracked] at found
      cases found
    exact ⟨fun ends => absurd ends (not_isEnd_of_blob blob streamId), fun _ => kept other⟩
  | @blobCounted instruction counted data blob _ present decoded short fits =>
    refine ⟨fun ends => absurd ends (not_isEnd_of_blob blob streamId), fun _ => ?_⟩
    by_cases same : firstArg instruction = streamId
    · rw [same, found] at present
      cases present
      obtain ⟨low, high⟩ := sound.sized _ _ found
      have sum := (int64_add low high short fits).1
      refine track_eq_tracked.mpr ⟨unblocked,
        { stream with bytes := int64 (stream.bytes + data.length) }, ?_, ?_⟩
      · rw [lookup_map, if_pos same.symm, found]
        rfl
      · have blob_size : Answer.blobSize streamId
            { instruction := instruction, allowed := true } = data.length := by
          simp [Answer.blobSize, Instruction.IsBlob, blob, same, decoded]
        rw [blob_size, ← size_eq]
        exact sum
    · have other : ¬instruction.IsBlob streamId := fun is_blob => same is_blob.2
      rw [Answer.blobSize_of_not_isBlob other, Int.add_zero]
      refine track_eq_tracked.mpr ⟨unblocked, stream, ?_, size_eq⟩
      rw [lookup_map, if_neg (Ne.symm same)]
      exact found
  | @endDropped instruction ends blocked =>
    refine ⟨?_, fun _ => ?_⟩
    · rintro ⟨-, rfl⟩
      exact absurd blocked unblocked
    · rw [Answer.blobSize_of_not_isBlob (not_isBlob_of_end ends streamId), Int.add_zero]
      exact track_eq_tracked.mpr
        ⟨fun member => unblocked (mem_filter.mp member).1, stream, found, size_eq⟩
  | @endPassed instruction ends _ untracked =>
    refine ⟨?_, fun _ => kept (not_isBlob_of_end ends streamId)⟩
    rintro ⟨-, rfl⟩
    rw [untracked] at found
    cases found
  | @endRecorded instruction ended ends _ present =>
    refine ⟨?_, fun other => ?_⟩
    · rintro ⟨-, rfl⟩
      rw [found] at present
      cases present
      exact ⟨_, rfl, rfl, size_eq⟩
    · have different : streamId ≠ firstArg instruction := fun same => other ⟨ends, same.symm⟩
      rw [Answer.blobSize_of_not_isBlob (not_isBlob_of_end ends streamId), Int.add_zero]
      refine track_eq_tracked.mpr ⟨unblocked, stream, ?_, size_eq⟩
      rw [lookup_filter, if_neg different]
      exact found
  | other blob ends =>
    exact ⟨fun touched => absurd (.inr touched) (untouched blob ends),
      fun _ => kept fun touched => untouched blob ends (.inl touched)⟩
  | decided blob ends =>
    exact ⟨fun touched => absurd (.inr touched) (untouched blob ends),
      fun _ => kept fun touched => untouched blob ends (.inl touched)⟩
  | @opened instruction channel allowed denialReason reason other blob ends relevant opened _
      untracked =>
    refine ⟨fun touched => absurd (.inr touched) (untouched blob ends), fun _ => ?_⟩
    have no_blob : ¬instruction.IsBlob streamId :=
      fun touched => untouched blob ends (.inl touched)
    have different : streamId ≠ other := by
      rintro rfl
      rw [untracked] at found
      cases found
    rw [Answer.blobSize_of_not_isBlob no_blob, Int.add_zero]
    cases allowed with
    | true =>
      refine track_eq_tracked.mpr ⟨unblocked, stream, ?_, size_eq⟩
      simp only [openStream, if_true, lookup_append untracked, if_neg different]
      exact found
    | false =>
      refine track_eq_tracked.mpr ⟨fun member => ?_, stream, found, size_eq⟩
      obtain earlier | new := mem_append.mp member
      · exact unblocked earlier
      · exact different (mem_singleton.mp new)

/-! ## Decisions -/

/-- What is forbidden is not allowed. -/
theorem forbidden_decision {opcode : String}
    (forbidden : Forbidden filter.policy filter.direction opcode) : opcode ∈ channelOpcodes ∧
      ∃ channel reason, filter.channelDecision opcode = some (channel, false, reason) := by
  obtain ⟨_, direction, policy, _, _, _⟩ := filter
  cases forbidden with
  | clipboardWrite off | clipboardRead off | upload off | download off | put off | get off | body off
  | filesystem off =>
    simp only at off
    simp [channelDecision, channelOpcodes, off]
  | putBack | getBack | bodyForth | filesystemForth =>
    simp [channelDecision, channelOpcodes]

/-- The policy is about the instructions of the list. -/
theorem channelDecision_isSome {opcode : String} (listed : opcode ∈ channelOpcodes) :
    filter.channelDecision opcode ≠ none ∧ opcode ≠ "blob" ∧ opcode ≠ "end" := by
  simp only [channelOpcodes, mem_cons, not_mem_nil, or_false] at listed
  obtain rfl | rfl | rfl | rfl | rfl | rfl := listed
  all_goals
    cases direction : filter.direction with
    | browserToRemote | remoteToBrowser => simp [channelDecision, direction]

/-- An instruction the policy is about is answered by the decision and recorded. -/
theorem Passes.recorded (passes : Passes filter answer next)
    (listed : answer.instruction.opcode ∈ channelOpcodes) :
    ∃ channel reason, ∃ event, filter.channelDecision answer.instruction.opcode =
        some (channel, answer.allowed, reason) ∧ answer.event = some event ∧
      event.auditSessionId = filter.sessionId ∧ event.direction = filter.direction ∧
      event.channel = channel ∧ event.operation = answer.instruction.opcode ∧
      event.outcome = if answer.allowed then .allowed else .denied := by
  obtain ⟨relevant, no_blob, no_end⟩ := @channelDecision_isSome filter _ listed
  cases passes with
  | blobDropped blob | blobPassed blob | blobCounted blob => exact absurd blob no_blob
  | endDropped ends | endPassed ends | endRecorded ends => exact absurd ends no_end
  | other _ _ irrelevant => exact absurd irrelevant relevant
  | decided _ _ decision | opened _ _ decision =>
    exact ⟨_, _, _, decision, rfl, rfl, rfl, rfl, rfl, rfl⟩

theorem Passes.refused (passes : Passes filter answer next)
    (forbidden : Forbidden filter.policy filter.direction answer.instruction.opcode) :
    answer.allowed = false := by
  obtain ⟨listed, _, _, decision⟩ := forbidden_decision forbidden
  obtain ⟨_, _, _, answered, -⟩ := passes.recorded listed
  rw [decision] at answered
  simp only [Option.some.injEq, Prod.mk.injEq] at answered
  exact answered.2.1.symm

/-- The session, the direction and the policy of a filter stay. -/
theorem Passes.fixed (passes : Passes filter answer next) :
    next.sessionId = filter.sessionId ∧ next.direction = filter.direction ∧
      next.policy = filter.policy := by
  cases passes with
  | @opened _ _ allowed =>
    cases allowed with
    | false | true => exact ⟨rfl, rfl, rfl⟩
  | _ => exact ⟨rfl, rfl, rfl⟩

/-! ## Runs -/

/-- The answers of a sequence of calls. -/
inductive Runs : ChannelFilter → List Answer → ChannelFilter → Prop
  | nil (filter : ChannelFilter) : Runs filter [] filter
  | cons {filter next last : ChannelFilter} {answer : Answer} {answers : List Answer}
      (first : Passes filter answer next) (rest : Runs next answers last) :
      Runs filter (answer :: answers) last

theorem run_runs (calls : List Call) (short : ∀ call ∈ calls, call.instruction.Fits) :
    Runs filter (filter.run calls).1 (filter.run calls).2 := by
  induction calls generalizing filter with
  | nil => exact .nil filter
  | cons _ _ ih =>
    obtain ⟨here, there⟩ := forall_mem_cons.mp short
    unfold run
    split
    · exact .nil filter
    · next answer next returned => exact .cons (allow_passes here returned) (ih there)

theorem Runs.append_inv {front : List Answer} (runs : Runs filter (front ++ answers) last) :
    ∃ middle, Runs filter front middle ∧ Runs middle answers last := by
  induction front generalizing filter with
  | nil => exact ⟨filter, .nil filter, runs⟩
  | cons _ _ ih =>
    cases runs with
    | cons first there =>
      obtain ⟨middle, before, after⟩ := ih there
      exact ⟨middle, .cons first before, after⟩

/-- What a run keeps. -/
theorem Runs.sound (runs : Runs filter answers last) (sound : Sound filter) :
    Sound last ∧ last.sessionId = filter.sessionId ∧ last.direction = filter.direction ∧
      last.policy = filter.policy := by
  induction runs with
  | nil => exact ⟨sound, rfl, rfl, rfl⟩
  | cons first _ ih =>
    obtain ⟨last_sound, session, direction, policy⟩ := ih (first.sound sound)
    obtain ⟨same_session, same_direction, same_policy⟩ := first.fixed
    exact ⟨last_sound, session.trans same_session, direction.trans same_direction,
      policy.trans same_policy⟩

/-- A dropped stream stays dropped without an end. -/
theorem Runs.dropped {between : List Answer} (runs : Runs filter between last)
    (blocked : filter.track streamId = .blocked)
    (unended : ∀ answer ∈ between, ¬answer.instruction.IsEnd streamId) :
    last.track streamId = .blocked := by
  induction runs with
  | nil => exact blocked
  | cons first _ ih =>
    obtain ⟨here, there⟩ := forall_mem_cons.mp unended
    exact ih ((first.dropped blocked).2 here) there

/-- The data of a stream is added up. -/
theorem Runs.counted {between : List Answer} (runs : Runs filter between last)
    (sound : Sound filter) (tracked : filter.track streamId = .tracked bytes)
    (unended : ∀ answer ∈ between, ¬answer.instruction.IsEnd streamId) :
    last.track streamId =
      .tracked (bytes + (between.map (Answer.blobSize streamId)).sum) := by
  induction runs generalizing bytes with
  | nil => simpa using tracked
  | cons first _ ih =>
    obtain ⟨here, there⟩ := forall_mem_cons.mp unended
    rw [map_cons, sum_cons, ← Int.add_assoc]
    exact ih (first.sound sound) ((first.counted sound tracked).2 here) there

theorem newChannelFilter_sound (sessionId : String) (direction : Direction)
    (policy : WebRDPChannelPolicy) : Sound (newChannelFilter sessionId direction policy) :=
  ⟨by simp [newChannelFilter], by simp [newChannelFilter], by simp [newChannelFilter]⟩

/-- The call of an answer. -/
theorem Runs.at (runs : Runs filter answers last)
    (sound : Sound filter) {answer : Answer} (member : answer ∈ answers) :
    ∃ middle next, Sound middle ∧ Passes middle answer next ∧
      middle.sessionId = filter.sessionId ∧ middle.direction = filter.direction ∧
      middle.policy = filter.policy := by
  obtain ⟨_, _, rfl⟩ := append_of_mem member
  obtain ⟨middle, before, after⟩ := runs.append_inv
  obtain ⟨middle_sound, same⟩ := before.sound sound
  cases after with
  | @cons _ next _ _ _ first _ => exact ⟨middle, next, middle_sound, first, same⟩

/-- The calls of two answers and those between them. -/
theorem Runs.between {before between after : List Answer} {opening closing : Answer}
    (runs : Runs filter (before ++ opening :: (between ++ closing :: after)) last)
    (sound : Sound filter) :
    ∃ start opened middle ended, Sound start ∧ Passes start opening opened ∧
      Runs opened between middle ∧ Passes middle closing ended ∧
      start.direction = filter.direction ∧ start.policy = filter.policy := by
  obtain ⟨start, front, tail⟩ := runs.append_inv
  obtain ⟨start_sound, -, direction, policy⟩ := front.sound sound
  cases tail with
  | @cons _ opened _ _ _ first rest =>
    obtain ⟨middle, inside, tail⟩ := rest.append_inv
    cases tail with
    | @cons _ ended _ _ _ closes _ =>
      exact ⟨start, opened, middle, ended, start_sound, first, inside, closes, direction, policy⟩

/-! ## Enforcement -/

/-- Whatever is given to the filter until it first returns an error: what the policy or the
direction forbids is not allowed; a forbidden stream is dropped up to and including its end; every
decision is recorded; the end of an allowed stream is recorded with the size of the data that went
through; and the filter follows at most 256 streams. -/
theorem channelFilter_enforces (sessionId : String) (direction : Direction)
    (policy : WebRDPChannelPolicy) (calls : List Call)
    (short : ∀ call ∈ calls, call.instruction.Fits) :
    let result := (newChannelFilter sessionId direction policy).run calls
    (∀ answer ∈ result.1, Forbidden policy direction answer.instruction.opcode →
      answer.allowed = false) ∧
    (∀ before opening between answer after streamId,
      result.1 = before ++ opening :: (between ++ answer :: after) →
      Forbidden policy direction opening.instruction.opcode →
      channelStreamID opening.instruction = some streamId →
      (∀ other ∈ between, ¬other.instruction.IsEnd streamId) →
      answer.instruction.IsBlob streamId ∨ answer.instruction.IsEnd streamId →
      answer.allowed = false) ∧
    (∀ answer ∈ result.1, answer.instruction.opcode ∈ channelOpcodes → ∃ event,
      answer.event = some event ∧ event.auditSessionId = sessionId ∧ event.direction = direction ∧
        event.operation = answer.instruction.opcode ∧
        event.outcome = if answer.allowed then .allowed else .denied) ∧
    (∀ before opening between ending after streamId,
      result.1 = before ++ opening :: (between ++ ending :: after) →
      opening.allowed = true → channelStreamID opening.instruction = some streamId →
      (∀ other ∈ between, ¬other.instruction.IsEnd streamId) →
      ending.instruction.IsEnd streamId → ∃ event, ending.event = some event ∧
        event.operation = "end" ∧
        event.bytes = (between.map (Answer.blobSize streamId)).sum) ∧
    result.2.blocked.length + result.2.streams.length ≤ maxTrackedChannelStreams := by
  intro result
  have runs : Runs (newChannelFilter sessionId direction policy) result.1 result.2 :=
    run_runs calls short
  have initially := newChannelFilter_sound sessionId direction policy
  refine ⟨?_, ?_, ?_, ?_, (runs.sound initially).1.few⟩
  · intro answer member forbidden
    obtain ⟨filter, next, -, passes, -, same_direction, same_policy⟩ := runs.at initially member
    exact passes.refused (by rwa [same_policy, same_direction])
  · intro before opening between answer after streamId split forbidden stream unended touched
    rw [split] at runs
    obtain ⟨start, opened, middle, ended, -, opens, inside, closes, same_direction, same_policy⟩ :=
      runs.between initially
    have blocked := opens.opens stream
    rw [opens.refused (by rwa [same_policy, same_direction])] at blocked
    exact (closes.dropped (inside.dropped blocked unended)).1 touched
  · intro answer member listed
    obtain ⟨filter, next, -, passes, same_session, same_direction, -⟩ := runs.at initially member
    obtain ⟨-, -, event, -, stored, session, event_direction, -, operation, outcome⟩ :=
      passes.recorded listed
    exact ⟨event, stored, session.trans same_session, event_direction.trans same_direction,
      operation, outcome⟩
  · intro before opening between ending after streamId split allowed stream unended ends
    rw [split] at runs
    obtain ⟨start, opened, middle, ended, sound, opens, inside, closes, -⟩ := runs.between initially
    have tracked := opens.opens stream
    rw [allowed] at tracked
    have opened_sound := opens.sound sound
    obtain ⟨event, stored, operation, bytes⟩ := (closes.counted (inside.sound opened_sound).1
      (inside.counted opened_sound tracked unended)).1 ends
    exact ⟨event, stored, operation, by rw [bytes, Int.zero_add]⟩

/-- A clipboard that may be read but not written. -/
def readOnly : WebRDPChannelPolicy :=
  { clipboardRead := true, clipboardWrite := false, fileUpload := false, fileDownload := false,
    driveMapping := false }

def clipboardCalls : List Call :=
  [{ instruction := ⟨"clipboard", ["1", "text/plain"]⟩ },
    { instruction := ⟨"blob", ["1", "Y29weSE="]⟩ }, { instruction := ⟨"blob", ["1", "YWJj"]⟩ },
    { instruction := ⟨"end", ["1"]⟩ }]

/-- What is written is dropped, what is read is counted. -/
theorem channelFilter_enforces_clipboard :
    ((newChannelFilter "s" .browserToRemote readOnly).run clipboardCalls).1.map Answer.allowed =
        [false, false, false, false] ∧
      ∃ opening first second ending event,
        ((newChannelFilter "s" .remoteToBrowser readOnly).run clipboardCalls).1 =
          [opening, first, second, ending] ∧ ending.event = some event ∧
        event.bytes = ([first, second].map (Answer.blobSize "1")).sum ∧
        ([first, second].map (Answer.blobSize "1")).sum = 8 := by
  refine ⟨by decide +kernel, ?_⟩
  have answers : ((newChannelFilter "s" .remoteToBrowser readOnly).run clipboardCalls).1 =
      [⟨⟨"clipboard", ["1", "text/plain"]⟩, true,
          some ⟨"s", .clipboard, .remoteToBrowser, "clipboard", 0, .allowed, ""⟩⟩,
        ⟨⟨"blob", ["1", "Y29weSE="]⟩, true, none⟩, ⟨⟨"blob", ["1", "YWJj"]⟩, true, none⟩,
        ⟨⟨"end", ["1"]⟩, true, some ⟨"s", .clipboard, .remoteToBrowser, "end", 8, .allowed, ""⟩⟩] := by
    decide +kernel
  obtain ⟨event, stored, -, bytes⟩ := (channelFilter_enforces "s" .remoteToBrowser readOnly
    clipboardCalls (by decide +kernel)).2.2.2.1 [] _ [_, _] _ [] "1" answers (by decide +kernel)
    (by decide +kernel) (by decide +kernel) (by decide +kernel)
  exact ⟨_, _, _, _, event, answers, stored, bytes, by decide +kernel⟩

end Jianmen.WebRDP
