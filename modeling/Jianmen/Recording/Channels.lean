import Jianmen.Library.Interleaving
import Jianmen.Recording.Completeness

/-!
# Channels that share a recorder

All channels of a connection write to one recorder.  As long as the recorder is between two lines
whenever another channel takes its turn, and prompts are recognised as each channel alone would
show them, it records the commands that a recorder of each channel's own would record.
-/

namespace Jianmen.Recording

open DBProxy (Bytes ascii)
open Interleaving List CommandRecorder Option

/-! ## Lines and prompts -/

/-- The lines that are recorded when the first one may answer a prompt. -/
def keptLines (prompted : Bool) (lines : List Bytes) : List Bytes :=
  (lines.filter (· ≠ [])).drop prompted.toNat

/-- A prompt still waits after the lines. -/
def stillPrompted (prompted : Bool) (lines : List Bytes) : Bool :=
  prompted && (lines.filter (· ≠ [])).isEmpty

theorem keptLines_append (prompted : Bool) (first second : List Bytes) :
    keptLines prompted (first ++ second) =
      keptLines prompted first ++ keptLines (stillPrompted prompted first) second := by
  cases prompted with
  | false => simp [keptLines, stillPrompted]
  | true =>
    simp only [keptLines, stillPrompted, filter_append]
    cases first.filter (· ≠ []) with
    | nil => simp
    | cons => simp

theorem stillPrompted_append (prompted : Bool) (first second : List Bytes) :
    stillPrompted prompted (first ++ second) =
      stillPrompted (stillPrompted prompted first) second := by
  simp only [stillPrompted, filter_append]
  cases first.filter (· ≠ []) with
  | nil => simp
  | cons => simp

theorem submittedLines_append (line first second : List ℕ) : submittedLines line (first ++ second) =
      submittedLines line first ++ submittedLines (first.foldl editRune line) second := by
  induction first generalizing line with
  | nil => rfl
  | cons _ first ih => simp [submittedLines, ih]

/-! ## The command recorder -/

namespace CommandRecorder

/-- What a prompt and the runes typed after it do to the recorder. -/
structure Advances (redactor : AuditRedactor) (prompt : Bool) (values : List ℕ)
    (r r' : CommandRecorder) : Prop where
  line : r'.line = values.foldl editRune r.line
  prompted : r'.sensitivePrompt =
    stillPrompted (r.sensitivePrompt || prompt) (submittedLines r.line values)
  commands : r'.commandTexts = r.commandTexts ++
    (keptLines (r.sensitivePrompt || prompt) (submittedLines r.line values)).map
      (redactor.redact .command)

variable {redactor : AuditRedactor} {r r' r'' : CommandRecorder}

theorem Advances.refl (r : CommandRecorder) : Advances redactor false [] r r where
  line := rfl
  prompted := by simp [stillPrompted, submittedLines]
  commands := by simp [keptLines, submittedLines]

theorem Advances.trans {prompt : Bool} {first second : List ℕ}
    (early : Advances redactor prompt first r r') (late : Advances redactor false second r' r'') :
    Advances redactor prompt (first ++ second) r r'' where
  line := by rw [late.line, early.line, foldl_append]
  prompted := by
    rw [late.prompted, Bool.or_false, early.line, early.prompted, submittedLines_append,
      stillPrompted_append]
  commands := by
    rw [late.commands, Bool.or_false, early.commands, early.line, early.prompted,
      submittedLines_append, keptLines_append, map_append, append_assoc]

/-- Two prompts with nothing typed between them are one. -/
theorem Advances.prompts {first second : Bool}
    (early : Advances redactor first [] r r') (late : Advances redactor second [] r' r'') :
    Advances redactor (first || second) [] r r'' where
  line := late.line.trans early.line
  prompted := by
    rw [late.prompted, early.prompted]
    simp [stillPrompted, submittedLines, Bool.or_assoc]
  commands := by
    rw [late.commands, early.commands]
    simp [keptLines, submittedLines]

theorem markSensitivePrompt_advances (r : CommandRecorder) :
    Advances redactor true [] r r.markSensitivePrompt where
  line := rfl
  prompted := by simp [stillPrompted, submittedLines, markSensitivePrompt]
  commands := by simp [keptLines, submittedLines, markSensitivePrompt, commandTexts]

theorem observeOutput_advances (r : CommandRecorder) (data : Bytes) :
    Advances redactor (isSensitivePrompt data) [] r (r.observeOutput data) := by
  unfold observeOutput
  split
  · rename_i empty
    rw [length_eq_zero_iff.mp empty]
    exact Advances.refl r
  have marked : Advances redactor (isSensitivePrompt data) [] r
      (if isSensitivePrompt data then { r with sensitivePrompt := true } else r) := by
    cases isSensitivePrompt data with
    | false => exact Advances.refl r
    | true => exact markSensitivePrompt_advances r
  dsimp only
  split
  · exact marked
  rename_i present
  refine ⟨marked.line, marked.prompted, ?_⟩
  rw [← marked.commands]
  simp [commandTexts, present]

theorem submitLineLocked_advances (r : CommandRecorder) {value : ℕ}
    (ends : value = 0x0D ∨ value = 0x0A) :
    Advances redactor false [value] r (r.submitLineLocked redactor) := by
  have lines : submittedLines r.line [value] = [lineText r.line] := by
    simp [submittedLines, ends]
  have cleared : [value].foldl editRune r.line = [] := by
    simp [editRune, ends]
  unfold submitLineLocked
  dsimp only
  split
  · rename_i blank
    refine ⟨cleared.symm, ?_, ?_⟩
    · simp [lines, blank, stillPrompted]
    · simp [lines, blank, keptLines, commandTexts]
  rename_i text
  split
  · rename_i prompted
    refine ⟨cleared.symm, ?_, ?_⟩
    · simp [lines, text, stillPrompted]
    · simp [lines, text, keptLines, commandTexts, prompted]
  rename_i calm
  have prompted : r.sensitivePrompt = false := by simpa using calm
  obtain ⟨line, flag⟩ := start_same redactor { r with line := [] } (lineText r.line) .edited
  refine ⟨line.trans cleared.symm, ?_, ?_⟩
  · rw [flag]
    simp [stillPrompted, prompted]
  · rw [commandTexts_start]
    simp [lines, text, keptLines, prompted, commandTexts]

theorem observeRune_advances (r : CommandRecorder) (value : ℕ) :
    Advances redactor false [value] r (r.observeRune redactor value) := by
  by_cases ends : value = 0x0D ∨ value = 0x0A
  · rw [observeRune, if_pos ends]
    exact submitLineLocked_advances r ends
  have lines : submittedLines r.line [value] = [] := by simp [submittedLines, ends]
  have edited : ∃ line, r.observeRune redactor value = { r with line := line } ∧
      line = editRune r.line value := by
    unfold observeRune editRune
    rw [if_neg ends]
    split
    · exact ⟨_, rfl, rfl⟩
    by_cases tab : value = 0x09
    · rw [if_pos tab, if_pos (.inl tab)]
      exact ⟨_, rfl, rfl⟩
    rw [if_neg tab]
    by_cases printable : 0x20 ≤ value ∧ value ≠ 0x1B
    · rw [if_pos printable, if_pos (.inr printable)]
      exact ⟨_, rfl, rfl⟩
    · rw [if_neg printable, if_neg (not_or_intro tab printable)]
      exact ⟨r.line, rfl, rfl⟩
  obtain ⟨line, same, rfl⟩ := edited
  rw [same]
  refine ⟨rfl, ?_, ?_⟩
  · simp [lines, stillPrompted]
  · simp [lines, keptLines, commandTexts]

theorem observeInput_advances (r : CommandRecorder) (data : Bytes) :
    Advances redactor false (typedRunes data) r (r.observeInput redactor data) := by
  change Advances redactor false _ r ((typedRunes data).foldl (observeRune redactor) r)
  generalize typedRunes data = values
  induction values generalizing r with
  | nil => exact Advances.refl r
  | cons value values ih => exact (observeRune_advances r value).trans (ih _)

end CommandRecorder

/-! ## The session recorder -/

/-- The runes a call types. -/
def RecorderCall.typed : RecorderCall → List ℕ
  | .output _ => []
  | .input data => typedRunes data

namespace SessionRecorder

/-- A call brings the command recorder a sensitive prompt. -/
def brings (redactor : AuditRedactor) (r : SessionRecorder) : RecorderCall → Bool
  | .output data =>
    if data.length = 0 then false
    else
      r.detectsPrompt redactor data ||
        isSensitivePrompt (r.handedOver redactor (.output data))
  | .input data =>
    if data.length = 0 then false
    else isSensitivePrompt (r.handedOver redactor (.input data))

/-- The recorder is open and records commands. -/
structure Logging (r : SessionRecorder) : Prop where
  going : r.closed = false
  recordCommands : r.recordCommands = true

variable (redactor : AuditRedactor)

variable {r : SessionRecorder}

theorem observeSensitivePrompt_advances (logging : r.Logging) (data : Bytes) :
    r.commands.Advances redactor (r.detectsPrompt redactor data) []
        (r.observeSensitivePrompt redactor data).commands ∧
      (r.observeSensitivePrompt redactor data).Logging := by
  unfold observeSensitivePrompt detectsPrompt
  cases redactor.redactionEnabled with
  | false => exact ⟨CommandRecorder.Advances.refl _, logging⟩
  | true =>
    simp only [Bool.not_true]
    cases isSensitivePrompt (r.promptTail ++ toLower data) with
    | false => exact ⟨CommandRecorder.Advances.refl _, logging.going, logging.recordCommands⟩
    | true =>
      exact ⟨markSensitivePrompt_advances _, logging.going, logging.recordCommands⟩

theorem storeOutput_advances (logging : r.Logging) (redacted : Bytes) :
    r.commands.Advances redactor (isSensitivePrompt redacted) []
        (r.storeOutput redacted).commands ∧ (r.storeOutput redacted).Logging := by
  have observed : r.commands.Advances redactor (isSensitivePrompt redacted) []
      (r.commands.observeOutput redacted) :=
    observeOutput_advances r.commands redacted
  unfold storeOutput writeOutput
  rw [if_pos logging.recordCommands]
  split
  · exact ⟨observed, logging.going, logging.recordCommands⟩
  · exact ⟨observed, logging.going, logging.recordCommands⟩

theorem recordOutput_advances (logging : r.Logging) (data : Bytes) :
    r.commands.Advances redactor (r.brings redactor (.output data)) []
        (r.recordOutput redactor data).commands ∧ (r.recordOutput redactor data).Logging := by
  unfold recordOutput brings
  dsimp only
  by_cases empty : data.length = 0
  · have skipped : data.length = 0 ∨ r.closed := .inl empty
    rw [if_pos skipped, if_pos empty]
    exact ⟨CommandRecorder.Advances.refl _, logging⟩
  have handled : ¬(data.length = 0 ∨ r.closed) := by simp [empty, logging.going]
  rw [if_neg handled, if_neg empty]
  obtain ⟨prompted, still⟩ := observeSensitivePrompt_advances redactor logging data
  dsimp only [handedOver]
  rw [observeSensitivePrompt_output]
  cases r.output.write redactor data with
  | none =>
    have blank : isSensitivePrompt [] = false := by decide +kernel
    rw [blank, Bool.or_false]
    exact ⟨prompted, still.going, still.recordCommands⟩
  | some written =>
    have logging' : Logging { r.observeSensitivePrompt redactor data with output := written.1 } :=
      { still with }
    obtain ⟨stored, stays⟩ := storeOutput_advances redactor logging' written.2
    exact ⟨prompted.prompts stored, stays⟩

theorem flushPendingOutputLocked_advances (logging : r.Logging) :
    r.commands.Advances redactor (isSensitivePrompt (r.output.flush redactor).2) []
        (r.flushPendingOutputLocked redactor).commands ∧
      (r.flushPendingOutputLocked redactor).Logging := by
  unfold flushPendingOutputLocked
  dsimp only
  split
  · rename_i empty
    rw [length_eq_zero_iff.mp empty]
    exact ⟨CommandRecorder.Advances.refl _, logging.going, logging.recordCommands⟩
  · have logging' : Logging { r with output := (r.output.flush redactor).1 } :=
      { logging with }
    exact storeOutput_advances redactor logging' _

/-- Recording the input itself leaves the commands alone. -/
theorem redactInputFrame_same {r r' : SessionRecorder} {data redacted : Bytes}
    (framed : r.redactInputFrame redactor data = some (r', redacted)) :
    r'.commands = r.commands ∧ r'.closed = r.closed ∧ r'.recordCommands = r.recordCommands := by
  unfold redactInputFrame at framed
  split at framed
  · obtain ⟨written, -, same⟩ := map_eq_some_iff.mp framed
    cases same
    exact ⟨rfl, rfl, rfl⟩
  split at framed
  · cases framed
    exact ⟨rfl, rfl, rfl⟩
  next lineEnd found =>
  generalize (if (data.drop lineEnd).take 2 = [0x0D, 0x0A] then lineEnd + 2 else lineEnd + 1) =
    remainderStart at framed
  dsimp only at framed
  split at framed
  · obtain ⟨written, -, same⟩ := map_eq_some_iff.mp framed
    cases same
    exact ⟨rfl, rfl, rfl⟩
  · cases framed
    exact ⟨rfl, rfl, rfl⟩

theorem recordInputBytes_advances (logging : r.Logging) (data : Bytes) :
    r.commands.Advances redactor (r.brings redactor (.input data)) (typedRunes data)
        (r.recordInputBytes redactor data).commands ∧
      (r.recordInputBytes redactor data).Logging := by
  unfold recordInputBytes brings
  dsimp only
  by_cases empty : data.length = 0
  · have skipped : data.length = 0 ∨ r.closed := .inl empty
    rw [length_eq_zero_iff.mp empty]
    exact ⟨CommandRecorder.Advances.refl _, logging⟩
  have handled : ¬(data.length = 0 ∨ r.closed) := by simp [empty, logging.going]
  rw [if_neg handled, if_neg empty]
  obtain ⟨flushed, still⟩ := flushPendingOutputLocked_advances redactor logging
  generalize r.flushPendingOutputLocked redactor = flush at flushed still ⊢
  rw [if_pos still.recordCommands]
  have typed : r.commands.Advances redactor (isSensitivePrompt (r.output.flush redactor).2)
      (typedRunes data) (flush.commands.observeInput redactor data) :=
    flushed.trans (observeInput_advances _ data)
  split
  · split
    · split
      · exact ⟨typed, still.going, still.recordCommands⟩
      · exact ⟨typed, still.going, still.recordCommands⟩
    · rename_i written
      obtain ⟨commands, closed, records⟩ := redactInputFrame_same redactor written
      unfold writeInput
      split
      · exact ⟨by rw [commands]; exact typed, closed.trans still.going,
          records.trans still.recordCommands⟩
      · exact ⟨by rw [commands]; exact typed, closed.trans still.going,
          records.trans still.recordCommands⟩
  · exact ⟨typed, still.going, still.recordCommands⟩

theorem act_advances (logging : r.Logging) (call : RecorderCall) :
    r.commands.Advances redactor (r.brings redactor call) call.typed
        (r.act redactor call).commands ∧ (r.act redactor call).Logging := by
  cases call with
  | output data => exact recordOutput_advances redactor logging data
  | input data => exact recordInputBytes_advances redactor logging data

/-- A command that came with a request is recorded unless it is blank. -/
theorem recordCommand_texts (logging : r.Logging) (command : Bytes) :
    (r.recordCommand redactor command).commands.commandTexts = r.commands.commandTexts ++
        (if Utf8.trimSpace command = [] then []
          else [redactor.redact .command (Utf8.trimSpace command)]) ∧
      (r.recordCommand redactor command).Logging := by
  unfold recordCommand
  by_cases empty : command.length = 0
  · have skipped : !r.recordCommands ∨ command.length = 0 ∨ r.closed := .inr (.inl empty)
    rw [if_pos skipped, length_eq_zero_iff.mp empty]
    have blank : Utf8.trimSpace [] = [] := by decide
    exact ⟨by rw [if_pos blank, append_nil], logging⟩
  have handled : ¬(!r.recordCommands ∨ command.length = 0 ∨ r.closed) := by
    simp [empty, logging.going, logging.recordCommands]
  rw [if_neg handled]
  obtain ⟨flushed, still⟩ := flushPendingOutputLocked_advances redactor logging
  generalize r.flushPendingOutputLocked redactor = flush at flushed still ⊢
  have same : flush.commands.commandTexts = r.commands.commandTexts := by
    simpa [submittedLines, keptLines] using flushed.commands
  refine ⟨?_, still.going, still.recordCommands⟩
  dsimp only [recordDirect]
  split
  · rw [append_nil, same]
  rw [← same, ← commandTexts_start redactor flush.commands _ .exact]
  unfold commandTexts
  cases (flush.commands.startCommand redactor (Utf8.trimSpace command) .exact).current with
  | none => rfl
  | some => simp

/-- Closing keeps the texts of the commands. -/
theorem close_texts (logging : r.Logging) :
    (r.close redactor).commands.commandTexts = r.commands.commandTexts ∧
      (r.close redactor).closed ∧ (r.close redactor).recordCommands := by
  have written : ∀ (r : SessionRecorder) (data : Bytes), (r.writeInput data).closed = r.closed ∧
        (r.writeInput data).recordCommands = r.recordCommands := by
    intro r data
    unfold writeInput
    split
    · exact ⟨rfl, rfl⟩
    · exact ⟨rfl, rfl⟩
  have stored : ∀ (r : SessionRecorder) (data : Bytes), (r.storeOutput data).closed = r.closed ∧
        (r.storeOutput data).recordCommands = r.recordCommands := by
    intro r data
    unfold storeOutput writeOutput
    repeat' split
    all_goals exact ⟨rfl, rfl⟩
  have flushed : (flushPendingOutputLocked redactor { r with closed := true }).closed ∧
      (flushPendingOutputLocked redactor { r with closed := true }).recordCommands := by
    unfold flushPendingOutputLocked
    dsimp only
    split
    · exact ⟨rfl, logging.recordCommands⟩
    · obtain ⟨closed, records⟩ := stored
        { r with closed := true, output := (r.output.flush redactor).1 } (r.output.flush redactor).2
      exact ⟨closed, records.trans logging.recordCommands⟩
  have current : (r.close redactor).commands.current = none := by
    rw [close, if_neg (by simp [logging.going])]
    exact flush_current redactor _
  refine ⟨?_, ?_, ?_⟩
  · rw [← close_events redactor logging.going, commandTexts, current]
    simp
  · rw [close, if_neg (by simp [logging.going])]
    exact (written _ _).1.trans flushed.1
  · rw [close, if_neg (by simp [logging.going])]
    exact (written _ _).2.trans flushed.2

theorem fresh_logging (recordInput : Bool) : (fresh recordInput).Logging := ⟨rfl, rfl⟩

theorem run_logging (logging : r.Logging) (calls : List RecorderCall) :
    (r.run redactor calls).Logging := by
  induction calls generalizing r with
  | nil => exact logging
  | cons call calls ih => exact ih (act_advances redactor logging call).2

/-! ## Runs -/

variable {ι : Type*} [DecidableEq ι]

/-- The recorder of the connection after the events of all channels. -/
def shared (recordInput : Bool) (events : List (ι × RecorderCall)) : SessionRecorder :=
  (fresh recordInput).run redactor (events.map Prod.snd)

/-- A recorder of a channel's own. -/
def apart (recordInput : Bool) (channel : ι) (events : List (ι × RecorderCall)) :
    SessionRecorder :=
  (fresh recordInput).run redactor (own channel events)

/-- The line under the cursor, and whether a prompt waits. -/
def standing (r : SessionRecorder) : List ℕ × Bool :=
  (r.commands.line, r.commands.sensitivePrompt)

/-- Another channel takes its turn only between two lines, while no prompt waits. -/
def TurnsBetweenLines (recordInput : Bool) (events : List (ι × RecorderCall)) : Prop :=
  ∀ before event next, before ++ [event] ++ [next] <+: events → event.1 ≠ next.1 →
    (shared redactor recordInput (before ++ [event])).standing = ([], false)

/-- As long as no prompt waits, a chunk brings a prompt to the shared recorder exactly when it
brings one to a recorder of its channel's own. -/
def PromptsApart (recordInput : Bool) (events : List (ι × RecorderCall)) : Prop :=
  ∀ before event, before ++ [event] <+: events →
    (shared redactor recordInput before).commands.sensitivePrompt = false →
    (shared redactor recordInput before).brings redactor event.2 =
      (apart redactor recordInput event.1 before).brings redactor event.2

/-- The commands of a list of calls. -/
def commandsOf (recordInput : Bool) (calls : List RecorderCall) : Multiset Bytes :=
  ((((fresh recordInput).run redactor calls).close redactor).commands.events.map
    CommandEvent.command : List Bytes)

theorem commandsOf_eq (recordInput : Bool) (calls : List RecorderCall) :
    commandsOf redactor recordInput calls =
      (((fresh recordInput).run redactor calls).commands.commandTexts : Multiset Bytes) := by
  rw [commandsOf, close_events redactor (run_logging redactor (fresh_logging _) calls).going]

variable {redactor} {recordInput : Bool} {events : List (ι × RecorderCall)} {event : ι × RecorderCall}
  {channel : ι}

omit [DecidableEq ι] in
theorem shared_concat : shared redactor recordInput (events ++ [event]) =
    (shared redactor recordInput events).act redactor event.2 := by
  rw [shared, map_append, map_singleton, run_concat, ← shared]

theorem apart_concat_self : apart redactor recordInput event.1 (events ++ [event]) =
    (apart redactor recordInput event.1 events).act redactor event.2 := by
  rw [apart, own_concat, if_pos rfl, run_concat, ← apart]

theorem apart_concat_other (other : event.1 ≠ channel) :
    apart redactor recordInput channel (events ++ [event]) =
      apart redactor recordInput channel events := by
  rw [apart, own_concat, if_neg other, append_nil, ← apart]

omit [DecidableEq ι] in
/-- Where the turn passes on, the shared recorder is between two lines. -/
theorem TurnsBetweenLines.rests (turns : TurnsBetweenLines redactor recordInput (events ++ [event]))
    (last : (events.map Prod.fst).getLast? = some channel) (other : event.1 ≠ channel) :
    (shared redactor recordInput events).standing = ([], false) := by
  induction events using reverseRecOn with
  | nil => cases last
  | append_singleton before previous _ =>
    simp only [map_append, map_singleton, getLast?_append, getLast?_singleton,
      some_or, some.injEq] at last
    exact turns before previous event (prefix_refl _) (last.trans_ne other.symm)

/-- A recorder of a channel's own stands where the shared one stands while the channel has its
turn, and between two lines otherwise. -/
def StandsApart (redactor : AuditRedactor) (recordInput : Bool) (events : List (ι × RecorderCall)) :
    Prop :=
  ∀ channel, (apart redactor recordInput channel events).standing =
    if (events.map Prod.fst).getLast? = some channel then
      (shared redactor recordInput events).standing
    else ([], false)

/-- Before an event, the recorder of its channel's own stands where the shared one does. -/
theorem StandsApart.before (stands : StandsApart redactor recordInput events)
    (turns : TurnsBetweenLines redactor recordInput (events ++ [event])) :
    (apart redactor recordInput event.1 events).standing =
      (shared redactor recordInput events).standing := by
  rw [stands event.1]
  split
  · rfl
  rename_i other
  cases last : (events.map Prod.fst).getLast? with
  | none =>
    rw [getLast?_eq_none_iff, map_eq_nil_iff] at last
    subst last
    rfl
  | some =>
    rw [last] at other
    exact (turns.rests last fun same => other (congrArg some same.symm)).symm

/-- Both recorders take an event in the same way. -/
theorem StandsApart.step (stands : StandsApart redactor recordInput events)
    (turns : TurnsBetweenLines redactor recordInput (events ++ [event]))
    (prompts : PromptsApart redactor recordInput (events ++ [event])) :
    (apart redactor recordInput event.1 (events ++ [event])).standing =
        (shared redactor recordInput (events ++ [event])).standing ∧
      ∃ added, (shared redactor recordInput (events ++ [event])).commands.commandTexts =
            (shared redactor recordInput events).commands.commandTexts ++ added ∧
          (apart redactor recordInput event.1 (events ++ [event])).commands.commandTexts =
            (apart redactor recordInput event.1 events).commands.commandTexts ++ added := by
  have aligned := stands.before turns
  rw [standing, standing, Prod.mk.injEq] at aligned
  obtain ⟨line, flag⟩ := aligned
  have both := (act_advances redactor (run_logging redactor (fresh_logging recordInput)
    (events.map Prod.snd)) event.2).1
  have alone := (act_advances redactor (run_logging redactor (fresh_logging recordInput)
    (own event.1 events)) event.2).1
  rw [← shared, ← shared_concat] at both
  rw [← apart, ← apart_concat_self] at alone
  have marked : ((apart redactor recordInput event.1 events).commands.sensitivePrompt ||
        (apart redactor recordInput event.1 events).brings redactor event.2) =
      ((shared redactor recordInput events).commands.sensitivePrompt ||
        (shared redactor recordInput events).brings redactor event.2) := by
    rw [flag]
    cases waits : (shared redactor recordInput events).commands.sensitivePrompt with
    | true => rfl
    | false => rw [prompts events event (prefix_refl _) waits]
  refine ⟨?_, _, both.commands, ?_⟩
  · rw [standing, standing, alone.line, alone.prompted, both.line, both.prompted, marked, line]
  · rw [alone.commands, marked, line]

omit [DecidableEq ι] in
theorem TurnsBetweenLines.earlier
    (turns : TurnsBetweenLines redactor recordInput (events ++ [event])) :
    TurnsBetweenLines redactor recordInput events :=
  fun before last next early => turns before last next (early.trans (prefix_append _ _))

theorem PromptsApart.earlier (prompts : PromptsApart redactor recordInput (events ++ [event])) :
    PromptsApart redactor recordInput events :=
  fun before next early => prompts before next (early.trans (prefix_append _ _))

theorem stands_apart (turns : TurnsBetweenLines redactor recordInput events)
    (prompts : PromptsApart redactor recordInput events) :
    StandsApart redactor recordInput events := by
  induction events using reverseRecOn with
  | nil => exact fun channel => rfl
  | append_singleton events event ih =>
    have stands := ih turns.earlier prompts.earlier
    intro channel
    simp only [map_append, map_singleton, getLast?_append, getLast?_singleton, some_or, some.injEq]
    by_cases same : event.1 = channel
    · subst same
      rw [if_pos rfl]
      exact (stands.step turns prompts).1
    rw [apart_concat_other same, stands channel]
    split
    · next last => exact turns.rests last same
    · rfl

/-- If channels take turns between lines and show their prompts apart, the shared recorder records
the commands of all channels, each as a recorder of the channel's own would. -/
theorem commands_per_channel (redactor : AuditRedactor) (recordInput : Bool)
    (events : List (ι × RecorderCall)) (turns : TurnsBetweenLines redactor recordInput events)
    (prompts : PromptsApart redactor recordInput events) :
    commandsOf redactor recordInput (events.map Prod.snd) =
      ∑ channel ∈ channels events, commandsOf redactor recordInput (own channel events) := by
  induction events using List.reverseRecOn with
  | nil => rfl
  | append_singleton events event ih =>
    have stands := stands_apart turns.earlier prompts.earlier
    obtain ⟨-, added, both, alone⟩ := stands.step turns prompts
    have adds : commandsOf redactor recordInput (own event.1 events ++ [event.2]) =
        commandsOf redactor recordInput (own event.1 events) + (added : Multiset Bytes) := by
      rw [commandsOf_eq, commandsOf_eq, run_concat]
      rw [apart_concat_self] at alone
      exact congrArg _ alone
    rw [sum_own_concat (commandsOf redactor recordInput) rfl events event adds,
      ← ih turns.earlier prompts.earlier, commandsOf_eq, commandsOf_eq]
    exact congrArg _ both

/-- Two channels that type their commands one after the other. -/
def takingTurns : List (ℕ × RecorderCall) :=
  [(0, .output (ascii "$ ")), (1, .output (ascii "# ")), (0, .input (ascii "ls\r")),
    (1, .input (ascii "id\r"))]

theorem commands_per_channel_takingTurns :
    commandsOf plainRedactor true (takingTurns.map Prod.snd) = ∑ channel ∈ channels takingTurns,
        commandsOf plainRedactor true (own channel takingTurns) ∧
      commandsOf plainRedactor true (own 0 takingTurns) = {ascii "ls"} ∧
      commandsOf plainRedactor true (own 1 takingTurns) = {ascii "id"} := by
  refine ⟨commands_per_channel plainRedactor true takingTurns ?_ ?_, by decide +kernel,
    by decide +kernel⟩
  · intro before event next early turn
    rcases before with _ | ⟨first, _ | ⟨second, _ | ⟨third, rest⟩⟩⟩
    all_goals simp only [takingTurns, List.nil_append, List.cons_append,
      List.cons_prefix_cons] at early
    · obtain ⟨rfl, -⟩ := early
      decide +kernel
    · obtain ⟨rfl, rfl, -⟩ := early
      decide +kernel
    · obtain ⟨rfl, rfl, rfl, -⟩ := early
      decide +kernel
    · have long := early.2.2.2.length_le
      simp at long
  · intro before event early calm
    rcases before with _ | ⟨first, _ | ⟨second, _ | ⟨third, _ | ⟨fourth, rest⟩⟩⟩⟩
    all_goals simp only [takingTurns, List.nil_append, List.cons_append, List.cons_prefix_cons,
      List.prefix_nil, List.append_eq_nil_iff, List.cons_ne_nil, and_false] at early
    · obtain ⟨rfl, -⟩ := early
      decide +kernel
    · obtain ⟨rfl, rfl, -⟩ := early
      decide +kernel
    · obtain ⟨rfl, rfl, rfl, -⟩ := early
      decide +kernel
    · obtain ⟨rfl, rfl, rfl, rfl, -⟩ := early
      decide +kernel

/-- A channel that types while another one is in the middle of a line. -/
def typingAcross : List (ℕ × RecorderCall) :=
  [(0, .input (ascii "l")), (1, .input (ascii "x\r")), (0, .input (ascii "s\r"))]

/-- Neither channel typed what is recorded. -/
theorem commands_mixed_across_channels :
    commandsOf plainRedactor true (typingAcross.map Prod.snd) = {ascii "lx", ascii "s"} ∧
      commandsOf plainRedactor true (own 0 typingAcross) = {ascii "ls"} ∧
      commandsOf plainRedactor true (own 1 typingAcross) = {ascii "x"} ∧
      commandsOf plainRedactor true (typingAcross.map Prod.snd) ≠ ∑ channel ∈ channels typingAcross,
          commandsOf plainRedactor true (own channel typingAcross) := by
  decide +kernel

end SessionRecorder
end Jianmen.Recording
