import Mathlib.Data.List.Induction
import Mathlib.Data.List.Infix
import Jianmen.Recording.Session

/-!
# Completeness of the command log

What is typed is followed independently of the recorder: keystrokes are edited into lines, and
output is searched for sensitive prompts.  Every line that is not blank is recorded as one command
unless it answers a prompt, provided that the first line after a prompt is not blank.
-/

namespace Jianmen.Recording

open List CommandRecorder

open DBProxy (Bytes ascii)

/-! ## What is typed -/

/-- What happens on a terminal, as far as the command log is concerned. -/
inductive Signal where
  | prompt
  | line (text : Bytes)
  deriving DecidableEq

/-- The line under the cursor after one more rune. -/
def editRune (line : List ℕ) (value : ℕ) : List ℕ :=
  if value = 0x0D ∨ value = 0x0A then []
  else if value = 0x08 ∨ value = 0x7F then line.dropLast
  else if value = 0x09 ∨ (0x20 ≤ value ∧ value ≠ 0x1B) then line ++ [value]
  else line

/-- The texts of the lines submitted by typing runes. -/
def submittedLines : List ℕ → List ℕ → List Bytes
  | _, [] => []
  | line, value :: values =>
    (if value = 0x0D ∨ value = 0x0A then [CommandRecorder.lineText line] else []) ++
      submittedLines (editRune line value) values

/-- The values of the runes of a chunk of input. -/
def typedRunes (data : Bytes) : List ℕ :=
  (Utf8.runes data).map Utf8.Rune.lossy

/-- The line under the cursor, the end of the output, and what has happened so far. -/
structure Watch where
  line : List ℕ := []
  tail : Bytes := []
  signals : List Signal := []

/-- Follow a call. -/
def Watch.see (w : Watch) : RecorderCall → Watch
  | .output data =>
    if data.length = 0 then w
    else
      let text := w.tail ++ toLower data
      if isSensitivePrompt text then { w with tail := [], signals := w.signals ++ [.prompt] }
      else { w with tail := text.drop (text.length - SessionRecorder.promptTailBytes) }
  | .input data =>
    { w with
      line := (typedRunes data).foldl editRune w.line
      signals := w.signals ++ (submittedLines w.line (typedRunes data)).map .line }

/-- Follow a list of calls. -/
def watch (calls : List RecorderCall) : Watch :=
  calls.foldl Watch.see {}

@[simp] theorem watch_concat (calls : List RecorderCall) (call : RecorderCall) :
    watch (calls ++ [call]) = (watch calls).see call := by
  simp [watch]

/-- The next line answers a prompt. -/
def awaiting (signals : List Signal) : Bool :=
  signals.getLast? == some .prompt

/-- The commands of a list of signals: the lines that are not blank and answer no prompt. -/
def expectedFrom : Bool → List Signal → List Bytes
  | _, [] => []
  | _, .prompt :: signals => expectedFrom true signals
  | prompted, .line text :: signals =>
    (if prompted ∨ text = [] then [] else [text]) ++ expectedFrom false signals

def expected (signals : List Signal) : List Bytes :=
  expectedFrom false signals

theorem awaiting_append_line (signals : List Signal) (text : Bytes) :
    awaiting (signals ++ [.line text]) = false := by
  simp [awaiting]

theorem awaiting_append_prompt (signals : List Signal) : awaiting (signals ++ [.prompt]) := by
  simp [awaiting]

theorem expectedFrom_concat (prompted : Bool) (signals : List Signal) (signal : Signal) :
    expectedFrom prompted (signals ++ [signal]) = expectedFrom prompted signals ++
      expectedFrom (if signals = [] then prompted else awaiting signals) [signal] := by
  induction signals generalizing prompted with
  | nil => simp [expectedFrom]
  | cons first signals ih =>
    cases first with
    | prompt =>
      have last : (if signals = [] then true else awaiting signals) =
          awaiting (.prompt :: signals) := by
        cases signals with
        | nil => rfl
        | cons second rest => simp [awaiting]
      simp [expectedFrom, ih, last]
    | line text =>
      have last : (if signals = [] then false else awaiting signals) =
          awaiting (.line text :: signals) := by
        cases signals with
        | nil => simp [awaiting]
        | cons second rest => simp [awaiting]
      simp [expectedFrom, ih, last]

theorem expected_prompt (signals : List Signal) :
    expected (signals ++ [.prompt]) = expected signals := by
  simp [expected, expectedFrom_concat, expectedFrom]

theorem expected_line (signals : List Signal) (text : Bytes) : expected (signals ++ [.line text]) =
      expected signals ++ if awaiting signals ∨ text = [] then [] else [text] := by
  rw [expected, expectedFrom_concat, ← expected]
  cases signals with
  | nil => simp [awaiting, expectedFrom]
  | cons _ signals => simp [expectedFrom]

/-- No blank line answers a prompt. -/
def Answered (signals : List Signal) : Prop :=
  ∀ before, before ++ [.line []] <+: signals → awaiting before = false

/-! ## The command recorder -/

namespace CommandRecorder

variable (redactor : AuditRedactor)

/-- The texts of the commands, the current one included. -/
def commandTexts (r : CommandRecorder) : List Bytes :=
  (r.events ++ r.current.toList).map CommandEvent.command

theorem commandTexts_flush (r : CommandRecorder) :
    (r.flushCurrentLocked redactor).events.map CommandEvent.command = r.commandTexts := by
  unfold flushCurrentLocked commandTexts
  split
  · next none_open => simp [none_open]
  · next event present => simp [present]

theorem flush_current (r : CommandRecorder) : (r.flushCurrentLocked redactor).current = none := by
  unfold flushCurrentLocked
  split
  · assumption
  · rfl

theorem commandTexts_start (r : CommandRecorder) (command : Bytes) (confidence : Confidence) :
    (r.startCommand redactor command confidence).commandTexts =
      r.commandTexts ++ [redactor.redact .command command] := by
  rw [← commandTexts_flush redactor r]
  simp [startCommand, commandTexts]

/-- Starting a command leaves the line and the prompt alone. -/
theorem start_same (r : CommandRecorder) (command : Bytes) (confidence : Confidence) :
    (r.startCommand redactor command confidence).line = r.line ∧
      (r.startCommand redactor command confidence).sensitivePrompt = r.sensitivePrompt := by
  unfold startCommand flushCurrentLocked
  cases r.current with
  | none => exact ⟨rfl, rfl⟩
  | some => exact ⟨rfl, rfl⟩

/-- The recorder stands where the signals lead: the flag tells whether a prompt waits, and the
commands are the expected ones. -/
structure Stands (r : CommandRecorder) (w : Watch) : Prop where
  line : r.line = w.line
  prompted : r.sensitivePrompt = awaiting w.signals
  commands : r.commandTexts = (expected w.signals).map (redactor.redact .command)

variable {redactor} {r : CommandRecorder} {w : Watch}

theorem Stands.submit (stands : Stands redactor r w)
    (answered : Answered (w.signals ++ [.line (lineText w.line)])) :
    Stands redactor (r.submitLineLocked redactor)
      { w with line := [], signals := w.signals ++ [.line (lineText w.line)] } := by
  unfold submitLineLocked
  rw [stands.line]
  dsimp only
  split
  · rename_i blank
    have calm : awaiting w.signals = false := by
      apply answered w.signals
      rw [blank]
    refine ⟨rfl, ?_, ?_⟩
    · rw [awaiting_append_line]
      exact stands.prompted.trans calm
    · rw [expected_line, blank]
      simp only [or_true, if_true, append_nil]
      exact stands.commands
  · rename_i text
    split
    · rename_i prompted
      have waits : awaiting w.signals := stands.prompted.symm.trans prompted
      refine ⟨rfl, (awaiting_append_line _ _).symm, ?_⟩
      rw [expected_line, waits]
      simp only [true_or, if_true, append_nil]
      exact stands.commands
    · rename_i calm
      have waits : awaiting w.signals = false :=
        stands.prompted.symm.trans (by simpa using calm)
      obtain ⟨line, prompted⟩ := start_same redactor { r with line := [] } (lineText w.line) .edited
      refine ⟨line, ?_, ?_⟩
      · rw [prompted, awaiting_append_line]
        simpa using calm
      · rw [commandTexts_start, expected_line, waits]
        have kept : commandTexts { r with line := [] } = r.commandTexts := rfl
        simp [kept, stands.commands, text]

/-- Keystrokes within a line. -/
theorem Stands.keystroke (stands : Stands redactor r w) {value : ℕ}
    (inside : ¬(value = 0x0D ∨ value = 0x0A)) :
    Stands redactor (r.observeRune redactor value) { w with line := editRune w.line value } := by
  unfold observeRune editRune
  rw [if_neg inside]
  split
  · exact { stands with line := congrArg dropLast stands.line }
  by_cases tab : value = 0x09
  · rw [if_pos tab, if_pos (.inl tab)]
    exact { stands with line := congrArg (· ++ [value]) stands.line }
  rw [if_neg tab]
  by_cases printable : 0x20 ≤ value ∧ value ≠ 0x1B
  · rw [if_pos printable, if_pos (.inr printable)]
    exact { stands with line := congrArg (· ++ [value]) stands.line }
  · rw [if_neg printable, if_neg (not_or_intro tab printable)]
    exact stands

theorem Stands.typing (stands : Stands redactor r w) (values : List ℕ)
    (answered : Answered (w.signals ++ (submittedLines w.line values).map .line)) :
    Stands redactor (values.foldl (observeRune redactor) r) { w with
        line := values.foldl editRune w.line
        signals := w.signals ++ (submittedLines w.line values).map .line } := by
  induction values generalizing r w with
  | nil => simpa [submittedLines] using stands
  | cons value values ih =>
    by_cases ends : value = 0x0D ∨ value = 0x0A
    · have cleared : editRune w.line value = [] := by rw [editRune, if_pos ends]
      have lines : w.signals ++ (submittedLines w.line (value :: values)).map Signal.line =
          (w.signals ++ [.line (lineText w.line)]) ++
            (submittedLines [] values).map Signal.line := by
        simp [submittedLines, ends, cleared]
      rw [lines] at answered ⊢
      have submitted := stands.submit fun before early =>
        answered before (early.trans (prefix_append _ _))
      have rest := ih submitted answered
      simp only [foldl_cons, cleared, observeRune, if_pos ends]
      exact rest
    · have lines : submittedLines w.line (value :: values) =
          submittedLines (editRune w.line value) values := by
        simp [submittedLines, ends]
      rw [lines] at answered ⊢
      exact ih (stands.keystroke ends) answered

/-- Output leaves the line and the commands alone, and may hold a prompt. -/
theorem Stands.output (stands : Stands redactor r w)
    {data : Bytes} (seen : isSensitivePrompt data → awaiting w.signals) :
    Stands redactor (r.observeOutput data) w := by
  unfold observeOutput
  split
  · exact stands
  have marked : Stands redactor
      (if isSensitivePrompt data then { r with sensitivePrompt := true } else r) w := by
    split
    · next prompt => exact ⟨stands.line, (seen prompt).symm, stands.commands⟩
    · exact stands
  dsimp only
  split
  · exact marked
  rename_i present
  refine ⟨marked.line, marked.prompted, ?_⟩
  rw [← marked.commands]
  simp [commandTexts, present]

end CommandRecorder

/-! ## Line ends -/

theorem submittedLines_eq_nil (line values : List ℕ) :
    submittedLines line values = [] ↔ 0x0D ∉ values ∧ 0x0A ∉ values := by
  induction values generalizing line with
  | nil => simp [submittedLines]
  | cons value values ih =>
    simp only [submittedLines, append_eq_nil_iff, ih]
    by_cases ends : value = 0x0D ∨ value = 0x0A
    · rcases ends with rfl | rfl
      · simp
      · simp
    · rw [if_neg ends]
      obtain ⟨first, second⟩ := not_or.mp ends
      simp [Ne.symm first, Ne.symm second]

/-- A chunk submits a line exactly when it has a line end. -/
theorem submits_iff (line : List ℕ) (data : Bytes) :
    submittedLines line (typedRunes data) = [] ↔ data.findIdx? isLineEnd = none := by
  have typed : ∀ byte : UInt8, byte < 0x80 → (byte.toNat ∈ typedRunes data ↔ byte ∈ data) :=
    fun byte low => Utf8.mem_runesUpTo_ascii low _ data (Nat.le_refl _)
  have returns := typed 0x0D (by decide)
  have feeds := typed 0x0A (by decide)
  rw [submittedLines_eq_nil, findIdx?_eq_none_iff]
  constructor
  · rintro ⟨no_return, no_feed⟩ byte member
    have first : byte ≠ 0x0D := by
      rintro rfl
      exact no_return (returns.mpr member)
    have second : byte ≠ 0x0A := by
      rintro rfl
      exact no_feed (feeds.mpr member)
    simp [isLineEnd, first, second]
  · intro none_ends
    constructor
    · intro member
      exact absurd (none_ends 0x0D (returns.mp member)) (by decide)
    · intro member
      exact absurd (none_ends 0x0A (feeds.mp member)) (by decide)

/-! ## The session recorder -/

namespace SessionRecorder

variable {redactor : AuditRedactor} {recording : Bool}

/-- The redacted output a call hands to the command recorder. -/
def handedOver (redactor : AuditRedactor) (r : SessionRecorder) : RecorderCall → Bytes
  | .output data =>
    match r.output.write redactor data with
    | none => []
    | some (_, redacted) => redacted
  | .input _ => (r.output.flush redactor).2

/-- The recorder stands where the calls lead. -/
structure Following (redactor : AuditRedactor) (recording : Bool) (r : SessionRecorder)
    (w : Watch) : Prop where
  going : r.closed = false
  recordCommands : r.recordCommands = true
  recordInput : r.recordInput = recording
  tail : r.promptTail = w.tail
  commands : r.commands.Stands redactor w
  marked : recording = true → r.redactInput = awaiting w.signals

variable {r : SessionRecorder} {w : Watch} {data : Bytes} {redacted : Bytes}

theorem Following.storeOutput (following : Following redactor recording r w)
    (seen : isSensitivePrompt redacted → awaiting w.signals) :
    Following redactor recording (r.storeOutput redacted) w := by
  have observed := following.commands.output seen
  unfold SessionRecorder.storeOutput writeOutput
  rw [if_pos following.recordCommands]
  split
  · exact { following with commands := observed }
  · exact { following with commands := observed }

theorem Following.observeSensitivePrompt (following : Following redactor recording r w)
    (enabled : redactor.redactionEnabled) (nonempty : data.length ≠ 0) :
    Following redactor recording (r.observeSensitivePrompt redactor data) (w.see (.output data)) := by
  simp only [SessionRecorder.observeSensitivePrompt, enabled, Bool.not_true, Bool.false_eq_true,
    if_false, Watch.see, following.tail]
  split
  · refine { following with
      tail := rfl
      commands := ⟨following.commands.line, ?_, ?_⟩
      marked := fun _ => (awaiting_append_prompt _).symm }
    · exact (awaiting_append_prompt _).symm
    · rw [expected_prompt]
      exact following.commands.commands
  · exact { following with tail := rfl, commands := { following.commands with } }

theorem observeSensitivePrompt_output (r : SessionRecorder) (data : Bytes) :
    (r.observeSensitivePrompt redactor data).output = r.output := by
  unfold observeSensitivePrompt
  dsimp only
  repeat' split
  all_goals rfl

theorem Following.recordOutput (following : Following redactor recording r w)
    (enabled : redactor.redactionEnabled)
    (seen : isSensitivePrompt (r.handedOver redactor (.output data)) →
      awaiting (w.see (.output data)).signals) :
    Following redactor recording (r.recordOutput redactor data) (w.see (.output data)) := by
  unfold SessionRecorder.recordOutput
  by_cases empty : data.length = 0
  · simpa [Watch.see, empty] using following
  rw [if_neg (by simp [empty, following.going])]
  have prompted := following.observeSensitivePrompt enabled empty
  have same : (r.observeSensitivePrompt redactor data).output = r.output :=
    observeSensitivePrompt_output r data
  simp only [handedOver] at seen
  dsimp only
  rw [same]
  split
  · exact { prompted with }
  rename_i output redacted written
  rw [written] at seen
  have stored : Following redactor recording
      { r.observeSensitivePrompt redactor data with output := output }
      (w.see (.output data)) :=
    { prompted with }
  exact stored.storeOutput seen

theorem Following.flushPendingOutputLocked (following : Following redactor recording r w)
    (seen : isSensitivePrompt (r.output.flush redactor).2 → awaiting w.signals) :
    Following redactor recording (r.flushPendingOutputLocked redactor) w := by
  unfold SessionRecorder.flushPendingOutputLocked
  have flushed : Following redactor recording { r with output := (r.output.flush redactor).1 } w :=
    { following with }
  dsimp only
  split
  · exact flushed
  · exact flushed.storeOutput seen

/-- The marker of the input recording stands for the line that the chunk submits first. -/
theorem redactInputFrame_flag {r r' : SessionRecorder} {data : Bytes}
    (enabled : redactor.redactionEnabled)
    (framed : r.redactInputFrame redactor data = some (r', redacted)) :
    r'.redactInput = (r.redactInput && (data.findIdx? isLineEnd).isNone) ∧
      r'.closed = r.closed ∧ r'.recordCommands = r.recordCommands ∧
      r'.recordInput = r.recordInput ∧ r'.promptTail = r.promptTail ∧ r'.commands = r.commands := by
  unfold redactInputFrame at framed
  simp only [enabled, Bool.not_true, Bool.false_eq_true, false_or, Bool.not_eq_true'] at framed
  cases flag : r.redactInput with
  | false =>
    rw [if_pos flag] at framed
    obtain ⟨written, -, same⟩ := Option.map_eq_some_iff.mp framed
    obtain ⟨rfl, -⟩ := same
    simp [flag]
  | true =>
    rw [if_neg (by simp [flag])] at framed
    split at framed
    · rename_i inside
      obtain ⟨rfl, -⟩ := framed
      simp [flag, inside]
    rename_i found
    repeat' split at framed
    all_goals first
      | (obtain ⟨written, -, same⟩ := Option.map_eq_some_iff.mp framed
         simp only [Prod.mk.injEq] at same
         obtain ⟨rfl, -⟩ := same
         simp [found])
      | (obtain ⟨rfl, -⟩ := framed
         simp [found])

theorem redactInputFrame_failed (enabled : redactor.redactionEnabled)
    (flag : r.redactInput) (failed : r.redactInputFrame redactor data = none) :
    (data.findIdx? isLineEnd).isSome := by
  unfold redactInputFrame at failed
  rw [if_neg (by simp [enabled, flag])] at failed
  split at failed
  · cases failed
  · next lineEnd found => simp [found]

theorem Following.recordInputBytes (following : Following redactor recording r w)
    (enabled : redactor.redactionEnabled)
    (seen : isSensitivePrompt (r.handedOver redactor (.input data)) →
      awaiting w.signals) (answered : Answered (w.see (.input data)).signals) :
    Following redactor recording (r.recordInputBytes redactor data) (w.see (.input data)) := by
  unfold SessionRecorder.recordInputBytes
  by_cases empty : data.length = 0
  · rw [length_eq_zero_iff.mp empty]
    simpa [Watch.see, typedRunes, Utf8.runes, Utf8.runesUpTo, submittedLines] using following
  rw [if_neg (by simp [empty, following.going])]
  have flushed := following.flushPendingOutputLocked seen
  generalize r.flushPendingOutputLocked redactor = flush at flushed ⊢
  dsimp only
  rw [if_pos flushed.recordCommands]
  have typed : (flush.commands.observeInput redactor data).Stands redactor (w.see (.input data)) :=
    flushed.commands.typing (typedRunes data) answered
  have lowered : recording → (flush.redactInput && (data.findIdx? isLineEnd).isNone) =
        awaiting (w.see (.input data)).signals := by
    intro records
    rw [flushed.marked records]
    cases lines : submittedLines w.line (typedRunes data) with
    | nil =>
      have inside := (submits_iff w.line data).mp lines
      simp [Watch.see, lines, inside]
    | cons =>
      have ends : data.findIdx? isLineEnd ≠ none := fun inside =>
        by simpa [lines] using (submits_iff w.line data).mpr inside
      obtain ⟨lineEnd, found⟩ := Option.ne_none_iff_exists'.mp ends
      rw [found]
      simp only [Option.isNone_some, Bool.and_false, Watch.see, lines]
      rw [awaiting, getLast?_append_of_ne_nil _ (by simp), getLast?_map]
      simp
  split
  · rename_i wanted
    have records := flushed.recordInput.symm.trans wanted
    split
    · rename_i failed
      split
      · rename_i marked
        obtain ⟨lineEnd, found⟩ := Option.isSome_iff_exists.mp
          (redactInputFrame_failed enabled marked.2 failed)
        refine { flushed with commands := typed, marked := fun _ => ?_ }
        rw [← lowered records, found]
        simp [reportFatal]
      · rename_i unmarked
        have flag : flush.redactInput = false := by simpa [enabled] using unmarked
        refine { flushed with commands := typed, marked := fun _ => ?_ }
        rw [← lowered records, flag]
        simp [reportFatal]
    · rename_i framed redacted written
      obtain ⟨flag, going, stays, inputs, tail, commands⟩ :=
        redactInputFrame_flag enabled written
      have framing : Following redactor recording framed (w.see (.input data)) := by
        refine ⟨going.trans flushed.going, stays.trans flushed.recordCommands,
          inputs.trans flushed.recordInput, tail.trans flushed.tail, ?_, fun _ => ?_⟩
        · rw [commands]
          exact typed
        · exact flag.trans (lowered records)
      unfold writeInput
      split
      · exact framing
      · exact { framing with }
  · rename_i unrecorded
    exact { flushed with
      commands := typed
      marked := fun records => absurd (flushed.recordInput.trans records) unrecorded }

end SessionRecorder

/-! ## Runs -/

/-- The command recorder meets a prompt in redacted output only while that prompt, or another one,
waits for its answer. -/
def PromptsSeen (redactor : AuditRedactor) (r : SessionRecorder) (calls : List RecorderCall) :
    Prop :=
  ∀ before call, before ++ [call] <+: calls →
    isSensitivePrompt ((r.run redactor before).handedOver redactor call) = true →
    match call with
    | .output _ => awaiting (watch (before ++ [call])).signals = true
    | .input _ => awaiting (watch before).signals = true

theorem signals_grow (w : Watch) (call : RecorderCall) : w.signals <+: (w.see call).signals := by
  cases call with
  | output data =>
    simp only [Watch.see]
    repeat' split
    all_goals simp
  | input data => exact prefix_append _ _

namespace SessionRecorder

/-- A recorder that records commands. -/
def fresh (recordInput : Bool) : SessionRecorder where
  recordInput := recordInput
  recordCommands := true

theorem run_following {redactor : AuditRedactor} (enabled : redactor.redactionEnabled)
    (recordInput : Bool) {calls : List RecorderCall} (answered : Answered (watch calls).signals)
    (seen : PromptsSeen redactor (fresh recordInput) calls) :
    Following redactor recordInput ((fresh recordInput).run redactor calls) (watch calls) := by
  induction calls using reverseRecOn with
  | nil => exact ⟨rfl, rfl, rfl, rfl, ⟨rfl, rfl, rfl⟩, fun _ => rfl⟩
  | append_singleton calls call ih =>
    rw [watch_concat] at answered ⊢
    rw [run_concat]
    have earlier : Following redactor recordInput ((fresh recordInput).run redactor calls)
      (watch calls) := by
      refine ih (fun before early => ?_) fun before call early => ?_
      · exact answered before (early.trans (signals_grow _ _))
      · exact seen before call (early.trans (prefix_append _ _))
    have now := seen calls call (prefix_refl _)
    cases call with
    | output data =>
      simp only [watch_concat] at now
      exact earlier.recordOutput enabled now
    | input data => exact earlier.recordInputBytes enabled now answered

/-- Closing writes all commands out. -/
theorem close_events (redactor : AuditRedactor) {r : SessionRecorder} (going : r.closed = false) :
    (r.close redactor).commands.events.map CommandEvent.command = r.commands.commandTexts := by
  have observed : ∀ (commands : CommandRecorder) (data : Bytes),
      (commands.observeOutput data).commandTexts = commands.commandTexts := by
    intro commands data
    unfold observeOutput
    split
    · rfl
    · dsimp only
      repeat' split
      all_goals simp_all [commandTexts]
  have stored : ∀ (r : SessionRecorder) (data : Bytes),
      (r.storeOutput data).commands.commandTexts = r.commands.commandTexts := by
    intro r data
    unfold storeOutput writeOutput
    repeat' split
    all_goals first
      | exact observed _ _
      | rfl
  have flushed : (flushPendingOutputLocked redactor { r with closed := true }).commands.commandTexts =
      r.commands.commandTexts := by
    unfold flushPendingOutputLocked
    dsimp only
    split
    · rfl
    · exact stored _ _
  unfold close
  rw [if_neg (by simp [going])]
  rw [← flushed, ← commandTexts_flush redactor]
  have written : ∀ (r : SessionRecorder) (data : Bytes), (r.writeInput data).commands = r.commands := by
    intro r data
    unfold writeInput
    split
    · rfl
    · rfl
  dsimp only
  rw [written]
  rfl

/-- With redaction on, and as long as the first line after a prompt is not blank, the command log
holds every line that is not blank and answers no prompt, in order and once; and the input
recording stands before the line it replaces by a marker exactly when a prompt waits. -/
theorem commands_complete (redactor : AuditRedactor) (enabled : redactor.redactionEnabled = true)
    (recordInput : Bool) (calls : List RecorderCall) (answered : Answered (watch calls).signals)
    (seen : PromptsSeen redactor (fresh recordInput) calls) :
    let r := (fresh recordInput).run redactor calls
    (r.close redactor).commands.events.map CommandEvent.command =
        (expected (watch calls).signals).map (redactor.redact .command) ∧
      (recordInput = true → r.redactInput = awaiting (watch calls).signals) := by
  intro r
  have following : Following redactor recordInput r (watch calls) :=
    run_following enabled recordInput answered seen
  refine ⟨?_, following.marked⟩
  rw [close_events redactor following.going]
  exact following.commands.commands

/-- A policy that redacts nothing. -/
def plainRedactor : AuditRedactor where
  redact _ value := value

/-- A prompt, its answer, and a command. -/
def answeredPrompt : List RecorderCall :=
  [.output (ascii "password:"), .input (ascii "x\r"), .input (ascii "ls\r")]

theorem commands_complete_answeredPrompt :
    let r := (fresh true).run plainRedactor answeredPrompt
    (r.close plainRedactor).commands.events.map CommandEvent.command = [ascii "ls"] := by
  have signals : (watch answeredPrompt).signals =
      [.prompt, .line (ascii "x"), .line (ascii "ls")] := by decide +kernel
  have complete := commands_complete plainRedactor rfl true answeredPrompt ?_ ?_
  · intro r
    rw [complete.1]
    decide +kernel
  · intro before early
    exact absurd (early.subset (List.mem_append_right _ (List.mem_singleton_self _))) (by decide)
  · intro before call early
    rcases before with _ | ⟨first, _ | ⟨second, _ | ⟨third, rest⟩⟩⟩
    all_goals simp only [answeredPrompt, List.nil_append, List.cons_append, List.cons_prefix_cons,
      List.prefix_nil, List.append_eq_nil_iff, List.cons_ne_nil, and_false] at early
    · obtain ⟨rfl, -⟩ := early
      decide +kernel
    · obtain ⟨rfl, rfl, -⟩ := early
      decide +kernel
    · obtain ⟨rfl, rfl, rfl, -⟩ := early
      decide +kernel

/-- A prompt that is answered by an empty line, and a command. -/
def dismissedPrompt : List RecorderCall :=
  [.output (ascii "password:"), .input (ascii "\r"), .input (ascii "ls\r")]

/-- The command is the second line after the prompt, and it is not recorded. -/
theorem commands_incomplete :
    let r := (fresh true).run plainRedactor dismissedPrompt
    (watch dismissedPrompt).signals = [.prompt, .line [], .line (ascii "ls")] ∧
      (r.close plainRedactor).commands.events = [] := by
  decide +kernel

end SessionRecorder
end Jianmen.Recording
