import Mathlib.Data.List.TakeWhile
import Jianmen.DBProxy.Postgres.Relay

/-!
# Frames and what they say

A frame is a type byte, a length and a payload.  What a frontend frame asks for is read from its
payload; a streamed frame is read the same whatever the chunks it came in.
-/

namespace Jianmen.DBProxy

open Postgres List

/-! ## Frames -/

/-- The length of the frame a byte stream starts with. -/
def frameLength (bytes : Bytes) : ℕ :=
  1 + bigEndian ((bytes.drop 1).take 4)

/-- A complete frame, neither more nor less. -/
def IsFrame (bytes : Bytes) : Prop :=
  5 ≤ bytes.length ∧ bytes.length = frameLength bytes

instance : DecidablePred IsFrame :=
  fun _ => inferInstanceAs (Decidable (_ ∧ _))

/-- The beginning of a frame, with its header and without its end. -/
def IsPart (bytes : Bytes) : Prop :=
  5 ≤ bytes.length ∧ bytes.length < frameLength bytes

theorem frameLength_append {bytes : Bytes} (header : 5 ≤ bytes.length) (rest : Bytes) :
    frameLength (bytes ++ rest) = frameLength bytes := by
  unfold frameLength
  rw [drop_append_of_le_length (by omega), take_append_of_le_length]
  simp only [length_drop]
  omega

theorem isFrame_take {buffer : Bytes} (header : 5 ≤ frameLength buffer)
    (complete : frameLength buffer ≤ buffer.length) :
    IsFrame (buffer.take (frameLength buffer)) := by
  have same : frameLength (buffer.take (frameLength buffer)) = frameLength buffer := by
    conv_rhs => rw [← take_append_drop (frameLength buffer) buffer]
    refine (frameLength_append ?_ _).symm
    simp only [length_take]
    omega
  constructor
  · simp only [length_take]
    omega
  · simp only [length_take]
    omega

/-- The complete frames a byte stream starts with, at most `fuel` of them. -/
def framesUpTo : ℕ → Bytes → List Bytes
  | 0, _ => []
  | fuel + 1, bytes =>
    if bytes.length < 5 ∨ frameLength bytes < 5 ∨ bytes.length < frameLength bytes then []
    else
      bytes.take (frameLength bytes) :: framesUpTo fuel (bytes.drop (frameLength bytes))

/-- The complete frames of a byte stream. -/
def wholeFrames (bytes : Bytes) : List Bytes :=
  framesUpTo bytes.length bytes

variable {frame tail : Bytes} {frames : List Bytes}

theorem IsFrame.nonempty (proper : IsFrame frame) : 0 < frame.length := by
  have := proper.1
  omega

theorem IsFrame.length_append (proper : IsFrame frame) (rest : Bytes) :
    frameLength (frame ++ rest) = frame.length := by
  rw [frameLength_append proper.1, proper.2]

theorem framesUpTo_flatten (proper : ∀ frame ∈ frames, IsFrame frame)
    (open_end : tail = [] ∨ IsPart tail) {fuel : ℕ} (enough : frames.length ≤ fuel) :
    framesUpTo fuel (frames.flatten ++ tail) = frames := by
  induction frames generalizing fuel with
  | nil =>
    cases fuel with
    | zero => rfl
    | succ fuel =>
      rw [framesUpTo, if_pos]
      rcases open_end with rfl | part
      · exact .inl (by simp)
      · exact .inr (.inr part.2)
  | cons frame rest ih =>
    cases fuel with
    | zero => simp at enough
    | succ fuel =>
      have first := proper frame (by simp)
      have length := first.length_append (rest.flatten ++ tail)
      have header := first.1
      have others := ih (fun other member => proper other (by simp [member]))
        (Nat.le_of_succ_le_succ enough)
      rw [flatten_cons, append_assoc, framesUpTo, length, if_neg, take_left, drop_left, others]
      simp only [length_append]
      omega

/-- Frames that are written one after the other are read back, also before the beginning of a
further one. -/
theorem wholeFrames_flatten (proper : ∀ frame ∈ frames, IsFrame frame)
    (open_end : tail = [] ∨ IsPart tail) : wholeFrames (frames.flatten ++ tail) = frames := by
  apply framesUpTo_flatten proper open_end
  have enough : frames.length ≤ frames.flatten.length := by
    induction frames with
    | nil => simp
    | cons frame _ ih =>
      have := (proper frame (by simp)).nonempty
      have := ih fun other member => proper other (by simp [member])
      simp only [length_cons, flatten_cons, length_append]
      omega
  simp only [length_append]
  omega

/-! ## Frontend messages -/

/-- What a frontend frame asks for, as far as the observer follows it. -/
inductive FrontendMessage where
  | query (sql : Bytes)
  | parse (name sql : Bytes)
  | bind (portal statement : Bytes)
  | execute (portal : Bytes)
  | close (target : UInt8) (name : Bytes)
  | describe
  | sync
  | other
  deriving DecidableEq

def readFrontendMessage (messageType : MessageType) (payload : Bytes) : FrontendMessage :=
  if messageType = queryType then .query (splitCString payload).1
  else if messageType = parseType then
    .parse (splitCString payload).1 (splitCString (splitCString payload).2).1
  else if messageType = bindType then
    .bind (splitCString payload).1 (splitCString (splitCString payload).2).1
  else if messageType = executeType then .execute (splitCString payload).1
  else if messageType = syncType then .sync
  else if messageType = closeType then
    .close (payload.headD 0) (splitCString (payload.drop 1)).1
  else if messageType = describeType then .describe
  else .other

/-- What a frame asks for. -/
def frameMessage (frame : Bytes) : FrontendMessage :=
  readFrontendMessage (frame.headD 0) (frame.drop 5)

theorem splitCString_terminated {text : Bytes} (clean : (0 : UInt8) ∉ text) (rest : Bytes) :
    splitCString (text ++ 0 :: rest) = (text, rest) := by
  have nonzero : ∀ byte ∈ text, (byte != 0) := by
    intro byte member
    have : byte ≠ 0 := fun zero => clean (zero ▸ member)
    simpa using this
  simp only [splitCString, Prod.mk.injEq]
  constructor
  · rw [takeWhile_append_of_pos nonzero]
    simp
  · rw [dropWhile_append_of_pos nonzero]
    simp

theorem takeWhile_clean (data : Bytes) : (0 : UInt8) ∉ data.takeWhile (· != 0) := by
  intro member
  have := mem_takeWhile_imp member
  simp at this

/-- A text with a zero byte is what stands before it, the byte, and what follows. -/
theorem split_at_zero {data : Bytes} (zero : data.contains 0) :
    data = data.takeWhile (· != 0) ++ 0 :: (data.dropWhile (· != 0)).drop 1 := by
  have whole := takeWhile_append_dropWhile (p := fun byte : UInt8 => byte != 0) (l := data)
  cases dropped : data.dropWhile (· != 0) with
  | nil =>
    exfalso
    rw [dropped, append_nil] at whole
    have member : (0 : UInt8) ∈ data := by simpa using zero
    rw [← whole] at member
    exact takeWhile_clean data member
  | cons byte =>
    have nonempty : data.dropWhile (· != 0) ≠ [] := by simp [dropped]
    have stop := head_dropWhile_not (fun byte : UInt8 => byte != 0) nonempty
    simp only [dropped, head_cons, bne_eq_false_iff_eq] at stop
    rw [dropped, stop] at whole
    simpa using whole.symm

/-! ## Audit texts -/

/-- The audit text of a streamed statement, with `previewBytes` of it to be kept. -/
def streamedAuditText (redact : Bool) (previewBytes : ℕ) (sql : Bytes) : Bytes :=
  (PostgresStreamParser.audit
    { newPostgresStreamParser parseType previewBytes redact with
      preview := sql.take
        (newPostgresStreamParser parseType previewBytes redact).previewCaptureMax
      sqlBytes := sql.length }).text

/-- An audit text a sink may be given for a statement: that of the buffered statement, or that of
the streamed one, with its preview or without. -/
def IsAuditText (sink : QuerySink) (sql text : Bytes) : Prop :=
  let policy := databaseAuditPolicy sink postgresStreamAuditPreviewBytes
  text = (databaseSQLAudit policy.1 policy.2 sql).text ∨
    text = streamedAuditText policy.2 policy.1 sql ∨ text = streamedAuditText policy.2 0 sql

/-! ## Streamed payloads -/

namespace PostgresStreamParser

/-- The parser has kept what it keeps of a statement. -/
def Kept (p : PostgresStreamParser) (sql : Bytes) : Prop :=
  p.sqlBytes = sql.length ∧ p.preview = sql.take p.previewCaptureMax

/-- What of a parser stays as it was made. -/
structure SameSetup (p p' : PostgresStreamParser) : Prop where
  messageType : p'.messageType = p.messageType
  previewMax : p'.previewMax = p.previewMax
  previewCaptureMax : p'.previewCaptureMax = p.previewCaptureMax
  redact : p'.redact = p.redact
  capturing : p'.capturing = p.capturing

theorem SameSetup.refl (p : PostgresStreamParser) : SameSetup p p :=
  ⟨rfl, rfl, rfl, rfl, rfl⟩

theorem SameSetup.trans {p₁ p₂ p₃ : PostgresStreamParser} (first : SameSetup p₁ p₂)
    (second : SameSetup p₂ p₃) : SameSetup p₁ p₃ :=
  ⟨second.messageType.trans first.messageType, second.previewMax.trans first.previewMax,
    second.previewCaptureMax.trans first.previewCaptureMax, second.redact.trans first.redact,
    second.capturing.trans first.capturing⟩

/-- Where a streamed Query stands after the payload bytes `seen`. -/
def QueryReads (p : PostgresStreamParser) (seen : Bytes) : Prop :=
  (p.phase = 0 ∧ 0 ∉ seen ∧ p.Kept seen) ∨
    ∃ sql, p.phase = 1 ∧ seen = sql ++ [0] ∧ 0 ∉ sql ∧ p.Kept sql

/-- The counters of a streamed Parse have something left to count. -/
def Counting (p : PostgresStreamParser) : Prop :=
  (p.phase = 2 → p.countBuf.length < 2) ∧ (p.phase = 3 → 0 < p.typeBytes)

/-- Where a streamed Parse stands after the payload bytes `seen`. -/
def ParseReads (p : PostgresStreamParser) (seen : Bytes) : Prop :=
  (p.phase = 0 ∧ 0 ∉ seen ∧ p.name = seen ∧ p.Kept [] ∧ p.countBuf = []) ∨
    (∃ sql, p.phase = 1 ∧ seen = p.name ++ 0 :: sql ∧ 0 ∉ p.name ∧ 0 ∉ sql ∧ p.Kept sql ∧
      p.countBuf = []) ∨
    ∃ sql tail, 2 ≤ p.phase ∧ seen = p.name ++ 0 :: (sql ++ 0 :: tail) ∧ 0 ∉ p.name ∧
      0 ∉ sql ∧ p.Kept sql ∧ p.Counting

/-- Where a streamed Bind stands after the payload bytes `seen`. -/
def BindReads (p : PostgresStreamParser) (seen : Bytes) : Prop :=
  (p.phase = 0 ∧ 0 ∉ seen ∧ p.name = seen ∧ p.statement = []) ∨
    (p.phase = 1 ∧ seen = p.name ++ 0 :: p.statement ∧ 0 ∉ p.name ∧ 0 ∉ p.statement) ∨
    ∃ tail, 2 ≤ p.phase ∧ seen = p.name ++ 0 :: (p.statement ++ 0 :: tail) ∧ 0 ∉ p.name ∧
      0 ∉ p.statement

variable (sink : QuerySink) {p p' : PostgresStreamParser} {data seen : Bytes}

theorem appendSQL_calls (p : PostgresStreamParser) (calls : List SinkCall) (data : Bytes) :
    ∃ more, (p.appendSQL sink calls data).1 = calls ++ more ∧ Quiet more := by
  simp only [appendSQL]
  repeat' split
  · exact ⟨[], by simp, Quiet.nil⟩
  · exact ⟨_, rfl, Quiet.writeCapture _ _⟩
  · exact ⟨_, rfl, Quiet.writeCapture _ _⟩
  · exact ⟨[], by simp, Quiet.nil⟩

/-- Keeping more of a statement changes the kept part only. -/
theorem appendSQL_ok {calls : List SinkCall} {sql : Bytes}
    (appended : (p.appendSQL sink calls data).2 = .ok p') (kept : p.Kept sql) :
    p'.Kept (sql ++ data) ∧ ∃ sqlBytes preview,
      p' = { p with sqlBytes := sqlBytes, preview := preview } := by
  have extended : Kept { p with
        sqlBytes := p.sqlBytes + data.length
        preview := p.preview ++ data.take (p.previewCaptureMax - p.preview.length) }
      (sql ++ data) := by
    refine ⟨by simp [kept.1], ?_⟩
    simp only [kept.2, length_take, take_append]
    congr 2
    omega
  simp only [appendSQL] at appended
  repeat' split at appended
  · rename_i empty
    obtain rfl : p = p' := by simpa using appended
    have : data = [] := length_eq_zero_iff.mp empty
    subst this
    exact ⟨by simpa using kept, _, _, rfl⟩
  · simp at appended
  · cases appended
    exact ⟨extended, _, _, rfl⟩
  · cases appended
    exact ⟨extended, _, _, rfl⟩

/-- A pass over a chunk reads a nonempty part of it. -/
def Advances (reads : PostgresStreamParser → Bytes → Prop)
    (pass : PostgresStreamParser → List SinkCall → Bytes →
      List SinkCall × Except StreamError (PostgresStreamParser × Bytes)) : Prop :=
  ∀ p seen calls data, reads p seen → data ≠ [] →
    (∃ more, (pass p calls data).1 = calls ++ more ∧ Quiet more) ∧
      ∀ p' rest, (pass p calls data).2 = .ok (p', rest) →
        ∃ taken, taken ≠ [] ∧ data = taken ++ rest ∧ reads p' (seen ++ taken) ∧ SameSetup p p'

/-- A loop of such passes reads the whole chunk. -/
theorem consumeUpTo_reads {reads : PostgresStreamParser → Bytes → Prop}
    {pass : PostgresStreamParser → List SinkCall → Bytes →
      List SinkCall × Except StreamError (PostgresStreamParser × Bytes)}
    (advances : Advances reads pass) {fuel : ℕ}
    (enough : data.length ≤ fuel) (initially : reads p seen) (calls : List SinkCall) :
    (∃ more, (consumeUpTo pass fuel p calls data).1 = calls ++ more ∧ Quiet more) ∧
      ∀ p', (consumeUpTo pass fuel p calls data).2 = .ok p' →
        reads p' (seen ++ data) ∧ SameSetup p p' := by
  induction fuel generalizing p calls data seen with
  | zero =>
    obtain rfl : data = [] := length_eq_zero_iff.mp (by omega)
    refine ⟨⟨[], by simp [consumeUpTo], Quiet.nil⟩, ?_⟩
    intro p' result
    cases result
    exact ⟨by simpa using initially, .refl p⟩
  | succ fuel ih =>
    simp only [consumeUpTo]
    split
    · rename_i empty
      obtain rfl : data = [] := length_eq_zero_iff.mp empty
      refine ⟨⟨[], by simp, Quiet.nil⟩, ?_⟩
      intro p' result
      cases result
      exact ⟨by simpa using initially, .refl p⟩
    · rename_i nonempty
      obtain ⟨⟨more, passed_calls, quiet⟩, passed⟩ :=
        advances p seen calls data initially (by simpa using nonempty)
      split
      · rename_i calls' error result
        rw [result] at passed_calls
        exact ⟨⟨more, passed_calls, quiet⟩, by simp⟩
      rename_i calls' p₁ rest result
      rw [result] at passed_calls passed
      dsimp only at passed_calls
      obtain ⟨_, some_taken, rfl, reads_taken, same⟩ := passed p₁ rest rfl
      have shorter : rest.length ≤ fuel := by
        have := length_pos_iff.mpr some_taken
        simp only [length_append] at enough
        omega
      obtain ⟨⟨more', later_calls, later_quiet⟩, later⟩ :=
        ih shorter reads_taken calls'
      refine ⟨⟨more ++ more', ?_, quiet.append later_quiet⟩, ?_⟩
      · rw [later_calls, passed_calls, append_assoc]
      · intro p' final
        obtain ⟨reads_all, same'⟩ := later p' final
        exact ⟨by simpa using reads_all, same.trans same'⟩

theorem zero_split (data : Bytes) :
    (data.contains 0 = false ∧ data.takeWhile (· != 0) = data ∧ 0 ∉ data) ∨
      ∃ before rest, data.contains 0 ∧ data.takeWhile (· != 0) = before ∧
        (data.dropWhile (· != 0)).drop 1 = rest ∧ data = before ++ 0 :: rest ∧ 0 ∉ before := by
  cases zero : data.contains 0 with
  | true => exact .inr ⟨_, _, rfl, rfl, rfl, split_at_zero zero, takeWhile_clean data⟩
  | false =>
    have clean : (0 : UInt8) ∉ data := by simpa using zero
    refine .inl ⟨rfl, ?_, clean⟩
    refine takeWhile_eq_self_iff.mpr fun byte member => ?_
    have : byte ≠ 0 := fun same => clean (same ▸ member)
    simpa using this

/-- A name is extended by the whole chunk, or completed by the part before a zero byte. -/
private theorem consumeName_ok {current rest : Bytes}
    {next : ℕ} {store : PostgresStreamParser → Bytes → PostgresStreamParser}
    (result : p.consumeName current data next store = .ok (p', rest)) :
    (0 ∉ data ∧ rest = [] ∧ p' = store p (current ++ data)) ∨
      ∃ before, 0 ∉ before ∧ data = before ++ 0 :: rest ∧
        p' = { store p (current ++ before) with phase := next } := by
  simp only [consumeName, appendPostgresStreamCString] at result
  rcases zero_split data with ⟨none_zero, all, clean⟩ | ⟨before, after, zero, first, last, whole, clean⟩
  · simp only [none_zero, all] at result
    split at result
    · simp [Except.map] at result
    · simp only [Except.map, Except.ok.injEq, Prod.mk.injEq, Bool.false_eq_true, if_false] at result
      exact .inl ⟨clean, result.2.symm, result.1.symm⟩
  · simp only [first, last] at result
    split at result
    · simp [Except.map] at result
    · obtain ⟨rfl, rfl⟩ := result
      exact .inr ⟨before, clean, whole, rfl⟩

theorem parsePass_advances : Advances ParseReads (parsePass sink) := by
  intro p seen calls data reads nonempty
  have untouched : ∃ more, calls = calls ++ more ∧ Quiet more := ⟨[], by simp, Quiet.nil⟩
  rcases reads with ⟨phase, clean, name, kept, uncounted⟩ |
    ⟨sql, phase, shape, clean, sql_clean, kept, uncounted⟩ |
    ⟨sql, tail, phase, shape, clean, sql_clean, kept, counting⟩
  · simp only [parsePass, phase]
    refine ⟨untouched, fun p' rest result => ?_⟩
    rcases consumeName_ok result with ⟨chunk_clean, rfl, rfl⟩ | ⟨before, before_clean, rfl, rfl⟩
    · refine ⟨data, nonempty, by simp, .inl ⟨phase, ?_, ?_, ⟨kept.1, kept.2⟩, uncounted⟩,
        ⟨rfl, rfl, rfl, rfl, rfl⟩⟩
      · simp [clean, chunk_clean]
      · simp [name]
    · refine ⟨before ++ [0], by simp, by simp,
        .inr (.inl ⟨[], rfl, ?_, ?_, by simp, ⟨kept.1, kept.2⟩, uncounted⟩),
        ⟨rfl, rfl, rfl, rfl, rfl⟩⟩
      · simp [name]
      · simp [name, clean, before_clean]
  · simp only [parsePass, phase]
    refine ⟨appendSQL_calls sink p calls _, fun p' rest result => ?_⟩
    rcases zero_split data with ⟨none_zero, all, chunk_clean⟩ |
      ⟨before, after, zero, first, last, whole, before_clean⟩
    · simp only [all] at result
      cases appended : (p.appendSQL sink calls data).2 with
      | error error => simp [appended, Except.map] at result
      | ok p₁ =>
        simp only [appended, none_zero] at result
        obtain ⟨rfl, rfl⟩ := result
        obtain ⟨kept', sqlBytes, preview, rfl⟩ := appendSQL_ok sink appended kept
        refine ⟨data, nonempty, by simp,
          .inr (.inl ⟨sql ++ data, phase, ?_, clean, ?_, kept', uncounted⟩),
          ⟨rfl, rfl, rfl, rfl, rfl⟩⟩
        · simp [shape]
        · simp [sql_clean, chunk_clean]
    · simp only [first] at result
      cases appended : (p.appendSQL sink calls before).2 with
      | error error => simp [appended, Except.map] at result
      | ok p₁ =>
        simp only [appended, zero, last] at result
        obtain ⟨rfl, rfl⟩ := result
        obtain ⟨kept', sqlBytes, preview, rfl⟩ := appendSQL_ok sink appended kept
        refine ⟨before ++ [0], by simp, by simpa using whole,
          .inr (.inr ⟨sql ++ before, [], Nat.le_refl _, ?_, clean, ?_,
            ⟨kept'.1, kept'.2⟩, ?_, ?_⟩), ⟨rfl, rfl, rfl, rfl, rfl⟩⟩
        · simp [shape]
        · simp [sql_clean, before_clean]
        · simp [uncounted]
        · simp
  · have further : ∀ (p' : PostgresStreamParser) (taken : Bytes), p'.name = p.name →
        p'.sqlBytes = p.sqlBytes → p'.preview = p.preview →
        p'.previewCaptureMax = p.previewCaptureMax → 2 ≤ p'.phase → p'.Counting →
        ParseReads p' (seen ++ taken) := by
      intro p' taken name bytes preview capture later counting'
      refine .inr (.inr ⟨sql, tail ++ taken, later, ?_, ?_, sql_clean, ⟨?_, ?_⟩, counting'⟩)
      · simp [shape, name]
      · rwa [name]
      · rw [bytes, kept.1]
      · rw [preview, capture, kept.2]
    have positive : 0 < data.length := length_pos_iff.mpr nonempty
    match progress : p.phase, phase with
    | 2, _ =>
      have few := counting.1 progress
      simp only [parsePass, progress]
      split
      · rename_i short
        refine ⟨untouched, fun p' rest result => ?_⟩
        obtain ⟨rfl, rfl⟩ := result
        refine ⟨data, nonempty, by simp, further _ _ rfl rfl rfl rfl (by simp) ⟨?_, ?_⟩,
          ⟨rfl, rfl, rfl, rfl, rfl⟩⟩
        · exact fun _ => short
        · simp
      · refine ⟨untouched, fun p' rest result => ?_⟩
        obtain ⟨rfl, rfl⟩ := result
        refine ⟨data.take (min (2 - p.countBuf.length) data.length), ?_, by simp,
          further _ _ rfl rfl rfl rfl ?_ ⟨?_, ?_⟩, ⟨rfl, rfl, rfl, rfl, rfl⟩⟩
        · apply length_pos_iff.mp
          simp only [length_take]
          omega
        · dsimp only
          split <;> omega
        · split <;> simp
        · dsimp only
          split
          · simp
          · omega
    | 3, _ =>
      have some_types := counting.2 progress
      simp only [parsePass, progress]
      refine ⟨untouched, fun p' rest result => ?_⟩
      obtain ⟨rfl, rfl⟩ := result
      have taken : data.take (min p.typeBytes data.length) ≠ [] := by
        apply length_pos_iff.mp
        simp only [length_take]
        omega
      split
      · exact ⟨_, taken, by simp, further _ _ rfl rfl rfl rfl (by simp) ⟨by simp, by simp⟩,
          ⟨rfl, rfl, rfl, rfl, rfl⟩⟩
      rename_i unfinished
      refine ⟨_, taken, by simp, further _ _ rfl rfl rfl rfl (by simp)
        ⟨by simp, fun _ => ?_⟩, ⟨rfl, rfl, rfl, rfl, rfl⟩⟩
      dsimp only at unfinished ⊢
      omega
    | phase + 4, _ =>
      simp only [parsePass, progress]
      exact ⟨untouched, by simp⟩

theorem bindPass_advances : Advances BindReads bindPass := by
  intro p seen calls data reads nonempty
  have untouched : ∃ more, calls = calls ++ more ∧ Quiet more := ⟨[], by simp, Quiet.nil⟩
  rcases reads with ⟨phase, clean, name, statement⟩ | ⟨phase, shape, clean, statement_clean⟩ |
    ⟨tail, phase, shape, clean, statement_clean⟩
  · simp only [bindPass, phase]
    refine ⟨untouched, fun p' rest result => ?_⟩
    rcases consumeName_ok result with ⟨chunk_clean, rfl, rfl⟩ | ⟨before, before_clean, rfl, rfl⟩
    · refine ⟨data, nonempty, by simp, .inl ⟨phase, ?_, ?_, statement⟩, ⟨rfl, rfl, rfl, rfl, rfl⟩⟩
      · simp [clean, chunk_clean]
      · simp [name]
    · refine ⟨before ++ [0], by simp, by simp, .inr (.inl ⟨rfl, ?_, ?_, ?_⟩),
        ⟨rfl, rfl, rfl, rfl, rfl⟩⟩
      · simp [name, statement]
      · simp [name, clean, before_clean]
      · simp [statement]
  · simp only [bindPass, phase]
    refine ⟨untouched, fun p' rest result => ?_⟩
    rcases consumeName_ok result with ⟨chunk_clean, rfl, rfl⟩ | ⟨before, before_clean, rfl, rfl⟩
    · refine ⟨data, nonempty, by simp, .inr (.inl ⟨phase, ?_, clean, ?_⟩),
        ⟨rfl, rfl, rfl, rfl, rfl⟩⟩
      · simp [shape]
      · simp [statement_clean, chunk_clean]
    · refine ⟨before ++ [0], by simp, by simp, .inr (.inr ⟨[], Nat.le_refl _, ?_, clean, ?_⟩),
        ⟨rfl, rfl, rfl, rfl, rfl⟩⟩
      · simp [shape]
      · simp [statement_clean, before_clean]
  · have validated : bindPass p calls data =
        (calls, (p.bind.consume data).map fun bind => ({ p with bind := bind }, [])) := by
      match progress : p.phase, phase with
      | phase + 2, _ => simp [bindPass, progress]
    rw [validated]
    refine ⟨untouched, fun p' rest result => ?_⟩
    cases consumed : p.bind.consume data with
    | error error => simp [consumed, Except.map] at result
    | ok bind =>
      simp only [consumed] at result
      obtain ⟨rfl, rfl⟩ := result
      refine ⟨data, nonempty, by simp,
        .inr (.inr ⟨tail ++ data, phase, ?_, clean, statement_clean⟩), ⟨rfl, rfl, rfl, rfl, rfl⟩⟩
      simp [shape]

theorem consumeQuery_reads (reads : QueryReads p seen)
    (calls : List SinkCall) (data : Bytes) (final : Bool) :
    (∃ more, (p.consumeQuery sink calls data final).1 = calls ++ more ∧ Quiet more) ∧
      ∀ p', (p.consumeQuery sink calls data final).2 = .ok p' →
        QueryReads p' (seen ++ data) ∧ SameSetup p p' := by
  have untouched : ∃ more, calls = calls ++ more ∧ Quiet more := ⟨[], by simp, Quiet.nil⟩
  simp only [consumeQuery]
  rcases reads with ⟨phase, clean, kept⟩ | ⟨sql, phase, -, -, -⟩
  · simp only [phase, ne_eq, not_true_eq_false, if_false]
    split
    · split
      · exact ⟨untouched, by simp⟩
      · rename_i no_zero
        refine ⟨appendSQL_calls sink p calls data, fun p' result => ?_⟩
        obtain ⟨kept', sqlBytes, preview, rfl⟩ := appendSQL_ok sink result kept
        have chunk_clean : (0 : UInt8) ∉ data := by simpa using no_zero
        exact ⟨.inl ⟨phase, by simp [clean, chunk_clean], kept'⟩, ⟨rfl, rfl, rfl, rfl, rfl⟩⟩
    · split
      · exact ⟨untouched, by simp⟩
      · rename_i proper
        simp only [not_or, not_not] at proper
        obtain ⟨_, last, no_zero⟩ := proper
        have chunk_clean : (0 : UInt8) ∉ data.dropLast := by simpa using no_zero
        have whole : data = data.dropLast ++ [0] :=
          (dropLast_append_getLast? 0 last).symm
        split
        · rename_i calls' error result
          have := appendSQL_calls sink p calls data.dropLast
          rw [result] at this
          exact ⟨this, by simp⟩
        rename_i calls' p₁ result
        have called := appendSQL_calls sink p calls data.dropLast
        rw [result] at called
        refine ⟨called, fun p' finished => ?_⟩
        cases finished
        have appended : (p.appendSQL sink calls data.dropLast).2 = .ok p₁ := by rw [result]
        obtain ⟨kept', sqlBytes, preview, rfl⟩ := appendSQL_ok sink appended kept
        refine ⟨.inr ⟨seen ++ data.dropLast, rfl, ?_, ?_, kept'.1, kept'.2⟩,
          ⟨rfl, rfl, rfl, rfl, rfl⟩⟩
        · rw [append_assoc, ← whole]
        · simp [clean, chunk_clean]
  · simp only [phase]
    exact ⟨untouched, by simp⟩

/-- Where a streamed frame stands after the payload bytes `seen`. -/
def Reads (p : PostgresStreamParser) (seen : Bytes) : Prop :=
  (p.messageType = queryType ∧ QueryReads p seen) ∨
    (p.messageType = parseType ∧ ParseReads p seen) ∨ (p.messageType = bindType ∧ BindReads p seen)

/-- Whatever the chunk, the parser then stands after it. -/
theorem consume_reads (reads : Reads p seen) (calls : List SinkCall) (data : Bytes) (final : Bool) :
    (∃ more, (p.consume sink calls data final).1 = calls ++ more ∧ Quiet more) ∧
      ∀ p', (p.consume sink calls data final).2 = .ok p' →
        Reads p' (seen ++ data) ∧ SameSetup p p' := by
  rcases reads with ⟨query, reads⟩ | ⟨parse, reads⟩ | ⟨bind, reads⟩
  · have run : p.consume sink calls data final = p.consumeQuery sink calls data final := by
      simp [consume, query]
    rw [run]
    obtain ⟨called, result⟩ := consumeQuery_reads sink reads calls data final
    refine ⟨called, fun p' ok => ?_⟩
    obtain ⟨reads', same⟩ := result p' ok
    exact ⟨.inl ⟨same.messageType.trans query, reads'⟩, same⟩
  · have run : p.consume sink calls data final = p.consumeParse sink calls data := by
      simp [consume, parse, parseType, queryType]
    rw [run]
    obtain ⟨called, result⟩ := consumeUpTo_reads (parsePass_advances sink)
      (Nat.le_refl data.length) reads calls
    refine ⟨called, fun p' ok => ?_⟩
    obtain ⟨reads', same⟩ := result p' ok
    exact ⟨.inr (.inl ⟨same.messageType.trans parse, reads'⟩), same⟩
  · have run : p.consume sink calls data final = p.consumeBind calls data := by
      simp [consume, bind, bindType, parseType, queryType]
    rw [run]
    obtain ⟨called, result⟩ := consumeUpTo_reads bindPass_advances
      (Nat.le_refl data.length) reads calls
    refine ⟨called, fun p' ok => ?_⟩
    obtain ⟨reads', same⟩ := result p' ok
    exact ⟨.inr (.inr ⟨same.messageType.trans bind, reads'⟩), same⟩

end PostgresStreamParser

end Jianmen.DBProxy
