import Jianmen.AuditArtifact.Writer

/-!
# Stored sections

Between two captures the buffer is empty and the file ends where the next one will begin.  During a
capture everything before its start stays as it is, and as long as the buffer has not failed, the
rest of the file and the buffer are what the capture emitted.
-/

namespace Jianmen.AuditArtifact

open List

/-- The bytes of a section. -/
def Section.read (stored : Section) (content : List UInt8) : List UInt8 :=
  (content.drop stored.offset).take stored.bytes

theorem Section.read_congr {stored : Section} {content content' : List UInt8} {limit : ℕ}
    (within : stored.offset + stored.bytes ≤ limit)
    (same : content'.take limit = content.take limit) :
    stored.read content' = stored.read content := by
  have cut : ∀ text : List UInt8, stored.read text =
        ((text.take limit).take (stored.offset + stored.bytes)).drop stored.offset := by
    intro text
    rw [Section.read, take_take, Nat.min_eq_left within, take_drop]
  rw [cut, cut, same]

namespace Writer

variable {π : Type} {faults : FileFaults} {processing : Processing π} {w : Writer π}
  {c : Capture π} {limit : ℕ}

/-! ## During a capture -/

/-- What the capture emitted is in the file from its start on and in the buffer. -/
structure Capturing (buffer : BufferedFile) (offset limit : ℕ) (c : Capture π) : Prop where
  start : c.start = limit
  atEnd : buffer.file.AtEnd
  within : limit ≤ buffer.file.content.length
  emitted : buffer.failed = false →
    buffer.file.content.drop limit ++ buffer.pending = c.emitted
  bytes : buffer.failed = false → c.bytes = c.emitted.length
  offset : buffer.failed = false → offset = limit + c.bytes
  unfailed : buffer.failed = false → c.failed = false

/-- Storing data only touches the buffer, and what it tells. -/
structure Stores (w : Writer π) (c : Capture π) (limit : ℕ) (w' : Writer π) (c' : Capture π) :
    Prop where
  capturing : Capturing w'.buffer w'.offset limit c'
  kept : w'.buffer.file.content.take limit = w.buffer.file.content.take limit
  failed : w.buffer.failed = true → w'.buffer.failed = true
  strayed : w'.buffer.file.strayed = w.buffer.file.strayed
  rest : w' = { w with buffer := w'.buffer, offset := w'.offset }
  capture : c' = { c with
    processor := c'.processor, bytes := c'.bytes, emitted := c'.emitted }

theorem Stores.trans {w₁ w₂ : Writer π} {c₁ c₂ : Capture π} (first : Stores w c limit w₁ c₁)
    (second : Stores w₁ c₁ limit w₂ c₂) : Stores w c limit w₂ c₂ where
  capturing := second.capturing
  kept := second.kept.trans first.kept
  failed := fun failed => second.failed (first.failed failed)
  strayed := second.strayed.trans first.strayed
  rest := by rw [second.rest, first.rest]
  capture := by rw [second.capture, first.capture]

theorem Capturing.stores (capturing : Capturing w.buffer w.offset limit c) : Stores w c limit w c :=
  ⟨capturing, rfl, id, rfl, rfl, rfl⟩

theorem writeStoredLocked_stores (capturing : Capturing w.buffer w.offset limit c)
    (data : List UInt8) :
    Stores w c limit (w.writeStoredLocked faults c data).1 (w.writeStoredLocked faults c data).2.1 ∧
      ((w.writeStoredLocked faults c data).2.2 = false →
        (w.writeStoredLocked faults c data).1.buffer.failed) := by
  unfold writeStoredLocked
  split
  · exact ⟨capturing.stores, by simp⟩
  obtain ⟨takes, count⟩ := @BufferedFile.write_takes faults _ capturing.atEnd data
  generalize w.buffer.write faults data = written at takes count
  obtain ⟨buffer, _⟩ := written
  dsimp only at takes count ⊢
  have longer : limit ≤ buffer.file.content.length :=
    Nat.le_trans capturing.within takes.grows.length_le
  refine ⟨⟨⟨capturing.start, takes.atEnd, longer, ?_, ?_, ?_, ?_⟩, ?_, ?_, takes.strayed, rfl, rfl⟩, ?_⟩
  · intro sound
    obtain ⟨before, together⟩ := takes.holds sound
    have dropped := congrArg (drop limit) together
    rw [drop_append_of_le_length longer, append_assoc,
      drop_append_of_le_length capturing.within, ← append_assoc,
      capturing.emitted before] at dropped
    exact dropped
  · intro sound
    simp [count sound, capturing.bytes (takes.holds sound).1]
  · intro sound
    simp [capturing.offset (takes.holds sound).1, Nat.add_assoc]
  · exact fun sound => capturing.unfailed (takes.holds sound).1
  · obtain ⟨_, grown⟩ := takes.grows
    rw [← grown, take_append_of_le_length capturing.within]
  · intro failed
    by_contra sound
    rw [(takes.holds (by simpa using sound)).1] at failed
    cases failed
  · intro fails
    by_contra sound
    rw [Bool.not_eq_true] at sound
    simp [sound, count sound] at fails

theorem process_stores (capturing : Capturing w.buffer w.offset limit c) (emission : Emission π) :
    Stores w c limit (w.process faults c emission).1 (w.process faults c emission).2.1 ∧
      ((w.process faults c emission).2.2 = false → emission.Succeeds ∨ w.buffer.failed →
        (w.process faults c emission).1.buffer.failed) := by
  induction emission generalizing w c with
  | done _ succeeds =>
    refine ⟨⟨{ capturing with }, rfl, id, rfl, rfl, rfl⟩, ?_⟩
    rintro fails (passes | failed)
    · exact absurd (passes.symm.trans fails) (by simp)
    · exact failed
  | emit data _ ih =>
    obtain ⟨stores, fails⟩ := @writeStoredLocked_stores π faults w c limit capturing data
    obtain ⟨later, keeps⟩ := ih _ stores.capturing
    refine ⟨stores.trans later, fun ends reason => keeps ends ?_⟩
    cases succeeds : (w.writeStoredLocked faults c data).2.2 with
    | false => exact .inr (fails succeeds)
    | true =>
      rcases reason with passes | failed
      · exact .inl passes
      · exact .inr (stores.failed failed)

/-! ## Invariant -/

/-- A completed capture and its section, which ends before a limit. -/
structure Stored (content : List UInt8) (limit : ℕ) (done : Capture π × Section) : Prop where
  within : done.2.offset + done.2.bytes ≤ limit
  bytes : done.2.bytes = done.1.emitted.length
  read : done.2.read content = done.1.emitted
  unfailed : done.1.failed = false

theorem Stored.keep {content content' : List UInt8} {done : Capture π × Section} {limit' : ℕ}
    (stored : Stored content limit done) (later : limit ≤ limit')
    (same : content'.take limit = content.take limit) : Stored content' limit' done where
  within := Nat.le_trans stored.within later
  bytes := stored.bytes
  read := (Section.read_congr stored.within same).trans stored.read
  unfailed := stored.unfailed

/-- Between two captures the file ends at the limit, and the next capture starts there. -/
structure Idle (w : Writer π) (limit : ℕ) : Prop where
  atEnd : w.buffer.file.AtEnd
  sound : w.buffer.failed = false
  content : w.buffer.file.content.length = limit
  offset : w.offset = limit

/-- The identifiers of all captures. -/
def ids (w : Writer π) : List ℕ :=
  (w.completed.map (·.1.id) ++ w.rolledBack.map (·.id)) ++ w.active.toList.map (·.id)

/-- Sections end before the limit, where the active capture starts. -/
structure Sound (w : Writer π) (limit : ℕ) : Prop where
  within : limit ≤ w.buffer.file.content.length
  stored : ∀ done ∈ w.completed, Stored w.buffer.file.content limit done
  ordered : w.completed.Pairwise fun first second =>
    first.2.offset + first.2.bytes ≤ second.2.offset
  capturing : ∀ c, w.active = some c → Capturing w.buffer w.offset limit c
  usable : ∀ c, w.active = some c → w.closed = false ∧ w.fatal = false
  empty : w.active = none → w.buffer.pending = []
  idle : w.active = none → w.closed = false → w.fatal = false → Idle w limit
  begun : ∀ id ∈ w.ids, id < w.begun
  distinct : w.ids.Nodup
  placed : w.buffer.file.strayed → w.fatal

theorem find_some {id : ℕ} (found : w.find id = some c) : w.active = some c := by
  exact (Option.filter_eq_some_iff.mp found).1

theorem new_sound (content : List UInt8) (bufferBytes : ℕ) :
    Sound (Writer.new content bufferBytes : Writer π) content.length where
  within := Nat.le_refl _
  stored := by simp [new]
  ordered := .nil
  capturing := by simp [new]
  usable := by simp [new]
  empty := fun _ => rfl
  idle := fun _ _ _ => ⟨rfl, rfl, rfl, rfl⟩
  begun := by simp [new, ids]
  distinct := by simp [new, ids]
  placed := nofun

theorem begin_sound (sound : Sound w limit) (processor : Option π) :
    Sound (w.begin processor).1 limit := by
  unfold begin
  split
  · exact sound
  rename_i usable
  split
  · exact sound
  rename_i openw
  split
  · exact sound
  rename_i inactive
  have none : w.active = none := by simpa using inactive
  have idle := sound.idle none (by simpa using openw) (by simpa using usable)
  have known := sound.begun
  have distinct := sound.distinct
  simp only [ids, none, Option.toList_none, map_nil, append_nil] at known distinct
  refine ⟨sound.within, sound.stored, sound.ordered, ?_, ?_, nofun, nofun, ?_, ?_, sound.placed⟩
  · rintro c ⟨⟩
    refine ⟨idle.offset, idle.atEnd, sound.within, fun _ => ?_, fun _ => rfl,
      fun _ => idle.offset, fun _ => rfl⟩
    rw [sound.empty none, append_nil, drop_of_length_le (Nat.le_of_eq idle.content)]
  · exact fun _ _ => ⟨by simpa using openw, by simpa using usable⟩
  · intro id mem
    simp only [ids, Option.toList_some, map_cons, map_nil, mem_append, mem_singleton] at mem
    rcases mem with old | rfl
    · exact Nat.lt_succ_of_lt (known id (mem_append.mpr old))
    · exact Nat.lt_succ_self _
  · refine nodup_append.mpr ⟨distinct, by simp, ?_⟩
    rintro id old fresh new rfl
    obtain rfl := mem_singleton.mp new
    exact Nat.lt_irrefl _ (known _ old)

variable {w' : Writer π} {c' : Capture π}

/-- A capture that stored data is still the one captured. -/
theorem Sound.stores (sound : Sound w limit) (active : w.active = some c)
    (stores : Stores w c limit w' c') {failed : Bool}
    (fails : failed → w'.buffer.failed) :
    Sound { w' with active := some { c' with failed := c'.failed || failed } } limit := by
  have capturing := stores.capturing
  have usable := sound.usable c active
  have capture := stores.capture
  have known := sound.begun
  have distinct := sound.distinct
  have placed := sound.placed
  have strayed := stores.strayed
  obtain ⟨rest, kept⟩ := And.intro stores.rest stores.kept
  simp only [ids, active] at known distinct
  generalize w'.buffer = buffer, w'.offset = offset at *
  subst rest
  have same : c'.id = c.id := by rw [capture]
  refine ⟨capturing.within, fun done mem => (sound.stored done mem).keep (Nat.le_refl _) kept,
    sound.ordered, ?_, fun _ _ => usable, nofun, nofun, ?_, ?_, strayed ▸ placed⟩
  · rintro c ⟨⟩
    refine { capturing with unfailed := fun sound => ?_ }
    have unfailed : failed = false := by
      by_contra failing
      rw [fails (by simpa using failing)] at sound
      cases sound
    simp [unfailed, capturing.unfailed sound]
  · simpa [ids, same] using known
  · simpa [ids, same] using distinct

theorem write_sound (passes : processing.Passes) (sound : Sound w limit) (id : ℕ)
    (data : List UInt8) : Sound (w.write faults processing id data).1 limit := by
  unfold write
  split
  · exact sound
  cases found : w.find id with
  | none => exact sound
  | some c =>
    have active := find_some found
    have capturing := sound.capturing c active
    dsimp only
    cases c.processor with
    | none =>
      obtain ⟨stores, fails⟩ := @writeStoredLocked_stores π faults w c limit capturing data
      exact sound.stores active stores fun failing => fails (by simpa using failing)
    | some processor =>
      obtain ⟨stores, fails⟩ := @process_stores π faults w c limit capturing
        (processing.write processor data)
      exact sound.stores active stores fun failing =>
        fails (by simpa using failing) (.inl (passes.write processor data))

/-- Rolling a capture back keeps everything before its start. -/
theorem abortLocked_sound (sound : Sound w limit) (active : w.active = some c)
    (stores : Stores w c limit w' c') : Sound (w'.abortLocked faults c').1 limit := by
  have start := stores.capturing.start
  have within := stores.capturing.within
  have open' : w'.closed = false := by rw [stores.rest]; exact (sound.usable c active).1
  have known := sound.begun
  have distinct := sound.distinct
  have same : c'.id = c.id := by rw [stores.capture]
  have completed : w'.completed = w.completed := by rw [stores.rest]
  have rolledBack : w'.rolledBack = w.rolledBack := by rw [stores.rest]
  have begun : w'.begun = w.begun := by rw [stores.rest]
  simp only [ids, active] at known distinct
  obtain ⟨kept, longer⟩ := @File.truncate_take faults _ _ within
  have content := @File.seek_content faults (w'.buffer.file.truncate faults limit).1 limit
  have after := @File.seek_strayed faults (w'.buffer.file.truncate faults limit).1 limit
  have moved : ∀ done ∈ w.completed, Stored ((w'.buffer.file.truncate faults limit).1.seek faults
      limit).1.content limit done := by
    intro done mem
    apply (sound.stored done mem).keep (Nat.le_refl _)
    rw [content, kept, stores.kept]
  unfold abortLocked
  dsimp only
  rw [open', if_neg Bool.false_ne_true, start]
  split
  · rename_i succeeds
    obtain ⟨truncated, sought⟩ := Bool.and_eq_true_iff.mp succeeds
    have cut := File.truncate_content within truncated
    refine ⟨?_, ?_, ?_, nofun, nofun, fun _ => rfl, fun _ _ _ => ?_, ?_, ?_, fun strayed => ?_⟩
    · rw [content]; exact longer
    · rw [completed]; exact moved
    · rw [completed]; exact sound.ordered
    · have length : ((w'.buffer.file.truncate faults limit).1.seek faults limit).1.content.length
          = limit := by
        rw [content, cut, length_take, Nat.min_eq_left within]
      refine ⟨(File.seek_position sought).trans length.symm, rfl, length, rfl⟩
    · simpa [ids, same, completed, rolledBack, begun] using known
    · simpa [ids, same, completed, rolledBack] using distinct
    · dsimp only at strayed ⊢
      rw [after, File.truncate_strayed, truncated, sought, stores.strayed] at strayed
      rw [stores.rest]
      exact sound.placed (by simpa using strayed)
  · refine ⟨?_, ?_, ?_, nofun, nofun, fun _ => rfl, nofun, ?_, ?_, fun _ => rfl⟩
    · rw [content]; exact longer
    · rw [completed]; exact moved
    · rw [completed]; exact sound.ordered
    · simpa [ids, same, completed, rolledBack, begun] using known
    · simpa [ids, same, completed, rolledBack] using distinct

theorem Stores.flush (stores : Stores w c limit w' c') :
    Stores w c limit { w' with buffer := w'.buffer.flush faults } c' := by
  have capturing := stores.capturing
  have takes := @BufferedFile.flush_takes faults _ capturing.atEnd
  have longer : limit ≤ (w'.buffer.flush faults).file.content.length :=
    Nat.le_trans capturing.within takes.grows.length_le
  refine ⟨⟨capturing.start, takes.atEnd, longer, fun sound => ?_,
    fun sound => capturing.bytes (takes.holds sound).1,
    fun sound => capturing.offset (takes.holds sound).1,
    fun sound => capturing.unfailed (takes.holds sound).1⟩, ?_, fun failed => ?_,
    takes.strayed.trans stores.strayed, ?_, stores.capture⟩
  · obtain ⟨before, together⟩ := takes.holds sound
    rw [append_nil] at together
    have dropped := congrArg (drop limit) together
    rw [drop_append_of_le_length longer, drop_append_of_le_length capturing.within] at dropped
    exact dropped.trans (capturing.emitted before)
  · obtain ⟨_, grown⟩ := takes.grows
    rw [← stores.kept, ← grown, take_append_of_le_length capturing.within]
  · by_contra sound
    have before := (takes.holds (by simpa using sound)).1
    rw [stores.failed failed] at before
    cases before
  · rw [stores.rest]

/-- A capture whose data has left the buffer is stored from the limit to the end of the file. -/
theorem Sound.complete (sound : Sound w limit) (active : w.active = some c)
    (stores : Stores w c limit w' c') (unfailed : w'.buffer.failed = false)
    (flushed : w'.buffer.pending = []) :
    Sound { w' with
      active := none
      completed := w'.completed ++ [(c', { offset := c'.start, bytes := c'.bytes })] }
      w'.buffer.file.content.length := by
  have capturing := stores.capturing
  have completed : w'.completed = w.completed := by rw [stores.rest]
  have rolledBack : w'.rolledBack = w.rolledBack := by rw [stores.rest]
  have begun : w'.begun = w.begun := by rw [stores.rest]
  have same : c'.id = c.id := by rw [stores.capture]
  have known := sound.begun
  have distinct := sound.distinct
  simp only [ids, active] at known distinct
  have emitted := capturing.emitted unfailed
  have bytes := capturing.bytes unfailed
  rw [flushed, append_nil] at emitted
  have length : limit + c'.bytes = w'.buffer.file.content.length := by
    have within := capturing.within
    rw [bytes, ← emitted, length_drop]
    omega
  have moved : ((w.completed.map (·.1.id) ++ [c.id]) ++ w.rolledBack.map (·.id)).Perm
      ((w.completed.map (·.1.id) ++ w.rolledBack.map (·.id)) ++ [c.id]) := by
    rw [append_assoc, append_assoc]
    exact perm_append_comm.append_left _
  refine ⟨Nat.le_refl _, ?_, ?_, nofun, nofun, fun _ => flushed, fun _ _ _ => ?_, ?_, ?_,
    fun strayed => ?_⟩
  · intro done mem
    rw [completed] at mem
    rcases mem_append.mp mem with old | new
    · exact (sound.stored done old).keep capturing.within stores.kept
    · obtain rfl := mem_singleton.mp new
      refine ⟨?_, bytes, ?_, capturing.unfailed unfailed⟩
      · exact Nat.le_of_eq ((congrArg (· + c'.bytes) capturing.start).trans length)
      · rw [Section.read, capturing.start, emitted, bytes, take_length]
  · rw [completed]
    refine pairwise_append.mpr ⟨sound.ordered, pairwise_singleton _ _, ?_⟩
    intro first old second new
    obtain rfl := mem_singleton.mp new
    rw [capturing.start]
    exact (sound.stored first old).within
  · exact ⟨capturing.atEnd, unfailed, rfl, (capturing.offset unfailed).trans length⟩
  · intro id mem
    rw [begun]
    refine known id (moved.mem_iff.mp ?_)
    simpa [ids, completed, rolledBack, same] using mem
  · refine cast ?_ (moved.nodup_iff.mpr distinct)
    simp [ids, completed, rolledBack, same]
  · rw [stores.strayed] at strayed
    rw [stores.rest]
    exact sound.placed strayed

theorem completeProcessed_sound (sound : Sound w limit) (active : w.active = some c)
    (stores : Stores w c limit w' c') (succeeds : Bool) :
    ∃ limit', Sound (w'.completeProcessed faults c' succeeds).1 limit' := by
  unfold completeProcessed
  have flushed := @Stores.flush π faults w c limit w' c' stores
  dsimp only
  split
  · exact ⟨limit, abortLocked_sound sound active stores⟩
  split
  · exact ⟨limit, abortLocked_sound sound active flushed⟩
  rename_i unfailed
  rw [Bool.not_eq_true] at unfailed
  exact ⟨_, sound.complete active flushed unfailed
    (BufferedFile.flush_pending stores.capturing.atEnd unfailed)⟩

theorem complete_sound (sound : Sound w limit) (id : ℕ) :
    ∃ limit', Sound (w.complete faults processing id).1 limit' := by
  unfold complete
  cases found : w.find id with
  | none => exact ⟨limit, sound⟩
  | some c =>
    have active := find_some found
    have capturing := sound.capturing c active
    dsimp only
    cases c.processor with
    | none => exact completeProcessed_sound sound active capturing.stores true
    | some processor =>
      exact completeProcessed_sound sound active (process_stores capturing _).1 _

theorem abort_sound (sound : Sound w limit) (id : ℕ) : Sound (w.abort faults id).1 limit := by
  unfold abort
  cases found : w.find id with
  | none => exact sound
  | some c =>
    have active := find_some found
    exact abortLocked_sound sound active (sound.capturing c active).stores

theorem abortLocked_active (w : Writer π) (c : Capture π) :
    (w.abortLocked faults c).1.active = none := by
  unfold abortLocked
  dsimp only
  split
  · rfl
  · split
    · rfl
    · rfl

theorem abortActive_sound (sound : Sound w limit) :
    Sound (w.abortActive faults).1 limit ∧ (w.abortActive faults).1.active = none := by
  unfold abortActive
  cases active : w.active with
  | none => exact ⟨sound, active⟩
  | some c =>
    exact ⟨abortLocked_sound sound active (sound.capturing c active).stores, abortLocked_active w c⟩

theorem close_sound (sound : Sound w limit) : Sound (w.close faults).1 limit := by
  unfold close
  split
  · exact sound
  obtain ⟨aborted, inactive⟩ := @abortActive_sound π faults w limit sound
  dsimp only
  generalize (w.abortActive faults).1 = ended at aborted inactive
  have unchanged : ended.buffer.flush faults = ended.buffer :=
    if_pos (.inr (aborted.empty inactive))
  rw [unchanged]
  refine { aborted with usable := ?_, idle := nofun }
  intro c active
  rw [inactive] at active
  cases active

/-! ## Runs -/

theorem act_sound (passes : processing.Passes) (sound : Sound w limit) (call : Call π) :
    ∃ limit', Sound (w.act faults processing call).1 limit' := by
  cases call with
  | begin processor => exact ⟨limit, begin_sound sound processor⟩
  | write id data => exact ⟨limit, write_sound passes sound id data⟩
  | complete id => exact complete_sound sound id
  | abort id => exact ⟨limit, abort_sound sound id⟩
  | close => exact ⟨limit, close_sound sound⟩

theorem run_sound (passes : processing.Passes) (sound : Sound w limit) (calls : List (Call π)) :
    ∃ limit', Sound (w.run faults processing calls) limit' := by
  induction calls generalizing w limit with
  | nil => exact ⟨limit, sound⟩
  | cons call calls ih =>
    obtain ⟨limit', after⟩ := @act_sound π faults processing w limit passes sound call
    exact ih after

/-- A writer that failed to roll back has no active capture. -/
theorem Sound.inactive (sound : Sound w limit) (fatal : w.fatal) : w.active = none := by
  cases active : w.active with
  | none => rfl
  | some c =>
    rw [(sound.usable c active).2] at fatal
    cases fatal

/-- No capture begins once a rollback failed. -/
theorem act_fatal (inactive : w.active = none) (fatal : w.fatal) (call : Call π) :
    (w.act faults processing call).1.active = none ∧ (w.act faults processing call).1.fatal ∧
      (w.act faults processing call).1.begun = w.begun := by
  have missing : ∀ id, w.find id = none := fun id => by rw [find, inactive]; rfl
  cases call with
  | begin processor =>
    have refused : w.begin processor = (w, .unusable) := if_pos fatal
    rw [act, refused]
    exact ⟨inactive, fatal, rfl⟩
  | write id =>
    simp only [act, write, missing]
    split
    · exact ⟨inactive, fatal, rfl⟩
    · exact ⟨inactive, fatal, rfl⟩
  | complete id =>
    rw [act, complete, missing]
    exact ⟨inactive, fatal, rfl⟩
  | abort id =>
    rw [act, abort, missing]
    exact ⟨inactive, fatal, rfl⟩
  | close =>
    have nothing : w.abortActive faults = (w, .done) := by rw [abortActive, inactive]
    rw [act, close, nothing]
    split
    · exact ⟨inactive, fatal, rfl⟩
    · exact ⟨inactive, fatal, rfl⟩

theorem run_fatal (inactive : w.active = none) (fatal : w.fatal) (calls : List (Call π)) :
    (w.run faults processing calls).begun = w.begun ∧ (w.run faults processing calls).fatal := by
  induction calls generalizing w with
  | nil => exact ⟨rfl, fatal⟩
  | cons call calls ih =>
    obtain ⟨still, failed, begun⟩ :=
      @act_fatal π faults processing w inactive fatal call
    obtain ⟨count, last⟩ := ih still failed
    exact ⟨count.trans begun, last⟩

/-! ## Returned sections -/

theorem abortLocked_completed (w : Writer π) (c : Capture π) :
    (w.abortLocked faults c).1.completed = w.completed ∧
      (w.abortLocked faults c).2.sections = [] := by
  unfold abortLocked
  dsimp only
  split
  · exact ⟨rfl, rfl⟩
  · split
    · exact ⟨rfl, rfl⟩
    · exact ⟨rfl, rfl⟩

theorem writeStoredLocked_completed (w : Writer π) (c : Capture π) (data : List UInt8) :
    (w.writeStoredLocked faults c data).1.completed = w.completed := by
  unfold writeStoredLocked
  split
  · rfl
  · rfl

theorem process_completed (w : Writer π) (c : Capture π) (emission : Emission π) :
    (w.process faults c emission).1.completed = w.completed := by
  induction emission generalizing w c with
  | done => rfl
  | emit data _ ih =>
    exact (ih _ _ _).trans (writeStoredLocked_completed w c data)

theorem completeProcessed_completed (w : Writer π) (c : Capture π) (succeeds : Bool) :
    (w.completeProcessed faults c succeeds).1.completed.map (·.2) =
      w.completed.map (·.2) ++ (w.completeProcessed faults c succeeds).2.sections := by
  unfold completeProcessed
  dsimp only
  split
  · simp [(abortLocked_completed w c).1, Result.sections]
  · split
    · simp [(abortLocked_completed _ c).1, Result.sections]
    · simp [Result.sections]

theorem begin_completed (w : Writer π) (processor : Option π) :
    (w.begin processor).1.completed = w.completed ∧ (w.begin processor).2.sections = [] := by
  unfold begin
  split
  · exact ⟨rfl, rfl⟩
  split
  · exact ⟨rfl, rfl⟩
  · split
    · exact ⟨rfl, rfl⟩
    · exact ⟨rfl, rfl⟩

theorem write_completed (w : Writer π) (id : ℕ) (data : List UInt8) :
    (w.write faults processing id data).1.completed = w.completed ∧
      (w.write faults processing id data).2.sections = [] := by
  have plain : ∀ succeeds : Bool,
      (if succeeds then Result.done else .failed).sections = [] := by decide
  unfold write
  split
  · exact ⟨rfl, rfl⟩
  cases w.find id with
  | none => exact ⟨rfl, rfl⟩
  | some c =>
    dsimp only
    cases c.processor with
    | none => exact ⟨writeStoredLocked_completed w c data, plain _⟩
    | some processor => exact ⟨process_completed w c _, plain _⟩

theorem complete_completed (w : Writer π) (id : ℕ) :
    (w.complete faults processing id).1.completed.map (·.2) =
      w.completed.map (·.2) ++ (w.complete faults processing id).2.sections := by
  unfold complete
  cases w.find id with
  | none => exact (append_nil _).symm
  | some c =>
    dsimp only
    cases c.processor with
    | none => exact completeProcessed_completed w c true
    | some processor =>
      apply (completeProcessed_completed _ _ _).trans
      rw [process_completed]

theorem abort_completed (w : Writer π) (id : ℕ) :
    (w.abort faults id).1.completed = w.completed ∧ (w.abort faults id).2.sections = [] := by
  unfold abort
  cases w.find id with
  | none => exact ⟨rfl, rfl⟩
  | some c => exact abortLocked_completed w c

theorem close_completed (w : Writer π) :
    (w.close faults).1.completed = w.completed ∧ (w.close faults).2.sections = [] := by
  have same : (w.abortActive faults).1.completed = w.completed := by
    unfold abortActive
    cases w.active with
    | none => rfl
    | some c => exact (abortLocked_completed w c).1
  have plain : ∀ fails : Bool, (if fails then Result.failed else .done).sections = [] := by decide
  unfold close
  split
  · exact ⟨rfl, plain _⟩
  · exact ⟨same, plain _⟩

/-- A call adds the section that it returns to the completed ones. -/
theorem act_completed (w : Writer π) (call : Call π) :
    (w.act faults processing call).1.completed.map (·.2) =
      w.completed.map (·.2) ++ (w.act faults processing call).2.sections := by
  have unchanged : ∀ {acted : Writer π × Result},
      acted.1.completed = w.completed ∧ acted.2.sections = [] →
      acted.1.completed.map (·.2) = w.completed.map (·.2) ++ acted.2.sections := by
    rintro acted ⟨same, nothing⟩
    rw [same, nothing, append_nil]
  cases call with
  | begin processor => exact unchanged (begin_completed w processor)
  | write id data => exact unchanged (write_completed w id data)
  | complete id => exact complete_completed w id
  | abort id => exact unchanged (abort_completed w id)
  | close => exact unchanged (close_completed w)

theorem run_completed (w : Writer π) (calls : List (Call π)) :
    (w.run faults processing calls).completed.map (·.2) =
      w.completed.map (·.2) ++ w.returned faults processing calls := by
  induction calls generalizing w with
  | nil => exact (append_nil _).symm
  | cons _ calls ih =>
    apply (ih _).trans
    rw [act_completed, append_assoc]
    rfl

/-- The returned sections belong to the completed captures.  They are disjoint and in increasing
order, each holds what its capture emitted, no capture that failed or was rolled back has one, and
after a failed rollback no capture begins. -/
theorem sections_hold (faults : FileFaults) {processing : Processing π}
    (passes : processing.Passes) (content : List UInt8) (bufferBytes : ℕ)
    (calls : List (Call π)) :
    let w := (Writer.new content bufferBytes).run faults processing calls
    w.completed.map (·.2) = (Writer.new content bufferBytes).returned faults processing calls ∧
    (w.completed.Pairwise fun first second =>
      first.2.offset + first.2.bytes ≤ second.2.offset) ∧
    (∀ done ∈ w.completed, done.2.bytes = done.1.emitted.length ∧
      done.2.read w.buffer.file.content = done.1.emitted) ∧
    (∀ done ∈ w.completed, done.1.failed = false ∧ ∀ c ∈ w.rolledBack, c.id ≠ done.1.id) ∧
    (w.buffer.file.strayed = true → w.fatal = true) ∧
    (w.fatal = true → ∀ more, (w.run faults processing more).begun = w.begun ∧
      ∀ processor, ((w.run faults processing more).begin processor).2 = .unusable) := by
  obtain ⟨_, sound⟩ :=
    @run_sound π faults processing _ _ passes (new_sound content bufferBytes) calls
  refine ⟨run_completed _ calls, sound.ordered, fun done mem => ?_,
    fun done mem => ⟨(sound.stored done mem).unfailed, ?_⟩,
    sound.placed, fun fatal more => ?_⟩
  · exact ⟨(sound.stored done mem).bytes, (sound.stored done mem).read⟩
  · intro c rolledBack same
    have apart := (List.nodup_append.mp (List.nodup_append.mp sound.distinct).1).2.2
    exact apart _ (List.mem_map_of_mem mem) _ (List.mem_map_of_mem rolledBack) same.symm
  · obtain ⟨begun, still⟩ :=
      @run_fatal π faults processing _ (sound.inactive fatal) fatal more
    refine ⟨begun, fun processor => ?_⟩
    rw [begin, if_pos still]

/-- The processor that emits its data as it is. -/
def plainProcessing : Processing Unit where
  write _ data := .emit data fun succeeds => .done () succeeds
  flush _ := .done () true

theorem plainProcessing_passes : plainProcessing.Passes :=
  ⟨fun _ _ => rfl, fun _ => rfl⟩

/-- A capture is completed, a second one is rolled back, and the rollback of a third one fails at
its truncation: no capture can begin any more. -/
theorem sections_hold_twice :
    let faults : FileFaults :=
      ⟨fun _ => none, fun operation => if operation = 4 then some true else none, fun _ => none⟩
    let calls : List (Call Unit) :=
      [.begin none, .write 0 [97, 98], .complete 0, .begin none, .write 1 [99], .abort 1,
        .begin (some ()), .write 2 [100], .complete 2, .begin none, .write 3 [101], .abort 3]
    let w := (Writer.new [35] 4).run faults plainProcessing calls
    (Writer.new [35] 4).returned faults plainProcessing calls = [⟨1, 2⟩, ⟨3, 1⟩] ∧
      (w.completed.Pairwise fun first second =>
        first.2.offset + first.2.bytes ≤ second.2.offset) ∧
      ∀ more processor, ((w.run faults plainProcessing more).begin processor).2 = .unusable := by
  intro faults calls w
  obtain ⟨-, ordered, -, -, strayed, fatal⟩ :=
    sections_hold faults plainProcessing_passes [35] 4 calls
  have failed : w.fatal = true := strayed (by decide)
  exact ⟨by decide, ordered, fun more => (fatal failed more).2⟩

end Writer
end Jianmen.AuditArtifact
