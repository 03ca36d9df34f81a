import Mathlib.Data.List.Basic
import Mathlib.Tactic.Common
import Jianmen.Library.Loop

/-!
# Files behind a buffer

A file with a position, whose operations may fail, and a buffered writer in front of it.  A failed
write may have stored a part of its data, and a failed truncation or seek may have taken effect all
the same.  A writer that once failed writes nothing more until it is reset.  As long as the file is
written at its end, what was written and did not fail is in the file or still in the buffer.
-/

namespace Jianmen

open List

/-! ## Files -/

/-- Which operations fail, by their number: a write after storing some bytes, a truncation and a
seek with or without taking effect. -/
structure FileFaults where
  write : ℕ → Option ℕ
  truncate : ℕ → Option Bool
  seek : ℕ → Option Bool

/-- A file; `strayed` is a trace: a truncation or a seek failed. -/
structure File where
  content : List UInt8
  position : ℕ
  operations : ℕ := 0
  strayed : Bool := false

namespace File

variable (faults : FileFaults) (file : File)

/-- The file with data stored at its position; a gap before it reads as zeros. -/
def store (data : List UInt8) : File :=
  { file with
    content :=
      file.content.take file.position ++
        List.replicate (file.position - file.content.length) 0 ++ data ++
          file.content.drop (file.position + data.length)
    position := file.position + data.length
    operations := file.operations + 1 }

/-- Write data: the file, how many bytes were stored, and whether that was all. -/
def write (data : List UInt8) : File × ℕ × Bool :=
  match faults.write file.operations with
  | none => (file.store data, data.length, true)
  | some stored => (file.store (data.take stored), (data.take stored).length, false)

/-- The file with a length. -/
def resize (length : ℕ) : File :=
  { file with
    content := file.content.take length ++ List.replicate (length - file.content.length) 0 }

def truncate (length : ℕ) : File × Bool :=
  let counted := { file with operations := file.operations + 1 }
  match faults.truncate file.operations with
  | none => (counted.resize length, true)
  | some applied =>
    let failed := { counted with strayed := true }
    (if applied then failed.resize length else failed, false)

def seek (position : ℕ) : File × Bool :=
  let counted := { file with operations := file.operations + 1 }
  match faults.seek file.operations with
  | none => ({ counted with position := position }, true)
  | some applied =>
    let failed := { counted with strayed := true }
    (if applied then { failed with position := position } else failed, false)

/-- The file is written at its end. -/
def AtEnd : Prop :=
  file.position = file.content.length

variable {faults file}

theorem store_atEnd (ended : file.AtEnd) (data : List UInt8) :
    (file.store data).content = file.content ++ data ∧ (file.store data).AtEnd := by
  have content : (file.store data).content = file.content ++ data := by
    unfold AtEnd at ended
    simp [store, ended]
  refine ⟨content, ?_⟩
  unfold AtEnd at ended ⊢
  rw [content, length_append, ← ended]
  rfl

/-- A write at the end appends what it stores. -/
theorem write_atEnd (ended : file.AtEnd) (data : List UInt8) :
    ∃ stored, (file.write faults data).1.content = file.content ++ stored ∧
      (file.write faults data).1.AtEnd ∧ stored <+: data ∧
      (file.write faults data).2.1 = stored.length ∧
      ((file.write faults data).2.2 → stored = data) := by
  unfold write
  split
  · obtain ⟨content, still⟩ := store_atEnd ended data
    exact ⟨data, content, still, prefix_refl _, rfl, fun _ => rfl⟩
  · rename_i stored _
    obtain ⟨content, still⟩ := store_atEnd ended (data.take stored)
    exact ⟨data.take stored, content, still, take_prefix _ _, rfl, by simp⟩

theorem write_strayed (data : List UInt8) : (file.write faults data).1.strayed = file.strayed := by
  unfold write
  split
  · rfl
  · rfl

theorem truncate_strayed (length : ℕ) :
    (file.truncate faults length).1.strayed =
      (file.strayed || !(file.truncate faults length).2) := by
  unfold truncate
  split
  · simp [resize]
  · split
    · simp [resize]
    · simp

theorem seek_strayed (position : ℕ) :
    (file.seek faults position).1.strayed =
      (file.strayed || !(file.seek faults position).2) := by
  unfold seek
  split
  · simp
  · split
    · simp
    · simp

/-- A truncation keeps what lies before the new end. -/
theorem truncate_take {length : ℕ} (within : length ≤ file.content.length) :
    (file.truncate faults length).1.content.take length = file.content.take length ∧
      length ≤ (file.truncate faults length).1.content.length := by
  unfold truncate
  split
  · simp [resize, within, take_take]
  · split
    · simp [resize, within, take_take]
    · exact ⟨rfl, within⟩

theorem truncate_content {length : ℕ} (within : length ≤ file.content.length)
    (succeeds : (file.truncate faults length).2) :
    (file.truncate faults length).1.content = file.content.take length := by
  unfold truncate at succeeds ⊢
  split at succeeds
  · simp [resize, within]
  · cases succeeds

theorem seek_content (position : ℕ) : (file.seek faults position).1.content = file.content := by
  unfold seek
  split
  · rfl
  · split
    · rfl
    · rfl

theorem seek_position {position : ℕ} (succeeds : (file.seek faults position).2) :
    (file.seek faults position).1.position = position := by
  unfold seek at succeeds ⊢
  split at succeeds
  · rfl
  · cases succeeds

end File

/-! ## The buffer -/

/-- A buffered writer of at least one byte; `failed` keeps the first error. -/
structure BufferedFile where
  file : File
  size : ℕ
  pending : List UInt8 := []
  failed : Bool := false

namespace BufferedFile

variable (faults : FileFaults) (writer : BufferedFile)

/-- Write the buffer out; what was not stored stays in it. -/
def flush : BufferedFile :=
  if writer.failed ∨ writer.pending = [] then writer
  else
    let written := writer.file.write faults writer.pending
    { writer with
      file := written.1
      pending := writer.pending.drop written.2.1
      failed := !written.2.2 }

/-- Where a write stands: the data left and how much was taken. -/
structure Writing where
  writer : BufferedFile
  data : List UInt8
  count : ℕ

/-- One pass of a write: large data goes to the file directly, other data fills the buffer up. -/
def writePass (writing : Writing) : Loop.Pass Writing (BufferedFile × ℕ) :=
  let writer := writing.writer
  if writer.failed then .leave (writer, writing.count)
  else if writing.data.length ≤ writer.size - writer.pending.length then
    .leave ({ writer with pending := writer.pending ++ writing.data },
      writing.count + writing.data.length)
  else if writer.pending = [] then
    let written := writer.file.write faults writing.data
    .again
      { writer := { writer with file := written.1, failed := !written.2.2 }
        data := writing.data.drop written.2.1
        count := writing.count + written.2.1 }
  else
    let room := writer.size - writer.pending.length
    let filled := { writer with pending := writer.pending ++ writing.data.take room }
    .again
      { writer := filled.flush faults
        data := writing.data.drop room
        count := writing.count + (writing.data.take room).length }

/-- The passes that can follow: filling the buffer up, then writing directly. -/
def writeMeasure (writing : Writing) : ℕ :=
  if writing.writer.failed then 0
  else 2 * writing.data.length + (if writing.writer.pending = [] then 0 else 1) + 1

/-- Write data: the writer after it and how many bytes it took. -/
def write (data : List UInt8) : BufferedFile × ℕ :=
  Loop.run (writePass faults) writeMeasure (writer, 0) { writer := writer, data := data, count := 0 }

/-- Drop what is buffered, and the error. -/
def reset : BufferedFile :=
  { writer with pending := [], failed := false }

/-! ## What is written is in the file or in the buffer -/

/-- The file grows at its end, and unless the writer fails, the file and the buffer hold what they
held and the data. -/
structure Takes (before : BufferedFile) (data : List UInt8) (after : BufferedFile) : Prop where
  atEnd : after.file.AtEnd
  grows : before.file.content <+: after.file.content
  strayed : after.file.strayed = before.file.strayed
  holds : after.failed = false →
    before.failed = false ∧
      after.file.content ++ after.pending = before.file.content ++ before.pending ++ data

variable {faults writer}

theorem Takes.refl (ended : writer.file.AtEnd) : Takes writer [] writer :=
  ⟨ended, prefix_refl _, rfl, fun sound => ⟨sound, by simp⟩⟩

theorem Takes.trans {first second third : BufferedFile} {early late : List UInt8}
    (before : Takes first early second) (after : Takes second late third) :
    Takes first (early ++ late) third where
  atEnd := after.atEnd
  grows := before.grows.trans after.grows
  strayed := after.strayed.trans before.strayed
  holds := fun sound => by
    obtain ⟨still, later⟩ := after.holds sound
    obtain ⟨started, earlier⟩ := before.holds still
    exact ⟨started, by rw [later, earlier, append_assoc]⟩

theorem flush_takes (ended : writer.file.AtEnd) : Takes writer [] (writer.flush faults) := by
  unfold flush
  split
  · exact .refl ended
  rename_i running
  obtain ⟨stored, content, still, -, count, all⟩ :=
    @File.write_atEnd faults writer.file ended writer.pending
  refine ⟨still, ⟨stored, content.symm⟩, File.write_strayed _, fun sound => ?_⟩
  have complete := all (by simpa using sound)
  refine ⟨by simpa using (not_or.mp running).1, ?_⟩
  simp [content, count, complete]

/-- After a flush that succeeds nothing is buffered. -/
theorem flush_pending (ended : writer.file.AtEnd) (sound : (writer.flush faults).failed = false) :
    (writer.flush faults).pending = [] := by
  unfold flush at sound ⊢
  split at sound
  · rename_i idle
    rw [if_pos idle]
    exact idle.resolve_left (by simp [sound])
  rename_i running
  obtain ⟨_, -, -, -, count, all⟩ :=
    @File.write_atEnd faults writer.file ended writer.pending
  have complete := all (by simpa using sound)
  rw [if_neg running]
  simp [count, complete]

/-- Data that fits into the buffer is added to it. -/
theorem fill_takes (ended : writer.file.AtEnd) (data : List UInt8) :
    Takes writer data { writer with pending := writer.pending ++ data } :=
  ⟨ended, prefix_refl _, rfl, fun sound => ⟨sound, by simp⟩⟩

/-- Data written past an empty buffer: what was stored of it. -/
theorem direct_takes (ended : writer.file.AtEnd) (running : writer.failed = false)
    (empty : writer.pending = []) (data : List UInt8) :
    ∃ stored, (writer.file.write faults data).2.1 = stored.length ∧
      data = stored ++ data.drop stored.length ∧
      ((writer.file.write faults data).2.2 → data.drop stored.length = []) ∧
      Takes writer stored { writer with
          file := (writer.file.write faults data).1
          failed := !(writer.file.write faults data).2.2 } := by
  obtain ⟨stored, content, still, part, count, all⟩ := @File.write_atEnd faults _ ended data
  refine ⟨stored, count, (prefix_iff_eq_append.mp part).symm, fun succeeds => ?_, still,
    ⟨stored, content.symm⟩, File.write_strayed _, fun _ => ⟨running, ?_⟩⟩
  · rw [all succeeds, drop_length]
  · simp [content, empty]

/-- What a write has taken so far. -/
def Taken (before : BufferedFile) (data : List UInt8) (writing : Writing) : Prop :=
  ∃ taken, data = taken ++ writing.data ∧ Takes before taken writing.writer ∧
    writing.count = taken.length

theorem writePass_proceeds {data : List UInt8} {writing : Writing}
    (inside : Taken writer data writing) :
    Loop.Proceeds (Taken writer data) (fun result => Takes writer data result.1 ∧
        (result.1.failed = false → result.2 = data.length))
      writeMeasure writing (writePass faults writing) := by
  obtain ⟨current, left, _⟩ := writing
  obtain ⟨taken, rfl, takes, rfl⟩ := inside
  simp only [writePass]
  split
  · rename_i failed
    have failing : ∀ {goal : Prop}, current.failed = false → goal := by simp [failed]
    exact ⟨⟨takes.atEnd, takes.grows, takes.strayed, failing⟩, failing⟩
  rename_i running
  rw [Bool.not_eq_true] at running
  split
  · exact ⟨takes.trans (fill_takes takes.atEnd left), by simp⟩
  split
  · rename_i empty
    obtain ⟨stored, stores, rest, finished, more⟩ :=
      @direct_takes faults current takes.atEnd running empty left
    refine ⟨⟨taken ++ stored, ?_, takes.trans more, ?_⟩, ?_⟩
    · rw [append_assoc, stores, ← rest]
    · rw [length_append, stores]
    · cases succeeds : (current.file.write faults left).2.2 with
      | false =>
        simp only [writeMeasure, running]
        simp
      | true =>
        simp only [writeMeasure, running, stores, finished succeeds]
        simp only [Bool.not_true, Bool.false_eq_true, if_false, length_nil]
        omega
  · rename_i buffered
    have filled := fill_takes takes.atEnd (left.take (current.size - current.pending.length))
    have flushed := @flush_takes faults _ filled.atEnd
    refine ⟨⟨taken ++ left.take (current.size - current.pending.length), ?_, ?_, ?_⟩, ?_⟩
    · rw [append_assoc, take_append_drop]
    · simpa using (takes.trans filled).trans flushed
    · rw [length_append]
    · have drained := @flush_pending faults _ filled.atEnd
      generalize flush faults _ = after at drained ⊢
      cases ends : after.failed with
      | true =>
        simp only [writeMeasure, ends, running]
        simp
      | false =>
        simp only [writeMeasure, ends, running, drained ends, if_neg buffered]
        simp only [Bool.false_eq_true, if_false, if_true, length_drop]
        omega

theorem write_takes (ended : writer.file.AtEnd) (data : List UInt8) :
    Takes writer data (writer.write faults data).1 ∧ ((writer.write faults data).1.failed = false →
        (writer.write faults data).2 = data.length) :=
  Loop.run_proceeds (fun _ inside => writePass_proceeds inside) ⟨[], rfl, .refl ended, rfl⟩

end BufferedFile
end Jianmen
