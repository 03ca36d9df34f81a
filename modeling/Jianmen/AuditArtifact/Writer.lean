import Jianmen.Library.BufferedFile

/-!
# The artifact writer

Full texts are captured one after the other into one file.  A capture may pass its data through a
processor, which emits what is stored.  Completing a capture flushes the buffer and returns the
section of the file that the capture takes up; aborting it drops the buffer and truncates the file
to where the capture began.  When that fails the writer accepts no further capture.
-/

namespace Jianmen.AuditArtifact

/-- A stored section of the file. -/
structure Section where
  offset : ℕ
  bytes : ℕ
  deriving DecidableEq

/-! ## Processors -/

/-- What a processor does in one call: it emits data, learns whether that succeeded, and in the end
returns with or without an error. -/
inductive Emission (π : Type) where
  | done (processor : π) (succeeds : Bool)
  | emit (data : List UInt8) (next : Bool → Emission π)

/-- Processors in a state. -/
structure Processing (π : Type) where
  write : π → List UInt8 → Emission π
  flush : π → Emission π

/-- If every emission succeeds, so does the call. -/
def Emission.Succeeds {π : Type} : Emission π → Prop
  | .done _ succeeds => succeeds = true
  | .emit _ next => (next true).Succeeds

/-- Processors that only fail when an emission fails. -/
structure Processing.Passes {π : Type} (processing : Processing π) : Prop where
  write : ∀ processor data, (processing.write processor data).Succeeds
  flush : ∀ processor, (processing.flush processor).Succeeds

/-! ## Captures -/

/-- A capture.  `emitted` and `failed` are traces: the data it emitted, and whether a write to it
returned an error. -/
structure Capture (π : Type) where
  id : ℕ
  processor : Option π
  start : ℕ
  bytes : ℕ := 0
  emitted : List UInt8 := []
  failed : Bool := false

/-- The writer.  A capture is closed when it is not the active one.  `begun` counts the captures;
`completed` and `rolledBack` are traces of what became of them. -/
structure Writer (π : Type) where
  buffer : BufferedFile
  offset : ℕ
  active : Option (Capture π) := none
  closed : Bool := false
  fatal : Bool := false
  begun : ℕ := 0
  completed : List (Capture π × Section) := []
  rolledBack : List (Capture π) := []

/-- What a call returns. -/
inductive Result where
  | began (id : ℕ)
  | done
  | section (stored : Section)
  | closed
  | captureActive
  | captureClosed
  | unusable
  | failed
  deriving DecidableEq

/-- The section a call returns, if it does. -/
def Result.sections : Result → List Section
  | .section stored => [stored]
  | _ => []

def defaultBufferBytes : ℕ := 256 * 1024

namespace Writer

variable {π : Type} (faults : FileFaults) (processing : Processing π)

/-- A writer at the end of a file. -/
def new (content : List UInt8) (bufferBytes : ℕ) : Writer π where
  buffer :=
    { file := { content := content, position := content.length }
      size := if bufferBytes = 0 then defaultBufferBytes else bufferBytes }
  offset := content.length

def begin (w : Writer π) (processor : Option π) : Writer π × Result :=
  if w.fatal then (w, .unusable)
  else if w.closed then (w, .closed)
  else if w.active.isSome then (w, .captureActive)
  else
    ({ w with
        active := some { id := w.begun, processor := processor, start := w.offset }
        begun := w.begun + 1 }, .began w.begun)

/-- Store data of the active capture. -/
def writeStoredLocked (w : Writer π) (c : Capture π) (data : List UInt8) :
    Writer π × Capture π × Bool :=
  if data = [] then (w, c, true)
  else
    let written := w.buffer.write faults data
    let count := written.2
    ({ w with buffer := written.1, offset := w.offset + count },
      { c with bytes := c.bytes + count, emitted := c.emitted ++ data },
      !written.1.failed && count == data.length)

/-- Run a call of a processor. -/
def process (w : Writer π) (c : Capture π) : Emission π → Writer π × Capture π × Bool
  | .done processor succeeds => (w, { c with processor := some processor }, succeeds)
  | .emit data next =>
    let stored := w.writeStoredLocked faults c data
    process stored.1 stored.2.1 (next stored.2.2)

/-- Roll the active capture back. -/
def abortLocked (w : Writer π) (c : Capture π) : Writer π × Result :=
  let ended := { w with active := none, rolledBack := w.rolledBack ++ [c] }
  if w.closed then ({ ended with fatal := true }, .failed)
  else
    let truncated := w.buffer.file.truncate faults c.start
    let sought := truncated.1.seek faults c.start
    let buffer := { w.buffer.reset with file := sought.1 }
    if truncated.2 && sought.2 then
      ({ ended with buffer := buffer, offset := c.start }, .done)
    else ({ ended with buffer := buffer, fatal := true }, .failed)

/-- The capture, if it is the active one. -/
def find (w : Writer π) (id : ℕ) : Option (Capture π) :=
  w.active.filter (·.id == id)

def write (w : Writer π) (id : ℕ) (data : List UInt8) : Writer π × Result :=
  if data = [] then (w, .done)
  else
    match w.find id with
    | none => (w, .captureClosed)
    | some c =>
      let stored :=
        match c.processor with
        | none => w.writeStoredLocked faults c data
        | some processor => w.process faults c (processing.write processor data)
      ({ stored.1 with
          active := some { stored.2.1 with failed := stored.2.1.failed || !stored.2.2 } },
        if stored.2.2 then .done else .failed)

/-- Complete a capture whose processor was flushed. -/
def completeProcessed (w : Writer π) (c : Capture π) (succeeds : Bool) : Writer π × Result :=
  if !succeeds then ((w.abortLocked faults c).1, .failed)
  else
    let flushed := { w with buffer := w.buffer.flush faults }
    if flushed.buffer.failed then ((flushed.abortLocked faults c).1, .failed)
    else
      let stored : Section := { offset := c.start, bytes := c.bytes }
      ({ flushed with active := none, completed := flushed.completed ++ [(c, stored)] },
        .section stored)

def complete (w : Writer π) (id : ℕ) : Writer π × Result :=
  match w.find id with
  | none => (w, .captureClosed)
  | some c =>
    match c.processor with
    | none => w.completeProcessed faults c true
    | some processor =>
      let processed := w.process faults c (processing.flush processor)
      processed.1.completeProcessed faults processed.2.1 processed.2.2

def abort (w : Writer π) (id : ℕ) : Writer π × Result :=
  match w.find id with
  | none => (w, .done)
  | some c => w.abortLocked faults c

/-- Roll back what is still captured. -/
def abortActive (w : Writer π) : Writer π × Result :=
  match w.active with
  | none => (w, .done)
  | some c => w.abortLocked faults c

def close (w : Writer π) : Writer π × Result :=
  if w.closed then (w, if w.fatal then .failed else .done)
  else
    let aborted := (w.abortActive faults).1
    let buffer := aborted.buffer.flush faults
    ({ aborted with buffer := buffer, closed := true },
      if aborted.fatal || buffer.failed then .failed else .done)

/-! ## Runs -/

/-- The calls made on a writer and its captures. -/
inductive Call (π : Type) where
  | begin (processor : Option π)
  | write (id : ℕ) (data : List UInt8)
  | complete (id : ℕ)
  | abort (id : ℕ)
  | close

def act (w : Writer π) : Call π → Writer π × Result
  | .begin processor => w.begin processor
  | .write id data => w.write faults processing id data
  | .complete id => w.complete faults processing id
  | .abort id => w.abort faults id
  | .close => w.close faults

def run (w : Writer π) (calls : List (Call π)) : Writer π :=
  calls.foldl (fun w call => (w.act faults processing call).1) w

/-- The sections that calls return. -/
def returned (w : Writer π) : List (Call π) → List Section
  | [] => []
  | call :: calls =>
    let acted := w.act faults processing call
    acted.2.sections ++ returned acted.1 calls

end Writer
end Jianmen.AuditArtifact
