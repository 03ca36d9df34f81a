import Mathlib.Data.List.Basic

/-!
# Writes through the SFTP proxy

The proxy opens the file of the target with the flags of the client turned into those of the
operating system, and passes every write on.  The SFTP client library that it uses turns the flags
back and sends a write in pieces; this library and the target are parameters.
-/

namespace Jianmen.SFTPProxy

open List

abbrev Bytes := List UInt8

/-! ## Open flags -/

structure FileOpenFlags where
  read : Bool := false
  write : Bool := false
  append : Bool := false
  creat : Bool := false
  trunc : Bool := false
  excl : Bool := false
  deriving DecidableEq

inductive AccessMode where
  | rdonly
  | wronly
  | rdwr
  deriving DecidableEq

/-- The flags of `os.OpenFile`. -/
structure OpenMode where
  access : AccessMode
  append : Bool := false
  create : Bool := false
  trunc : Bool := false
  excl : Bool := false
  deriving DecidableEq

def osMutatingOpenFlags (access : AccessMode) (flags : FileOpenFlags) : OpenMode :=
  { access := access, create := flags.creat, trunc := flags.trunc, excl := flags.excl }

def osOpenFlags (flags : FileOpenFlags) : OpenMode :=
  if flags.read && (flags.write || flags.append || flags.creat || flags.trunc) then
    osMutatingOpenFlags .rdwr flags
  else if flags.write || flags.append || flags.creat || flags.trunc then
    osMutatingOpenFlags .wronly flags
  else { access := .rdonly }

/-! ## The target -/

/-- The content after a write at an offset; what lies between the end and the offset is filled with
zeros. -/
def overwrite (content : Bytes) (offset : ℕ) (data : Bytes) : Bytes :=
  if data = [] then content
  else
    let padded := content ++ List.replicate (offset - content.length) 0
    padded.take offset ++ data ++ padded.drop (offset + data.length)

/-- With the append flag every write goes to the end of the file. -/
def writeAt (append : Bool) (content : Bytes) (write : ℕ × Bytes) : Bytes :=
  if append then content ++ write.2 else overwrite content write.1 write.2

/-- A target: what it makes of the content when a file is opened. -/
structure Target where
  opened : FileOpenFlags → Bytes → Option Bytes

/-- The content after an open and writes on the handle. -/
def Target.content (target : Target) (flags : FileOpenFlags) (content : Bytes)
    (writes : List (ℕ × Bytes)) : Option Bytes :=
  (target.opened flags content).map fun content => writes.foldl (writeAt flags.append) content

/-! ## The client library -/

/-- Pieces that lie one behind the other. -/
def placed (offset : ℕ) : List Bytes → List (ℕ × Bytes)
  | [] => []
  | piece :: pieces => (offset, piece) :: placed (offset + piece.length) pieces

structure Client where
  /-- The flags sent for a mode. -/
  pflags : OpenMode → FileOpenFlags
  /-- The pieces of a write. -/
  pieces : Bytes → List Bytes

/-- The library sends every flag of a mode and all of the data. -/
structure Client.Complete (client : Client) : Prop where
  flags : ∀ mode, client.pflags mode =
    { read := mode.access != .wronly
      write := mode.access != .rdonly
      append := mode.append
      creat := mode.create
      trunc := mode.trunc
      excl := mode.excl }
  data : ∀ data, (client.pieces data).flatten = data

/-- The content after the open and the writes of the proxy. -/
def Client.content (client : Client) (target : Target) (flags : FileOpenFlags) (content : Bytes)
    (writes : List (ℕ × Bytes)) : Option Bytes :=
  target.content (client.pflags (osOpenFlags flags)) content
    (writes.flatMap fun write => placed write.1 (client.pieces write.2))

/-! ## The direct effect -/

theorem overwrite_append (content : Bytes) (offset : ℕ) (first second : Bytes) :
    overwrite (overwrite content offset first) (offset + first.length) second =
      overwrite content offset (first ++ second) := by
  by_cases none_first : first = []
  · simp [none_first, overwrite]
  by_cases none_second : second = []
  · simp [none_second, overwrite]
  simp only [overwrite, none_first, none_second, append_eq_nil_iff, if_false, and_false]
  generalize padding : content ++ replicate (offset - content.length) 0 = padded
  have long : offset ≤ padded.length := by
    rw [← padding, length_append, length_replicate]
    omega
  have front : (padded.take offset ++ first).length = offset + first.length := by
    simp [long]
  have whole : offset + first.length -
      (padded.take offset ++ first ++ padded.drop (offset + first.length)).length = 0 := by
    rw [length_append, front]
    omega
  rw [whole, replicate_zero, append_nil, take_left' front,
    ← drop_drop (i := second.length), drop_left' front, drop_drop]
  simp [Nat.add_assoc]

theorem foldl_placed (content : Bytes) (offset : ℕ) (pieces : List Bytes) :
    (placed offset pieces).foldl (writeAt false) content =
      overwrite content offset pieces.flatten := by
  induction pieces generalizing content offset with
  | nil => rfl
  | cons piece pieces ih => exact (ih _ _).trans (overwrite_append content offset piece _)

/-- Without the append flag the proxy sends the flags of the client. -/
theorem Client.Complete.same_flags {client : Client} (complete : client.Complete)
    {flags : FileOpenFlags} (write : flags.write) (placed : flags.append = false) :
    client.pflags (osOpenFlags flags) = flags := by
  rw [complete.flags]
  obtain ⟨read, _, _, creat, trunc, excl⟩ := flags
  cases write
  cases placed
  cases read with
  | false | true => rfl

/-- A library that sends every write in one piece. -/
def plainClient : Client where
  pflags mode :=
    { read := mode.access != .wronly
      write := mode.access != .rdonly
      append := mode.append
      creat := mode.create
      trunc := mode.trunc
      excl := mode.excl }
  pieces data := [data]

/-- A target that truncates files on demand. -/
def plainTarget : Target where
  opened flags content := some (if flags.trunc then [] else content)

theorem plainClient_complete : plainClient.Complete :=
  ⟨fun _ => rfl, fun data => by simp [plainClient]⟩

end Jianmen.SFTPProxy
