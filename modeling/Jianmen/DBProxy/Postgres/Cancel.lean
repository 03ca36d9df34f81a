import Mathlib.Data.List.AList
import Jianmen.DBProxy.Sink

/-!
# Cancel requests

A cancel request names a backend by a process and a secret, which backends of different instances
may share.  The gateway registers the instance of every session under its key and forwards a request
only where the key is that of a single session.
-/

namespace Jianmen.DBProxy

open List

structure PostgresCancelKey where
  processID : UInt32
  secret : Bytes
  deriving DecidableEq

/-- The counter of the source has 64 bits and counts registrations.  It is a natural number here: it
would come back to a number in use only after `2 ^ 64` registrations in one process, which take
centuries at a thousand million a second. -/
structure PostgresCancelRegistry (ι : Type) where
  nextID : ℕ := 0
  entries : PostgresCancelKey → Option (AList fun _ : ℕ => ι) := fun _ => none

namespace PostgresCancelRegistry

variable {ι : Type} (registry : PostgresCancelRegistry ι) (key : PostgresCancelKey)

/-- The entries under a key; a missing map has none. -/
def inner : AList fun _ : ℕ => ι :=
  (registry.entries key).getD ∅

def register (target : ι) : PostgresCancelRegistry ι :=
  let entryID := registry.nextID + 1
  { nextID := entryID
    entries := Function.update registry.entries key
      (some ((registry.inner key).insert entryID target)) }

/-- What a release function does when it is called first. -/
def release (entryID : ℕ) : PostgresCancelRegistry ι :=
  let left := (registry.inner key).erase entryID
  { registry with
    entries := Function.update registry.entries key
      (if left.entries.length = 0 then none else some left) }

def lookup : Option ι :=
  let entries := (registry.inner key).entries
  if entries.length ≠ 1 then none else entries.head?.map (·.2)

/-- No map is kept without entries. -/
def Tidy : Prop :=
  ∀ key entries, registry.entries key = some entries → entries.entries.length ≠ 0

variable {registry key}

theorem Tidy.update (tidy : registry.Tidy) {next : ℕ} {entries : Option (AList fun _ : ℕ => ι)}
    (filled : ∀ found, entries = some found → found.entries.length ≠ 0) :
    Tidy ⟨next, Function.update registry.entries key entries⟩ := by
  intro other found present
  simp only [Function.update_apply] at present
  split at present
  · exact filled found present
  · exact tidy other found present

theorem Tidy.register (tidy : registry.Tidy) (target : ι) : (registry.register key target).Tidy := by
  refine tidy.update fun found same => ?_
  cases same
  simp

theorem Tidy.release (tidy : registry.Tidy) (entryID : ℕ) : (registry.release key entryID).Tidy := by
  refine tidy.update fun found same => ?_
  split at same
  · cases same
  · rename_i filled
    cases same
    exact filled

theorem inner_release (entryID : ℕ) (other : PostgresCancelKey) :
    ((registry.release key entryID).inner other).entries =
      if other = key then (registry.inner key).entries.kerase entryID
      else (registry.inner other).entries := by
  rw [inner]
  simp only [release, Function.update_apply]
  split
  · by_cases empty : ((registry.inner key).erase entryID).entries.length = 0
    · rw [if_pos empty]
      exact (length_eq_zero_iff.mp empty).symm
    · rw [if_neg empty]
      rfl
  · rfl

end PostgresCancelRegistry

/-! ## Sessions -/

structure CancelRegistration (ι : Type) where
  key : PostgresCancelKey
  entryID : ℕ
  target : ι

/-- The registry with the live registrations, the latest first. -/
structure PostgresCancels (ι : Type) where
  registry : PostgresCancelRegistry ι := {}
  live : List (CancelRegistration ι) := []

/-- What takes the lock for writing, one call after the other. -/
inductive CancelCall (ι : Type) where
  | register (key : PostgresCancelKey) (target : ι)
  /-- The release function of the registration with this number. -/
  | release (entryID : ℕ)

namespace PostgresCancels

open PostgresCancelRegistry

variable {ι : Type} (c : PostgresCancels ι)

/-- A release function acts once; one that has not been returned yet cannot be called. -/
def step : CancelCall ι → PostgresCancels ι
  | .register key target =>
    ⟨c.registry.register key target, ⟨key, c.registry.nextID + 1, target⟩ :: c.live⟩
  | .release entryID =>
    match c.live.find? (·.entryID == entryID) with
    | none => c
    | some registration =>
      ⟨c.registry.release registration.key entryID, c.live.eraseP (·.entryID == entryID)⟩

def run (calls : List (CancelCall ι)) : PostgresCancels ι :=
  calls.foldl step c

def liveFor (key : PostgresCancelKey) : List (CancelRegistration ι) :=
  c.live.filter (·.key = key)

def entry (registration : CancelRegistration ι) : Sigma fun _ : ℕ => ι :=
  ⟨registration.entryID, registration.target⟩

/-- Under each key are its live registrations. -/
structure Routed : Prop where
  numbered : ∀ registration ∈ c.live, registration.entryID ≤ c.registry.nextID
  listed : ∀ key, (c.registry.inner key).entries = (c.liveFor key).map entry
  tidy : c.registry.Tidy

variable {c} {key : PostgresCancelKey}

/-- A number that none of the registrations has is under no key. -/
theorem notMem_keys {registrations : List (CancelRegistration ι)} {entryID : ℕ}
    (missing : ∀ registration ∈ registrations, registration.entryID ≠ entryID) :
    entryID ∉ ((registrations.filter (·.key = key)).map entry).keys := by
  simp only [keys, map_map, mem_map, mem_filter, Function.comp_apply, entry]
  rintro ⟨registration, ⟨member, -⟩, same⟩
  exact missing registration member same

theorem Routed.register (routed : c.Routed) (key : PostgresCancelKey) (target : ι) :
    (c.step (.register key target)).Routed := by
  refine ⟨fun registration member => ?_, fun other => ?_, routed.tidy.register target⟩
  · rcases mem_cons.mp member with rfl | earlier
    · exact Nat.le_refl _
    · exact Nat.le_succ_of_le (routed.numbered registration earlier)
  · have listed := routed.listed other
    obtain rfl | different := eq_or_ne other key
    · have fresh : c.registry.nextID + 1 ∉ (c.registry.inner other).entries.keys := by
        rw [listed]
        refine notMem_keys fun registration member same => ?_
        have numbered := routed.numbered registration member
        omega
      simp only [step, PostgresCancelRegistry.register, PostgresCancelRegistry.inner,
        Function.update_self, Option.getD_some, AList.entries_insert]
      rw [← PostgresCancelRegistry.inner, kerase_of_notMem_keys fresh, listed]
      simp [liveFor, entry]
    · simpa [step, liveFor, PostgresCancelRegistry.register, PostgresCancelRegistry.inner,
        Function.update_of_ne different, different.symm] using listed

theorem Routed.release (routed : c.Routed) (entryID : ℕ) :
    (c.step (.release entryID)).Routed := by
  simp only [step]
  split
  · exact routed
  rename_i registration found
  obtain ⟨named, front, back, whole, unnamed⟩ := find?_eq_some_iff_append.mp found
  have erased : c.live.eraseP (·.entryID == entryID) = front ++ back := by
    rw [whole, eraseP_append_right _ (by simpa using unnamed),
      eraseP_cons_of_pos (by exact named)]
  refine ⟨fun other member => ?_, fun other => ?_, routed.tidy.release entryID⟩
  · exact routed.numbered other (eraseP_subset member)
  · have listed := routed.listed other
    rw [inner_release, liveFor, erased]
    rw [liveFor, whole, filter_append] at listed
    split
    · rename_i same
      subst same
      rw [listed, filter_cons_of_pos (by simp), map_append, kerase_append_right
        (notMem_keys (by simpa using unnamed)), map_cons,
        kerase_cons_eq (beq_iff_eq.mp named).symm, filter_append, map_append]
    · rename_i different
      rw [listed, filter_cons_of_neg (by simpa using Ne.symm different), filter_append]

theorem run_routed (routed : c.Routed) (calls : List (CancelCall ι)) : (c.run calls).Routed := by
  induction calls generalizing c with
  | nil => exact routed
  | cons call calls ih =>
    cases call with
    | register key target => exact ih (routed.register key target)
    | release entryID => exact ih (routed.release entryID)

theorem Routed.unlisted (routed : c.Routed) (none_live : c.liveFor key = []) :
    c.registry.entries key = none := by
  have listed := routed.listed key
  rw [none_live, PostgresCancelRegistry.inner] at listed
  cases found : c.registry.entries key with
  | none => rfl
  | some entries =>
    rw [found] at listed
    exact absurd (congrArg length listed) (routed.tidy key entries found)

/-- A request is routed exactly where one registration is live, to its instance, and nothing is kept
under a key without live registrations. -/
theorem lookup_iff_single_live (calls : List (CancelCall ι)) (key : PostgresCancelKey) :
    (∀ target, (run {} calls).registry.lookup key = some target ↔
      ∃ registration, (run {} calls).liveFor key = [registration] ∧ registration.target = target) ∧
      ((run {} calls).liveFor key = [] → (run {} calls).registry.entries key = none) := by
  have initially : Routed ({} : PostgresCancels ι) :=
    ⟨fun _ member => (nomatch member), fun _ => rfl, fun _ _ present => (nomatch present)⟩
  have routed := run_routed initially calls
  refine ⟨fun target => ?_, routed.unlisted⟩
  rw [PostgresCancelRegistry.lookup, routed.listed, length_map]
  rcases (run {} calls).liveFor key with _ | ⟨registration, _ | ⟨_, _⟩⟩
  · simp
  · simp [entry]
  · simp

end PostgresCancels

end Jianmen.DBProxy
