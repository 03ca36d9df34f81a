import Jianmen.Library.Calendar
import Jianmen.Library.Codes
import Jianmen.Library.Text
import Mathlib.Data.List.Sort
import Mathlib.Data.Prod.Lex
import Mathlib.Data.String.Basic

/-!
# The hash of a request

A request is known again by a hash of its canonical form: texts are trimmed, the grants sorted and
freed of repetitions in the storage they are in, and the whole is written as JSON.
-/

namespace Jianmen.Provisioning.Canonical

open Codes List Option

/-! ## Grants -/

@[ext]
structure DBGrant where
  database : String
  privilege : String
  deriving DecidableEq

namespace DBGrant

def trimmed (grant : DBGrant) : DBGrant :=
  ⟨trimSpace grant.database, trimSpace grant.privilege⟩

def less (left right : DBGrant) : Bool :=
  if left.database = right.database then left.privilege < right.privilege
  else left.database < right.database

/-- What grants are ordered by. -/
def key (grant : DBGrant) : String ×ₗ String :=
  toLex (grant.database, grant.privilege)

theorem less_iff {left right : DBGrant} : left.less right ↔ left.key < right.key := by
  unfold less key
  rw [Prod.Lex.toLex_lt_toLex]
  split
  · rename_i same
    simp [same]
  · rename_i other
    simp [other]

theorem key_injective : Function.Injective key := by
  intro left right same
  cases left
  cases right
  simpa [key] using same

/-- Strictly before another grant, by database and privilege. -/
def Before (left right : DBGrant) : Prop :=
  left.key < right.key

instance : Std.Irrefl Before :=
  ⟨fun grant => lt_irrefl grant.key⟩

instance : Std.Antisymm Before :=
  ⟨fun _ _ before after => (lt_asymm before after).elim⟩

end DBGrant

/-- One pass of the loop over the sorted grants; the grants that are kept are at the front of the
storage that is read. -/
def keepGrant (state : List DBGrant × ℕ) (index : ℕ) : List DBGrant × ℕ :=
  match state.1[index]? with
  | none => state
  | some grant =>
    if 0 < state.2 ∧ state.1[state.2 - 1]? = some grant then state
    else (state.1.set state.2 grant, state.2 + 1)

def sortGrants (grants : List DBGrant) : List DBGrant :=
  grants.mergeSort fun left right => !right.less left

def canonicalGrants (grants : List DBGrant) : List DBGrant :=
  let sorted := sortGrants (grants.map DBGrant.trimmed)
  let kept := (List.range sorted.length).foldl keepGrant (sorted, 0)
  kept.1.take kept.2

theorem sortGrants_sorted (grants : List DBGrant) :
    (sortGrants grants).Pairwise fun left right => left.key ≤ right.key := by
  have sorted := @List.pairwise_mergeSort _ (fun left right : DBGrant => !right.less left)
    (fun a b c => ?_) (fun a b => ?_) grants
  · refine sorted.imp fun {left right} ordered => ?_
    simpa [DBGrant.less_iff, ← Bool.not_eq_true] using ordered
  · simp only [Bool.not_eq_true', ← Bool.not_eq_true, DBGrant.less_iff, not_lt]
    exact fun first second => first.trans second
  · simp only [Bool.or_eq_true, Bool.not_eq_true', ← Bool.not_eq_true, DBGrant.less_iff, not_lt]
    exact le_total _ _

/-- After some passes the grants that were read are kept, once each and in order. -/
structure Kept (sorted : List DBGrant) (index : ℕ) (state : List DBGrant × ℕ) : Prop where
  unread : state.1.drop index = sorted.drop index
  length : state.1.length = sorted.length
  count : state.2 ≤ index
  increasing : (state.1.take state.2).Pairwise DBGrant.Before
  mem : ∀ grant, grant ∈ state.1.take state.2 ↔ grant ∈ sorted.take index

theorem Kept.step {sorted : List DBGrant} {index : ℕ} {state : List DBGrant × ℕ}
    (ordered : sorted.Pairwise fun left right => left.key ≤ right.key)
    (kept : Kept sorted index state) (inside : index < sorted.length) :
    Kept sorted (index + 1) (keepGrant state index) := by
  obtain ⟨storage, count⟩ := state
  obtain ⟨unread, length, bound, increasing, mem⟩ := kept
  dsimp only at unread length bound increasing mem
  have found : storage[index]? = some sorted[index] := by
    rw [← head?_drop, unread, head?_drop, getElem?_eq_getElem inside]
  have read : sorted.take (index + 1) = sorted.take index ++ [sorted[index]] :=
    take_succ_eq_append_getElem inside
  have later : storage.drop (index + 1) = sorted.drop (index + 1) := by
    rw [← drop_drop, unread, drop_drop]
  have below : ∀ grant ∈ storage.take count, grant.key ≤ sorted[index].key := by
    intro grant member
    obtain ⟨place, short, rfl⟩ := mem_take_iff_getElem.mp ((mem grant).mp member)
    exact pairwise_iff_getElem.mp ordered place index (by omega) inside (by omega)
  simp only [keepGrant, found]
  split
  · rename_i repeated
    refine ⟨later, length, by omega, increasing, fun grant => ?_⟩
    have here : sorted[index] ∈ storage.take count := by
      apply mem_of_getElem? (i := count - 1)
      rw [getElem?_take_of_lt (by omega), repeated.2]
    rw [mem, read, mem_append, mem_singleton]
    constructor
    · exact .inl
    · rintro (earlier | rfl)
      · exact earlier
      · exact (mem _).mp here
  · rename_i fresh
    have front : (storage.set count sorted[index]).take (count + 1) =
        storage.take count ++ [sorted[index]] := by
      rw [take_succ_eq_append_getElem (by rw [length_set]; omega), take_set_of_le (by omega),
        getElem_set_self]
    refine ⟨?_, ?_, by omega, ?_, fun grant => ?_⟩
    · rw [drop_set_of_lt (by omega), later]
    · rw [length_set, length]
    · rw [front, pairwise_append]
      refine ⟨increasing, pairwise_singleton _ _, fun grant member other here => ?_⟩
      obtain rfl := mem_singleton.mp here
      refine lt_of_le_of_ne (below grant member) fun same => fresh ?_
      obtain ⟨place, short, rfl⟩ := mem_iff_getElem.mp member
      have last : place = count - 1 := by
        by_contra other
        rw [length_take] at short
        have greater := pairwise_iff_getElem.mp increasing place (count - 1)
          (by omega) (by rw [length_take]; omega) (by omega)
        rw [DBGrant.Before, same] at greater
        exact absurd (below _ (getElem_mem _)) (not_le_of_gt greater)
      have equal := DBGrant.key_injective same
      rw [getElem_take] at equal
      rw [length_take] at short
      exact ⟨by omega, by rw [← last, getElem?_eq_getElem (by omega), equal]⟩
    · rw [front, read, mem_append, mem_append, mem]

theorem canonicalGrants_kept (grants : List DBGrant) :
    (canonicalGrants grants).Pairwise DBGrant.Before ∧
      ∀ grant, grant ∈ canonicalGrants grants ↔ grant ∈ grants.map DBGrant.trimmed := by
  have ordered := sortGrants_sorted (grants.map DBGrant.trimmed)
  have passes : ∀ index ≤ (sortGrants (grants.map DBGrant.trimmed)).length,
      Kept (sortGrants (grants.map DBGrant.trimmed)) index
        ((range index).foldl keepGrant (sortGrants (grants.map DBGrant.trimmed), 0)) := by
    intro index inside
    induction index with
    | zero => exact ⟨rfl, rfl, Nat.le_refl _, by simp, by simp⟩
    | succ index ih =>
      rw [range_succ, foldl_append]
      exact (ih (by omega)).step ordered inside
  have final := passes _ (Nat.le_refl _)
  refine ⟨final.increasing, fun grant => ?_⟩
  rw [canonicalGrants, final.mem, take_length, sortGrants, mem_mergeSort]

/-- The kept grants depend on the set of trimmed grants only. -/
theorem canonicalGrants_congr {grants others : List DBGrant}
    (same : ∀ grant, grant ∈ grants.map DBGrant.trimmed ↔ grant ∈ others.map DBGrant.trimmed) :
    canonicalGrants grants = canonicalGrants others := by
  obtain ⟨increasing, mem⟩ := canonicalGrants_kept grants
  obtain ⟨increasing', mem'⟩ := canonicalGrants_kept others
  refine increasing.eq_of_mem_iff increasing' fun grant => ?_
  rw [mem, mem', same]

/-! ## JSON -/

def hexDigits (value : ℕ) : List Char :=
  [4096, 256, 16, 1].map fun weight => Nat.digitChar (value / weight % 16)

/-- The characters that are not written as they are. -/
def escapes : List (Char × List Char) :=
  [('"', ['\\', '"']), ('\\', ['\\', '\\']), (Char.ofNat 0x08, ['\\', 'b']),
    (Char.ofNat 0x0C, ['\\', 'f']), ('\n', ['\\', 'n']), ('\r', ['\\', 'r']),
    ('\t', ['\\', 't'])] ++
  ((List.range 0x20).map Char.ofNat ++ ['<', '>', '&', Char.ofNat 0x2028, Char.ofNat 0x2029]).map
    fun character => (character, '\\' :: 'u' :: hexDigits character.toNat)

def escapeChar (character : Char) : List Char :=
  ((escapes.find? (·.1 == character)).map (·.2)).getD [character]

/-- A text in quotes. -/
def encodeString (text : String) : List Char :=
  '"' :: (text.toList.flatMap escapeChar ++ ['"'])

def encodeGrant (grant : DBGrant) : List Char :=
  "\x7b\"database\":".toList ++ encodeString grant.database ++ ",\"privilege\":".toList ++
    encodeString grant.privilege ++ "\x7d".toList

/-- An empty slice was never allocated. -/
def encodeGrants : List DBGrant → List Char
  | [] => "null".toList
  | grant :: grants => '[' :: (encodeGrant grant ++
      (grants.flatMap (fun grant => ',' :: encodeGrant grant) ++ [']']))

theorem escapes_apart : ∀ entry ∈ escapes, ∀ other ∈ escapes,
    entry.2 <+: other.2 → entry.1 = other.1 := by
  decide +kernel

theorem escapes_start : ∀ entry ∈ escapes, entry.2.head? = some '\\' := by
  decide +kernel

/-- A character is written as it is, or by an escape. -/
theorem escapeChar_cases (character : Char) :
    (character ≠ '\\' ∧ character ≠ '"' ∧ escapeChar character = [character]) ∨
      ∃ entry ∈ escapes, entry.1 = character ∧ escapeChar character = entry.2 := by
  unfold escapeChar
  cases found : escapes.find? (·.1 == character) with
  | none =>
    refine .inl ⟨?_, ?_, rfl⟩
    · rintro rfl
      exact absurd found (by decide +kernel)
    · rintro rfl
      exact absurd found (by decide +kernel)
  | some entry =>
    refine .inr ⟨entry, mem_of_find?_eq_some found, ?_, rfl⟩
    simpa using find?_some found

theorem escapeChar_delimiting : SelfDelimiting escapeChar := by
  refine .of_apart fun first second starts => ?_
  obtain ⟨unescaped, -, first_eq⟩ | ⟨entry, member, rfl, first_eq⟩ := escapeChar_cases first
  · obtain ⟨-, -, second_eq⟩ | ⟨other, listed, rfl, second_eq⟩ := escapeChar_cases second
    · rw [first_eq, second_eq] at starts
      simpa using starts
    · rw [first_eq, second_eq] at starts
      obtain ⟨rest, equal⟩ := starts
      have head := escapes_start other listed
      rw [← equal] at head
      exact absurd (some.inj head) unescaped
  · obtain ⟨unescaped, -, second_eq⟩ | ⟨other, listed, rfl, second_eq⟩ := escapeChar_cases second
    · rw [first_eq, second_eq] at starts
      have head := escapes_start entry member
      obtain ⟨rest, equal⟩ := starts
      cases code : entry.2 with
      | nil => simp [code] at head
      | cons =>
        rw [code] at head equal
        exact absurd ((cons.inj equal).1.symm.trans (some.inj head)) unescaped
    · rw [first_eq, second_eq] at starts
      exact escapes_apart entry member other listed starts

theorem encodeString_delimiting : SelfDelimiting encodeString := by
  have letters : SelfDelimiting fun letters : List Char => letters.flatMap escapeChar ++ ['"'] := by
    refine escapeChar_delimiting.many fun character => ?_
    obtain ⟨-, other, code⟩ | ⟨entry, member, -, code⟩ := escapeChar_cases character
    · exact ⟨character, [], code, other⟩
    · have head := escapes_start entry member
      rw [← code] at head
      obtain ⟨tail, code⟩ := head?_eq_some_iff.mp head
      exact ⟨'\\', tail, code, by decide⟩
  intro first second rest rest' equal
  obtain ⟨same, equal⟩ := letters (cons.inj equal).2
  exact ⟨String.toList_inj.mp same, equal⟩

theorem encodeGrant_delimiting : SelfDelimiting encodeGrant := by
  intro first second rest rest' equal
  unfold encodeGrant at equal
  simp only [append_assoc, append_cancel_left_eq] at equal
  obtain ⟨database, equal⟩ := encodeString_delimiting equal
  rw [append_cancel_left_eq] at equal
  obtain ⟨privilege, equal⟩ := encodeString_delimiting equal
  rw [append_cancel_left_eq] at equal
  exact ⟨DBGrant.ext database privilege, equal⟩

theorem encodeGrants_delimiting : SelfDelimiting encodeGrants := by
  have others : SelfDelimiting fun grants : List DBGrant =>
      grants.flatMap (fun grant => ',' :: encodeGrant grant) ++ [']'] := by
    refine SelfDelimiting.many (fun first second rest rest' equal => ?_) fun grant => ?_
    · exact encodeGrant_delimiting (cons.inj equal).2
    · exact ⟨',', _, rfl, by decide⟩
  intro first second rest rest' equal
  cases first with
  | nil =>
    cases second with
    | nil => exact ⟨rfl, append_cancel_left equal⟩
    | cons => exact absurd (cons.inj equal).1 (by decide)
  | cons grant grants =>
    cases second with
    | nil => exact absurd (cons.inj equal).1 (by decide)
    | cons =>
      simp only [encodeGrants, cons_append, append_assoc, cons.injEq, true_and] at equal
      obtain ⟨rfl, following⟩ := encodeGrant_delimiting equal
      obtain ⟨rfl, last⟩ := others (by simpa using following)
      exact ⟨rfl, last⟩

/-! ## Requests -/

/-- A point in time, and the offset of the zone it is given in. -/
structure Moment where
  instant : ℤ
  offset : ℤ
  deriving DecidableEq

/-- In UTC a moment is its instant. -/
def Moment.utc (moment : Moment) : ℤ :=
  moment.instant

structure ProvisionDatabaseAccountRequest where
  actorUserId : String
  instanceId : String
  adminAccountId : String
  grants : List DBGrant
  group : String
  remark : String
  expiresAt : Option Moment

inductive CanonicalError where
  | invalidRequest
  | encoding
  deriving DecidableEq

/-- `Time.MarshalJSON`, in UTC. -/
def marshalTime (instant : ℤ) : Option (List Char) :=
  if Calendar.InRange instant then some ('"' :: (Calendar.rfc3339 instant ++ ['"'])) else none

/-- A missing time is written too; one that cannot be written is an error. -/
def encodeTime : Option ℤ → Option (List Char)
  | none => some "null".toList
  | some instant => marshalTime instant

variable (digest : List Char → String)

def canonicalProvisioningRequestHash (request : ProvisionDatabaseAccountRequest) :
    Except CanonicalError (String × List DBGrant) :=
  let actorId := trimSpace request.actorUserId
  if actorId = "" then .error .invalidRequest
  else
    let grants := canonicalGrants request.grants
    match encodeTime (request.expiresAt.map Moment.utc) with
    | none => .error .encoding
    | some expiresAt =>
      .ok (digest ("\x7b\"actor_id\":".toList ++ encodeString actorId ++
        ",\"instance_id\":".toList ++ encodeString (trimSpace request.instanceId) ++
        ",\"admin_account_id\":".toList ++ encodeString (trimSpace request.adminAccountId) ++
        ",\"grants\":".toList ++ encodeGrants grants ++
        ",\"group\":".toList ++ encodeString (trimSpace request.group) ++
        ",\"remark\":".toList ++ encodeString (trimSpace request.remark) ++
        ",\"expires_at\":".toList ++ expiresAt ++ "\x7d".toList), grants)

/-- Requests for the same thing. -/
structure Alike (first second : ProvisionDatabaseAccountRequest) : Prop where
  actor : trimSpace first.actorUserId = trimSpace second.actorUserId
  databaseInstance : trimSpace first.instanceId = trimSpace second.instanceId
  adminAccount : trimSpace first.adminAccountId = trimSpace second.adminAccountId
  group : trimSpace first.group = trimSpace second.group
  remark : trimSpace first.remark = trimSpace second.remark
  expiry : first.expiresAt.map Moment.instant = second.expiresAt.map Moment.instant
  grants : ∀ grant, grant ∈ first.grants.map DBGrant.trimmed ↔
    grant ∈ second.grants.map DBGrant.trimmed

/-- The expiry lies in the years from 0 to 9999. -/
def ProvisionDatabaseAccountRequest.ExpiresInRange (request : ProvisionDatabaseAccountRequest) :
    Prop :=
  ∀ moment ∈ request.expiresAt, Calendar.InRange moment.instant

instance (request : ProvisionDatabaseAccountRequest) : Decidable request.ExpiresInRange :=
  inferInstanceAs (Decidable (∀ _ ∈ _, _))

theorem encodeTime_written {expiresAt : Option Moment}
    (inRange : ∀ moment ∈ expiresAt, Calendar.InRange moment.instant) :
    ∃ text, encodeTime (expiresAt.map Moment.utc) = some text := by
  cases expiresAt with
  | none => exact ⟨_, rfl⟩
  | some moment => exact ⟨_, if_pos (inRange moment rfl)⟩

theorem encodeTime_inj {first second : Option ℤ} {text : List Char}
    (here : encodeTime first = some text) (there : encodeTime second = some text) :
    first = second := by
  have quoted : ∀ {instant}, encodeTime (some instant) = some text → text.head? = some '"' := by
    intro instant written
    rw [← some.inj (ite_none_right_eq_some.mp written).2]
    rfl
  cases first with
  | none =>
    cases second with
    | none => rfl
    | some =>
      have start := quoted there
      rw [← some.inj here] at start
      exact absurd start (by decide)
  | some =>
    cases second with
    | none =>
      have start := quoted here
      rw [← some.inj there] at start
      exact absurd start (by decide)
    | some =>
      obtain ⟨inRange, written⟩ := ite_none_right_eq_some.mp here
      obtain ⟨inRange', written'⟩ := ite_none_right_eq_some.mp there
      have same := cons.inj (some.inj (written.trans written'.symm))
      rw [Calendar.rfc3339_injective inRange inRange' (append_cancel_right same.2)]

/-- Requests have the same hash exactly if they are for the same thing, and the grants that are
returned are those of the request, once each and in order. -/
theorem canonicalProvisioningRequestHash_canonical {digest : List Char → String}
    (collisionFree : Function.Injective digest)
    {first second : ProvisionDatabaseAccountRequest} (actor : trimSpace first.actorUserId ≠ "")
    (actor' : trimSpace second.actorUserId ≠ "") (inRange : first.ExpiresInRange)
    (inRange' : second.ExpiresInRange) :
    ∃ hash hash' grants grants',
      canonicalProvisioningRequestHash digest first = .ok (hash, grants) ∧
      canonicalProvisioningRequestHash digest second = .ok (hash', grants') ∧
      (hash = hash' ↔ Alike first second) ∧ grants.Pairwise DBGrant.Before ∧
      ∀ grant, grant ∈ grants ↔ grant ∈ first.grants.map DBGrant.trimmed := by
  obtain ⟨text, written⟩ := encodeTime_written inRange
  obtain ⟨text', written'⟩ := encodeTime_written inRange'
  refine ⟨_, _, _, _, by rw [canonicalProvisioningRequestHash, if_neg actor, written],
    by rw [canonicalProvisioningRequestHash, if_neg actor', written'], ?_,
    (canonicalGrants_kept first.grants).1, (canonicalGrants_kept first.grants).2⟩
  rw [collisionFree.eq_iff]
  constructor
  · intro equal
    simp only [List.append_assoc, List.append_cancel_left_eq] at equal
    obtain ⟨actor, equal⟩ := encodeString_delimiting equal
    rw [List.append_cancel_left_eq] at equal
    obtain ⟨databaseInstance, equal⟩ := encodeString_delimiting equal
    rw [List.append_cancel_left_eq] at equal
    obtain ⟨adminAccount, equal⟩ := encodeString_delimiting equal
    rw [List.append_cancel_left_eq] at equal
    obtain ⟨grants, equal⟩ := encodeGrants_delimiting equal
    rw [List.append_cancel_left_eq] at equal
    obtain ⟨group, equal⟩ := encodeString_delimiting equal
    rw [List.append_cancel_left_eq] at equal
    obtain ⟨remark, equal⟩ := encodeString_delimiting equal
    rw [List.append_cancel_left_eq, List.append_cancel_right_eq] at equal
    refine ⟨actor, databaseInstance, adminAccount, group, remark,
      encodeTime_inj written (equal ▸ written'), fun grant => ?_⟩
    rw [← (canonicalGrants_kept _).2, ← (canonicalGrants_kept _).2, grants]
  · rintro ⟨actor, databaseInstance, adminAccount, group, remark, expiry, grants⟩
    have same : first.expiresAt.map Moment.utc = second.expiresAt.map Moment.utc := expiry
    rw [same, written'] at written
    rw [actor, databaseInstance, adminAccount, group, remark, canonicalGrants_congr grants,
      Option.some.inj written]

/-- A request as a person types it, with a time in another zone. -/
def typed : ProvisionDatabaseAccountRequest where
  actorUserId := " a"
  instanceId := "i"
  adminAccountId := "d"
  grants := [⟨"x", "read"⟩, ⟨"x ", "read"⟩]
  group := ""
  remark := ""
  expiresAt := some ⟨1735689600500000000, 3600⟩

def clean : ProvisionDatabaseAccountRequest :=
  { typed with
    actorUserId := "a"
    grants := [⟨"x", "read"⟩]
    expiresAt := some ⟨1735689600500000000, 0⟩ }

def later : ProvisionDatabaseAccountRequest :=
  { clean with expiresAt := some ⟨1735689600500000001, 0⟩ }

/-- Spaces, repetitions and the zone of a time do not matter; a later time does. -/
theorem canonicalProvisioningRequestHash_canonical_typed :
    (∃ hash grants grants',
      canonicalProvisioningRequestHash String.ofList typed = .ok (hash, grants) ∧
      canonicalProvisioningRequestHash String.ofList clean = .ok (hash, grants')) ∧
    ∃ hash hash' grants grants',
      canonicalProvisioningRequestHash String.ofList clean = .ok (hash, grants) ∧
      canonicalProvisioningRequestHash String.ofList later = .ok (hash', grants') ∧
      hash ≠ hash' := by
  have faithful : Function.Injective String.ofList :=
    Function.LeftInverse.injective fun _ => String.toList_ofList
  have named : trimSpace clean.actorUserId ≠ "" := by decide
  have inRange : clean.ExpiresInRange := by decide +kernel
  constructor
  · obtain ⟨hash, hash', grants, grants', here, there, same, -⟩ :=
      canonicalProvisioningRequestHash_canonical faithful
        (show trimSpace typed.actorUserId ≠ "" by decide) named (by decide +kernel) inRange
    obtain rfl := same.mpr ⟨by decide, by decide, by decide, by decide, by decide, by decide,
      by simp [typed, clean, show DBGrant.trimmed ⟨"x ", "read"⟩ = DBGrant.trimmed ⟨"x", "read"⟩ by
        decide]⟩
    exact ⟨hash, grants, grants', here, there⟩
  · obtain ⟨hash, hash', grants, grants', here, there, same, -⟩ :=
      canonicalProvisioningRequestHash_canonical faithful named
        (show trimSpace later.actorUserId ≠ "" by decide) inRange (by decide +kernel)
    have other : clean.expiresAt.map Moment.instant ≠ later.expiresAt.map Moment.instant := by decide
    exact ⟨hash, hash', grants, grants', here, there, fun equal => other (same.mp equal).expiry⟩

end Jianmen.Provisioning.Canonical
