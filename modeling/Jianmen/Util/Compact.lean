import Mathlib.Data.List.Induction
import Jianmen.Library.Utf8
import Jianmen.DBProxy.Sink

/-!
# Compact usernames

A compact username is a letter for the kind of resource, the number of the resource and the number
of the session, the numbers in base 62 and padded to four and five digits.
-/

namespace Jianmen.Util

open List

open DBProxy (Bytes ascii)

/-! ## Base 62 -/

def base62Chars : Bytes :=
  ascii "0123456789abcdefghijklmnopqrstuvwxyzABCDEFGHIJKLMNOPQRSTUVWXYZ"

/-- The value of a digit; the table has -1 where it is none. -/
def charToVal (character : UInt8) : Option ℕ :=
  base62Chars.idxOf? character

def digitOf (value : ℕ) : UInt8 :=
  base62Chars[value]?.getD 0

/-- The digits of a number, at most `room` of them. -/
def digitsUpTo : ℕ → ℕ → Bytes
  | 0, _ => []
  | room + 1, n => if n = 0 then [] else digitsUpTo room (n / 62) ++ [digitOf (n % 62)]

def encodeBase62 (n : ℕ) : Bytes :=
  if n = 0 then ascii "0" else digitsUpTo 20 n

def decodeDigits : ℕ → Bytes → Except String ℕ
  | n, [] => .ok n
  | n, c :: rest =>
    match charToVal c with
    | none => .error ("invalid base62 character: " ++ String.singleton (Char.ofNat c.toNat))
    | some val =>
      if (2 ^ 64 - 1 - val) / 62 < n then .error "base62 value overflows uint64"
      else decodeDigits (n * 62 + val) rest

def decodeBase62 (s : Bytes) : Except String ℕ :=
  if s = [] then .error "empty string" else decodeDigits 0 s

def encodeBase62Padded (n width : ℕ) : Bytes :=
  let s := encodeBase62 n
  List.replicate (width - s.length) 0x30 ++ s

/-! ## Usernames -/

def maxCompactResourceSeq : ℤ := 62 * 62 * 62 * 62 - 1

def maxCompactSessionSeq : ℤ := 62 * 62 * 62 * 62 * 62 - 1

def uint64 (value : ℤ) : ℕ :=
  (value % 2 ^ 64).toNat

def fullUsername (kind : Bytes) (resourceSeq sessionSeq : ℤ) : Bytes :=
  kind ++ encodeBase62Padded (uint64 resourceSeq) 4 ++ encodeBase62Padded (uint64 sessionSeq) 5

def parseCompactUsername (username : Bytes) : Except String (Bytes × ℕ × ℕ) :=
  if username.length ≠ 10 then
    .error s!"compact username must be 10 characters, got {username.length}"
  else
    match decodeBase62 ((username.drop 1).take 4) with
    | .error err => .error ("invalid resource id: " ++ err)
    | .ok rID =>
      match decodeBase62 (username.drop 5) with
      | .error err => .error ("invalid session id: " ++ err)
      | .ok sID => .ok (Utf8.encode (username.headD 0).toNat, rID, sID)

/-! ## Digits of a fixed number of places -/

/-- A number with all of its places, leading zeros included. -/
def places : ℕ → ℕ → Bytes
  | 0, _ => []
  | width + 1, n => places width (n / 62) ++ [digitOf (n % 62)]

@[simp] theorem length_places (width n : ℕ) : (places width n).length = width := by
  induction width generalizing n with
  | zero => rfl
  | succ width ih => simp [places, ih]

theorem places_zero (width : ℕ) : places width 0 = replicate width 0x30 := by
  induction width with
  | zero => rfl
  | succ width ih =>
    rw [places, replicate_succ', ih]
    rfl

variable {width n value resource session : ℕ} {s : Bytes} {letter : UInt8}

theorem digitsUpTo_padded {room : ℕ} (fits : n < 62 ^ width) (enough : width ≤ room) :
    (digitsUpTo room n).length ≤ width ∧
      replicate (width - (digitsUpTo room n).length) 0x30 ++ digitsUpTo room n =
        places width n := by
  induction width generalizing n room with
  | zero =>
    obtain rfl : n = 0 := by simpa using fits
    cases room with
    | zero => exact ⟨Nat.le_refl _, rfl⟩
    | succ room => simp [digitsUpTo, places]
  | succ width ih =>
    obtain ⟨room, rfl⟩ := Nat.exists_eq_add_of_le' (Nat.one_le_of_lt enough)
    rw [digitsUpTo]
    split
    · rename_i zero
      subst zero
      exact ⟨Nat.zero_le _, by rw [places_zero]; simp⟩
    · obtain ⟨short, padded⟩ := @ih (n / 62) room (by omega) (by omega)
      refine ⟨by simpa using short, ?_⟩
      rw [places, ← padded]
      simp

/-- A number that fits is padded to its places. -/
theorem encodeBase62Padded_eq (fits : n < 62 ^ width) (some : 0 < width)
    (enough : width ≤ 20) : encodeBase62Padded n width = places width n := by
  unfold encodeBase62Padded encodeBase62
  split
  · rename_i zero
    subst zero
    obtain ⟨width, rfl⟩ := Nat.exists_eq_add_of_le' some
    rw [places_zero, replicate_succ']
    rfl
  · exact (digitsUpTo_padded fits enough).2

theorem charToVal_digitOf : ∀ value < 62, charToVal (digitOf value) = some value := by
  decide

theorem digitOf_charToVal {c : UInt8} (known : charToVal c = some value) :
    value < 62 ∧ digitOf value = c := by
  rw [charToVal, idxOf?, findIdx?_eq_some_iff_getElem] at known
  obtain ⟨inside, same, -⟩ := known
  rw [digitOf, getElem?_eq_getElem inside]
  exact ⟨inside, by simpa using same⟩

theorem decodeDigits_concat (n : ℕ) (s : Bytes) (c : UInt8) :
    decodeDigits n (s ++ [c]) = decodeDigits n s >>= fun n => decodeDigits n [c] := by
  induction s generalizing n with
  | nil => rfl
  | cons _ s ih =>
    simp only [cons_append, decodeDigits, ih]
    split
    · rfl
    · split <;> rfl

/-- Places are read as their number. -/
theorem decodeDigits_places (fits : n < 62 ^ width) (small : 62 ^ width ≤ 2 ^ 64) :
    decodeDigits 0 (places width n) = .ok n := by
  induction width generalizing n with
  | zero =>
    obtain rfl : n = 0 := by simpa using fits
    rfl
  | succ width ih =>
    rw [places, decodeDigits_concat, ih (by omega) (by omega)]
    have digit := charToVal_digitOf (n % 62) (Nat.mod_lt n (by decide))
    change decodeDigits (n / 62) [digitOf (n % 62)] = _
    simp only [decodeDigits, digit]
    rw [if_neg (by omega), Nat.div_add_mod']

/-- What is read are the places of a number. -/
theorem places_decodeDigits (read : decodeDigits 0 s = .ok n) :
    n < 62 ^ s.length ∧ places s.length n = s := by
  induction s using reverseRecOn generalizing n with
  | nil =>
    cases read
    exact ⟨by simp, rfl⟩
  | append_singleton s c ih =>
    rw [decodeDigits_concat] at read
    cases front : decodeDigits 0 s with
    | error => rw [front] at read; cases read
    | ok high =>
      rw [front] at read
      change decodeDigits high [c] = .ok n at read
      obtain ⟨_, same⟩ := ih front
      simp only [decodeDigits] at read
      split at read
      · cases read
      rename_i val known
      split at read
      · cases read
      obtain ⟨_, digit⟩ := digitOf_charToVal known
      obtain rfl : high * 62 + val = n := by simpa using read
      have quotient : (high * 62 + val) / 62 = high := by omega
      have remainder : (high * 62 + val) % 62 = val := by omega
      rw [length_append, length_singleton, places, quotient, remainder, same, digit]
      exact ⟨by omega, rfl⟩

/-! ## Names and their parts -/

/-- The numbers a compact username has room for. -/
def Compact (resource session : ℤ) : Prop :=
  1 ≤ resource ∧ resource ≤ maxCompactResourceSeq ∧ 1 ≤ session ∧ session ≤ maxCompactSessionSeq

theorem uint64_cast (small : value < 2 ^ 64) : uint64 value = value := by
  unfold uint64
  omega

theorem fullUsername_places (kind : Bytes) (resource_fits : resource < 62 ^ 4)
    (session_fits : session < 62 ^ 5) :
    fullUsername kind resource session = kind ++ places 4 resource ++ places 5 session := by
  rw [fullUsername, uint64_cast (by omega), uint64_cast (by omega),
    encodeBase62Padded_eq resource_fits (by decide) (by decide),
    encodeBase62Padded_eq session_fits (by decide) (by decide)]

theorem decodeBase62_iff (width : ℕ) (length : s.length = width + 1)
    (small : 62 ^ (width + 1) ≤ 2 ^ 64) :
    decodeBase62 s = .ok n ↔ n < 62 ^ (width + 1) ∧ places (width + 1) n = s := by
  have present : s ≠ [] := ne_nil_of_length_eq_add_one length
  rw [decodeBase62, if_neg present]
  constructor
  · exact fun read => length ▸ places_decodeDigits read
  · rintro ⟨fits, rfl⟩
    exact decodeDigits_places fits small

theorem encode_ascii (low : letter < 0x80) : Utf8.encode letter.toNat = [letter] := by
  have below : letter.toNat < 0x80 := low
  rw [Utf8.encode, if_pos below]
  exact congrArg (fun byte => [byte]) UInt8.ofNat_toNat

/-- What is read is one letter and the places of two numbers. -/
theorem parseCompactUsername_iff (low : letter < 0x80) {rest kind : Bytes} :
    parseCompactUsername (letter :: rest) = .ok (kind, resource, session) ↔
      kind = [letter] ∧ resource < 62 ^ 4 ∧ session < 62 ^ 5 ∧
        rest = places 4 resource ++ places 5 session := by
  unfold parseCompactUsername
  by_cases length : rest.length = 9
  · have reads : decodeBase62 (rest.take 4) = .ok resource ∧
        decodeBase62 (rest.drop 4) = .ok session ↔
        resource < 62 ^ 4 ∧ session < 62 ^ 5 ∧ rest = places 4 resource ++ places 5 session := by
      rw [decodeBase62_iff 3 (by simp [length]) (by decide),
        decodeBase62_iff 4 (by simp [length]) (by decide)]
      constructor
      · rintro ⟨⟨resource_fits, front⟩, session_fits, back⟩
        exact ⟨resource_fits, session_fits, by rw [front, back, take_append_drop]⟩
      · rintro ⟨resource_fits, session_fits, rfl⟩
        exact ⟨⟨resource_fits, by simp⟩, session_fits, by simp⟩
    rw [if_neg (by simp [length]), ← reads]
    simp only [drop_succ_cons, drop_zero, headD_cons, encode_ascii low]
    cases decodeBase62 (rest.take 4) <;> cases decodeBase62 (rest.drop 4) <;>
      simp [eq_comm]
  · rw [if_pos (by simp [length])]
    constructor
    · exact fun failed => nomatch failed
    · rintro ⟨-, -, -, rfl⟩
      simp at length

theorem parseCompactUsername_fullUsername (low : letter < 0x80)
    {resource session : ℤ} (compact : Compact resource session) :
    (fullUsername [letter] resource session).length = 10 ∧
      parseCompactUsername (fullUsername [letter] resource session) =
        .ok ([letter], resource.toNat, session.toNat) := by
  obtain ⟨_, resource_high, _, session_high⟩ := compact
  simp only [maxCompactResourceSeq, maxCompactSessionSeq] at resource_high session_high
  lift resource to ℕ using by omega
  lift session to ℕ using by omega
  rw [fullUsername_places _ (by omega) (by omega)]
  exact ⟨by simp, (parseCompactUsername_iff low).mpr ⟨rfl, by omega, by omega, rfl⟩⟩

/-- A name is read back as its letter and its numbers, so no two names are the same, and every name
that is read is that of its letter and its numbers. -/
theorem compactUsernames_identify : (∀ letter < 0x80, ∀ resource session, Compact resource session →
      (fullUsername [letter] resource session).length = 10 ∧
        parseCompactUsername (fullUsername [letter] resource session) =
          .ok ([letter], resource.toNat, session.toNat) ∧
        ∀ letter' < 0x80, ∀ resource' session', Compact resource' session' →
          fullUsername [letter'] resource' session' = fullUsername [letter] resource session →
            letter' = letter ∧ resource' = resource ∧ session' = session) ∧
      ∀ username kind resource session, (∀ letter ∈ username.head?, letter < 0x80) →
        parseCompactUsername username = .ok (kind, resource, session) →
          fullUsername kind resource session = username := by
  constructor
  · intro letter low resource session compact
    obtain ⟨length, parsed⟩ := parseCompactUsername_fullUsername low compact
    refine ⟨length, parsed, ?_⟩
    intro letter' low' resource' session' compact' same
    rw [← same, (parseCompactUsername_fullUsername low' compact').2] at parsed
    simp only [Except.ok.injEq, Prod.mk.injEq, List.cons.injEq, and_true] at parsed
    have := compact.1
    have := compact.2.2.1
    exact ⟨parsed.1, by omega, by omega⟩
  · intro username kind resource session low read
    cases username with
    | nil => cases read
    | cons letter =>
      obtain ⟨rfl, resource_fits, session_fits, rfl⟩ :=
        (parseCompactUsername_iff (low letter rfl)).mp read
      rw [fullUsername_places _ resource_fits session_fits]
      rfl

end Jianmen.Util
