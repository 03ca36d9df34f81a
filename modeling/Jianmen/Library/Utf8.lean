import Mathlib.Data.List.Basic
import Mathlib.Tactic.Common

/-!
# UTF-8 texts as byte lists

Decoding of the rune at the head of a byte list, and the segmentation of a text into runes in
which a byte that starts no well-formed rune stands for itself, as the usual lossy decoders have
it.  Validity, blankness and lossy copies are then statements about the list of runes.
-/

namespace Jianmen.Utf8

open List

/-- A continuation byte. -/
def isTail (byte : UInt8) : Bool :=
  0x80 ≤ byte && byte ≤ 0xBF

/-- The least second byte after a leading byte of three or four. -/
def lowestSecond (lead : UInt8) : UInt8 :=
  if lead = 0xE0 then 0xA0 else if lead = 0xF0 then 0x90 else 0x80

/-- The greatest second byte after a leading byte of three or four. -/
def highestSecond (lead : UInt8) : UInt8 :=
  if lead = 0xED then 0x9F else if lead = 0xF4 then 0x8F else 0xBF

/-- How many bytes a rune with this leading byte takes; zero when none starts with it. -/
def leadWidth (lead : UInt8) : ℕ :=
  if lead < 0x80 then 1
  else if 0xC2 ≤ lead && lead ≤ 0xDF then 2
  else if 0xE0 ≤ lead && lead ≤ 0xEF then 3
  else if 0xF0 ≤ lead && lead ≤ 0xF4 then 4
  else 0

/-- A second byte that fits its leading byte. -/
def isSecond (lead second : UInt8) : Bool :=
  lowestSecond lead ≤ second && second ≤ highestSecond lead

/-- The value and the width of the well-formed rune at the head of a text. -/
def decode : List UInt8 → Option (ℕ × ℕ)
  | [] => none
  | lead :: rest =>
    match leadWidth lead, rest with
    | 1, _ => some (lead.toNat, 1)
    | 2, second :: _ =>
      if isSecond lead second then
        some ((lead.toNat - 0xC0) * 64 + (second.toNat - 0x80), 2)
      else none
    | 3, second :: third :: _ =>
      if isSecond lead second && isTail third then
        some ((lead.toNat - 0xE0) * 4096 + (second.toNat - 0x80) * 64 +
          (third.toNat - 0x80), 3)
      else none
    | 4, second :: third :: fourth :: _ =>
      if isSecond lead second && isTail third && isTail fourth then
        some ((lead.toNat - 0xF0) * 262144 + (second.toNat - 0x80) * 4096 +
          (third.toNat - 0x80) * 64 + (fourth.toNat - 0x80), 4)
      else none
    | _, _ => none

/-- One rune of a text; a byte that starts no well-formed rune has no value. -/
structure Rune where
  value : Option ℕ
  bytes : List UInt8
  deriving DecidableEq

/-- The rune at the head of a nonempty text, and what follows it. -/
def splitRune (lead : UInt8) (rest : List UInt8) : Rune × List UInt8 :=
  match decode (lead :: rest) with
  | some (value, width) => (⟨some value, (lead :: rest).take width⟩, (lead :: rest).drop width)
  | none => (⟨none, [lead]⟩, rest)

/-- The first runes of a text, at most `fuel` of them. -/
def runesUpTo : ℕ → List UInt8 → List Rune
  | 0, _ => []
  | _ + 1, [] => []
  | fuel + 1, lead :: rest =>
    (splitRune lead rest).1 :: runesUpTo fuel (splitRune lead rest).2

/-- The runes of a text. -/
def runes (text : List UInt8) : List Rune :=
  runesUpTo text.length text

/-- A text without ill-formed bytes. -/
def valid (text : List UInt8) : Bool :=
  (runes text).all fun rune => rune.value.isSome

/-- White space in the sense of the Unicode property. -/
def isSpaceValue (value : ℕ) : Bool :=
  (0x09 ≤ value && value ≤ 0x0D) || value == 0x20 || value == 0x85 || value == 0xA0 ||
    value == 0x1680 || (0x2000 ≤ value && value ≤ 0x200A) || value == 0x2028 ||
    value == 0x2029 || value == 0x202F || value == 0x205F || value == 0x3000

/-- A rune that is white space; ill-formed bytes are not. -/
def Rune.isSpace (rune : Rune) : Bool :=
  rune.value.any isSpaceValue

/-- The bytes of a list of runes. -/
def bytesOf (list : List Rune) : List UInt8 :=
  list.flatMap Rune.bytes

/-- The value a lossy decoder gives a rune: the replacement character for an ill-formed byte. -/
def Rune.lossy (rune : Rune) : ℕ :=
  rune.value.getD 0xFFFD

/-- The bytes of a rune value. -/
def encode (value : ℕ) : List UInt8 :=
  if value < 0x80 then [value.toUInt8]
  else if value < 0x800 then [(0xC0 + value / 64).toUInt8, (0x80 + value % 64).toUInt8]
  else if value < 0x10000 then
    [(0xE0 + value / 4096).toUInt8, (0x80 + value / 64 % 64).toUInt8, (0x80 + value % 64).toUInt8]
  else
    [(0xF0 + value / 262144).toUInt8, (0x80 + value / 4096 % 64).toUInt8,
      (0x80 + value / 64 % 64).toUInt8, (0x80 + value % 64).toUInt8]

/-- A text that is nothing but white space. -/
def blank (text : List UInt8) : Bool :=
  (runes text).all Rune.isSpace

/-- A text without the white space at both of its ends. -/
def trimSpace (text : List UInt8) : List UInt8 :=
  bytesOf (((runes text).dropWhile Rune.isSpace).reverse.dropWhile Rune.isSpace).reverse

/-! ## Decoding -/

variable {text : List UInt8} {value width : ℕ} {lead byte : UInt8} {lead second : UInt8}
  {back : List UInt8}

theorem decode_width (decoded : decode text = some (value, width)) :
    0 < width ∧ width ≤ 4 ∧ width ≤ text.length := by
  unfold decode at decoded
  repeat' split at decoded
  all_goals simp at decoded
  all_goals
    obtain ⟨-, rfl⟩ := decoded
    simp

/-- Decoding only looks at the rune it returns. -/
theorem decode_append (decoded : decode text = some (value, width)) (more : List UInt8) :
    decode (text.take width ++ more) = some (value, width) := by
  unfold decode at decoded
  repeat' split at decoded
  all_goals simp at decoded
  all_goals
    obtain ⟨rfl, rfl⟩ := decoded
    simp_all [decode]

/-! ## Runes of a text -/

theorem splitRune_bytes (lead : UInt8) (rest : List UInt8) :
    (splitRune lead rest).1.bytes ++ (splitRune lead rest).2 = lead :: rest ∧
      (splitRune lead rest).2.length ≤ rest.length := by
  unfold splitRune
  split
  · rename_i width decoded
    have wide := decode_width decoded
    refine ⟨take_append_drop width (lead :: rest), ?_⟩
    simp only [length_drop, length_cons]
    omega
  · exact ⟨rfl, Nat.le_refl _⟩

/-- Enough runes of a text hold all of its bytes. -/
theorem bytesOf_runesUpTo (fuel : ℕ) (text : List UInt8) (short : text.length ≤ fuel) :
    bytesOf (runesUpTo fuel text) = text := by
  induction fuel generalizing text with
  | zero =>
    rw [eq_nil_of_length_eq_zero (Nat.le_zero.mp short)]
    rfl
  | succ fuel ih =>
    cases text with
    | nil => rfl
    | cons lead rest =>
      obtain ⟨whole, _⟩ := splitRune_bytes lead rest
      rw [length_cons] at short
      have there := ih (splitRune lead rest).2 (by omega)
      exact (congrArg _ there).trans whole

theorem outside_ascii_of_leadWidth (wide : leadWidth lead ≠ 1) : 0x80 ≤ lead := by
  by_contra low
  exact wide (if_pos (UInt8.not_le.mp low))

theorem outside_ascii_of_decode {rest : List UInt8} (ill : decode (lead :: rest) = none) :
    0x80 ≤ lead := by
  refine outside_ascii_of_leadWidth fun single => ?_
  simp [decode, single] at ill

theorem outside_ascii_of_isSecond (fits : isSecond lead second) : 0x80 ≤ second := by
  rw [isSecond, Bool.and_eq_true, decide_eq_true_eq] at fits
  refine UInt8.le_trans ?_ fits.1
  unfold lowestSecond
  repeat' split
  all_goals decide

theorem outside_ascii_of_isTail (tail : isTail byte) : 0x80 ≤ byte := by
  rw [isTail, Bool.and_eq_true, decide_eq_true_eq] at tail
  exact tail.1

/-- More fuel than bytes makes no difference. -/
theorem runesUpTo_eq_runes {fuel : ℕ} (enough : text.length ≤ fuel) :
    runesUpTo fuel text = runes text := by
  suffices ∀ n, ∀ {text : List UInt8} {fuel : ℕ}, text.length ≤ n → n ≤ fuel →
      runesUpTo fuel text = runesUpTo n text from this _ (Nat.le_refl _) enough
  intro n
  induction n with
  | zero =>
    intro text fuel short _
    obtain rfl := eq_nil_of_length_eq_zero (Nat.le_zero.mp short)
    cases fuel <;> rfl
  | succ n ih =>
    intro text fuel short enough
    obtain ⟨fuel, rfl⟩ := Nat.exists_eq_add_of_le' (Nat.one_le_of_lt enough)
    cases text with
    | nil => rfl
    | cons lead rest =>
      have shorter := (splitRune_bytes lead rest).2
      rw [length_cons] at short
      rw [runesUpTo, runesUpTo, ih (by omega) (by omega)]

theorem runes_cons (lead : UInt8) (rest : List UInt8) :
    runes (lead :: rest) = (splitRune lead rest).1 :: runes (splitRune lead rest).2 := by
  rw [← runesUpTo_eq_runes (splitRune_bytes lead rest).2]
  rfl

theorem isTail_of_isSecond (fits : isSecond lead second) : isTail second := by
  rw [isSecond, Bool.and_eq_true, decide_eq_true_eq, decide_eq_true_eq] at fits
  have least : highestSecond lead ≤ 0xBF := by
    unfold highestSecond
    repeat' split
    all_goals decide
  rw [isTail, Bool.and_eq_true, decide_eq_true_eq, decide_eq_true_eq]
  exact ⟨outside_ascii_of_isSecond (by simpa [isSecond] using fits), UInt8.le_trans fits.2 least⟩

/-- Behind its first byte a rune is nothing but continuation bytes. -/
theorem decode_tails {rest : List UInt8} (decoded : decode (lead :: rest) = some (value, width)) :
    ∀ byte ∈ rest.take (width - 1), isTail byte := by
  unfold decode at decoded
  repeat' split at decoded
  all_goals simp only [Option.some.injEq, Prod.mk.injEq, reduceCtorEq] at decoded
  all_goals
    obtain ⟨-, rfl⟩ := decoded
    grind [isTail_of_isSecond]

/-- The bytes of a rune are its value or lie outside ASCII. -/
theorem decode_bytes (decoded : decode text = some (value, width)) :
    ∀ byte ∈ text.take width, 0x80 ≤ byte ∨ byte.toNat = value := by
  unfold decode at decoded
  repeat' split at decoded
  all_goals simp only [Option.some.injEq, Prod.mk.injEq, reduceCtorEq] at decoded
  all_goals obtain ⟨rfl, rfl⟩ := decoded
  · intro byte member
    exact .inr (congrArg UInt8.toNat (mem_singleton.mp member))
  · rename_i wide fits
    have first := outside_ascii_of_leadWidth (ne_of_eq_of_ne wide (by decide))
    have next_byte := outside_ascii_of_isSecond fits
    simp [first, next_byte]
  · rename_i wide fits
    rw [Bool.and_eq_true] at fits
    have first := outside_ascii_of_leadWidth (ne_of_eq_of_ne wide (by decide))
    have next_byte := outside_ascii_of_isSecond fits.1
    have last := outside_ascii_of_isTail fits.2
    simp [first, next_byte, last]
  · rename_i wide fits
    rw [Bool.and_eq_true, Bool.and_eq_true] at fits
    have first := outside_ascii_of_leadWidth (ne_of_eq_of_ne wide (by decide))
    have next_byte := outside_ascii_of_isSecond fits.1.1
    have middle := outside_ascii_of_isTail fits.1.2
    have last := outside_ascii_of_isTail fits.2
    simp [first, next_byte, middle, last]

theorem lead_of_leadWidth :
    (leadWidth lead = 2 → 0xC2 ≤ lead.toNat) ∧ (leadWidth lead = 3 → 0xE0 ≤ lead.toNat) ∧
      (leadWidth lead = 4 → 0xF0 ≤ lead.toNat) := by
  have least : (leadWidth lead = 2 → 0xC2 ≤ lead) ∧ (leadWidth lead = 3 → 0xE0 ≤ lead) ∧
      (leadWidth lead = 4 → 0xF0 ≤ lead) := by
    unfold leadWidth
    repeat' split
    all_goals simp_all
  exact least

theorem le_of_leadWidth :
    (leadWidth lead = 1 → lead.toNat < 0x80) ∧ (leadWidth lead = 2 → lead.toNat ≤ 0xDF) ∧
      (leadWidth lead = 3 → lead.toNat ≤ 0xEF) := by
  have greatest : (leadWidth lead = 1 → lead < 0x80) ∧ (leadWidth lead = 2 → lead ≤ 0xDF) ∧
      (leadWidth lead = 3 → lead ≤ 0xEF) := by
    unfold leadWidth
    repeat' split
    all_goals simp_all
  exact greatest

theorem toNat_of_isTail (tail : isTail byte) : 0x80 ≤ byte.toNat ∧ byte.toNat ≤ 0xBF := by
  rw [isTail, Bool.and_eq_true, decide_eq_true_eq, decide_eq_true_eq] at tail
  exact tail

/-- No value is written with more bytes than it needs. -/
theorem lowestSecond_of_isSecond (fits : isSecond lead second) :
    (lead.toNat = 0xE0 → 0xA0 ≤ second.toNat) ∧ (lead.toNat = 0xF0 → 0x90 ≤ second.toNat) := by
  rw [isSecond, Bool.and_eq_true, decide_eq_true_eq] at fits
  constructor
  · intro same
    obtain rfl : lead = 0xE0 := UInt8.toNat_inj.mp same
    exact fits.1
  · intro same
    obtain rfl : lead = 0xF0 := UInt8.toNat_inj.mp same
    exact fits.1

/-- A value is written as it was read. -/
theorem encode_decode (decoded : decode text = some (value, width)) :
    encode value = text.take width := by
  have byte_eq : ∀ {n : ℕ} (byte : UInt8), n = byte.toNat → n.toUInt8 = byte := by
    rintro n byte rfl
    exact UInt8.ofNat_toNat
  unfold decode at decoded
  repeat' split at decoded
  all_goals simp only [Option.some.injEq, Prod.mk.injEq, reduceCtorEq] at decoded
  all_goals obtain ⟨rfl, rfl⟩ := decoded
  · rename_i single
    rw [encode, if_pos (le_of_leadWidth.1 single), byte_eq _ rfl]
    rfl
  · rename_i lead _ _ second _ wide fits
    have least := lead_of_leadWidth.1 wide
    have most := le_of_leadWidth.2.1 wide
    have tail := toNat_of_isTail (isTail_of_isSecond fits)
    rw [encode, if_neg (by omega), if_pos (by omega), byte_eq lead (by omega),
      byte_eq second (by omega)]
    rfl
  · rename_i lead _ _ second third _ wide fits
    rw [Bool.and_eq_true] at fits
    have least := lead_of_leadWidth.2.1 wide
    have most := le_of_leadWidth.2.2 wide
    have lowest := (lowestSecond_of_isSecond fits.1).1
    have tail := toNat_of_isTail (isTail_of_isSecond fits.1)
    have last := toNat_of_isTail fits.2
    rw [encode, if_neg (by omega), if_neg (by omega), if_pos (by omega), byte_eq lead (by omega),
      byte_eq second (by omega), byte_eq third (by omega)]
    rfl
  · rename_i lead _ _ second third fourth _ wide fits
    rw [Bool.and_eq_true, Bool.and_eq_true] at fits
    have least := lead_of_leadWidth.2.2 wide
    have lowest := (lowestSecond_of_isSecond fits.1.1).2
    have tail := toNat_of_isTail (isTail_of_isSecond fits.1.1)
    have middle := toNat_of_isTail fits.1.2
    have last := toNat_of_isTail fits.2
    rw [encode, if_neg (by omega), if_neg (by omega), if_neg (by omega), byte_eq lead (by omega),
      byte_eq second (by omega), byte_eq third (by omega), byte_eq fourth (by omega)]
    rfl

/-- Only a byte of its own stands for an ASCII value. -/
theorem decode_ascii (decoded : decode text = some (value, width)) (low : value < 0x80) :
    text.take width = [value.toUInt8] := by
  rw [← encode_decode decoded, encode, if_pos low]

theorem splitRune_ascii (low : byte < 0x80) (lead : UInt8) (rest : List UInt8) :
    byte ∈ (splitRune lead rest).1.bytes ↔ (splitRune lead rest).1.lossy = byte.toNat := by
  have small : byte.toNat < 0x80 := low
  unfold splitRune
  cases decoded : decode (lead :: rest) with
  | none =>
    have large : 0x80 ≤ lead.toNat := outside_ascii_of_decode decoded
    simp only [mem_singleton, Rune.lossy, Option.getD_none]
    constructor
    · rintro rfl
      omega
    · omega
  | some result =>
    obtain ⟨_, _⟩ := result
    simp only [Rune.lossy]
    constructor
    · intro member
      rcases decode_bytes decoded byte member with outside | same
      · have large : 0x80 ≤ byte.toNat := outside
        omega
      · exact same.symm
    · rintro rfl
      rw [decode_ascii decoded small]
      simp

/-- An ASCII byte of a text is one of its runes. -/
theorem mem_runesUpTo_ascii (low : byte < 0x80) (fuel : ℕ) (text : List UInt8)
    (short : text.length ≤ fuel) :
    byte.toNat ∈ (runesUpTo fuel text).map Rune.lossy ↔ byte ∈ text := by
  induction fuel generalizing text with
  | zero =>
    rw [length_eq_zero_iff.mp (Nat.le_zero.mp short)]
    simp [runesUpTo]
  | succ fuel ih =>
    cases text with
    | nil => simp [runesUpTo]
    | cons lead rest =>
      obtain ⟨joined, _⟩ := splitRune_bytes lead rest
      have later := ih (splitRune lead rest).2 (by
        rw [length_cons] at short
        omega)
      rw [runesUpTo, map_cons, mem_cons, later, ← joined, mem_append,
        splitRune_ascii low lead rest]
      exact or_congr_left eq_comm

/-! ## Texts that are written -/

/-- A value that is read as it is written. -/
def IsScalar (value : ℕ) : Prop :=
  decode (encode value) = some (value, (encode value).length)

instance (value : ℕ) : Decidable (IsScalar value) :=
  inferInstanceAs (Decidable (_ = _))

theorem isScalar_of_decode (decoded : decode text = some (value, width)) : IsScalar value := by
  have same := encode_decode decoded
  have again := decode_append decoded []
  rw [append_nil, ← same] at again
  rw [IsScalar, again, same, length_take, Nat.min_eq_left (decode_width decoded).2.2]

theorem isScalar_lossy {rune : Rune} (member : rune ∈ runes text) : IsScalar rune.lossy := by
  induction length : text.length using Nat.strongRecOn generalizing text with
  | ind _ ih =>
    cases text with
    | nil => cases member
    | cons lead rest =>
      rw [runes_cons] at member
      obtain _ | ⟨_, later⟩ := member
      · unfold splitRune
        split
        · exact isScalar_of_decode (by assumption)
        · exact (by decide : IsScalar 0xFFFD)
      · have shorter := (splitRune_bytes lead rest).2
        exact ih _ (by rw [← length, length_cons]; omega) later rfl

theorem encode_ne_nil (value : ℕ) : encode value ≠ [] := by
  unfold encode
  repeat' split
  all_goals exact cons_ne_nil _ _

/-- What is written is read again, value by value. -/
theorem runes_encode {values : List ℕ} (scalars : ∀ value ∈ values, IsScalar value) :
    runes (values.flatMap encode) = values.map fun value => ⟨some value, encode value⟩ := by
  induction values with
  | nil => rfl
  | cons value values ih =>
    obtain ⟨scalar, later⟩ := forall_mem_cons.mp scalars
    have read := decode_append scalar (values.flatMap encode)
    rw [take_length] at read
    rw [flatMap_cons, map_cons, ← ih later]
    cases written : encode value with
    | nil => rw [IsScalar, written] at scalar; cases scalar
    | cons lead rest =>
      rw [written, cons_append] at read
      rw [cons_append, runes_cons, splitRune, read]
      simp

/-- Values without white space at both ends. -/
def trimValues (values : List ℕ) : List ℕ :=
  ((values.dropWhile isSpaceValue).reverse.dropWhile isSpaceValue).reverse

theorem trimValues_sublist (values : List ℕ) : trimValues values <+ values := by
  have front := (dropWhile_sublist (l := values) isSpaceValue).reverse
  have back := ((dropWhile_sublist isSpaceValue).trans front).reverse
  rwa [reverse_reverse] at back

theorem flatMap_encode_injective {first second : List ℕ}
    (scalars : ∀ value ∈ first, IsScalar value) (others : ∀ value ∈ second, IsScalar value)
    (same : first.flatMap encode = second.flatMap encode) : first = second := by
  have read := congrArg runes same
  rw [runes_encode scalars, runes_encode others] at read
  have values := congrArg (map Rune.lossy) read
  simpa [Function.comp_def, Rune.lossy] using values

theorem trimSpace_encode {values : List ℕ} (scalars : ∀ value ∈ values, IsScalar value) :
    trimSpace (values.flatMap encode) = (trimValues values).flatMap encode := by
  have space : Rune.isSpace ∘ (fun value => (⟨some value, encode value⟩ : Rune)) = isSpaceValue :=
    rfl
  rw [trimSpace, runes_encode scalars, dropWhile_map, ← map_reverse, dropWhile_map, space,
    ← map_reverse, bytesOf, flatMap_map]
  rfl

/-- Whether the first rune of a text is white space. -/
def startsBlank (text : List UInt8) : Bool :=
  (decode text).any fun decoded => isSpaceValue decoded.1

/-- A text that begins with white space does so whatever follows it. -/
theorem startsBlank_append (starts : startsBlank text) (more : List UInt8) :
    startsBlank (text ++ more) := by
  unfold startsBlank at *
  cases decoded : decode text with
  | none => simp [decoded] at starts
  | some result =>
    have longer := decode_append decoded (text.drop result.2 ++ more)
    rw [← append_assoc, take_append_drop] at longer
    rw [decoded] at starts
    rw [longer]
    exact starts

theorem splitRune_isSpace (lead : UInt8) (rest : List UInt8) :
    (splitRune lead rest).1.isSpace = startsBlank (lead :: rest) := by
  unfold splitRune startsBlank
  cases decode (lead :: rest) with
  | none | some => rfl

/-- White space at the beginning of a text is white space at the beginning of its runes. -/
theorem dropWhile_runesUpTo (fuel : ℕ) (text : List UInt8) (short : text.length ≤ fuel) :
    ∃ rest, startsBlank rest = false ∧ bytesOf ((runesUpTo fuel text).dropWhile Rune.isSpace) = rest ∧
      (startsBlank text = false → rest = text) := by
  induction fuel generalizing text with
  | zero =>
    rw [eq_nil_of_length_eq_zero (Nat.le_zero.mp short)]
    exact ⟨[], rfl, rfl, fun _ => rfl⟩
  | succ fuel ih =>
    cases text with
    | nil => exact ⟨[], rfl, rfl, fun _ => rfl⟩
    | cons lead rest =>
      have first := splitRune_isSpace lead rest
      cases blank : startsBlank (lead :: rest) with
      | true =>
        rw [blank] at first
        have shorter := (splitRune_bytes lead rest).2
        rw [length_cons] at short
        obtain ⟨last, starts, same, -⟩ := ih (splitRune lead rest).2 (by omega)
        refine ⟨last, starts, ?_, fun clash => by cases clash⟩
        rw [runesUpTo, dropWhile_cons_of_pos first, same]
      | false =>
        rw [blank] at first
        refine ⟨lead :: rest, blank, ?_, fun _ => rfl⟩
        have whole := bytesOf_runesUpTo (fuel + 1) (lead :: rest) short
        rw [runesUpTo] at whole ⊢
        rw [dropWhile_cons_of_neg (by simp [first]), whole]

/-- What is left begins with no white space. -/
theorem trimSpace_spec (text : List UInt8) :
    startsBlank (trimSpace text) = false ∧ (startsBlank text = false → trimSpace text <+: text) := by
  obtain ⟨rest, starts, bytes, same⟩ := dropWhile_runesUpTo text.length text (Nat.le_refl _)
  have rear := takeWhile_append_dropWhile (p := Rune.isSpace)
    (l := ((runes text).dropWhile Rune.isSpace).reverse)
  have front : trimSpace text <+: rest := by
    refine ⟨bytesOf (((runes text).dropWhile Rune.isSpace).reverse.takeWhile
      Rune.isSpace).reverse, ?_⟩
    have whole := congrArg reverse rear
    rw [reverse_append, reverse_reverse] at whole
    rw [← bytes, trimSpace, bytesOf, bytesOf, ← flatMap_append, whole]
    rfl
  refine ⟨?_, fun unblank => same unblank ▸ front⟩
  obtain ⟨more, rfl⟩ := front
  cases blank : startsBlank (trimSpace text) with
  | false => rfl
  | true => rw [startsBlank_append blank more] at starts; cases starts

end Jianmen.Utf8
