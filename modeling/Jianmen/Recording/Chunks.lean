import Jianmen.Recording.Channels

/-!
# Keystrokes in chunks

The recorder decodes every chunk of keystrokes on its own.  A character that comes in two chunks is
taken for as many ill-formed ones as it has bytes, so a line that holds it reads differently, unless
it is erased in a way that does not tell one keystroke from several.
-/

namespace Jianmen.Recording

open DBProxy (Bytes ascii)
open List Relation

/-! ## Characters that are cut -/

/-- A byte on its own. -/
def typedByte (byte : UInt8) : ℕ :=
  if byte < 0x80 then byte.toNat else 0xFFFD

/-- Some characters of several bytes are taken for one ill-formed character per byte. -/
inductive Splits : List ℕ → List ℕ → Prop where
  | nil : Splits [] []
  | same (value : ℕ) {whole cut : List ℕ} (later : Splits whole cut) :
      Splits (value :: whole) (value :: cut)
  | cut {value count : ℕ} {whole cut : List ℕ} (wide : 0x80 ≤ value) (several : 2 ≤ count)
      (later : Splits whole cut) : Splits (value :: whole) (replicate count 0xFFFD ++ cut)

theorem Splits.refl (values : List ℕ) : Splits values values := by
  induction values with
  | nil => exact .nil
  | cons value _ ih => exact .same value ih

theorem Splits.append {first second whole cut : List ℕ} (before : Splits first second)
    (later : Splits whole cut) : Splits (first ++ whole) (second ++ cut) := by
  induction before with
  | nil => exact later
  | same value _ ih => exact .same value ih
  | cut wide several _ ih =>
    rw [cons_append, append_assoc]
    exact .cut wide several ih

theorem typedRunes_cons (lead : UInt8) (rest : Bytes) : typedRunes (lead :: rest) =
    (Utf8.splitRune lead rest).1.lossy :: typedRunes (Utf8.splitRune lead rest).2 := by
  rw [typedRunes, Utf8.runes_cons, map_cons, typedRunes]

theorem typedRunes_none {lead : UInt8} {rest : Bytes} (ill : Utf8.decode (lead :: rest) = none) :
    typedRunes (lead :: rest) = 0xFFFD :: typedRunes rest := by
  rw [typedRunes_cons, Utf8.splitRune, ill]
  rfl

theorem typedRunes_some {lead : UInt8} {rest : Bytes} {value width : ℕ}
    (decoded : Utf8.decode (lead :: rest) = some (value, width)) :
    typedRunes (lead :: rest) = value :: typedRunes ((lead :: rest).drop width) := by
  rw [typedRunes_cons, Utf8.splitRune, decoded]
  rfl

/-- Continuation bytes are no characters. -/
theorem typedRunes_tails {tails : Bytes} (all : ∀ byte ∈ tails, Utf8.isTail byte) (rest : Bytes) :
    typedRunes (tails ++ rest) = replicate tails.length 0xFFFD ++ typedRunes rest := by
  induction tails with
  | nil => rfl
  | cons byte tails ih =>
    obtain ⟨tail, later⟩ := forall_mem_cons.mp all
    have none_wide : Utf8.leadWidth byte = 0 := by
      simp only [Utf8.isTail, Bool.and_eq_true, decide_eq_true_eq] at tail
      unfold Utf8.leadWidth
      grind
    rw [cons_append, typedRunes_none (by simp [Utf8.decode, none_wide]), ih later]
    rfl

/-- A character outside ASCII has several bytes, and all of them are outside ASCII. -/
theorem wide_of_decode {text : Bytes} {value width : ℕ}
    (decoded : Utf8.decode text = some (value, width)) (wide : 0x80 ≤ value) :
    2 ≤ width ∧ (text.take width).map typedByte = replicate width 0xFFFD := by
  have short := (Utf8.decode_width decoded).2.2
  have length : (text.take width).length = width := by rw [length_take, Nat.min_eq_left short]
  refine ⟨?_, ?_⟩
  · rw [← length, ← Utf8.encode_decode decoded, Utf8.encode, if_neg (Nat.not_lt.mpr wide)]
    split
    · exact Nat.le_refl _
    split
    · exact Nat.le_succ _
    · exact Nat.le_add_right 2 2
  · rw [eq_replicate_iff, length_map]
    refine ⟨length, fun typed member => ?_⟩
    obtain ⟨byte, byte_mem, rfl⟩ := mem_map.mp member
    refine if_neg (UInt8.not_lt.mpr ?_)
    obtain outside | same := Utf8.decode_bytes decoded byte byte_mem
    · exact outside
    · exact UInt8.le_iff_toNat_le.mpr (same ▸ wide)

/-- A rune within ASCII is one byte. -/
theorem narrow_of_decode {lead : UInt8} {rest : Bytes} {value width : ℕ}
    (decoded : Utf8.decode (lead :: rest) = some (value, width)) (narrow : value < 0x80) :
    width = 1 ∧ value = typedByte lead := by
  have taken := Utf8.decode_ascii decoded narrow
  have bounds := Utf8.decode_width decoded
  have single : width = 1 := by
    have lengths := congrArg List.length taken
    rw [length_take, Nat.min_eq_left bounds.2.2] at lengths
    exact lengths
  subst single
  obtain rfl : lead = value.toUInt8 := head_eq_of_cons_eq taken
  have small : value.toUInt8.toNat = value := by
    rw [UInt8.toNat_ofNat']
    omega
  have low : value.toUInt8 < 0x80 := by
    rw [UInt8.lt_iff_toNat_lt, small]
    exact narrow
  exact ⟨rfl, by rw [typedByte, if_pos low, small]⟩

/-- In chunks of one byte all characters outside ASCII are cut. -/
theorem splits_bytes (text : Bytes) : Splits (typedRunes text) (text.map typedByte) := by
  induction length : text.length using Nat.strongRecOn generalizing text with
  | ind _ ih =>
    cases text with
    | nil => exact .nil
    | cons lead rest =>
      rw [length_cons] at length
      cases decoded : Utf8.decode (lead :: rest) with
      | none =>
        have outside := Utf8.outside_ascii_of_decode decoded
        rw [typedRunes_none decoded, map_cons, typedByte, if_neg (UInt8.not_lt.mpr outside)]
        exact .same _ (ih _ (by omega) rest rfl)
      | some pair =>
        obtain ⟨value, width⟩ := pair
        have positive := (Utf8.decode_width decoded).1
        have later := ih _ (by simp only [length_drop, length_cons]; omega)
          ((lead :: rest).drop width) rfl
        rw [typedRunes_some decoded]
        by_cases narrow : value < 0x80
        · obtain ⟨rfl, rfl⟩ := narrow_of_decode decoded narrow
          exact .same _ later
        · obtain ⟨several, bytes⟩ := wide_of_decode decoded (Nat.le_of_not_lt narrow)
          have parts := congrArg (map typedByte) (take_append_drop width (lead :: rest))
          rw [← parts, map_append, bytes]
          exact .cut (Nat.le_of_not_lt narrow) several later

/-- A character that begins before the cut and ends behind it. -/
theorem splits_across {lead : UInt8} {rest back : Bytes} {value width : ℕ}
    (decoded : Utf8.decode (lead :: (rest ++ back)) = some (value, width))
    (ill : Utf8.decode (lead :: rest) = none) :
    Splits (typedRunes (lead :: (rest ++ back)))
      (typedRunes (lead :: rest) ++ typedRunes back) := by
  have beyond : rest.length + 1 < width := by
    by_contra inside
    have known := Utf8.decode_append decoded ((lead :: rest).drop width)
    rw [← cons_append, take_append_of_le_length (by simpa using inside), take_append_drop,
      ill] at known
    cases known
  have wide : 0x80 ≤ value := by
    by_contra narrow
    have single := (narrow_of_decode decoded (Nat.lt_of_not_le narrow)).1
    omega
  obtain ⟨more, rfl⟩ : ∃ more, width = rest.length + more + 1 := ⟨width - rest.length - 1, by omega⟩
  have tails := Utf8.decode_tails decoded
  rw [Nat.add_sub_cancel, take_length_add_append, forall_mem_append] at tails
  have short := (Utf8.decode_width decoded).2.2
  simp only [length_cons, length_append] at short
  have before := typedRunes_tails tails.1 []
  have behind := typedRunes_tails tails.2 (back.drop more)
  rw [append_nil, show typedRunes [] = [] from rfl, append_nil] at before
  rw [take_append_drop, length_take, Nat.min_eq_left (by omega)] at behind
  rw [typedRunes_some decoded, typedRunes_none ill, before, behind, drop_succ_cons,
    drop_length_add_append, cons_append, ← append_assoc, replicate_append_replicate, ← cons_append,
    ← replicate_succ]
  exact .cut wide (by omega) (.refl _)

/-- One cut splits at most the character in which it lies. -/
theorem splits_append (front back : Bytes) :
    Splits (typedRunes (front ++ back)) (typedRunes front ++ typedRunes back) := by
  induction length : front.length using Nat.strongRecOn generalizing front with
  | ind _ ih =>
    cases front with
    | nil => exact .refl _
    | cons lead rest =>
      rw [length_cons] at length
      rw [cons_append]
      cases decoded : Utf8.decode (lead :: rest) with
      | some pair =>
        obtain ⟨value, width⟩ := pair
        obtain ⟨positive, -, short⟩ := Utf8.decode_width decoded
        have longer := Utf8.decode_append decoded ((lead :: rest).drop width ++ back)
        rw [← append_assoc, take_append_drop, cons_append] at longer
        rw [typedRunes_some longer, ← cons_append, drop_append_of_le_length short,
          typedRunes_some decoded]
        exact .same _ (ih _ (by simp only [length_drop, length_cons]; omega) _ rfl)
      | none =>
        cases longer : Utf8.decode (lead :: (rest ++ back)) with
        | none =>
          rw [typedRunes_none longer, typedRunes_none decoded]
          exact .same _ (ih _ (by omega) rest rfl)
        | some pair => exact splits_across longer decoded

/-- Cuts split characters one after the other. -/
theorem splits_chunks (chunks : List Bytes) :
    ReflTransGen Splits (typedRunes chunks.flatten) (chunks.flatMap typedRunes) := by
  induction chunks with
  | nil => exact .refl
  | cons chunk chunks ih =>
    refine .head (splits_append chunk chunks.flatten) ?_
    exact ih.lift (typedRunes chunk ++ ·) fun _ _ step => (Splits.refl _).append step

/-! ## Lines that are edited -/

/-- The second line was typed with more keystrokes: characters have been inserted, and a character
may have become several ill-formed ones. -/
inductive Expands : List ℕ → List ℕ → Prop where
  | nil : Expands [] []
  | push (value : ℕ) {line longer : List ℕ} (earlier : Expands line longer) :
      Expands (line ++ [value]) (longer ++ [value])
  | insert (value : ℕ) {line longer : List ℕ} (earlier : Expands line longer) :
      Expands line (longer ++ [value])
  | replace (value : ℕ) {line longer : List ℕ} (earlier : Expands line longer) :
      Expands (line ++ [value]) (longer ++ [0xFFFD] ++ [0xFFFD])

variable {line longer : List ℕ}

theorem Expands.dropLast_left (expands : Expands line longer) : Expands line.dropLast longer := by
  induction expands with
  | nil => exact .nil
  | push value earlier =>
    rw [dropLast_concat]
    exact .insert value earlier
  | insert value _ ih => exact .insert value ih
  | replace value earlier =>
    rw [dropLast_concat]
    exact .insert _ (.insert _ earlier)

theorem Expands.dropLast (expands : Expands line longer) :
    Expands line.dropLast longer.dropLast := by
  cases expands with
  | nil => exact .nil
  | push value earlier =>
    rw [dropLast_concat, dropLast_concat]
    exact earlier
  | insert value earlier =>
    rw [dropLast_concat]
    exact earlier.dropLast_left
  | replace value earlier =>
    rw [dropLast_concat, dropLast_concat]
    exact .insert _ earlier

/-- The same keystroke in both lines. -/
theorem Expands.edit (expands : Expands line longer) (value : ℕ) :
    Expands (editRune line value) (editRune longer value) := by
  unfold editRune
  split
  · exact .nil
  split
  · exact expands.dropLast
  split
  · exact .push value expands
  · exact expands

theorem editRune_wide {value : ℕ} (wide : 0x80 ≤ value) (line : List ℕ) :
    editRune line value = line ++ [value] := by
  rw [editRune, if_neg (by omega), if_neg (by omega), if_pos (by omega)]

/-- A character in one line, and its bytes in the other. -/
theorem Expands.cut {value count : ℕ} (expands : Expands line longer) (several : 2 ≤ count) :
    Expands (line ++ [value]) (longer ++ replicate count 0xFFFD) := by
  induction count, several using Nat.le_induction with
  | base =>
    rw [show replicate 2 0xFFFD = [0xFFFD] ++ [0xFFFD] from rfl, ← append_assoc]
    exact .replace value expands
  | succ count _ ih =>
    rw [replicate_succ', ← append_assoc]
    exact .insert _ ih

/-! ## Texts of lines -/

/-- How many characters are not white space. -/
def printed (values : List ℕ) : ℕ :=
  values.countP (!Utf8.isSpaceValue ·)

/-- The second line shows more characters, or the first one with some in between. -/
def Below (first second : List ℕ) : Prop :=
  printed first < printed second ∨ first <+ second

variable {first second third : List ℕ}

theorem Below.printed_le (below : Below first second) : printed first ≤ printed second :=
  below.elim Nat.le_of_lt Sublist.countP_le

theorem Below.trans (below : Below first second) (later : Below second third) :
    Below first third := by
  obtain less | part := below
  · exact .inl (Nat.lt_of_lt_of_le less later.printed_le)
  obtain less | larger := later
  · exact .inl (Nat.lt_of_le_of_lt part.countP_le less)
  · exact .inr (part.trans larger)

theorem Below.antisymm (below : Below first second) (above : Below second first) :
    first = second := by
  obtain less | part := below
  · exact absurd above.printed_le (Nat.not_le.mpr less)
  obtain less | larger := above
  · exact absurd part.countP_le (Nat.not_le.mpr less)
  · exact part.antisymm larger

/-- A line below a blank one is blank. -/
theorem Below.eq_nil (below : Below first []) : first = [] :=
  below.elim (fun less => nomatch less) sublist_nil.mp

theorem dropWhile_sublist_dropWhile {α : Type} {p : α → Bool} {first second : List α}
    (part : first <+ second) : first.dropWhile p <+ second.dropWhile p := by
  induction part with
  | slnil => exact .slnil
  | @cons first second value part ih =>
    rw [dropWhile_cons]
    split
    · exact ih
    · exact (ih.trans (dropWhile_sublist p)).cons value
  | @cons_cons first second value part ih =>
    rw [dropWhile_cons, dropWhile_cons]
    split
    · exact ih
    · exact part.cons_cons value

theorem printed_dropWhile (values : List ℕ) :
    printed (values.dropWhile Utf8.isSpaceValue) = printed values := by
  induction values with
  | nil => rfl
  | cons value values ih =>
    rw [dropWhile_cons]
    split
    · rename_i space
      rw [ih, printed, printed, countP_cons_of_neg (by simp [space])]
    · rfl

theorem printed_trimValues (values : List ℕ) :
    printed (Utf8.trimValues values) = printed values := by
  have reversed : ∀ values : List ℕ, printed values.reverse = printed values :=
    fun values => countP_reverse
  rw [Utf8.trimValues, reversed, printed_dropWhile, reversed, printed_dropWhile]

theorem Below.trimValues (below : Below first second) :
    Below (Utf8.trimValues first) (Utf8.trimValues second) := by
  obtain less | part := below
  · refine .inl ?_
    rw [printed_trimValues, printed_trimValues]
    exact less
  · exact .inr (dropWhile_sublist_dropWhile (dropWhile_sublist_dropWhile part).reverse).reverse

/-- A tab is shown as a blank. -/
def untab (value : ℕ) : ℕ :=
  if value = 0x09 then 0x20 else value

/-- What is shown of a line. -/
def shown (line : List ℕ) : List ℕ :=
  Utf8.trimValues (line.map untab)

theorem Expands.shows (expands : Expands line longer) :
    Below (line.map untab) (longer.map untab) := by
  have more : ∀ values added : List ℕ, printed (values ++ added) = printed values + printed added :=
    fun _ _ => countP_append
  induction expands with
  | nil => exact .inr .slnil
  | push value _ ih =>
    rw [map_append, map_append]
    obtain less | part := ih
    · refine .inl ?_
      rw [more, more]
      exact Nat.add_lt_add_right less _
    · exact .inr (part.append (.refl _))
  | insert value _ ih =>
    rw [map_append]
    exact ih.trans (.inr (sublist_append_left _ _))
  | replace value _ ih =>
    have least := ih.printed_le
    have one : printed ([value].map untab) ≤ 1 := countP_le_length
    have two : printed (([0xFFFD] ++ [0xFFFD] : List ℕ).map untab) = 2 := rfl
    refine .inl ?_
    rw [append_assoc, map_append, map_append, more, more, two]
    omega

/-- What is shown of the lines submitted by typing runes. -/
def shownLines : List ℕ → List ℕ → List (List ℕ)
  | _, [] => []
  | line, value :: values =>
    (if value = 0x0D ∨ value = 0x0A then [shown line] else []) ++
      shownLines (editRune line value) values

theorem shownLines_wide {value : ℕ} (wide : 0x80 ≤ value) (line values : List ℕ) :
    shownLines line (value :: values) = shownLines (line ++ [value]) values := by
  rw [shownLines, if_neg (by omega), nil_append, editRune_wide wide]

theorem shownLines_replicate (count : ℕ) (line values : List ℕ) :
    shownLines line (replicate count 0xFFFD ++ values) =
      shownLines (line ++ replicate count 0xFFFD) values := by
  induction count generalizing line with
  | zero => simp
  | succ count ih =>
    rw [replicate_succ, cons_append, shownLines_wide (by decide), ih, append_assoc,
      singleton_append]

/-- Line by line, nothing shows less. -/
def AllBelow (first second : List (List ℕ)) : Prop :=
  Forall₂ Below first second

/-- With characters that are cut, each line shows as much or more. -/
theorem Splits.shows {whole cut : List ℕ} (splits : Splits whole cut)
    (expands : Expands line longer) :
    AllBelow (shownLines line whole) (shownLines longer cut) := by
  induction splits generalizing line longer with
  | nil => exact .nil
  | same value _ ih =>
    rw [shownLines, shownLines]
    split
    · exact .cons expands.shows.trimValues (ih (expands.edit value))
    · exact ih (expands.edit value)
  | cut wide several _ ih =>
    rw [shownLines_wide wide, shownLines_replicate]
    exact ih (expands.cut several)

variable {early middle late : List (List ℕ)}

theorem AllBelow.trans (below : AllBelow early middle) (later : AllBelow middle late) :
    AllBelow early late := by
  unfold AllBelow at *
  induction below generalizing late with
  | nil => exact later
  | cons here _ ih =>
    cases later with
    | cons next rest => exact .cons (here.trans next) (ih rest)

theorem AllBelow.antisymm (below : AllBelow early middle) (above : AllBelow middle early) :
    early = middle := by
  unfold AllBelow at *
  induction below with
  | nil => rfl
  | cons here _ ih =>
    cases above with
    | cons back rest => rw [here.antisymm back, ih rest]

/-- A line is not blank if one below it is not. -/
theorem AllBelow.unblank_le (below : AllBelow early late) :
    (early.filter (· ≠ [])).length ≤ (late.filter (· ≠ [])).length := by
  unfold AllBelow at below
  induction below with
  | nil => exact Nat.le_refl _
  | @cons text next _ _ here _ ih =>
    by_cases blank : next = []
    · obtain rfl := blank
      obtain rfl := here.eq_nil
      exact ih
    · rw [filter_cons, filter_cons_of_pos (by simpa using blank), length_cons]
      split
      · exact Nat.succ_le_succ ih
      · exact Nat.le_succ_of_le ih

/-- Lines that show the same where they are not blank are the same. -/
theorem AllBelow.eq_of_filter (below : AllBelow early late)
    (same : early.filter (· ≠ []) = late.filter (· ≠ [])) : early = late := by
  unfold AllBelow at below
  induction below with
  | nil => rfl
  | @cons text next _ _ here later ih =>
    by_cases blank : next = []
    · obtain rfl := blank
      obtain rfl := here.eq_nil
      rw [ih same]
    rw [filter_cons_of_pos (a := next) (by simpa using blank)] at same
    by_cases gone : text = []
    · obtain rfl := gone
      have lengths := congrArg List.length same
      have most := AllBelow.unblank_le later
      rw [filter_cons_of_neg (by simp), length_cons] at lengths
      omega
    · rw [filter_cons_of_pos (by simpa using gone)] at same
      obtain ⟨texts, rest⟩ := cons.inj same
      rw [texts, ih rest]

theorem shows_of_splits {whole cut : List ℕ} (splits : ReflTransGen Splits whole cut) :
    AllBelow (shownLines [] whole) (shownLines [] cut) := by
  induction splits with
  | refl => exact forall₂_same.mpr fun values _ => .inr (.refl values)
  | tail _ step ih => exact ih.trans (step.shows .nil)

/-! ## Lines as texts -/

/-- Values that can be written. -/
def Scalars (values : List ℕ) : Prop :=
  ∀ value ∈ values, Utf8.IsScalar value

theorem encode_untab {value : ℕ} (scalar : Utf8.IsScalar value) :
    (Utf8.encode value).map (fun byte => if byte = 0x09 then 0x20 else byte) =
      Utf8.encode (untab value) := by
  by_cases tab : value = 0x09
  · obtain rfl := tab
    rfl
  rw [untab, if_neg tab]
  refine (map_congr_left fun byte member => ?_).trans (map_id _)
  refine if_neg ?_
  rintro rfl
  have bytes := Utf8.decode_bytes scalar
  rw [take_length] at bytes
  obtain outside | same := bytes _ member
  · exact absurd outside (by decide)
  · exact tab same.symm

theorem Scalars.untab {line : List ℕ} (scalars : Scalars line) : Scalars (line.map untab) := by
  intro value member
  obtain ⟨typed, typed_mem, rfl⟩ := mem_map.mp member
  unfold Recording.untab
  split
  · exact (by decide : Utf8.IsScalar 0x20)
  · exact scalars typed typed_mem

theorem Scalars.shown {line : List ℕ} (scalars : Scalars line) : Scalars (shown line) := by
  intro value member
  exact scalars.untab value ((Utf8.trimValues_sublist _).subset member)

theorem lineText_eq {line : List ℕ} (scalars : Scalars line) :
    CommandRecorder.lineText line = (shown line).flatMap Utf8.encode := by
  have bytes : (line.flatMap Utf8.encode).map (fun byte => if byte = 0x09 then 0x20 else byte) =
      (line.map untab).flatMap Utf8.encode := by
    rw [map_flatMap, flatMap_map]
    exact flatMap_congr fun value member => encode_untab (scalars value member)
  rw [CommandRecorder.lineText, bytes, Utf8.trimSpace_encode scalars.untab, shown]

theorem Scalars.edit {line : List ℕ} {value : ℕ} (scalars : Scalars line)
    (scalar : Utf8.IsScalar value) : Scalars (editRune line value) := by
  unfold editRune
  split
  · exact forall_mem_nil _
  split
  · exact fun value member => scalars value (mem_of_mem_dropLast member)
  split
  · exact forall_mem_append.mpr ⟨scalars, forall_mem_singleton.mpr scalar⟩
  · exact scalars

theorem submittedLines_eq {line values : List ℕ} (scalars : Scalars line) (typed : Scalars values) :
    submittedLines line values = (shownLines line values).map (·.flatMap Utf8.encode) ∧
      ∀ text ∈ shownLines line values, Scalars text := by
  induction values generalizing line with
  | nil => exact ⟨rfl, forall_mem_nil _⟩
  | cons value values ih =>
    obtain ⟨scalar, later⟩ := forall_mem_cons.mp typed
    obtain ⟨lines, texts⟩ := ih (scalars.edit scalar) later
    rw [submittedLines, shownLines, lines, lineText_eq scalars, map_append, forall_mem_append]
    refine ⟨by split <;> rfl, ?_, texts⟩
    split
    · exact forall_mem_singleton.mpr scalars.shown
    · exact forall_mem_nil _

theorem map_encode_injective {first second : List (List ℕ)} (scalars : ∀ text ∈ first, Scalars text)
    (others : ∀ text ∈ second, Scalars text)
    (same : first.map (·.flatMap Utf8.encode) = second.map (·.flatMap Utf8.encode)) :
    first = second := by
  induction first generalizing second with
  | nil => exact (map_eq_nil_iff.mp same.symm).symm
  | cons text first ih =>
    cases second with
    | nil => cases same
    | cons other second =>
      obtain ⟨scalar, later⟩ := forall_mem_cons.mp scalars
      obtain ⟨other_scalar, others⟩ := forall_mem_cons.mp others
      obtain ⟨here, rest⟩ := cons.inj same
      rw [Utf8.flatMap_encode_injective scalar other_scalar here, ih later others rest]

theorem scalars_chunks (chunks : List Bytes) : Scalars (chunks.flatMap typedRunes) := by
  intro value member
  obtain ⟨chunk, -, typed⟩ := mem_flatMap.mp member
  obtain ⟨rune, rune_mem, rfl⟩ := mem_map.mp typed
  exact Utf8.isScalar_lossy rune_mem

theorem typedRunes_byte (byte : UInt8) : typedRunes [byte] = [typedByte byte] := by
  cases decoded : Utf8.decode [byte] with
  | none =>
    have outside := Utf8.outside_ascii_of_decode decoded
    rw [typedRunes_none decoded, typedByte, if_neg (UInt8.not_lt.mpr outside)]
    rfl
  | some pair =>
    obtain ⟨value, width⟩ := pair
    have narrow : value < 0x80 := by
      by_contra wide
      have several := (wide_of_decode decoded (Nat.le_of_not_lt wide)).1
      have short := (Utf8.decode_width decoded).2.2
      rw [length_singleton] at short
      omega
    obtain ⟨rfl, rfl⟩ := narrow_of_decode decoded narrow
    exact typedRunes_some decoded

/-- The keystrokes of chunks of one byte. -/
theorem typedRunes_bytes (data : Bytes) :
    (data.map fun byte => [byte]).flatMap typedRunes = data.map typedByte := by
  induction data with
  | nil => rfl
  | cons byte data ih =>
    rw [map_cons, flatMap_cons, typedRunes_byte, ih, map_cons, singleton_append]

theorem scalars_whole (data : Bytes) : Scalars (typedRunes data) := by
  have chunk := scalars_chunks [data]
  rwa [flatMap_singleton] at chunk

theorem scalars_bytes (data : Bytes) : Scalars (data.map typedByte) :=
  typedRunes_bytes data ▸ scalars_chunks _

/-! ## Commands -/

/-- The lines that are submitted read the same when each byte is a keystroke of its own. -/
def ReadsBytewise (data : Bytes) : Prop :=
  submittedLines [] (typedRunes data) = submittedLines [] (data.map typedByte)

instance (data : Bytes) : Decidable (ReadsBytewise data) :=
  inferInstanceAs (Decidable (_ = _))

/-- In chunks a line shows no less than as a whole, and no more than byte by byte. -/
theorem shows_between (chunks : List Bytes) :
    AllBelow (shownLines [] (typedRunes chunks.flatten))
        (shownLines [] (chunks.flatMap typedRunes)) ∧
      AllBelow (shownLines [] (chunks.flatMap typedRunes))
        (shownLines [] (chunks.flatten.map typedByte)) := by
  refine ⟨shows_of_splits (splits_chunks chunks), ?_⟩
  suffices Splits (chunks.flatMap typedRunes) (chunks.flatten.map typedByte) from this.shows .nil
  induction chunks with
  | nil => exact .nil
  | cons chunk chunks ih =>
    rw [flatMap_cons, flatten_cons, map_append]
    exact (splits_bytes chunk).append ih

/-- Chunks change no line of a stream that reads the same byte by byte. -/
theorem submittedLines_chunks {chunks : List Bytes} (reads : ReadsBytewise chunks.flatten) :
    submittedLines [] (chunks.flatMap typedRunes) =
      submittedLines [] (typedRunes chunks.flatten) := by
  have none_typed : Scalars [] := forall_mem_nil _
  obtain ⟨whole, whole_texts⟩ := submittedLines_eq none_typed (scalars_whole chunks.flatten)
  obtain ⟨bytes, bytes_texts⟩ := submittedLines_eq none_typed (scalars_bytes chunks.flatten)
  rw [ReadsBytewise, whole, bytes] at reads
  have same := map_encode_injective whole_texts bytes_texts reads
  obtain ⟨above, below⟩ := shows_between chunks
  rw [← same] at below
  rw [(submittedLines_eq none_typed (scalars_chunks chunks)).1, below.antisymm above, whole]

/-- Lines that are not blank tell whether a stream reads the same byte by byte. -/
theorem readsBytewise_of_filter {data : Bytes}
    (same : (submittedLines [] (typedRunes data)).filter (· ≠ []) =
      (submittedLines [] (data.map typedByte)).filter (· ≠ [])) : ReadsBytewise data := by
  have none_typed : Scalars [] := forall_mem_nil _
  obtain ⟨whole, whole_texts⟩ := submittedLines_eq none_typed (scalars_whole data)
  obtain ⟨bytes, bytes_texts⟩ := submittedLines_eq none_typed (scalars_bytes data)
  have blank : (fun text : Bytes => decide (text ≠ [])) ∘ (·.flatMap Utf8.encode) =
      fun text => decide (text ≠ []) := by
    funext text
    cases text with
    | nil => rfl
    | cons value text => simp [Utf8.encode_ne_nil]
  rw [whole, bytes, filter_map, filter_map, blank] at same
  have texts := map_encode_injective
    (fun text member => whole_texts text (mem_of_mem_filter member))
    (fun text member => bytes_texts text (mem_of_mem_filter member)) same
  have below := (splits_bytes data).shows .nil
  rw [ReadsBytewise, whole, bytes, AllBelow.eq_of_filter below texts]

namespace CommandRecorder

def observeChunks (redactor : AuditRedactor) (r : CommandRecorder) (chunks : List Bytes) :
    CommandRecorder :=
  chunks.foldl (observeInput redactor) r

variable {redactor : AuditRedactor}

theorem observeChunks_advances (r : CommandRecorder) (chunks : List Bytes) :
    Advances redactor false (chunks.flatMap typedRunes) r (observeChunks redactor r chunks) := by
  induction chunks generalizing r with
  | nil => exact Advances.refl r
  | cons chunk chunks ih => exact (observeInput_advances r chunk).trans (ih _)

/-- The commands are the lines that are not blank. -/
theorem commandTexts_chunks (redactor : AuditRedactor) (chunks : List Bytes) :
    (observeChunks redactor {} chunks).commandTexts =
      ((submittedLines [] (chunks.flatMap typedRunes)).filter (· ≠ [])).map
        (redactor.redact .command) :=
  (observeChunks_advances {} chunks).commands

/-- Whatever the chunks of a stream, the commands are the same if and only if the lines read the
same byte by byte. -/
theorem commands_independent_of_chunks (data : Bytes) :
    (∀ (redactor : AuditRedactor) (first second : List Bytes),
      first.flatten = data → second.flatten = data →
        (observeChunks redactor {} first).commandTexts =
          (observeChunks redactor {} second).commandTexts) ↔ ReadsBytewise data := by
  constructor
  · intro independent
    refine readsBytewise_of_filter ?_
    have commands := independent SessionRecorder.plainRedactor [data] (data.map fun byte => [byte])
      (append_nil data) (flatMap_singleton' data)
    rw [commandTexts_chunks, commandTexts_chunks, flatMap_singleton, typedRunes_bytes] at commands
    simpa [SessionRecorder.plainRedactor] using commands
  · rintro reads redactor first second rfl same
    rw [commandTexts_chunks, commandTexts_chunks, submittedLines_chunks reads,
      submittedLines_chunks (same ▸ reads), same]

example : ReadsBytewise [0xC3, 0xA9, 0x08, 0x08, 0x6C, 0x73, 0x0D] := by decide +kernel

/-- A cut within an accented letter makes it two replacement characters. -/
theorem commands_depend_on_chunks :
    (observeChunks SessionRecorder.plainRedactor {} [[0xC3, 0xA9, 0x0D]]).commandTexts =
        [[0xC3, 0xA9]] ∧
      (observeChunks SessionRecorder.plainRedactor {} [[0xC3], [0xA9, 0x0D]]).commandTexts =
        [[0xEF, 0xBF, 0xBD, 0xEF, 0xBF, 0xBD]] := by
  decide +kernel

end CommandRecorder
end Jianmen.Recording
