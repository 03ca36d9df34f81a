import Jianmen.Library.Loop
import Jianmen.Library.Slices
import Jianmen.DBProxy.Sink

/-!
# Rows of a MySQL text result

A row is a sequence of columns, each NULL or a string after its length.  The length comes from the
server as a number of up to 64 bits and is made a signed integer before it is added to a position,
so a length of 2⁶³ or more ends before it begins.
-/

namespace Jianmen.Provisioning

open DBProxy Loop Slices List

/-- A length-encoded integer at the head of the data and its width; the width is 0 if there is none.
-/
def readLenEncInt (data : Bytes) : ℕ × ℕ :=
  match data with
  | [] => (0, 0)
  | first :: rest =>
    if first = 0xFC then if 3 ≤ data.length then (littleEndian (rest.take 2), 3) else (0, 0)
    else if first = 0xFD then if 4 ≤ data.length then (littleEndian (rest.take 3), 4) else (0, 0)
    else if first = 0xFE then if 9 ≤ data.length then (littleEndian (rest.take 8), 9) else (0, 0)
    else if first < 0xFB then (first.toNat, 1)
    else (0, 0)

/-- One pass through the loop over the columns, from a position with the columns before it.  No
columns at all are left with where a slice is out of range. -/
def rowPass (payload : Bytes) (row : ℕ × List Bytes) :
    Pass (ℕ × List Bytes) (Option (List Bytes)) :=
  if payload.length ≤ row.1 then .leave (some row.2)
  else if payload[row.1]? = some 0xFB then .again (row.1 + 1, row.2 ++ [[]])
  else
    let read := readLenEncInt (payload.drop row.1)
    if read.2 = 0 then .leave (some row.2)
    else
      let finish := int64 (↑(row.1 + read.2) + int64 read.1)
      if payload.length < finish then .leave (some row.2)
      else
        match slice payload ↑(row.1 + read.2) finish with
        | none => .leave none
        | some column => .again (finish.toNat, row.2 ++ [column])

/-- The columns of a row, or nothing if the decoder panics. -/
def parseMySQLTextRow (payload : Bytes) : Option (List Bytes) :=
  run (rowPass payload) (fun row => payload.length - row.1) none (0, [])

/-! ## Encoding -/

/-- A number in so many little-endian bytes. -/
def littleEndianBytes : ℕ → ℕ → Bytes
  | 0, _ => []
  | width + 1, number => UInt8.ofNat number :: littleEndianBytes width (number / 256)

/-- A number as the protocol writes it. -/
def lengthEncodedInt (number : ℕ) : Bytes :=
  if number < 251 then [UInt8.ofNat number]
  else if number < 65536 then 0xFC :: littleEndianBytes 2 number
  else if number < 16777216 then 0xFD :: littleEndianBytes 3 number
  else 0xFE :: littleEndianBytes 8 number

/-- A column as the protocol writes it. -/
def encodeColumn : Option Bytes → Bytes
  | none => [0xFB]
  | some text => lengthEncodedInt text.length ++ text

def encodeRow (columns : List (Option Bytes)) : Bytes :=
  columns.flatMap encodeColumn

@[simp]
theorem littleEndianBytes_length (width number : ℕ) :
    (littleEndianBytes width number).length = width := by
  induction width generalizing number with
  | zero => rfl
  | succ width ih => rw [littleEndianBytes, length_cons, ih]

theorem littleEndian_bytes {width number : ℕ} (small : number < 256 ^ width) :
    littleEndian (littleEndianBytes width number) = number := by
  induction width generalizing number with
  | zero =>
    rw [Nat.pow_zero, Nat.lt_one_iff] at small
    rw [small, littleEndianBytes, littleEndian]
  | succ width ih =>
    have shorter : number / 256 < 256 ^ width := by
      rw [Nat.div_lt_iff_lt_mul (by decide)]
      exact small
    rw [littleEndianBytes, littleEndian, ih shorter, UInt8.toNat_ofNat']
    omega

/-- A number that was written is read again, and its width is known. -/
theorem readLenEncInt_encoded {number : ℕ} (small : number < 18446744073709551616) (rest : Bytes) :
    readLenEncInt (lengthEncodedInt number ++ rest) = (number, (lengthEncodedInt number).length) ∧
      (lengthEncodedInt number).head? ≠ some 0xFB ∧ lengthEncodedInt number ≠ [] := by
  have wide : ∀ {width : ℕ}, number < 256 ^ width →
      littleEndian ((littleEndianBytes width number ++ rest).take width) = number := by
    intro width fits
    rw [take_left' (littleEndianBytes_length width number), littleEndian_bytes fits]
  unfold lengthEncodedInt
  split
  · rename_i short
    have value : (UInt8.ofNat number).toNat = number := by
      rw [UInt8.toNat_ofNat']
      omega
    have below : UInt8.ofNat number < 0xFB := by
      rw [UInt8.lt_iff_toNat_lt, value]
      exact short
    have other : ∀ mark : UInt8, 251 ≤ mark.toNat → UInt8.ofNat number ≠ mark := by
      rintro mark high rfl
      omega
    simp [readLenEncInt, value, below, other 0xFB, other 0xFC, other 0xFD, other 0xFE]
  split
  · next fits => simpa [readLenEncInt] using @wide 2 fits
  split
  · next fits => simpa [readLenEncInt] using @wide 3 fits
  · simpa [readLenEncInt] using @wide 8 small

/-! ## Decoding -/

theorem rowPass_decreases (payload : Bytes) :
    Decreases (fun _ => True) (rowPass payload) fun row => payload.length - row.1 := by
  rintro row next - pass
  unfold rowPass at pass
  split at pass
  · cases pass
  next inside =>
  split at pass
  · cases pass
    dsimp only
    omega
  dsimp only at pass
  split at pass
  · cases pass
  next width =>
  split at pass
  · cases pass
  next short =>
  split at pass
  · cases pass
  next column found =>
  have ordered := mt slice_eq_none.mpr (by rw [found]; nofun)
  rw [← Pass.again.inj pass]
  dsimp only
  omega

/-- A column that was written is read. -/
theorem rowPass_encoded {front rest : Bytes} {columns : List Bytes} {column : Option Bytes}
    (small : (front ++ (encodeColumn column ++ rest)).length < 9223372036854775808) :
    rowPass (front ++ (encodeColumn column ++ rest)) (front.length, columns) =
      .again ((front ++ encodeColumn column).length, columns ++ [column.getD []]) := by
  cases column with
  | none => simp [rowPass, encodeColumn]
  | some text =>
    have fits : (lengthEncodedInt text.length).length + text.length < 9223372036854775808 := by
      simp only [encodeColumn, length_append] at small
      omega
    obtain ⟨read, _, nonempty⟩ :=
      @readLenEncInt_encoded text.length (by omega) (text ++ rest)
    have first : (front ++ (encodeColumn (some text) ++ rest))[front.length]? ≠ some 0xFB := by
      rwa [getElem?_append_right le_rfl, Nat.sub_self, ← head?_eq_getElem?, encodeColumn,
        append_assoc, head?_append_of_ne_nil _ nonempty]
    have positive := length_pos_iff.mpr nonempty
    have within : ¬(front ++ (encodeColumn (some text) ++ rest)).length ≤ front.length := by
      simp only [encodeColumn, length_append]
      omega
    have finish : int64 (↑(front.length + (lengthEncodedInt text.length).length) +
        int64 (text.length : ℤ)) =
        ((front ++ lengthEncodedInt text.length).length : ℤ) + text.length := by
      simp only [encodeColumn, length_append] at small ⊢
      rw [@int64_of_small text.length (by omega) (by omega), int64_of_small (by omega) (by omega)]
    have found := slice_middle (front ++ lengthEncodedInt text.length) text rest
    rw [rowPass, if_neg within, if_neg first, drop_left, encodeColumn, append_assoc, read]
    dsimp only
    rw [if_neg (Nat.ne_of_gt positive), finish, if_neg, ← length_append, ← append_assoc, found]
    · simp
      omega
    · simp only [length_append]
      omega

/-- The rest of a row, after some columns. -/
theorem run_encoded {columns : List (Option Bytes)} {front : Bytes} {before : List Bytes}
    (small : (front ++ encodeRow columns).length < 9223372036854775808) :
    run (rowPass (front ++ encodeRow columns))
        (fun row => (front ++ encodeRow columns).length - row.1) none (front.length, before) =
      some (before ++ columns.map (·.getD [])) := by
  induction columns generalizing front before with
  | nil =>
    apply run_leave
    simp [rowPass, encodeRow]
  | cons column rest ih =>
    have split : front ++ encodeRow (column :: rest) =
        front ++ (encodeColumn column ++ encodeRow rest) := rfl
    rw [split] at small ⊢
    rw [run_again (rowPass_decreases _) (rowPass_encoded small)]
    rw [← append_assoc] at small ⊢
    rw [ih small, map_cons, append_assoc, singleton_append]

/-! ## Any payload -/

/-- Where a column begins when a payload is read from the front. -/
inductive Column (payload : Bytes) : ℕ → Prop where
  | first : Column payload 0
  | null {position : ℕ} (before : Column payload position)
      (mark : payload[position]? = some 0xFB) : Column payload (position + 1)
  | text {position : ℕ} (before : Column payload position)
      (given : (readLenEncInt (payload.drop position)).2 ≠ 0)
      (inside : position + (readLenEncInt (payload.drop position)).2 +
        (readLenEncInt (payload.drop position)).1 ≤ payload.length) :
      Column payload (position + (readLenEncInt (payload.drop position)).2 +
        (readLenEncInt (payload.drop position)).1)

/-- A length that is read at a position does not go beyond the signed integers. -/
def LengthFits (payload : Bytes) (position : ℕ) : Prop :=
  let read := readLenEncInt (payload.drop position)
  position + read.2 + read.1 < 9223372036854775808

variable {payload : Bytes} {position : ℕ} {row : ℕ × List Bytes}

theorem readLenEncInt_spec (data : Bytes) :
    (readLenEncInt data).2 ≤ data.length ∧
      (readLenEncInt data).1 < 18446744073709551616 ∧
      ((readLenEncInt data).2 = 0 → (readLenEncInt data).1 = 0) ∧
      (data.head? = some 0xFB → (readLenEncInt data).2 = 0) := by
  have bytes : ∀ (text : Bytes) (count : ℕ), count ≤ 8 →
      littleEndian (text.take count) < 18446744073709551616 := by
    intro text count few
    have fewer : (text.take count).length ≤ 8 := by
      rw [length_take]
      omega
    exact lt_of_lt_of_le (littleEndian_lt _) (Nat.pow_le_pow_right (n := 256) (by decide) fewer)
  cases data with
  | nil => simp [readLenEncInt]
  | cons first rest =>
    have byte : first.toNat < 18446744073709551616 := Nat.lt_trans first.toNat_lt (by decide)
    have marked : first < 0xFB → first ≠ 0xFB := by
      rintro below rfl
      exact absurd below (by decide)
    simp only [readLenEncInt, head?_cons]
    repeat' split
    all_goals simp_all

theorem Column.le (column : Column payload position) : position ≤ payload.length := by
  cases column with
  | first => exact Nat.zero_le _
  | null _ mark => exact (List.getElem?_eq_some_iff.mp mark).1
  | text _ _ inside => exact inside

/-- A text that ends within the payload is read. -/
theorem rowPass_text (columns : List Bytes) (small : payload.length < 9223372036854775808)
    (given : (readLenEncInt (payload.drop position)).2 ≠ 0)
    (inside : position + (readLenEncInt (payload.drop position)).2 +
      (readLenEncInt (payload.drop position)).1 ≤ payload.length) :
    ∃ column, rowPass payload (position, columns) =
      .again (position + (readLenEncInt (payload.drop position)).2 +
        (readLenEncInt (payload.drop position)).1, columns ++ [column]) := by
  have unmarked : payload[position]? ≠ some 0xFB := by
    rw [← head?_drop]
    exact fun mark => given ((readLenEncInt_spec _).2.2.2 mark)
  obtain ⟨column, found⟩ : ∃ column, slice payload
      ↑(position + (readLenEncInt (payload.drop position)).2)
      ↑(position + (readLenEncInt (payload.drop position)).2 +
        (readLenEncInt (payload.drop position)).1) = some column :=
    ⟨_, slice_eq_some (by omega) inside⟩
  refine ⟨column, ?_⟩
  simp only [rowPass]
  rw [if_neg (by omega), if_neg unmarked, if_neg given,
    @int64_of_small (readLenEncInt (payload.drop position)).1 (by omega) (by omega),
    int64_of_small (by omega) (by omega), if_neg (by omega), ← Int.natCast_add, found,
    Int.toNat_natCast]

/-- A length beyond the signed integers ends before it begins. -/
theorem rowPass_wraps (columns : List Bytes) (within : position ≤ payload.length)
    (small : payload.length < 9223372036854775808) (wraps : ¬LengthFits payload position) :
    rowPass payload (position, columns) = .leave none := by
  obtain ⟨width, below, zero, null⟩ := readLenEncInt_spec (payload.drop position)
  rw [length_drop] at width
  simp only [LengthFits] at wraps
  have given : (readLenEncInt (payload.drop position)).2 ≠ 0 := by
    intro missing
    have nothing := zero missing
    omega
  have unmarked : payload[position]? ≠ some 0xFB := by
    rw [← head?_drop]
    exact fun mark => given (null mark)
  have finish : int64 (↑(position + (readLenEncInt (payload.drop position)).2) +
      int64 (readLenEncInt (payload.drop position)).1) <
        position + (readLenEncInt (payload.drop position)).2 := by
    unfold int64 Int.bmod
    dsimp only
    split
    all_goals
      split
      all_goals omega
  simp only [rowPass]
  rw [if_neg (by omega), if_neg unmarked, if_neg given, if_neg (by omega),
    slice_eq_none.mpr (.inr (.inl (by omega)))]

/-- A pass from the beginning of a column leaves with columns or goes on to the next column. -/
theorem rowPass_fits (small : payload.length < 9223372036854775808)
    (column : Column payload row.1) (fits : LengthFits payload row.1) :
    (rowPass payload row).Keeps (fun next => Column payload next.1) (·.isSome) := by
  simp only [LengthFits] at fits
  unfold rowPass
  split
  · rfl
  split
  · rename_i mark
    exact column.null mark
  dsimp only
  split
  · rfl
  next given =>
  rw [@int64_of_small (readLenEncInt (payload.drop row.1)).1 (by omega) (by omega),
    int64_of_small (by omega) (by omega)]
  split
  · rfl
  next inside =>
  split
  · rename_i missing
    have outside := slice_eq_none.mp missing
    omega
  · rw [← Int.natCast_add] at inside
    exact column.text given (by omega)

/-- What was written column by column is read back; and a payload is read without a slice out of
range if and only if no column has a length that ends beyond the signed integers. -/
theorem parseMySQLTextRow_decodes (columns : List (Option Bytes)) (payload : Bytes) :
    ((encodeRow columns).length < 9223372036854775808 →
      parseMySQLTextRow (encodeRow columns) = some (columns.map (·.getD []))) ∧
    (payload.length < 9223372036854775808 →
      ((∃ columns, parseMySQLTextRow payload = some columns) ↔
        ∀ position, Column payload position → LengthFits payload position)) := by
  refine ⟨fun small => ?_, fun small => ⟨?_, fun fits => Option.isSome_iff_exists.mp ?_⟩⟩
  · exact @run_encoded columns [] [] small
  · rintro ⟨columns, parsed⟩ position column
    have visits : ∃ columns, Visits (rowPass payload) (0, []) (position, columns) := by
      clear parsed
      induction column with
      | first => exact ⟨[], .refl⟩
      | null before mark ih =>
        obtain ⟨columns, visited⟩ := ih
        have inside := (List.getElem?_eq_some_iff.mp mark).1
        refine ⟨columns ++ [[]], visited.tail ?_⟩
        simp only [rowPass]
        rw [if_neg (by omega), if_pos mark]
      | text before given inside ih =>
        obtain ⟨columns, visited⟩ := ih
        obtain ⟨column, pass⟩ := rowPass_text columns small given inside
        exact ⟨_, visited.tail pass⟩
    obtain ⟨columns, visited⟩ := visits
    by_contra wraps
    have panics : parseMySQLTextRow payload = none := by
      rw [parseMySQLTextRow, run_visits (rowPass_decreases payload) visited]
      exact run_leave (rowPass_wraps columns column.le small wraps)
    cases panics.symm.trans parsed
  · refine @run_keeps _ _ (rowPass payload) (fun _ => True) (fun row => payload.length - row.1) none
      (fun _ => True) (·.isSome) (fun row => Column payload row.1) (0, []) ?_ ?_ trivial .first
    · rintro state -
      cases pass : rowPass payload state with
      | again next => exact ⟨trivial, rowPass_decreases payload state next trivial pass⟩
      | leave => trivial
    · intro row _ _ column
      exact rowPass_fits small column (fits row.1 column)

/-- A length in more bytes than it needs. -/
theorem parseMySQLTextRow_decodes_wide :
    parseMySQLTextRow (encodeRow [none, some [0x61]]) = some [[], [0x61]] ∧
      ∃ columns, parseMySQLTextRow [0xFC, 0x01, 0x00, 0x61] = some columns := by
  refine ⟨(parseMySQLTextRow_decodes _ []).1 (by decide), ?_⟩
  refine ((parseMySQLTextRow_decodes [] _).2 (by decide)).mpr fun position column => ?_
  have places : ∀ position ≤ 4, LengthFits [0xFC, 0x01, 0x00, 0x61] position := by
    simp only [LengthFits]
    decide +kernel
  exact places position column.le

/-- A length of 2⁶⁴ - 1. -/
theorem parseMySQLTextRow_panics :
    parseMySQLTextRow [0xFE, 0xFF, 0xFF, 0xFF, 0xFF, 0xFF, 0xFF, 0xFF, 0xFF] = none := by
  decide +kernel

end Jianmen.Provisioning
