import Mathlib.Data.List.Infix
import Jianmen.SQLConsole.Dialects
import Jianmen.SQLConsole.Policy

/-!
# One statement for the console and for the database

The scan of the console and a lexer with the console's own rules are run side by side: what the scan
accepts is the text up to the first semicolon that ends a statement by these rules.  The database
finds exactly one statement in it if and only if it finds any, and none of the semicolons that the
console takes to be in a literal or a comment ends a statement with content for it, with more
content behind.
-/

namespace Jianmen.SQLConsole

open DBProxy List Splitter Utf8

variable {dialect : Dialect} {splitter : Splitter} {value : UInt8} {rest : Bytes}

/-! ## Reading on -/

namespace Splitter

theorem read_append (front rear : Bytes) :
    splitter.read dialect (front ++ rear) = (splitter.read dialect front).read dialect rear :=
  foldl_append

/-- The statements closed before others. -/
def behind (closed : List Bool) (splitter : Splitter) : Splitter :=
  { splitter with closed := closed ++ splitter.closed }

theorem begin_behind (closed : List Bool) (letterE : Bool) (value : UInt8) :
    (splitter.behind closed).begin dialect letterE value =
      (splitter.begin dialect letterE value).behind closed := by
  unfold begin
  repeat' split
  all_goals simp [behind]

theorem inBlock_behind (closed : List Bool) (depth : ℕ) (last value : UInt8) :
    (splitter.behind closed).inBlock dialect depth last value =
      (splitter.inBlock dialect depth last value).behind closed := by
  unfold inBlock
  repeat' split
  all_goals rfl

/-- How a byte is read does not depend on the statements closed before. -/
theorem step_behind (closed : List Bool) (value : UInt8) :
    (splitter.behind closed).step dialect value = (splitter.step dialect value).behind closed := by
  obtain ⟨lexer, filled, earlier⟩ := splitter
  have begins : ∀ (lexer : Lexer) (filled letterE : Bool),
      begin dialect letterE ⟨lexer, filled, closed ++ earlier⟩ value =
        (begin dialect letterE ⟨lexer, filled, earlier⟩ value).behind closed :=
    fun lexer filled letterE => @begin_behind dialect ⟨lexer, filled, earlier⟩ closed letterE value
  have blocks : ∀ (lexer : Lexer) (depth : ℕ) (last : UInt8),
      inBlock dialect ⟨lexer, filled, closed ++ earlier⟩ depth last value =
        (inBlock dialect ⟨lexer, filled, earlier⟩ depth last value).behind closed :=
    fun lexer depth last => @inBlock_behind dialect ⟨lexer, filled, earlier⟩ closed depth last value
  cases lexer with
  | plain | returned => exact begins _ filled false
  | word | minus | dashes | slash | closing | candidate | quoted | escaped | line | dollar | opening
  | block =>
    simp only [step, behind]
    repeat' split
    all_goals first | rfl | exact begins _ _ _ | exact blocks _ _ _

theorem read_behind (closed : List Bool) (text : Bytes) :
    (splitter.behind closed).read dialect text = (splitter.read dialect text).behind closed := by
  induction text generalizing splitter with
  | nil => rfl
  | cons value text ih =>
    change ((splitter.behind closed).step dialect value).read dialect text = _
    rw [step_behind, ih]
    rfl

theorem begin_closed (letterE : Bool) (value : UInt8) :
    (splitter.begin dialect letterE value).closed = splitter.closed ∨
      value = 0x3B ∧
        splitter.begin dialect letterE value = { closed := splitter.closed ++ [splitter.filled] } := by
  unfold begin
  split
  · next semicolon => exact .inr ⟨semicolon, rfl⟩
  · repeat' split
    all_goals exact .inl rfl

/-- A byte closes no statement, or it is a semicolon after which everything begins anew. -/
theorem step_closed (value : UInt8) :
    (splitter.step dialect value).closed = splitter.closed ∨
      value = 0x3B ∧ ∃ content,
        splitter.step dialect value = { closed := splitter.closed ++ [content] } := by
  obtain ⟨lexer, filled, closed⟩ := splitter
  have begins : ∀ (lexer : Lexer) (filled letterE : Bool),
      (begin dialect letterE ⟨lexer, filled, closed⟩ value).closed = closed ∨
        value = 0x3B ∧ ∃ content, begin dialect letterE ⟨lexer, filled, closed⟩ value =
          { closed := closed ++ [content] } := by
    intro lexer filled letterE
    refine (@begin_closed dialect ⟨lexer, filled, closed⟩ letterE value).imp_right ?_
    exact fun ⟨semicolon, begun⟩ => ⟨semicolon, _, begun⟩
  have blocks : ∀ (lexer : Lexer) (depth : ℕ) (last : UInt8),
      (inBlock dialect ⟨lexer, filled, closed⟩ depth last value).closed = closed := by
    intro lexer depth last
    unfold inBlock
    repeat' split
    all_goals rfl
  cases lexer with
  | plain | returned => exact begins _ filled false
  | word | minus | dashes | slash | closing | candidate | quoted | escaped | line | dollar | opening
  | block =>
    simp only [step]
    repeat' split
    all_goals first | exact .inl rfl | exact begins _ _ _ | simp [blocks]

theorem read_closed (text : Bytes) : splitter.closed <+: (splitter.read dialect text).closed := by
  induction text generalizing splitter with
  | nil => exact prefix_refl _
  | cons value _ ih =>
    refine IsPrefix.trans ?_ ih
    obtain same | ⟨-, _, step⟩ := @step_closed dialect splitter value
    · rw [same]
    · rw [step]
      exact prefix_append _ _

/-- Nothing has been closed before if nothing is closed later. -/
theorem closed_of_read {text : Bytes} (unclosed : (splitter.read dialect text).closed = []) :
    splitter.closed = [] :=
  prefix_nil.mp (unclosed ▸ read_closed text)

end Splitter

/-! ## Counting statements -/

/-- A semicolon that ends a statement divides the text into parts that are counted on their own. -/
theorem statements_separated {front : Bytes} (separates : Separates dialect front) (rear : Bytes) :
    statements dialect (front ++ 0x3B :: rear) =
      (read dialect {} (front ++ [0x3B])).closed.count true + statements dialect rear := by
  have split : front ++ 0x3B :: rear = (front ++ [0x3B]) ++ rear := by simp
  obtain same | ⟨-, content, step⟩ := @step_closed dialect (read dialect {} front) 0x3B
  · refine absurd ?_ separates
    rw [read_append]
    exact same
  have here : read dialect {} (front ++ [0x3B]) =
      behind ((read dialect {} front).closed ++ [content]) {} := by
    rw [read_append]
    refine step.trans ?_
    simp [behind]
  rw [statements, statements, split, read_append, here, read_behind]
  simp only [behind, append_nil, append_assoc, count_append]
  exact (Nat.add_assoc _ _ _).symm

/-- Unless no statement with content is closed at all, there is a first one. -/
theorem first_content (dialect : Dialect) (text : Bytes) :
    true ∉ (read dialect {} text).closed ∨
      ∃ front rear, text = front ++ 0x3B :: rear ∧ Separates dialect front ∧
        (read dialect {} (front ++ [0x3B])).closed.count true = 1 := by
  induction text using reverseRecOn with
  | nil => exact .inl not_mem_nil
  | append_singleton text value ih =>
    obtain empty | ⟨front, rear, rfl, found⟩ := ih
    · have here : read dialect {} (text ++ [value]) = (read dialect {} text).step dialect value :=
        read_append text [value]
      obtain same | ⟨rfl, content, step⟩ := @step_closed dialect (read dialect {} text) value
      · rw [here, same]
        exact .inl empty
      · cases content with
        | false =>
          left
          rw [here, step]
          simpa using empty
        | true =>
          refine .inr ⟨text, [], rfl, ?_, ?_⟩
          · rw [Separates, here, step]
            simp
          · rw [here, step, count_append, count_eq_zero.mpr empty]
            rfl
    · exact .inr ⟨front, rear ++ [value], by simp, found⟩

/-- There is one statement with content if and only if there are some, and no semicolon has some on
both of its sides. -/
theorem statements_eq_one (dialect : Dialect) (text : Bytes) :
    statements dialect text = 1 ↔ statements dialect text ≠ 0 ∧
      ∀ front rear, text = front ++ 0x3B :: rear → Separates dialect front →
        true ∈ (read dialect {} (front ++ [0x3B])).closed → statements dialect rear = 0 := by
  constructor
  · refine fun one => ⟨by omega, ?_⟩
    rintro front rear rfl separates content
    rw [statements_separated separates] at one
    have positive := count_pos_iff.mpr content
    omega
  · rintro ⟨some_content, sided⟩
    obtain empty | ⟨front, rear, rfl, separates, one⟩ := first_content dialect text
    · have none_closed := count_eq_zero.mpr empty
      simp only [statements, count_append, none_closed] at some_content ⊢
      have few := @count_le_length _ _ true [(read dialect {} text).last]
      simp only [length_singleton] at few
      omega
    · have content : true ∈ (read dialect {} (front ++ [0x3B])).closed := by
        rw [← count_pos_iff, one]
        decide
      rw [statements_separated separates, one, sided front rear rfl separates content]

/-! ## Up to a semicolon -/

theorem upToSeparator_append {front rear : Bytes}
    (unclosed : (splitter.read .console front).closed = []) :
    upToSeparator splitter (front ++ rear) =
      front ++ upToSeparator (splitter.read .console front) rear := by
  induction front generalizing splitter with
  | nil => rfl
  | cons value front ih =>
    have here : (splitter.step .console value).closed = [] :=
      @closed_of_read .console (splitter.step .console value) front unclosed
    rw [cons_append, upToSeparator, if_pos here, ih unclosed]
    rfl

/-! ## Outside literals and comments -/

/-- The lexer of the console is outside of everything, and what it read last does not go together
with what comes. -/
def Outside (lexer : Lexer) (rest : Bytes) : Prop :=
  match lexer with
  | .plain | .word _ => True
  | .minus => rest.head? ≠ some 0x2D
  | .slash => rest.head? ≠ some 0x2A
  | .closing quote _ => rest.head? ≠ some quote
  | _ => False

/-- Bytes that the scan of the console looks at. -/
def marks : Bytes := [0x27, 0x22, 0x60, 0x2D, 0x23, 0x2F, 0x3B]

/-- Outside, a byte begins something or goes on with a word. -/
theorem step_outside (outside : Outside splitter.lexer (value :: rest)) :
    (value ∉ marks ∧ splitter.step .console value =
      { splitter with lexer := .word false, filled := true }) ∨
    ∃ letterE filled, splitter.step .console value =
      { splitter with filled := filled }.begin .console letterE value := by
  obtain ⟨lexer, filled, _⟩ := splitter
  cases lexer with
  | plain => exact .inr ⟨false, filled, rfl⟩
  | word letterE =>
    simp only [step]
    split
    · rename_i continues
      refine .inl ⟨fun mark => ?_, rfl⟩
      simp only [marks, mem_cons, not_mem_nil, or_false] at mark
      obtain rfl | rfl | rfl | rfl | rfl | rfl | rfl := mark
      all_goals exact absurd continues (by decide)
    · exact .inr ⟨letterE, filled, rfl⟩
  | minus =>
    have other : value ≠ 0x2D := fun same => outside (congrArg some same)
    exact .inr ⟨false, true, by simp [step, if_neg other]⟩
  | slash =>
    have other : value ≠ 0x2A := fun same => outside (congrArg some same)
    exact .inr ⟨false, true, by simp [step, if_neg other]⟩
  | closing quote =>
    have other : value ≠ quote := fun same => outside (congrArg some same)
    exact .inr ⟨false, filled, by simp [step, if_neg other]⟩
  | candidate | dashes | quoted | escaped | line | returned | opening | block | dollar =>
    exact outside.elim

/-- Outside, a mark begins something. -/
theorem step_mark {start : Lexer} (outside : Outside splitter.lexer (value :: rest))
    (mark : value ∈ marks) (begins : ∀ letterE (other : Splitter), ∃ filled,
      other.begin .console letterE value = { other with lexer := start, filled := filled }) :
    ∃ filled, splitter.step .console value =
      { splitter with lexer := start, filled := filled } := by
  obtain ⟨unmarked, -⟩ | ⟨letterE, filled, step⟩ := step_outside outside
  · exact absurd mark unmarked
  · obtain ⟨last, begun⟩ := begins letterE { splitter with filled := filled }
    exact ⟨last, step.trans begun⟩

/-- Any other byte outside leaves the lexer outside. -/
theorem step_other (outside : Outside splitter.lexer (value :: rest)) (other : value ∉ marks)
    (following : Bytes) :
    Outside (splitter.step .console value).lexer following ∧
      (splitter.step .console value).closed = splitter.closed := by
  obtain ⟨-, step⟩ | ⟨letterE, filled, step⟩ := step_outside outside
  · rw [step]
    exact ⟨trivial, rfl⟩
  · rw [step]
    simp only [marks, mem_cons, not_or] at other
    obtain ⟨quote, double, backtick, minus, hash, slash, semicolon⟩ := other
    simp only [begin, quote, double, backtick, minus, hash, slash, semicolon, false_and, or_self]
    repeat' split
    all_goals first | exact ⟨trivial, rfl⟩ | simp_all

/-! ## Comments -/

variable {body text mark : Bytes}

/-- A comment that ends with the line, without its end. -/
theorem read_line (inside : splitter.lexer = .line) (clean : (0x0A : UInt8) ∉ body) :
    splitter.read .console body = splitter := by
  induction body with
  | nil => rfl
  | cons value body ih =>
    obtain ⟨first, later⟩ := not_or.mp (mt mem_cons.mpr clean)
    have here : splitter.step .console value = splitter := by
      obtain ⟨lexer, _, _⟩ := splitter
      obtain rfl := inside
      simp [step, Ne.symm first]
    change (splitter.step .console value).read .console body = splitter
    rw [here, ih later]

/-- No end of a comment is in a text that follows a byte. -/
def unended : UInt8 → Bytes → Bool
  | _, [] => true
  | last, value :: rest => !(last == 0x2A && value == 0x2F) && unended value rest

theorem indexOf_unended {offset : ℕ} (found : indexOf (ascii "*/") text = some offset)
    {last : UInt8} (apart : last = 0x2A → text.head? ≠ some 0x2F) :
    ∃ body rest, text = body ++ 0x2A :: 0x2F :: rest ∧ body.length = offset ∧
      unended last body := by
  induction text generalizing offset last with
  | nil => cases found
  | cons value rest ih =>
    rw [indexOf] at found
    split at found
    · rename_i starts
      cases found
      obtain ⟨tail, whole⟩ := isPrefixOf_iff_prefix.mp starts
      exact ⟨[], tail, whole.symm, rfl, rfl⟩
    rename_i starts
    obtain ⟨_, later, rfl⟩ := Option.map_eq_some_iff.mp found
    have following : value = 0x2A → rest.head? ≠ some 0x2F := by
      rintro rfl head
      obtain ⟨tail, rfl⟩ := head?_eq_some_iff.mp head
      exact starts rfl
    obtain ⟨body, tail, rfl, length, clean⟩ := ih later following
    refine ⟨value :: body, tail, rfl, by rw [length_cons, length], ?_⟩
    rw [unended, clean, Bool.and_true, Bool.not_eq_true', Bool.and_eq_false_imp, beq_iff_eq]
    intro star
    exact beq_false_of_ne fun slash => apart star (congrArg some slash)

/-- A comment between marks up to its end; the byte before it is kept by the lexer. -/
theorem read_block {last : UInt8} (inside : splitter.lexer = .block 1 last)
    (clean : unended last body) :
    splitter.read .console (body ++ [0x2A, 0x2F]) = { splitter with lexer := .plain } := by
  have stays : ∀ {splitter : Splitter} {last value : UInt8}, splitter.lexer = .block 1 last →
      ¬(last = 0x2A ∧ value = 0x2F) →
      splitter.step .console value = { splitter with lexer := .block 1 value } := by
    intro splitter last value inside open_still
    obtain ⟨lexer, _, _⟩ := splitter
    obtain rfl := inside
    simp [step, inBlock, if_neg open_still]
  induction body generalizing splitter last with
  | nil =>
    have star := @stays _ _ 0x2A inside fun ⟨_, slash⟩ => absurd slash (by decide)
    change (splitter.step .console 0x2A).step .console 0x2F = _
    rw [star]
    rfl
  | cons value body ih =>
    rw [unended, Bool.and_eq_true, Bool.not_eq_true', Bool.and_eq_false_imp, beq_iff_eq] at clean
    have open_still : ¬(last = 0x2A ∧ value = 0x2F) := fun ⟨star, slash⟩ =>
      absurd (clean.1 star) (by rw [slash]; decide)
    change (splitter.step .console value).read .console (body ++ [0x2A, 0x2F]) = _
    rw [stays inside open_still, ih rfl clean.2]

/-- What begins a comment that ends with the line. -/
theorem enters_line (marked : mark = [0x2D, 0x2D] ∨ mark = [0x23])
    (outside : Outside splitter.lexer (mark ++ text)) :
    ∃ filled, splitter.read .console mark = { splitter with lexer := .line, filled := filled } := by
  obtain rfl | rfl := marked
  · obtain ⟨filled, first⟩ := @step_mark _ _ _ .minus outside (by decide) fun _ _ => ⟨_, rfl⟩
    refine ⟨filled, ?_⟩
    change (splitter.step .console 0x2D).step .console 0x2D = _
    rw [first]
    rfl
  · exact @step_mark _ _ _ .line outside (by decide) fun _ _ => ⟨_, rfl⟩

/-- A comment between marks. -/
theorem block_resumes {offset : ℕ} (found : indexOf (ascii "*/") text = some offset)
    (outside : Outside splitter.lexer (0x2F :: 0x2A :: text)) :
    ∃ filled, splitter.read .console ((0x2F :: 0x2A :: text).take (offset + 4)) =
      { splitter with lexer := .plain, filled := filled } := by
  obtain ⟨filled, first⟩ := @step_mark _ _ _ .slash outside (by decide) fun _ _ => ⟨_, rfl⟩
  obtain ⟨body, rest, rfl, rfl, clean⟩ := @indexOf_unended _ _ found 0 fun same =>
    absurd same (by decide)
  have consumed : (0x2F :: 0x2A :: (body ++ 0x2A :: 0x2F :: rest)).take (body.length + 4) =
      [0x2F, 0x2A] ++ (body ++ [0x2A, 0x2F]) := by
    have cut : (body ++ 0x2A :: 0x2F :: rest).take (body.length + 2) = body ++ [0x2A, 0x2F] := by
      rw [take_length_add_append]
      rfl
    change 0x2F :: 0x2A :: (body ++ 0x2A :: 0x2F :: rest).take (body.length + 2) = _
    rw [cut]
    rfl
  have opened : splitter.read .console [0x2F, 0x2A] =
      { splitter with lexer := .block 1 0, filled := filled } := by
    change (splitter.step .console 0x2F).step .console 0x2A = _
    rw [first]
    rfl
  refine ⟨filled, ?_⟩
  rw [consumed, read_append, opened, read_block rfl clean]

/-! ## The scan -/

/-- The scan stands where the lexer does, and nothing was closed before. -/
def Aligned (splitter : Splitter) (state : Option UInt8) (rest : Bytes) : Prop :=
  splitter.closed = [] ∧ (rest = [] ∨
    match state with
    | none => Outside splitter.lexer rest
    | some quote => splitter.lexer = .quoted quote (quote != 0x60))

section Quoted

variable {quote : UInt8} (inside : splitter.lexer = .quoted quote (quote != 0x60))
  (unclosed : splitter.closed = [])
include inside unclosed

/-- A backslash in a literal takes the next byte with it. -/
theorem quoted_backslash (literal : quote ≠ 0x60) :
    Aligned (splitter.read .console ((0x5C :: rest).take 2)) (some quote)
      ((0x5C :: rest).drop 2) := by
  obtain ⟨lexer, _, closed⟩ := splitter
  obtain rfl := inside
  obtain rfl : closed = [] := unclosed
  have escapes : (quote != 0x60) = true := by simpa using literal
  cases rest with
  | nil =>
    refine ⟨?_, .inl rfl⟩
    simp [Splitter.read, step, escapes]
  | cons _ rest =>
    refine ⟨?_, .inr ?_⟩
    · simp [Splitter.read, step, escapes]
    · simp [Splitter.read, step, escapes]

/-- A byte of a literal that escapes nothing. -/
theorem quoted_step (unescaped : ¬(value = 0x5C ∧ quote ≠ 0x60)) :
    splitter.step .console value = { splitter with
      lexer := if value = quote then .closing quote (quote != 0x60)
        else .quoted quote (quote != 0x60) } ∧ splitter.closed = [] := by
  obtain ⟨lexer, _, _⟩ := splitter
  obtain rfl := inside
  have plain : ¬(value = 0x5C ∧ (quote != 0x60) = true) := by simpa using unescaped
  refine ⟨?_, unclosed⟩
  simp only [step, if_neg plain]
  split <;> rfl

/-- A doubled quote. -/
theorem quoted_doubled (unescaped : ¬(quote = 0x5C ∧ quote ≠ 0x60)) :
    Aligned (splitter.read .console [quote, quote]) (some quote) rest := by
  change Aligned ((splitter.step .console quote).step .console quote) (some quote) rest
  rw [(quoted_step inside unclosed unescaped).1, if_pos rfl]
  refine ⟨?_, .inr ?_⟩
  · simp [step, unclosed]
  · simp [step]

/-- The quote that ends a literal. -/
theorem quoted_closing (unescaped : ¬(quote = 0x5C ∧ quote ≠ 0x60))
    (ends : rest.head? ≠ some quote) :
    Aligned (splitter.read .console [quote]) none rest := by
  change Aligned (splitter.step .console quote) none rest
  rw [(quoted_step inside unclosed unescaped).1, if_pos rfl]
  exact ⟨unclosed, .inr ends⟩

/-- Any other byte of a literal. -/
theorem quoted_other (unescaped : ¬(value = 0x5C ∧ quote ≠ 0x60)) (other : value ≠ quote) :
    Aligned (splitter.read .console [value]) (some quote) rest := by
  change Aligned (splitter.step .console value) (some quote) rest
  rw [(quoted_step inside unclosed unescaped).1, if_neg other]
  exact ⟨unclosed, .inr rfl⟩

end Quoted

section Outside

variable (outside : Outside splitter.lexer (value :: rest))
include outside

/-- A semicolon outside ends a statement. -/
theorem outside_semicolon (semicolon : value = 0x3B) :
    (splitter.step .console value).closed ≠ [] := by
  obtain ⟨unmarked, -⟩ | ⟨letterE, filled, step⟩ := step_outside outside
  · exact absurd (by rw [semicolon]; decide) unmarked
  · rw [step, semicolon]
    simp [begin]

variable (unclosed : splitter.closed = [])
include unclosed

/-- A quote outside begins a literal or a quoted name. -/
theorem outside_quote (quotes : value = 0x27 ∨ value = 0x22 ∨ value = 0x60) :
    Aligned (splitter.read .console [value]) (some value) rest := by
  have begun : ∃ filled, splitter.step .console value =
      { splitter with lexer := .quoted value (value != 0x60), filled := filled } := by
    refine step_mark outside ?_ fun _ _ => ⟨true, ?_⟩
    · obtain rfl | rfl | rfl := quotes
      all_goals decide
    · obtain rfl | rfl | rfl := quotes
      all_goals rfl
  obtain ⟨_, step⟩ := begun
  change Aligned (splitter.step .console value) (some value) rest
  rw [step]
  exact ⟨unclosed, .inr rfl⟩

/-- A byte outside that begins nothing the scan looks at. -/
theorem outside_other (unquoted : ¬(value = 0x27 ∨ value = 0x22 ∨ value = 0x60))
    (minus : ¬(value = 0x2D ∧ rest.head? = some 0x2D)) (hash : value ≠ 0x23)
    (slash : ¬(value = 0x2F ∧ rest.head? = some 0x2A)) (semicolon : value ≠ 0x3B) :
    Aligned (splitter.read .console [value]) none rest := by
  change Aligned (splitter.step .console value) none rest
  by_cases dash : value = 0x2D
  · obtain ⟨_, step⟩ := @step_mark _ _ _ .minus (dash ▸ outside) (by decide) fun _ _ => ⟨_, rfl⟩
    rw [dash, step]
    exact ⟨unclosed, .inr fun next => minus ⟨dash, next⟩⟩
  by_cases stroke : value = 0x2F
  · obtain ⟨_, step⟩ := @step_mark _ _ _ .slash (stroke ▸ outside) (by decide) fun _ _ => ⟨_, rfl⟩
    rw [stroke, step]
    exact ⟨unclosed, .inr fun next => slash ⟨stroke, next⟩⟩
  have other : value ∉ marks := by
    simp only [marks, mem_cons]
    tauto
  obtain ⟨still, kept⟩ := step_other outside other rest
  exact ⟨kept.trans unclosed, .inr still⟩

end Outside

/-- The first line of a text. -/
theorem findIdx_newline {next : ℕ} (found : text.findIdx? (· == 0x0A) = some next) :
    ∃ body rest, text = body ++ 0x0A :: rest ∧ (0x0A : UInt8) ∉ body ∧ body.length = next := by
  induction text generalizing next with
  | nil => cases found
  | cons value rest ih =>
    rw [findIdx?_cons] at found
    split at found
    · rename_i newline
      rw [beq_iff_eq] at newline
      cases found
      exact ⟨[], rest, by rw [newline]; rfl, not_mem_nil, rfl⟩
    rename_i other
    rw [beq_iff_eq] at other
    obtain ⟨_, later, rfl⟩ := Option.map_eq_some_iff.mp found
    obtain ⟨body, tail, rfl, clean, rfl⟩ := ih later
    refine ⟨value :: body, tail, rfl, fun member => ?_, rfl⟩
    obtain same | earlier := mem_cons.mp member
    · exact other same.symm
    · exact clean earlier

/-- Where the next line begins, or the text ends. -/
theorem skipSQLLine_cases (value : Bytes) (start : ℕ) :
    (∃ body rest, value.drop start = body ++ 0x0A :: rest ∧ (0x0A : UInt8) ∉ body ∧
      skipSQLLine value start = start + body.length) ∨
    (0x0A : UInt8) ∉ value.drop start ∧ skipSQLLine value start = value.length := by
  unfold skipSQLLine
  split
  · rename_i found
    obtain ⟨body, rest, whole, clean, rfl⟩ := findIdx_newline found
    exact .inl ⟨body, rest, whole, clean, rfl⟩
  rename_i missing
  refine .inr ⟨fun member => ?_, rfl⟩
  have clean := findIdx?_eq_none_iff.mp missing 0x0A member
  cases clean

/-- Reading on from an index. -/
theorem read_take_add (text : Bytes) (index count : ℕ) :
    read dialect {} (text.take (index + count)) =
      (read dialect {} (text.take index)).read dialect ((text.drop index).take count) := by
  rw [← read_append, ← take_add]

/-- The scan of a text stands where the lexer does. -/
def Follows (text : Bytes) (scan : Scan) : Prop :=
  Aligned (Splitter.read .console {} (text.take scan.index)) scan.state (text.drop scan.index)

/-- What is accepted is the text up to a semicolon that ends a statement. -/
def Found (text : Bytes) (result : Except SQLConsoleError Bytes) : Prop :=
  ∀ statement, result = .ok statement → statement = Utf8.trimSpace (upToSeparator {} text)

section Scan

variable {text : Bytes} {scan : Scan}

/-- The scan goes on by some bytes. -/
theorem goes_on {state : Option UInt8} {count : ℕ} (here : text.drop scan.index = value :: rest)
    (positive : 0 < count)
    (aligned : Aligned ((read .console {} (text.take scan.index)).read .console
      ((value :: rest).take count)) state ((value :: rest).drop count)) :
    Loop.Proceeds (Follows text) (Found text) (fun scan => text.length - scan.index)
      scan (.again { index := scan.index + count, state := state }) := by
  constructor
  · unfold Follows
    rw [read_take_add, ← drop_drop, here]
    exact aligned
  · have inside : scan.index < text.length := by
      by_contra beyond
      rw [drop_of_length_le (Nat.le_of_not_lt beyond)] at here
      cases here
    dsimp only
    omega

/-- The scan skips a comment that ends with the line. -/
theorem skips_line {mark : Bytes} (marked : mark = [0x2D, 0x2D] ∨ mark = [0x23])
    (here : text.drop scan.index = mark ++ rest)
    (outside : Outside (read .console {} (text.take scan.index)).lexer (mark ++ rest))
    (unclosed : (read .console {} (text.take scan.index)).closed = []) :
    Loop.Proceeds (Follows text) (Found text) (fun scan => text.length - scan.index)
      scan (.again { index := skipSQLLine text (scan.index + mark.length) + 1 }) := by
  obtain ⟨first, others, shape⟩ : ∃ first others, mark = first :: others := by
    obtain rfl | rfl := marked
    · exact ⟨_, _, rfl⟩
    · exact ⟨_, _, rfl⟩
  obtain ⟨filled, entered⟩ := enters_line marked outside
  have after : text.drop (scan.index + mark.length) = rest := by
    rw [← drop_drop, here, drop_left]
  have length : text.length - scan.index = mark.length + rest.length := by
    rw [← length_drop, here, length_append]
  have some_left : 0 < mark.length := by rw [shape]; exact Nat.succ_pos _
  have whole : mark ++ rest = first :: (others ++ rest) := by rw [shape, cons_append]
  rw [whole] at here
  obtain ⟨body, tail, split, clean, skipped⟩ | ⟨clean, skipped⟩ :=
    skipSQLLine_cases text (scan.index + mark.length)
  · rw [after] at split
    subst split
    have count : skipSQLLine text (scan.index + mark.length) + 1 =
        scan.index + (mark ++ (body ++ [0x0A])).length := by
      simp only [length_append, length_singleton]
      omega
    rw [count]
    apply goes_on here (by simp [shape])
    have cut : mark ++ (body ++ 0x0A :: tail) = mark ++ (body ++ [0x0A]) ++ tail := by simp
    rw [← whole, cut, take_left, read_append, entered, read_append, read_line rfl clean]
    exact ⟨unclosed, .inr trivial⟩
  · rw [after] at clean
    have count : skipSQLLine text (scan.index + mark.length) + 1 =
        scan.index + (text.length + 1 - scan.index) := by
      omega
    rw [count]
    apply goes_on here (by omega)
    have all : (mark ++ rest).length ≤ text.length + 1 - scan.index := by
      rw [length_append]
      omega
    rw [← whole, take_of_length_le all, drop_of_length_le all, read_append, entered,
      read_line rfl clean]
    exact ⟨unclosed, .inl rfl⟩

/-- One pass of the scan.  The cases are those of the loop. -/
theorem scan_proceeds (follows : Follows text scan) :
    Loop.Proceeds (Follows text) (Found text) (fun scan => text.length - scan.index)
      scan (scanPass text scan) := by
  obtain ⟨unclosed, position⟩ := follows
  have cut := @upToSeparator_append _ _ (text.drop scan.index) unclosed
  rw [take_append_drop] at cut
  unfold scanPass
  split
  · rename_i ends
    intro statement accepted
    split at accepted
    · cases accepted
    rw [ends, upToSeparator, append_nil] at cut
    have read_all : text.take scan.index = text := by
      have whole := take_append_drop scan.index text
      rwa [ends, append_nil] at whole
    rw [cut, read_all]
    exact (Except.ok.inj accepted).symm
  next current rest here =>
  rw [here] at position cut
  have inside := position.resolve_left (by simp)
  split
  · rename_i state
    rw [state] at inside
    split
    · rename_i backslash
      obtain ⟨rfl, literal⟩ := backslash
      apply goes_on here (by decide)
      rw [state]
      exact quoted_backslash inside unclosed literal
    next plain =>
    split
    · rename_i same
      subst same
      split
      · rename_i doubled
        obtain ⟨tail, rfl⟩ := head?_eq_some_iff.mp doubled
        apply goes_on here (by decide)
        rw [state]
        exact quoted_doubled inside unclosed plain
      · rename_i ends
        exact goes_on here (by decide) (quoted_closing inside unclosed plain ends)
    · rename_i other
      apply goes_on here (by decide)
      rw [state]
      exact quoted_other inside unclosed plain other
  · rename_i state
    rw [state] at inside
    split
    · next quotes => exact goes_on here (by decide) (outside_quote inside unclosed quotes)
    next unquoted =>
    split
    · rename_i dashes
      obtain ⟨rfl, second⟩ := dashes
      obtain ⟨tail, rfl⟩ := head?_eq_some_iff.mp second
      exact @skips_line tail text scan [0x2D, 0x2D] (.inl rfl) here inside unclosed
    next undashed =>
    split
    · rename_i hash
      subst hash
      exact @skips_line rest text scan [0x23] (.inr rfl) here inside unclosed
    next unhashed =>
    split
    · rename_i opens
      obtain ⟨rfl, second⟩ := opens
      obtain ⟨tail, rfl⟩ := head?_eq_some_iff.mp second
      have after : text.drop (scan.index + 2) = tail := by
        rw [← drop_drop, here]
        rfl
      rw [after]
      split
      · intro statement accepted
        cases accepted
      · rename_i found
        obtain ⟨_, resumed⟩ := block_resumes found inside
        refine @goes_on _ _ text scan none (_ + 4) here (Nat.succ_pos _) ?_
        rw [resumed]
        exact ⟨unclosed, .inr trivial⟩
    next unopened =>
    split
    · rename_i semicolon
      rw [upToSeparator, if_neg (outside_semicolon inside semicolon), append_nil] at cut
      split
      · intro statement accepted
        cases accepted
      · intro statement accepted
        rw [cut]
        exact (Except.ok.inj accepted).symm
    · rename_i semicolon
      exact goes_on here (by decide)
        (outside_other inside unclosed unquoted undashed unhashed unopened semicolon)

/-- What the scan accepts is the text up to the first semicolon that ends a statement. -/
theorem singleSQLStatement_found (text : Bytes) : Found text (singleSQLStatement text) :=
  Loop.run_proceeds (fun _ follows => scan_proceeds follows) ⟨rfl, .inr trivial⟩

end Scan

/-! ## Accepted statements -/

theorem upToSeparator_closed (text : Bytes) :
    (splitter.closed = [] → (splitter.read .console (upToSeparator splitter text)).closed = []) ∧
      upToSeparator splitter text <+: text := by
  induction text generalizing splitter with
  | nil => exact ⟨id, prefix_refl _⟩
  | cons value rest ih =>
    rw [upToSeparator]
    split
    · rename_i unclosed
      obtain ⟨still, starts⟩ := @ih (splitter.step .console value)
      exact ⟨fun _ => still unclosed, cons_prefix_cons.mpr ⟨rfl, starts⟩⟩
    · exact ⟨id, nil_prefix⟩

/-- What is accepted is what the scan finds. -/
theorem inspectSQLStatement_ok {policy : SQLStatementPolicy}
    (accepted : inspectSQLStatement text = .ok policy) :
    singleSQLStatement (Utf8.trimSpace text) = .ok policy.sql := by
  unfold inspectSQLStatement at accepted
  dsimp only at accepted
  split at accepted
  · cases accepted
  cases found : singleSQLStatement (Utf8.trimSpace text) with
  | error => rw [found] at accepted; cases accepted
  | ok statement =>
    rw [found] at accepted
    change (if firstSQLKeyword statement = ascii "select" then _ else _) = _ at accepted
    repeat' split at accepted
    all_goals cases accepted
    all_goals rfl

/-- What is sent for a text: it is trimmed, read up to the first semicolon that ends a statement for
the console, and trimmed again. -/
def sent (text : Bytes) : Bytes :=
  Utf8.trimSpace (upToSeparator {} (Utf8.trimSpace text))

/-- No semicolon in what is sent ends a statement for the console. -/
theorem sent_unseparated {front rear : Bytes} (split : sent text = front ++ 0x3B :: rear) :
    ¬Separates .console front := by
  obtain ⟨unclosed, starts⟩ := @upToSeparator_closed {} (Utf8.trimSpace text)
  obtain ⟨more, whole⟩ := starts
  have unblank : Utf8.startsBlank (upToSeparator {} (Utf8.trimSpace text)) = false := by
    cases blank : Utf8.startsBlank (upToSeparator {} (Utf8.trimSpace text)) with
    | false => rfl
    | true =>
      have starts := Utf8.startsBlank_append blank more
      rw [whole, (Utf8.trimSpace_spec text).1] at starts
      cases starts
  obtain ⟨cut, kept⟩ := (Utf8.trimSpace_spec _).2 unblank
  change sent text ++ cut = _ at kept
  have none_closed := unclosed rfl
  rw [← kept, split, show front ++ 0x3B :: rear = (front ++ [0x3B]) ++ rear by simp,
    read_append, read_append] at none_closed
  have here := closed_of_read (closed_of_read none_closed)
  rw [Separates, not_not, here]
  rw [read_append] at here
  exact (closed_of_read here).symm

end Jianmen.SQLConsole
