import Mathlib.Algebra.BigOperators.Group.Finset.Basic
import Mathlib.Algebra.Order.BigOperators.Group.Finset
import Jianmen.DBProxy.Postgres.Audit

/-!
# Limits of the followed state

The observer bounds what it keeps for a connection: the operations that wait for a response, the
records of queries in flight, and the names and audit texts of prepared statements and portals.
Room for a name is checked against the state projected over the queue.  The confirmed state stays
within the limits as long as it is what the queue was checked against, and a response that
discards operations can break that.
-/

namespace Jianmen.DBProxy

open Postgres List

namespace PostgresObserver

/-! ## What a state takes up -/

/-- The rows a state is counted in: the names of an entry and its prepared statement. -/
def usageRows (state : PreparedStatements × Portals) :
    List (List Bytes × PostgresPreparedStatement) :=
  state.1.entries.map (fun entry => ([entry.1], entry.2)) ++
    state.2.entries.map fun entry => ([entry.1, entry.2.statement], entry.2.prepared)

/-- Count the names and the prepared statement of a row. -/
def StateUsage.addRow (limit : ℕ) (usage : StateUsage)
    (row : List Bytes × PostgresPreparedStatement) : Option StateUsage :=
  (row.1.foldlM (fun (usage : StateUsage) name => usage.addName limit name) usage).bind fun usage =>
    usage.addPrepared limit row.2

theorem postgresPreparedStateWithinLimit_eq (state : PreparedStatements × Portals) (limit : Int) :
    postgresPreparedStateWithinLimit state limit =
      (decide (state.1.entries.length ≤ maxObserverPreparedObjects) &&
        decide (state.2.entries.length ≤ maxObserverPreparedObjects) &&
        ((usageRows state).foldlM
          (StateUsage.addRow (normalizeMaxClientMessageBytes limit)) {}).isSome) := by
  have counted : ∀ start : StateUsage, (usageRows state).foldlM
      (StateUsage.addRow (normalizeMaxClientMessageBytes limit)) start =
      (state.1.entries.foldlM (fun (usage : StateUsage) entry =>
          (usage.addName (normalizeMaxClientMessageBytes limit) entry.1).bind fun usage =>
            usage.addPrepared (normalizeMaxClientMessageBytes limit) entry.2) start).bind
        fun usage => state.2.entries.foldlM (fun (usage : StateUsage) entry =>
          ((usage.addName (normalizeMaxClientMessageBytes limit) entry.1).bind fun usage =>
            usage.addName (normalizeMaxClientMessageBytes limit) entry.2.statement).bind
              fun usage =>
                usage.addPrepared (normalizeMaxClientMessageBytes limit) entry.2.prepared) usage := by
    intro start
    rw [usageRows, foldlM_append]
    simp only [foldlM_map, StateUsage.addRow]
    simp [Option.bind_eq_bind]
  rw [counted, postgresPreparedStateWithinLimit]
  by_cases statements : state.1.entries.length ≤ maxObserverPreparedObjects
  · by_cases portals : state.2.entries.length ≤ maxObserverPreparedObjects
    · simp [statements, portals]
    · simp [portals]
  · simp [statements]

/-- The bytes of the names of rows. -/
def nameBytes (rows : List (List Bytes × PostgresPreparedStatement)) : ℕ :=
  (rows.map fun row => (row.1.map List.length).sum).sum

/-- The bytes of the audit texts of statements. -/
def textBytes (statements : Finset PostgresPreparedStatement) : ℕ :=
  ∑ prepared ∈ statements, prepared.audit.text.length

/-- The statements of rows. -/
def rowStatements (rows : List (List Bytes × PostgresPreparedStatement)) :
    Finset PostgresPreparedStatement :=
  (rows.map Prod.snd).toFinset

/-- A pointer stands for one statement. -/
def Distinguished (statements : Finset PostgresPreparedStatement) : Prop :=
  ∀ first ∈ statements, ∀ second ∈ statements, first.pointer = second.pointer → first = second

/-- What was counted so far: names of some bytes, and some statements. -/
structure StateUsage.Counts (usage : StateUsage) (limit : ℕ)
    (statements : Finset PostgresPreparedStatement) : Prop where
  names : usage.nameBytes ≤ limit
  texts : usage.sqlBytes = textBytes statements
  within : usage.sqlBytes ≤ limit
  seen : ∀ pointer, pointer ∈ usage.seenPrepared ↔ ∃ prepared ∈ statements,
    prepared.pointer = pointer

theorem StateUsage.addNames_eq {limit : ℕ} (names : List Bytes) (usage : StateUsage)
    (within : usage.nameBytes ≤ limit) :
    names.foldlM (fun (usage : StateUsage) name => usage.addName limit name) usage =
      if usage.nameBytes + (names.map length).sum ≤ limit then
        some { usage with nameBytes := usage.nameBytes + (names.map length).sum }
      else none := by
  induction names generalizing usage with
  | nil => simp [within]
  | cons name names ih =>
    simp only [foldlM_cons, StateUsage.addName, map_cons, sum_cons]
    split
    · next long => rw [if_neg (by omega)]; rfl
    have fits : usage.nameBytes + name.length ≤ limit := by omega
    apply (ih { usage with nameBytes := usage.nameBytes + name.length } fits).trans
    simp [Nat.add_assoc]

/-- Counting rows succeeds when the names and the distinct texts fit. -/
theorem addRows_isSome {limit : ℕ} (rows : List (List Bytes × PostgresPreparedStatement))
    {usage : StateUsage} {statements : Finset PostgresPreparedStatement}
    (counts : usage.Counts limit statements)
    (distinguished : Distinguished (statements ∪ rowStatements rows)) :
    (rows.foldlM (StateUsage.addRow limit) usage).isSome ↔
      usage.nameBytes + nameBytes rows ≤ limit ∧
        textBytes (statements ∪ rowStatements rows) ≤ limit := by
  induction rows generalizing usage statements with
  | nil =>
    simp [nameBytes, rowStatements, counts.names, ← counts.texts, counts.within]
  | cons row rows ih =>
    obtain ⟨names, prepared⟩ := row
    have union : statements ∪ rowStatements ((names, prepared) :: rows) =
        insert prepared statements ∪ rowStatements rows := by
      simp [rowStatements]
    have covered : insert prepared statements ⊆ insert prepared statements ∪ rowStatements rows :=
      Finset.subset_union_left
    have more : textBytes (insert prepared statements) ≤
        textBytes (insert prepared statements ∪ rowStatements rows) :=
      Finset.sum_le_sum_of_subset covered
    have total : nameBytes ((names, prepared) :: rows) =
        (names.map length).sum + nameBytes rows := by
      simp [nameBytes]
    rw [union] at distinguished ⊢
    rw [foldlM_cons, StateUsage.addRow, StateUsage.addNames_eq names usage counts.names, total]
    by_cases named : usage.nameBytes + (names.map length).sum ≤ limit
    · simp only [if_pos named, Option.bind_some, StateUsage.addPrepared]
      by_cases seen : usage.seenPrepared.contains prepared.pointer
      · have member : prepared ∈ statements := by
          obtain ⟨other, among, same⟩ := (counts.seen prepared.pointer).mp (by simpa using seen)
          have equal := distinguished other (by simp [among]) prepared (by simp) same
          rwa [← equal]
        rw [Finset.insert_eq_of_mem member] at distinguished ⊢
        rw [if_pos seen]
        have counted := @ih
          { usage with nameBytes := usage.nameBytes + (names.map length).sum } statements
          { counts with names := named } distinguished
        simpa [Nat.add_assoc] using counted
      · have fresh : prepared ∉ statements := by
          intro member
          exact seen (by simpa using (counts.seen prepared.pointer).mpr ⟨prepared, member, rfl⟩)
        have texts : textBytes (insert prepared statements) =
            usage.sqlBytes + prepared.audit.text.length := by
          rw [textBytes, Finset.sum_insert fresh, ← textBytes, ← counts.texts, Nat.add_comm]
        rw [if_neg seen]
        split
        · simp only [Option.bind_eq_bind, Option.bind_none, Option.isSome_none,
            Bool.false_eq_true, false_iff]
          omega
        · have within := counts.within
          have counted := @ih { usage with
              nameBytes := usage.nameBytes + (names.map length).sum
              sqlBytes := usage.sqlBytes + prepared.audit.text.length
              seenPrepared := prepared.pointer :: usage.seenPrepared }
            (insert prepared statements)
            ⟨named, texts.symm, by dsimp only; omega, fun pointer => by
              simp [counts.seen pointer, eq_comm]⟩ distinguished
          simpa [Nat.add_assoc] using counted
    · rw [if_neg named]
      simp only [Option.bind_none, Option.bind_eq_bind, Option.isSome_none, Bool.false_eq_true,
        false_iff]
      omega

/-! ## Smaller states -/

/-- Everything one table holds the other holds, too. -/
def Extends {β : Type} (big small : AList fun _ : Bytes => β) : Prop :=
  ∀ name value, small.lookup name = some value → big.lookup name = some value

section Extends

variable {β : Type} {big small : AList fun _ : Bytes => β}

theorem Extends.refl (names : AList fun _ : Bytes => β) : Extends names names :=
  fun _ _ present => present

theorem extends_empty (names : AList fun _ : Bytes => β) : Extends names ∅ := by
  intro name value present
  simp at present

theorem Extends.erase (larger : Extends big small) (gone : Bytes) :
    Extends (big.erase gone) (small.erase gone) := by
  intro name value present
  by_cases same : name = gone
  · rw [same, AList.lookup_erase] at present
    cases present
  · rw [AList.lookup_erase_ne same] at present ⊢
    exact larger name value present

theorem Extends.insert (larger : Extends big small) (new : Bytes) (value : β) :
    Extends (big.insert new value) (small.insert new value) := by
  intro name other present
  by_cases same : name = new
  · rw [same, AList.lookup_insert] at present ⊢
    exact present
  · rw [AList.lookup_insert_ne same] at present ⊢
    exact larger name other present

theorem Extends.subset (larger : Extends big small) : small.entries ⊆ big.entries := by
  rintro ⟨name, value⟩ member
  exact AList.mem_lookup_iff.mp (larger name value (AList.mem_lookup_iff.mpr member))

theorem Extends.length_le (larger : Extends big small) :
    small.entries.length ≤ big.entries.length :=
  (subperm_of_subset small.nodupKeys.nodup larger.subset).length_le

/-- A sum over the entries grows with them. -/
theorem Extends.sum_le (larger : Extends big small) (size : (_ : Bytes) × β → ℕ) :
    (small.entries.map size).sum ≤ (big.entries.map size).sum := by
  classical
  rw [← sum_toFinset size small.nodupKeys.nodup, ← sum_toFinset size big.nodupKeys.nodup]
  refine Finset.sum_le_sum_of_subset fun entry member => ?_
  rw [mem_toFinset] at member ⊢
  exact larger.subset member

end Extends

/-- A state holds all the statements and portals of another. -/
structure Covers (big small : PreparedStatements × Portals) : Prop where
  statements : Extends big.1 small.1
  portals : Extends big.2 small.2

variable {big small : PreparedStatements × Portals}

theorem Covers.refl (state : PreparedStatements × Portals) : Covers state state :=
  ⟨.refl _, .refl _⟩

theorem Covers.apply (covers : Covers big small) (operation : PostgresFrontendOperation) :
    Covers (applyPostgresStateOperation big operation)
      (applyPostgresStateOperation small operation) := by
  cases operation with
  | query => exact ⟨covers.statements.erase _, covers.portals.erase _⟩
  | parse name => exact ⟨covers.statements.insert _ _, covers.portals⟩
  | bind name => exact ⟨covers.statements, covers.portals.insert _ _⟩
  | close _ name =>
    simp only [applyPostgresStateOperation]
    split
    · exact ⟨covers.statements.erase _, covers.portals⟩
    · split
      · exact ⟨covers.statements, covers.portals.erase _⟩
      · exact covers
  | execute | describe | sync => exact covers

theorem Covers.foldl (covers : Covers big small) (operations : List PostgresFrontendOperation) :
    Covers (operations.foldl applyPostgresStateOperation big)
      (operations.foldl applyPostgresStateOperation small) := by
  induction operations generalizing big small with
  | nil => exact covers
  | cons operation operations ih => exact ih (covers.apply operation)

/-- The operations that add a name. -/
def adds : PostgresFrontendOperation → Bool
  | .parse .. | .bind .. => true
  | _ => false

theorem covers_apply {operation : PostgresFrontendOperation} (silent : adds operation = false)
    (state : PreparedStatements × Portals) :
    Covers state (applyPostgresStateOperation state operation) := by
  constructor
  · intro name prepared found
    obtain rfl | ⟨known, -⟩ := apply_statements found
    · cases silent
    · exact known
  · intro name portal found
    obtain rfl | ⟨known, -⟩ := apply_portals found
    · cases silent
    · exact known

theorem mem_rowStatements {state : PreparedStatements × Portals}
    {prepared : PostgresPreparedStatement} :
    prepared ∈ rowStatements (usageRows state) ↔ (∃ name, state.1.lookup name = some prepared) ∨
        ∃ name portal, state.2.lookup name = some portal ∧ portal.prepared = prepared := by
  have statements : ∀ name value, state.1.lookup name = some value ↔ ⟨name, value⟩ ∈ state.1.entries :=
    fun name value => AList.mem_lookup_iff
  have portals : ∀ name value, state.2.lookup name = some value ↔ ⟨name, value⟩ ∈ state.2.entries :=
    fun name value => AList.mem_lookup_iff
  simp [rowStatements, usageRows, statements, portals]

/-- A state that holds less takes up less. -/
theorem Covers.within (covers : Covers big small)
    (distinguished : Distinguished (rowStatements (usageRows big))) {limit : Int}
    (within : postgresPreparedStateWithinLimit big limit) :
    postgresPreparedStateWithinLimit small limit := by
  have subset : rowStatements (usageRows small) ⊆ rowStatements (usageRows big) := by
    intro prepared member
    rw [mem_rowStatements] at member ⊢
    rcases member with ⟨name, known⟩ | ⟨name, portal, known, same⟩
    · exact .inl ⟨name, covers.statements name prepared known⟩
    · exact .inr ⟨name, portal, covers.portals name portal known, same⟩
  have names : nameBytes (usageRows small) ≤ nameBytes (usageRows big) := by
    simp only [nameBytes, usageRows, map_append, map_map, sum_append]
    exact Nat.add_le_add (covers.statements.sum_le _) (covers.portals.sum_le _)
  have empty : StateUsage.Counts {} (normalizeMaxClientMessageBytes limit) ∅ :=
    ⟨Nat.zero_le _, by simp [textBytes], Nat.zero_le _, by simp⟩
  rw [postgresPreparedStateWithinLimit_eq, Bool.and_eq_true, Bool.and_eq_true, decide_eq_true_eq,
    decide_eq_true_eq] at within ⊢
  obtain ⟨⟨statements, portals⟩, counted⟩ := within
  rw [addRows_isSome _ empty (by simpa using distinguished)] at counted
  refine ⟨⟨covers.statements.length_le.trans statements, covers.portals.length_le.trans portals⟩, ?_⟩
  rw [addRows_isSome _ empty (by
    exact fun first among second also => distinguished first (subset among) second (subset also))]
  exact ⟨(Nat.add_le_add_left names _).trans counted.1,
    (Finset.sum_le_sum_of_subset subset).trans counted.2⟩

end PostgresObserver
end Jianmen.DBProxy
