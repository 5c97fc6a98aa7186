import Tablewright.Memory.Connection
import Tablewright.Proofs.Runs
import Tablewright.Store.Batch

/-!
# Calls on the connection to the store in memory

A call either fails before it reaches the store, or it does to the store what its statement does. It
can fail only where something disturbs the connection: a text to refuse, a time that is too long, a
token that is cancelled. Whatever happens, the settings of the connection stay as they are.

## Key results

- `run_executeIn`: executing a statement runs it, if it is in time and in the dialect of the store
- `attempt_execute`, `attempt_fetch`, `attempt_bulkLoad`: a call fails without a trace in the store, or
  it does what the store does
-/

namespace Tablewright

namespace MemoryConnection

/-- Nothing stands in the way of a synchronization: a transaction is open, no statement is refused or
takes too long, and the token is not cancelled and not going to be. -/
structure Undisturbed (c : MemoryConnection) (options : SyncOptions) : Prop where
  inTransaction : c.inTransaction = true
  accepting : c.failOn = none
  prompt : timeout? options.timeout c = none
  uncancelled : options.cancel.any c.cancelled.contains = false
  unhurried : ∀ count token, c.cancelAfter = some (count, token) → options.cancel ≠ some token

/-- The connection with all disturbances lifted. -/
def calm (c : MemoryConnection) : MemoryConnection :=
  { c with inTransaction := true, failOn := none, delay := none, cancelAfter := none, cancelled := [] }

theorem undisturbed_calm (c : MemoryConnection) (options : SyncOptions) :
    c.calm.Undisturbed options := by
  refine ⟨rfl, rfl, ?_, ?_, fun count token h => ?_⟩
  · cases options.timeout <;> rfl
  · cases options.cancel <;> rfl
  · exact absurd h (Option.some_ne_none _).symm

variable {c : MemoryConnection} {options : SyncOptions}

/-! ## Received statements -/

theorem received_eq (c : MemoryConnection) (sql : String) :
    ∃ cancelled, c.received sql = { c with statements := c.statements ++ [sql], cancelled } ∧
      (cancelled = c.cancelled ∨
        ∃ count token, c.cancelAfter = some (count, token) ∧ cancelled = token :: c.cancelled) := by
  cases hc : c.cancelAfter with
  | none => exact ⟨c.cancelled, by simp only [received, hc], .inl rfl⟩
  | some pair =>
    obtain ⟨count, token⟩ := pair
    by_cases hcount : count ≤ (c.statements ++ [sql]).length
    · refine ⟨token :: c.cancelled, ?_, .inr ⟨count, token, rfl, rfl⟩⟩
      simp only [received, hc, hcount, if_true, cancel]
    · refine ⟨c.cancelled, ?_, .inl rfl⟩
      simp only [received, hc, hcount, if_false]

theorem received_store (c : MemoryConnection) (sql : String) : (c.received sql).store = c.store := by
  obtain ⟨cancelled, h, -⟩ := received_eq c sql
  rw [h]

theorem refusal?_received (c : MemoryConnection) (text sql : String) :
    (c.received text).refusal? sql = c.refusal? sql := by
  obtain ⟨cancelled, h, -⟩ := received_eq c text
  rw [h]
  rfl

/-- A connection that nothing disturbs stays so. -/
theorem Undisturbed.received (h : c.Undisturbed options) (sql : String) (s : MemoryStore) (n : Nat) :
    Undisturbed { c.received sql with store := s, loadedRows := n } options := by
  obtain ⟨cancelled, heq, hcancelled⟩ := received_eq c sql
  rw [heq]
  refine ⟨h.inTransaction, h.accepting, h.prompt, ?_, h.unhurried⟩
  rcases hcancelled with rfl | ⟨count, token, hafter, rfl⟩
  · exact h.uncancelled
  · have hne := h.unhurried count token hafter
    have hold := h.uncancelled
    cases hc : options.cancel with
    | none => rfl
    | some other =>
      rw [hc] at hne hold
      have hother : other ≠ token := fun ho => hne (congrArg some ho)
      rw [Option.any_some] at hold ⊢
      rw [List.contains_cons, hold, Bool.or_false]
      exact beq_eq_false_iff_ne.2 hother

theorem Undisturbed.refusal? (h : c.Undisturbed options) (sql : String) :
    c.refusal? sql = none := by
  rw [MemoryConnection.refusal?, h.accepting]

/-! ## Attempts -/

/-- A call that does not reach the store fails, and something disturbed it; else it does what the store
does. -/
inductive Attempt {α : Type} (options : SyncOptions) (c : MemoryConnection) (after : MemoryStore)
    (answer : α) : Except Fault α × MemoryConnection → Prop
  | failed (fault : Fault) (c' : MemoryConnection) (hstore : c'.store = c.store)
      (hdisturbed : ¬c.Undisturbed options) : Attempt options c after answer (.error fault, c')
  | done (c' : MemoryConnection) (hstore : c'.store = after)
      (hcalm : c.Undisturbed options → c'.Undisturbed options) :
      Attempt options c after answer (.ok answer, c')

variable {α : Type} {s' : MemoryStore}

theorem run_onStore {step : MemoryOperation α} {a : α} (h : step.run c.store = (.ok a, s')) :
    (onStore step).run c = (.ok a, { c with store := s' }) := by
  show ((step.run c.store).1.mapError MemoryFault.toFault,
    { c with store := (step.run c.store).2 }) = _
  rw [h]
  rfl

/-- A statement that is refused never reaches the store. -/
theorem run_receive_some {sql : String} {fault : Fault} (h : c.refusal? sql = some fault) :
    (receive sql).run c = (.error fault, c.received sql) := by
  rw [receive, run_bind_ok (run_modify _ c), run_require, refusal?_received, h]

theorem run_receive_none {sql : String} (h : c.refusal? sql = none) :
    (receive sql).run c = (.ok (), c.received sql) := by
  rw [receive, run_bind_ok (run_modify _ c), run_require, refusal?_received, h]

/-- A connection that refuses what it receives is disturbed. -/
theorem Attempt.refused {a : α} {sql : String} {fault : Fault} (h : c.refusal? sql = some fault) :
    Attempt options c s' a (.error fault, c.received sql) := by
  refine .failed fault _ (received_store c sql) fun hcalm => ?_
  rw [hcalm.refusal?] at h
  exact absurd h (Option.some_ne_none fault).symm

/-- A statement that is not refused does to the store what it does. -/
theorem run_accepted {command : Command} {answer : MemoryAnswer}
    (h : c.refusal? command.sql = none)
    (hrun : (MemoryStore.run command.sql (command.parameters.map (·.value))).run c.store =
      (.ok answer, s')) :
    (run command).run c = (.ok answer, { c.received command.sql with store := s' }) := by
  rw [← received_store c command.sql] at hrun
  rw [run, run_bind_ok (run_receive_none h), run_onStore hrun]

theorem run_refused {command : Command} {fault : Fault} (h : c.refusal? command.sql = some fault) :
    (run command).run c = (.error fault, c.received command.sql) := by
  rw [run, run_bind_error (run_receive_some h)]

theorem run_requireDialect {d : Dialect} (hdialect : c.store.dialect = d) :
    (connection.requireDialect d).run c = (.ok (), c) :=
  run_require_none (if_pos hdialect)

/-- A statement of the dialect of the store is run if its limit of time allows that. -/
theorem run_executeIn {d : Dialect} {command : Command} {r : Except Fault MemoryAnswer}
    {c' : MemoryConnection} (hdialect : c.store.dialect = d)
    (hprompt : timeout? command.timeout c = none) (hrun : (run command).run c = (r, c')) :
    (connection.executeIn d command).run c = (r.map (·.affected), c') := by
  rw [Connection.executeIn, run_bind_ok (run_requireDialect hdialect)]
  show (execute command).run c = _
  rw [execute, run_bind_ok (run_require_none hprompt), run_bind_pure hrun]

/-- Running a statement is an attempt, whether or not it may take long. -/
theorem attempt_run {command : Command} {answer : MemoryAnswer}
    (hrun : (MemoryStore.run command.sql (command.parameters.map (·.value))).run c.store =
      (.ok answer, s')) : Attempt options c s' answer ((run command).run c) := by
  -- Received in any case; it reaches the store if it is not refused.
  cases hrefusal : c.refusal? command.sql with
  | some fault =>
    rw [run_refused hrefusal]
    exact .refused hrefusal
  | none =>
    rw [run_accepted hrefusal hrun]
    refine .done _ rfl fun h => ?_
    have hloaded := h.received command.sql s' (c.received command.sql).loadedRows
    exact hloaded

/-- An attempt whose answer is used. -/
theorem Attempt.map {β : Type} {a : α} {step : Operation MemoryConnection α} (f : α → β)
    (h : Attempt options c s' a (step.run c)) :
    Attempt options c s' (f a) ((do return f (← step) : Operation MemoryConnection β).run c) := by
  rw [run_bind]
  rcases hr : step.run c with ⟨r, c'⟩
  rw [hr] at h
  cases h with
  | failed fault c' hstore hdisturbed => exact .failed fault c' hstore hdisturbed
  | done c' hstore hcalm => exact .done c' hstore hcalm

theorem attempt_execute {command : Command} {answer : MemoryAnswer}
    (htimeout : command.timeout = options.timeout)
    (hrun : (MemoryStore.run command.sql (command.parameters.map (·.value))).run c.store =
      (.ok answer, s')) : Attempt options c s' answer.affected ((execute command).run c) := by
  rw [execute]
  -- The limit of time is looked at before the statement is received.
  cases hlate : timeout? command.timeout c with
  | some fault =>
    rw [run_bind_error (run_require_some hlate)]
    refine .failed fault c rfl fun h => ?_
    rw [htimeout, h.prompt] at hlate
    exact absurd hlate (Option.some_ne_none fault).symm
  | none =>
    rw [run_bind_ok (run_require_none hlate)]
    exact (attempt_run hrun).map MemoryAnswer.affected

/-- The rows of an answer, or its fault in their place. -/
def fetched : Except Fault MemoryAnswer → List (Except Fault Row)
  | .ok answer => answer.rows.map .ok
  | .error fault => [.error fault]

theorem fetch_eq (command : Command) (c : MemoryConnection) :
    fetch command c = (fetched ((run command).run c).1, ((run command).run c).2) := by
  show (match ((run command).run c).1 with
    | .ok answer => (pure (answer.rows.map .ok) : StateM MemoryConnection (List (Except Fault Row)))
    | .error fault => pure [.error fault]) ((run command).run c).2 = _
  cases ((run command).run c).1 with
  | ok answer => rfl
  | error fault => rfl

/-- All rows that the store answers can be read, so that none of them stops the others. -/
theorem mapM_fetched (answer : MemoryAnswer) : (fetched (.ok answer)).mapM id = .ok answer.rows := by
  have hrows : (fetched (.ok answer)).mapM id = .ok (answer.rows.map id) :=
    mapM_map_ok fun row _ => rfl
  rwa [List.map_id] at hrows

/-- A query is an attempt at its rows, and it succeeds if each of them can be read. -/
theorem attempt_fetch (options : SyncOptions) {command : Command} {answer : MemoryAnswer}
    (hrun : (MemoryStore.run command.sql (command.parameters.map (·.value))).run c.store =
      (.ok answer, s')) :
    Attempt options c s' answer.rows
        ((fetch command c).1.mapM id, (fetch command c).2) ∧
      (fetch command c).1.all Except.isOk = Except.isOk ((fetch command c).1.mapM id) := by
  have hattempt : Attempt options c s' answer ((run command).run c) := attempt_run hrun
  rcases hr : (run command).run c with ⟨r, c'⟩
  rw [hr] at hattempt
  rw [fetch_eq, hr]
  cases hattempt with
  | failed fault c' hstore hdisturbed => exact ⟨.failed fault c' hstore hdisturbed, rfl⟩
  | done c' hstore hcalm =>
    simp only [mapM_fetched]
    refine ⟨.done c' hstore hcalm, ?_⟩
    rw [fetched, List.all_map]
    exact List.all_eq_true.2 fun row _ => rfl

theorem attempt_bulkLoad {load : BulkLoad} {n : Nat}
    (hrun : (MemoryStore.load load.table load.columns load.rows).run c.store = (.ok n, s')) :
    Attempt options c s' n ((bulkLoad load).run c) := by
  rw [bulkLoad]
  cases hrefusal : c.refusal? ("COPY " ++ load.table) with
  | some fault =>
    rw [run_bind_error (run_receive_some hrefusal)]
    exact .refused hrefusal
  | none =>
    rw [← received_store c ("COPY " ++ load.table)] at hrun
    rw [run_bind_ok (run_receive_none hrefusal), run_bind_ok (run_onStore hrun)]
    exact .done _ rfl fun h => h.received _ s' _

end MemoryConnection

end Tablewright
