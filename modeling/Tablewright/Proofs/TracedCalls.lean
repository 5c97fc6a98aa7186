import Tablewright.Proofs.Runs
import Tablewright.Store.Sync

/-!
# Traced calls

A connection that notes the calls that it receives, and whether each of them succeeded. Noting changes
neither its answers nor its states, so that what a synchronization does on a traced connection is what
it does on the connection itself.

## Key results

- `follows_apply`: a traced synchronization answers what the synchronization answers
-/

namespace Tablewright

/-- Calls in the order in which they were made, and whether they succeeded. -/
abbrev CallLog := List (Call × Bool)

variable {σ α β Item : Type}

namespace Connection

variable (conn : Connection σ)

/-- An operation that notes a call behind those already noted. -/
def tracing (call : Call) (succeeded : α → Bool) (run : StateM σ α) : StateM (σ × CallLog) α :=
  fun s =>
    let (answer, after) := run s.1
    (answer, (after, s.2 ++ [(call, succeeded answer)]))

/-- The same connection, with its calls and whether they succeeded. A query succeeds if all of its rows
can be read. -/
def traced : Connection (σ × CallLog) where
  dialect s := conn.dialect s.1
  inTransaction s := conn.inTransaction s.1
  isCancelled token s := conn.isCancelled token s.1
  execute command := tracing (.execute command) Except.isOk (conn.execute command)
  fetch command := tracing (.fetch command) (·.all Except.isOk) (conn.fetch command)
  bulkLoad load := tracing (.bulkLoad load) Except.isOk (conn.bulkLoad load)

end Connection

/-- An operation on a traced connection does what another one does without the trace. -/
def Follows (traced : Operation (σ × CallLog) α) (plain : Operation σ α) : Prop :=
  ∀ s log, (plain.run s) = ((traced.run (s, log)).1, (traced.run (s, log)).2.1)

/-! ## Steps -/

theorem follows_pure (a : α) : Follows (pure a : Operation (σ × CallLog) α) (pure a) :=
  fun _ _ => rfl

theorem follows_throw (fault : Fault) :
    Follows (throw fault : Operation (σ × CallLog) α) (throw fault) :=
  fun _ _ => rfl

theorem follows_ofExcept (x : Except Fault α) :
    Follows (MonadExcept.ofExcept x : Operation (σ × CallLog) α) (MonadExcept.ofExcept x) := by
  cases x with
  | ok a => exact follows_pure a
  | error fault => exact follows_throw fault

theorem follows_bind {traced : Operation (σ × CallLog) α} {plain : Operation σ α}
    {tracedRest : α → Operation (σ × CallLog) β} {plainRest : α → Operation σ β}
    (h : Follows traced plain) (hrest : ∀ a, Follows (tracedRest a) (plainRest a)) :
    Follows (traced >>= tracedRest) (plain >>= plainRest) := by
  intro s log
  -- Both take the same first step; the log goes along.
  have hs := h s log
  rw [run_bind, run_bind, hs]
  rcases traced.run (s, log) with ⟨r, s', log'⟩
  cases r with
  | ok a => exact hrest a s' log'
  | error fault => rfl

theorem follows_require (fault? : σ → Option Fault) :
    Follows (Operation.require fun s : σ × CallLog => fault? s.1) (Operation.require fault?) := by
  intro s log
  rw [run_require, run_require]

theorem follows_tracing (call : Call) (succeeded : Except Fault α → Bool) (run : Operation σ α) :
    Follows (Connection.tracing call succeeded run : StateM (σ × CallLog) (Except Fault α)) run :=
  fun _ _ => rfl

/-! ## Synchronizations -/

section Synchronization

variable (conn : Connection σ) (b : Batch Item) (e : Entity Item) (options : SyncOptions)

theorem follows_checkpoint (token : Option CancelToken) :
    Follows (conn.traced.checkpoint token) (conn.checkpoint token) :=
  follows_require _

theorem follows_executeIn (d : Dialect) (command : Command) :
    Follows (conn.traced.executeIn d command) (conn.executeIn d command) :=
  follows_bind (follows_require _) fun _ => follows_tracing _ _ _

theorem follows_fetchIn (d : Dialect) (command : Command) :
    Follows (conn.traced.fetchIn d command) (conn.fetchIn d command) :=
  follows_bind (follows_require _) fun _ _ _ => rfl

theorem follows_applyStaged (staging : StagingTexts) (indexed : Bool) :
    Follows (b.applyStaged e conn.traced options staging indexed)
      (b.applyStaged e conn options staging indexed) := by
  refine follows_bind (follows_checkpoint conn _) fun _ => ?_
  refine follows_bind (follows_executeIn conn _ _) fun _ => ?_
  refine follows_bind (follows_checkpoint conn _) fun _ => ?_
  refine follows_bind (follows_tracing _ _ _) fun _ => ?_
  refine follows_bind (follows_checkpoint conn _) fun _ => ?_
  refine follows_bind (follows_fetchIn conn _ _) fun rows => ?_
  cases rows.getLast? with
  | some row => exact follows_ofExcept _
  | none => exact follows_throw _

/-- A traced synchronization answers what the synchronization answers, and leaves its state. -/
theorem follows_apply : Follows (b.apply e conn.traced options) (b.apply e conn options) := by
  -- Step for step: a check reads the state alone, a call is noted and does the same.
  refine follows_bind (follows_require _) fun _ => ?_
  refine follows_bind (follows_require _) fun _ => ?_
  cases b.plan e options with
  | empty => exact follows_pure _
  | fastPath =>
    refine follows_bind (follows_checkpoint conn _) fun _ => ?_
    exact follows_bind (follows_executeIn conn _ _) fun n => follows_pure _
  | staging indexed =>
    cases e.texts.staging with
    | some staging => exact follows_applyStaged conn b e options staging indexed
    | none => exact follows_throw _

end Synchronization

end Tablewright
