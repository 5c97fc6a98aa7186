import Tablewright.Proofs.ConnectionCalls
import Tablewright.Proofs.Records
import Tablewright.Proofs.TracedCalls

/-!
# Outcomes of a synchronization

A synchronization either makes all of its calls, each with success, and leaves the table that it was to
make, or it stops on the way: then something disturbed it, the calls that it made are the first ones of
its plan, and the table is as it was. The rules below lead from one step of a synchronization to the
next.

## Key results

- `Outcome.check`: a check before a call
- `Outcome.call`: a call in front of the others
- `Outcome.succeeds`, `Outcome.of_error`: success is all calls with success, and failure changes nothing
-/

namespace Tablewright

open MemoryConnection

/-- The store speaks a dialect and holds a table. -/
def MemoryStore.Shows (s : MemoryStore) (d : Dialect) (m : MemoryTable) : Prop :=
  s.dialect = d ∧ s.table = m

/-- What a synchronization has come to, for the calls that it still has to make and those already made.
Where `calm` holds nothing stops it. -/
inductive Outcome (calm : Prop) (d : Dialect) (table : MemoryTable) (result : SyncCounts × MemoryTable)
    (planned : List Call) (log : CallLog) :
    Except Fault SyncCounts × (MemoryConnection × CallLog) → Prop
  | applied (c : MemoryConnection) (log' : CallLog) (hlog : log' = log ++ planned.map (·, true))
      (hshows : c.store.Shows d result.2) :
      Outcome calm d table result planned log (.ok result.1, (c, log'))
  | stopped (fault : Fault) (c : MemoryConnection) (made log' : CallLog) (hlog : log' = log ++ made)
      (hmade : made.map Prod.fst <+: planned) (hfailed : made ≠ planned.map (·, true))
      (hdisturbed : ¬calm) (hshows : c.store.Shows d table) :
      Outcome calm d table result planned log (.error fault, (c, log'))

namespace Outcome

variable {calm : Prop} {d : Dialect} {table : MemoryTable} {result : SyncCounts × MemoryTable}
  {planned : List Call} {log : CallLog} {c : MemoryConnection} {options : SyncOptions}

/-- A check that fails ends the synchronization with nothing more done. -/
theorem check (fault? : MemoryConnection → Option Fault)
    {rest : Operation (MemoryConnection × CallLog) SyncCounts} (hne : planned ≠ [])
    (hshows : c.store.Shows d table) (hcalm : calm → fault? c = none)
    (h : fault? c = none → Outcome calm d table result planned log (rest.run (c, log))) :
    Outcome calm d table result planned log
      ((Operation.require (fun s : MemoryConnection × CallLog => fault? s.1) >>= fun _ => rest).run
        (c, log)) := by
  cases hf : fault? c with
  | some fault =>
    rw [run_bind_error (run_require_some (s := (c, log)) hf)]
    -- No call was made, and there was one to make.
    refine .stopped fault c [] log (List.append_nil log).symm List.nil_prefix ?_ (fun hc => ?_) hshows
    · exact fun heq => hne (List.map_eq_nil_iff.1 heq.symm)
    · rw [hcalm hc] at hf
      exact absurd hf (Option.some_ne_none fault).symm
  | none =>
    rw [run_bind_ok (run_require_none (s := (c, log)) hf)]
    exact h hf

/-- The outcome behind a call that succeeded is one of the whole. -/
theorem cons {call : Call} {r : Except Fault SyncCounts × (MemoryConnection × CallLog)}
    (h : Outcome calm d table result planned (log ++ [(call, true)]) r) :
    Outcome calm d table result (call :: planned) log r := by
  cases h with
  | applied c log' hlog hshows =>
    refine .applied c log' ?_ hshows
    rw [hlog, List.append_assoc]
    rfl
  | stopped fault c made log' hlog hmade hfailed hdisturbed hshows =>
    -- What stopped the calls behind it stopped the whole, with one more call made.
    refine .stopped fault c ((call, true) :: made) log' ?_ ?_ ?_ hdisturbed hshows
    · rw [hlog, List.append_assoc]
      rfl
    · exact (List.cons_prefix_cons).2 ⟨rfl, hmade⟩
    · rw [List.map_cons]
      exact fun heq => hfailed (List.cons.inj heq).2

variable {α : Type} {sent : Call} {s' : MemoryStore} {a : α}

/-- A call that fails ends the synchronization; else the synchronization goes on behind it. -/
theorem call {step : Operation (MemoryConnection × CallLog) α}
    {answered : Except Fault α × MemoryConnection}
    {rest : α → Operation (MemoryConnection × CallLog) SyncCounts}
    (hstep : step.run (c, log) = (answered.1, (answered.2, log ++ [(sent, answered.1.isOk)])))
    (hattempt : Attempt options c s' a answered) (hshows : c.store.Shows d table)
    (hcalm : calm → c.Undisturbed options)
    (h : ∀ c', c'.store = s' → (calm → c'.Undisturbed options) →
      Outcome calm d table result planned (log ++ [(sent, true)])
        ((rest a).run (c', log ++ [(sent, true)]))) :
    Outcome calm d table result (sent :: planned) log ((step >>= rest).run (c, log)) := by
  cases hattempt with
  | failed fault c' hstore hdisturbed =>
    rw [run_bind_error hstep]
    -- The call that failed is the last one, and it is noted as failed.
    refine .stopped fault c' [(sent, false)] _ rfl ?_ ?_ (fun hc => hdisturbed (hcalm hc)) ?_
    · exact (List.cons_prefix_cons).2 ⟨rfl, List.nil_prefix⟩
    · rw [List.map_cons]
      exact fun heq => Bool.false_ne_true (Prod.mk.inj (List.cons.inj heq).1).2
    · rwa [hstore]
  | done c' hstore hnext =>
    rw [run_bind_ok hstep]
    exact (h c' hstore fun hc => hnext (hcalm hc)).cons

/-! ## The steps of a synchronization -/

/-- Before each call the caller may have cancelled. -/
theorem checkpoint {rest : Operation (MemoryConnection × CallLog) SyncCounts} (hne : planned ≠ [])
    (hshows : c.store.Shows d table) (hcalm : calm → c.Undisturbed options)
    (h : Outcome calm d table result planned log (rest.run (c, log))) :
    Outcome calm d table result planned log
      ((connection.traced.checkpoint options.cancel >>= fun _ => rest).run (c, log)) := by
  refine check (fun c => if options.cancel.any (connection.isCancelled · c) then some .cancelled
    else none) hne hshows (fun hc => if_neg ?_) fun _ => h
  have huncancelled := (hcalm hc).uncancelled
  exact Bool.eq_false_iff.1 huncancelled

theorem run_requireDialect (hd : c.store.dialect = d) (log : CallLog) :
    (connection.traced.requireDialect d).run (c, log) = (.ok (), (c, log)) :=
  run_require_none (if_pos hd)

variable {command : Command} {answer : MemoryAnswer}

theorem executeIn {rest : Nat → Operation (MemoryConnection × CallLog) SyncCounts}
    (htimeout : command.timeout = options.timeout)
    (hrun : (MemoryStore.run command.sql (command.parameters.map (·.value))).run c.store =
      (.ok answer, s'))
    (hshows : c.store.Shows d table) (hcalm : calm → c.Undisturbed options)
    (h : ∀ c', c'.store = s' → (calm → c'.Undisturbed options) →
      Outcome calm d table result planned (log ++ [(.execute command, true)])
        ((rest answer.affected).run (c', log ++ [(.execute command, true)]))) :
    Outcome calm d table result (.execute command :: planned) log
      ((connection.traced.executeIn d command >>= rest).run (c, log)) := by
  refine call ?_ (attempt_execute htimeout hrun) hshows hcalm h
  -- The dialect has been checked before, so that this check makes no difference.
  rw [Connection.executeIn, run_bind_ok (run_requireDialect hshows.1 log)]
  rfl

theorem bulkLoad {load : BulkLoad} {n : Nat}
    {rest : Nat → Operation (MemoryConnection × CallLog) SyncCounts}
    (hrun : (MemoryStore.load load.table load.columns load.rows).run c.store = (.ok n, s'))
    (hshows : c.store.Shows d table) (hcalm : calm → c.Undisturbed options)
    (h : ∀ c', c'.store = s' → (calm → c'.Undisturbed options) →
      Outcome calm d table result planned (log ++ [(.bulkLoad load, true)])
        ((rest n).run (c', log ++ [(.bulkLoad load, true)]))) :
    Outcome calm d table result (.bulkLoad load :: planned) log
      ((connection.traced.bulkLoad load >>= rest).run (c, log)) :=
  call rfl (attempt_bulkLoad hrun) hshows hcalm h

theorem fetchIn {rest : List Row → Operation (MemoryConnection × CallLog) SyncCounts}
    (hrun : (MemoryStore.run command.sql (command.parameters.map (·.value))).run c.store =
      (.ok answer, s'))
    (hshows : c.store.Shows d table) (hcalm : calm → c.Undisturbed options)
    (h : ∀ c', c'.store = s' → (calm → c'.Undisturbed options) →
      Outcome calm d table result planned (log ++ [(.fetch command, true)])
        ((rest answer.rows).run (c', log ++ [(.fetch command, true)]))) :
    Outcome calm d table result (.fetch command :: planned) log
      ((connection.traced.fetchIn d command >>= rest).run (c, log)) := by
  obtain ⟨hattempt, hok⟩ := attempt_fetch options hrun
  refine call ?_ hattempt hshows hcalm h
  rw [Connection.fetchIn, run_bind_ok (run_requireDialect hshows.1 log), ← hok]
  rfl

/-! ## What an outcome says -/

variable {r : Except Fault SyncCounts × (MemoryConnection × CallLog)}

/-- The calls that were made are the first ones of those planned. -/
theorem inOrder (h : Outcome calm d table result planned [] r) : r.2.2.map Prod.fst <+: planned := by
  cases h with
  | applied c log' hlog hshows =>
    rw [hlog, List.nil_append, List.map_map]
    exact ⟨[], by rw [List.append_nil]; exact List.map_id planned⟩
  | stopped fault c made log' hlog hmade hfailed hdisturbed hshows =>
    rw [hlog]
    exact hmade

/-- A synchronization succeeds if all planned calls were made and succeeded, and only then. -/
theorem succeeds (h : Outcome calm d table result planned [] r) :
    (∃ counts, r.1 = .ok counts) ↔ r.2.2 = planned.map (·, true) := by
  cases h with
  | applied c log' hlog hshows => exact ⟨fun _ => hlog, fun _ => ⟨result.1, rfl⟩⟩
  | stopped fault c made log' hlog hmade hfailed hdisturbed hshows =>
    refine ⟨?_, fun hall => absurd (hlog.symm.trans hall) hfailed⟩
    rintro ⟨counts, hok⟩
    cases hok

/-- A synchronization that succeeds has done all of its work. -/
theorem of_ok (h : Outcome calm d table result planned [] r) {counts : SyncCounts}
    (hok : r.1 = .ok counts) : counts = result.1 ∧ r.2.1.store.Shows d result.2 := by
  cases h with
  | applied c log' hlog hshows => exact ⟨(Except.ok.inj hok).symm, hshows⟩
  | stopped => cases hok

/-- A synchronization that fails has left the table as it was. -/
theorem of_error (h : Outcome calm d table result planned [] r) {fault : Fault}
    (herror : r.1 = .error fault) : r.2.1.store.Shows d table := by
  cases h with
  | applied => cases herror
  | stopped fault c made log' hlog hmade hfailed hdisturbed hshows => exact hshows

/-- A synchronization that nothing disturbs succeeds. -/
theorem of_calm (h : Outcome calm d table result planned [] r) (hcalm : calm) :
    r.1 = .ok result.1 ∧ r.2.2 = planned.map (·, true) ∧ r.2.1.store.Shows d result.2 := by
  cases h with
  | applied c log' hlog hshows => exact ⟨rfl, hlog, hshows⟩
  | stopped fault c made log' hlog hmade hfailed hdisturbed hshows => exact absurd hcalm hdisturbed

end Outcome

end Tablewright
