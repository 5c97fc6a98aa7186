import Tablewright.Proofs.BatchStatements
import Tablewright.Proofs.ConnectionCalls

/-!
# Many items and single items

Items sent many at once make of the store what they make of it one by one, however the list is cut into
statements: the same rows in the same order, the same assigned values and the same total. A statement
that is refused ends the call with its fault, and the store is left as single operations on the items of
the pieces in front of it leave it.

## Key results

- `pieceByPiece_total`: statements that take the steps of their items, one after the other
- `many_eq_each`: the operations of a table's entity on many items against those on single ones
-/

namespace Tablewright

section

variable {Item σ : Type} (e : Entity Item) (conn : Connection σ)

/-- Inserts the pieces of a list, each by one statement. -/
def Entity.insertPieces (pieces : List (List Item)) : Operation σ Nat :=
  Operation.total (pieces.map fun piece => conn.executeIn e.dialect (e.insertCommand piece none))

/-- Deletes the pieces of a list, each by one statement behind the head of such statements. -/
def Entity.deletePieces (head : String) (pieces : List (List Item)) : Operation σ Nat :=
  Operation.total (pieces.map fun piece => conn.executeIn e.dialect (e.deleteCommand head piece))

end

namespace MemoryConnection

variable {Item : Type}

/-- Single operations on items one after the other, on the connection as it is if it refuses nothing: what
they answer together and the store that they leave. -/
def OneByOne (c : MemoryConnection) (one : Item → Operation MemoryConnection Nat) (items : List Item)
    (total : Nat) (s : MemoryStore) : Prop :=
  ∃ c', (Operation.total (items.map one)).run { c with failOn := none } = (.ok total, c') ∧ c'.store = s

/-- Two operations answer the same and leave the same store. -/
def Agree (c : MemoryConnection) (many each : Operation MemoryConnection Nat) : Prop :=
  ∃ total c₁ c₂, many.run c = (.ok total, c₁) ∧ each.run c = (.ok total, c₂) ∧ c₁.store = c₂.store

/-- What statements for pieces of a list come to, where `after` says what items make of the store. All of
them are accepted, or one is refused and those in front of it were not. -/
inductive PieceByPiece (c : MemoryConnection) (command : List Item → Command)
    (after : List Item → Nat → MemoryStore → Prop) (pieces : List (List Item)) :
    Except Fault Nat × MemoryConnection → Prop
  | finished (total : Nat) (c' : MemoryConnection)
      (haccepted : ∀ piece ∈ pieces, c.refusal? (command piece).sql = none)
      (hafter : after pieces.flatten total c'.store) :
      PieceByPiece c command after pieces (.ok total, c')
  | refused (fault : Fault) (c' : MemoryConnection) (done rest : List (List Item)) (piece : List Item)
      (total : Nat) (hpieces : pieces = done ++ piece :: rest)
      (haccepted : ∀ piece ∈ done, c.refusal? (command piece).sql = none)
      (hrefused : c.refusal? (command piece).sql = some fault)
      (hafter : after done.flatten total c'.store) :
      PieceByPiece c command after pieces (.error fault, c')

variable {c c₁ : MemoryConnection} {t : Table} {step : Item → MemoryTable → Nat × MemoryTable}
  {command : List Item → Command} {after after₁ : List Item → Nat → MemoryStore → Prop}
  {pieces : List (List Item)} {piece items : List Item} {r : Except Fault Nat × MemoryConnection}

/-- What a piece makes of the store stands in front of what the other pieces make of it. -/
theorem PieceByPiece.cons {n : Nat} (haccepted : c.refusal? (command piece).sql = none)
    (hrefusal : ∀ sql, c₁.refusal? sql = c.refusal? sql)
    (hafter : ∀ items total s, after₁ items total s → after (piece ++ items) (n + total) s)
    (h : PieceByPiece c₁ command after₁ pieces r) :
    PieceByPiece c command after (piece :: pieces) (r.1.map (n + ·), r.2) := by
  have hfront {front : List (List Item)}
      (hall : ∀ piece ∈ front, c₁.refusal? (command piece).sql = none) :
      ∀ p ∈ piece :: front, c.refusal? (command p).sql = none := by
    intro p hp
    rcases List.mem_cons.1 hp with rfl | hp
    · exact haccepted
    · rw [← hrefusal]
      exact hall p hp
  cases h with
  | finished total c' hall hrest =>
    exact .finished (n + total) c' (hfront hall) (hafter _ _ _ hrest)
  | refused fault c' done rest other total hpieces hall hrefused hrest =>
    refine .refused fault c' (piece :: done) rest other (n + total) ?_ (hfront hall) ?_
      (hafter _ _ _ hrest)
    · rw [hpieces, List.cons_append]
    · rw [← hrefusal, hrefused]

theorem PieceByPiece.mono (h : PieceByPiece c command after₁ pieces r)
    (hafter : ∀ items total s, after₁ items total s → after items total s) :
    PieceByPiece c command after pieces r := by
  cases h with
  | finished total c' hall hrest => exact .finished total c' hall (hafter _ _ _ hrest)
  | refused fault c' done rest other total hpieces hall hrefused hrest =>
    exact .refused fault c' done rest other total hpieces hall hrefused (hafter _ _ _ hrest)

/-! ## Statements that take steps -/

/-- The steps of items make of the table of a store what stands in another one. -/
def Stepped (step : Item → MemoryTable → Nat × MemoryTable) (s : MemoryStore) (items : List Item)
    (total : Nat) (s' : MemoryStore) : Prop :=
  total = (s.table.stepEach step items).1 ∧ s' = { s with table := (s.table.stepEach step items).2 }

theorem Stepped.append {s s₁ s' : MemoryStore} {items₁ : List Item} {n total : Nat}
    (h₁ : Stepped step s items n s₁) (h : Stepped step s₁ items₁ total s') :
    Stepped step s (items ++ items₁) (n + total) s' := by
  obtain ⟨rfl, rfl⟩ := h₁
  obtain ⟨rfl, rfl⟩ := h
  rw [Stepped, MemoryTable.stepEach_append]
  exact ⟨rfl, rfl⟩

theorem Stepped.answers (hname : ∀ x m, (step x m).2.name = m.name) {s s' : MemoryStore} {total : Nat}
    (h : Stepped step s items total s') (hs : s.Answers t) : s'.Answers t := by
  obtain ⟨-, rfl⟩ := h
  exact ⟨hs.dialect, (MemoryTable.name_stepEach hname s.table items).trans hs.name⟩

/-- A statement that is accepted takes its steps. -/
theorem run_executeIn_accepted {x : Command} (hs : c.store.Answers t) (hx : x.Steps t step items)
    (h : c.refusal? x.sql = none) :
    ∃ n c', (connection.executeIn t.dialect x).run c = (.ok n, c') ∧
      Stepped step c.store items n c'.store ∧ c'.failOn = c.failOn := by
  have hprompt : timeout? x.timeout c = none := by
    rw [hx.timeout]
    rfl
  have hrun := run_executeIn hs.dialect hprompt (run_accepted h (hx.run c.store hs))
  obtain ⟨cancelled, hreceived, -⟩ := received_eq c x.sql
  rw [hreceived] at hrun
  exact ⟨_, _, hrun, ⟨rfl, rfl⟩, rfl⟩

/-- Statements that take the steps of their items, one after the other. -/
theorem pieceByPiece_total (pieces : List (List Item)) (hname : ∀ x m, (step x m).2.name = m.name)
    (hs : c.store.Answers t) (h : ∀ piece ∈ pieces, (command piece).Steps t step piece) :
    PieceByPiece c command (Stepped step c.store) pieces
      ((Operation.total (pieces.map fun piece => connection.executeIn t.dialect (command piece))).run c) := by
  -- Each statement finds the store as the pieces in front of it have left it.
  induction pieces generalizing c with
  | nil => exact .finished 0 c (fun _ hm => absurd hm List.not_mem_nil) ⟨rfl, rfl⟩
  | cons piece pieces ih =>
    have hpiece := h piece List.mem_cons_self
    rw [List.map_cons, Operation.total]
    cases hrefusal : c.refusal? (command piece).sql with
    | some fault =>
      have hprompt : timeout? (command piece).timeout c = none := by
        rw [hpiece.timeout]
        rfl
      have hrun := run_executeIn hs.dialect hprompt (run_refused hrefusal)
      rw [run_bind_error hrun]
      refine .refused fault _ [] pieces piece 0 rfl (fun _ hm => absurd hm List.not_mem_nil) hrefusal
        ⟨rfl, received_store c _⟩
    | none =>
      obtain ⟨n, c₁, hrun, hstep, hfail⟩ := run_executeIn_accepted hs hpiece hrefusal
      have hrest := ih (hstep.answers hname hs) fun p hp => h p (List.mem_cons_of_mem _ hp)
      have hrefusal₁ (sql : String) : c₁.refusal? sql = c.refusal? sql := by
        rw [refusal?, refusal?, hfail]
      rcases hothers : (Operation.total (pieces.map fun piece =>
        connection.executeIn t.dialect (command piece))).run c₁ with ⟨r, c₂⟩
      rw [hothers] at hrest
      rw [run_bind_ok hrun, run_bind_pure hothers]
      exact hrest.cons hrefusal hrefusal₁ fun _ _ _ hafter => hstep.append hafter

/-- Single operations take their steps one after the other. -/
theorem run_total_single (hname : ∀ x m, (step x m).2.name = m.name) (hs : c.store.Answers t)
    (haccepting : c.failOn = none) {single : Item → Command}
    (h : ∀ x, (single x).Steps t step [x]) (items : List Item) :
    ∃ n c', (Operation.total (items.map fun x => connection.executeIn t.dialect (single x))).run c =
      (.ok n, c') ∧ Stepped step c.store items n c'.store := by
  induction items generalizing c with
  | nil => exact ⟨0, c, rfl, rfl, rfl⟩
  | cons x items ih =>
    have hrefusal : c.refusal? (single x).sql = none := by rw [refusal?, haccepting]
    obtain ⟨n, c₁, hrun, hstep, hfail⟩ := run_executeIn_accepted hs (h x) hrefusal
    obtain ⟨m, c₂, hothers, hrest⟩ := ih (hstep.answers hname hs) (hfail.trans haccepting)
    refine ⟨n + m, c₂, ?_, hstep.append hrest⟩
    rw [List.map_cons, Operation.total, run_bind_ok hrun, run_bind_ok hothers]
    rfl

theorem oneByOne_of_stepped (hname : ∀ x m, (step x m).2.name = m.name) (hs : c.store.Answers t)
    {one : Item → Operation MemoryConnection Nat} {single : Item → Command}
    (hone : one = fun x => connection.executeIn t.dialect (single x))
    (h : ∀ x, (single x).Steps t step [x]) (items : List Item) (total : Nat) (s : MemoryStore)
    (hafter : Stepped step c.store items total s) : c.OneByOne one items total s := by
  obtain ⟨n, c', hrun, hn, hstore⟩ :=
    run_total_single (c := { c with failOn := none }) hname hs rfl h items
  obtain ⟨htotal, hs'⟩ := hafter
  refine ⟨c', ?_, hstore.trans hs'.symm⟩
  rw [hone, hrun, hn, htotal]

/-- Where nothing is refused, the statements for pieces answer what single operations answer. -/
theorem PieceByPiece.agree {one : Item → Operation MemoryConnection Nat}
    {many : Operation MemoryConnection Nat} (haccepting : c.failOn = none)
    (h : PieceByPiece c command (c.OneByOne one) pieces (many.run c)) :
    c.Agree many (Operation.total (pieces.flatten.map one)) := by
  have hsame : ({ c with failOn := none } : MemoryConnection) = c := by rw [← haccepting]
  rcases hr : many.run c with ⟨r, c'⟩
  rw [hr] at h
  cases h with
  | finished total _ _ hafter =>
    obtain ⟨c₂, heach, hstore⟩ := hafter
    rw [hsame] at heach
    exact ⟨total, c', c₂, hr, heach, hstore.symm⟩
  | refused fault _ done rest piece total _ _ hrefused _ =>
    rw [refusal?, haccepting] at hrefused
    exact absurd hrefused (Option.some_ne_none fault).symm

/-! ## The operations of a table's entity -/

variable {values : Item → List Value} {ofRow : Row → Except Fault Item} {key : Column}

/-- Inserts of pieces are inserts one by one. -/
theorem pieceByPiece_inserts (hp : t.Named) (hs : c.store.Answers t) (hne : ∀ p ∈ pieces, p ≠ []) :
    PieceByPiece c (fun piece => (t.entity values ofRow).insertCommand piece none)
      (c.OneByOne ((t.entity values ofRow).insert connection)) pieces
      (((t.entity values ofRow).insertPieces connection pieces).run c) := by
  have hpieces := pieceByPiece_total pieces (t.name_insertStep values) hs fun p hm =>
    Table.steps_insertCommand ofRow hp (hne p hm)
  exact hpieces.mono
    (oneByOne_of_stepped (t.name_insertStep values) hs rfl (Table.steps_insert ofRow hp))

/-- Deletions of pieces are deletions one by one. -/
theorem pieceByPiece_deletions (hp : t.Named) (hkey : t.keyColumns = [key]) (hs : c.store.Answers t)
    (pieces : List (List Item)) :
    PieceByPiece c ((t.entity values ofRow).deleteCommand (t.textOf (t.deleteHead key)))
      (c.OneByOne ((t.entity values ofRow).delete connection)) pieces
      (((t.entity values ofRow).deletePieces connection (t.textOf (t.deleteHead key)) pieces).run c) := by
  have hpieces := pieceByPiece_total pieces (t.name_deleteStep values) hs fun p _ =>
    Table.steps_deleteCommand ofRow hp hkey p
  have hone : (t.entity values ofRow).delete connection = _ :=
    funext (Table.delete_eq_executeIn connection hp)
  exact hpieces.mono
    (oneByOne_of_stepped (t.name_deleteStep values) hs hone (Table.steps_delete ofRow hp))

theorem run_insertMany (e : Entity Item) (hdialect : c.store.dialect = e.dialect) (items : List Item) :
    (e.insertMany connection items).run c =
      (e.insertPieces connection (chunks e.insertBatchSize items)).run c := by
  rw [Entity.insertMany, run_bind_ok (run_requireDialect hdialect), Entity.insertPieces]

theorem run_deleteMany (e : Entity Item) (hdialect : c.store.dialect = e.dialect) {head : String}
    (hhead : e.texts.deleteBatch = some head) (items : List Item) :
    (e.deleteMany connection items).run c =
      (e.deletePieces connection head (chunks e.deleteBatchSize items)).run c := by
  rw [Entity.deleteMany, hhead]
  show (connection.requireDialect e.dialect >>= _).run c = _
  rw [run_bind_ok (run_requireDialect hdialect), Entity.deletePieces]

/-- A key of one property is a key of one column. -/
theorem exists_keyColumn (hp : t.Named) (hkey : t.keys.length = 1) : ∃ key, t.keyColumns = [key] := by
  obtain ⟨k, hk⟩ := List.length_eq_one_iff.1 hkey
  have hmem : k ∈ t.keys := by
    rw [hk]
    exact List.mem_singleton_self k
  obtain ⟨key, hcolumn⟩ := Option.isSome_iff_exists.1 (hp.keysNamed k hmem)
  refine ⟨key, ?_⟩
  rw [Table.keyColumns, hk, List.filterMap_cons, hcolumn, List.filterMap_nil]

/-- For a table with a key of one column, inserting and deleting many items is inserting and deleting
them one by one, from every state of the store and however the list is cut into statements. A statement
that is refused ends the call with its fault, behind the single operations on the items of the pieces in
front of it. -/
theorem many_eq_each (values : Item → List Value) (ofRow : Row → Except Fault Item) (hp : t.Named)
    (hkey : t.keys.length = 1) (hs : c.store.Answers t) (items : List Item) :
    (∀ pieces : List (List Item), (∀ p ∈ pieces, p ≠ []) →
      PieceByPiece c (fun piece => (t.entity values ofRow).insertCommand piece none)
        (c.OneByOne ((t.entity values ofRow).insert connection)) pieces
        (((t.entity values ofRow).insertPieces connection pieces).run c) ∧
      ∀ head ∈ (t.entity values ofRow).texts.deleteBatch,
        PieceByPiece c ((t.entity values ofRow).deleteCommand head)
          (c.OneByOne ((t.entity values ofRow).delete connection)) pieces
          (((t.entity values ofRow).deletePieces connection head pieces).run c)) ∧
    PieceByPiece c (fun piece => (t.entity values ofRow).insertCommand piece none)
      (c.OneByOne ((t.entity values ofRow).insert connection))
      (chunks (t.entity values ofRow).insertBatchSize items)
      (((t.entity values ofRow).insertMany connection items).run c) ∧
    (∃ head ∈ (t.entity values ofRow).texts.deleteBatch,
      PieceByPiece c ((t.entity values ofRow).deleteCommand head)
        (c.OneByOne ((t.entity values ofRow).delete connection))
        (chunks (t.entity values ofRow).deleteBatchSize items)
        (((t.entity values ofRow).deleteMany connection items).run c)) ∧
    (c.failOn = none →
      c.Agree ((t.entity values ofRow).insertMany connection items)
        (Operation.total (items.map ((t.entity values ofRow).insert connection))) ∧
      c.Agree ((t.entity values ofRow).deleteMany connection items)
        (Operation.total (items.map ((t.entity values ofRow).delete connection)))) := by
  obtain ⟨key, hcolumn⟩ := exists_keyColumn hp hkey
  have hhead : (t.entity values ofRow).texts.deleteBatch = some (t.textOf (t.deleteHead key)) :=
    Table.deleteBatch_eq hcolumn
  have hinsert : PieceByPiece c (fun piece => (t.entity values ofRow).insertCommand piece none)
      (c.OneByOne ((t.entity values ofRow).insert connection))
      (chunks (t.entity values ofRow).insertBatchSize items)
      (((t.entity values ofRow).insertMany connection items).run c) := by
    rw [run_insertMany _ hs.dialect]
    exact pieceByPiece_inserts hp hs fun p hm => ne_nil_of_mem_chunks hm
  have hdelete : PieceByPiece c
      ((t.entity values ofRow).deleteCommand (t.textOf (t.deleteHead key)))
      (c.OneByOne ((t.entity values ofRow).delete connection))
      (chunks (t.entity values ofRow).deleteBatchSize items)
      (((t.entity values ofRow).deleteMany connection items).run c) := by
    rw [run_deleteMany _ hs.dialect hhead]
    exact pieceByPiece_deletions hp hcolumn hs _
  refine ⟨fun pieces hne => ⟨pieceByPiece_inserts hp hs hne, fun head hm => ?_⟩, hinsert,
    ⟨_, hhead, hdelete⟩, fun haccepting => ?_⟩
  · obtain rfl := Option.some.inj (hhead.symm.trans hm)
    exact pieceByPiece_deletions hp hcolumn hs pieces
  · have hinserted := hinsert.agree haccepting
    have hdeleted := hdelete.agree haccepting
    rw [flatten_chunks] at hinserted hdeleted
    exact ⟨hinserted, hdeleted⟩

/-- Goods delivered twice are inserted twice; goods cleared away twice are gone once. -/
theorem many_eq_each_stock :
    (Table.stock .postgres).keys.length = 1 ∧
      Agree { store := Table.stocked .postgres [4, 5] }
        ((Table.stock .postgres).plainEntity.insertMany connection (Table.deliveries.map (·.item)))
        (Operation.total ((Table.deliveries.map (·.item)).map
          ((Table.stock .postgres).plainEntity.insert connection))) ∧
      Agree { store := Table.stocked .postgres [4, 5] }
        ((Table.stock .postgres).plainEntity.deleteMany connection
          [[.int64 1, .null, .null], [.int64 1, .null, .null]])
        (Operation.total ([[.int64 1, .null, .null], [.int64 1, .null, .null]].map
          ((Table.stock .postgres).plainEntity.delete connection))) := by
  have hp : (Table.stock .postgres).Plain := by decide +kernel
  have hs : (Table.stocked .postgres [4, 5]).Answers (Table.stock .postgres) :=
    ⟨rfl, by decide +kernel⟩
  obtain ⟨-, -, -, hdelivered⟩ := many_eq_each id (Table.stock .postgres).plainEntity.ofRow
    (c := { store := Table.stocked .postgres [4, 5] }) hp.named rfl hs (Table.deliveries.map (·.item))
  obtain ⟨-, -, -, hcleared⟩ := many_eq_each id (Table.stock .postgres).plainEntity.ofRow
    (c := { store := Table.stocked .postgres [4, 5] }) hp.named rfl hs
    [[.int64 1, .null, .null], [.int64 1, .null, .null]]
  exact ⟨rfl, (hdelivered rfl).1, (hcleared rfl).2⟩

end MemoryConnection

end Tablewright
