import Mathlib.Data.List.Basic
import Mathlib.Data.List.Perm.Basic
import Tablewright.Profile.Reading

/-!
# Method calls and chains

The chains of an expression hold its method calls, each of them once. A chain goes from its last call
along the receivers down to its base; what is in the base and in the arguments belongs to other chains.

## Key results

- `unchain_eq_iff`: a chain is taken apart in one way only, and can be put together again
- `chains_of_isMethodCall`: the order in which chains are met
- `spines_perm`: the expressions that the chains go through are the method calls
- `Profile.calls_read_once`: a profile reads every method call of its bodies once
-/

namespace Tablewright

namespace Source.Expr

/-! ## The tree of an expression -/

/-- The expressions directly inside an expression. -/
def children : Expr → List Expr
  | literal _ _ | path _ _ | macroCall _ _ _ | other _ => []
  | field base _ _ => [base]
  | methodCall receiver _ arguments _ => receiver :: arguments
  | call function arguments _ => function :: arguments
  | closure _ body _ => [body]
  | reference inner _ | negation inner _ => [inner]
  | block statements _ => statements

theorem sizeOf_lt_of_mem_children {e c : Expr} (h : c ∈ e.children) : sizeOf c < sizeOf e := by
  cases e with
  | literal | path | macroCall | other => exact absurd h List.not_mem_nil
  | field | closure | reference | negation =>
    rw [List.mem_singleton.1 h]
    simp only [field.sizeOf_spec, closure.sizeOf_spec, reference.sizeOf_spec, negation.sizeOf_spec]
    omega
  | block statements p =>
    have hc := List.sizeOf_lt_of_mem (show c ∈ statements from h)
    simp only [block.sizeOf_spec]
    omega
  | methodCall inner _ arguments | call inner arguments =>
    obtain rfl | hc := List.mem_cons.1 h
    · simp only [methodCall.sizeOf_spec, call.sizeOf_spec]
      omega
    · have hc := List.sizeOf_lt_of_mem hc
      simp only [methodCall.sizeOf_spec, call.sizeOf_spec]
      omega

/-- What holds of an expression if it holds of those directly inside it, holds of all. -/
theorem induct_children {motive : Expr → Prop}
    (h : ∀ e : Expr, (∀ c ∈ e.children, motive c) → motive e) (e : Expr) : motive e :=
  h e fun c _ => induct_children h c
termination_by sizeOf e
decreasing_by exact sizeOf_lt_of_mem_children ‹_›

/-- An expression and all that is inside it, however deep. -/
def nodes (e : Expr) : List Expr :=
  e :: e.children.attach.flatMap fun c => nodes c.1
termination_by sizeOf e
decreasing_by exact sizeOf_lt_of_mem_children c.2

theorem nodes_eq (e : Expr) : e.nodes = e :: e.children.flatMap nodes := by
  rw [nodes, List.flatMap_subtype (g := nodes) (fun _ _ => rfl), List.unattach_attach]

/-- The call of a method call. -/
def call? : Expr → Option ChainCall
  | methodCall _ method arguments p => some ⟨method, arguments, p⟩
  | _ => none

/-- What a method is called on. -/
def receiver? : Expr → Option Expr
  | methodCall receiver _ _ _ => some receiver
  | _ => none

/-- Whether the expression calls a method. -/
def isMethodCall (e : Expr) : Bool := e.call?.isSome

/-- The method calls of an expression, however deep. -/
def methodCalls (e : Expr) : List ChainCall := e.nodes.filterMap call?

/-! ## One chain -/

/-- The method calls along a chain, the last of them first. -/
def spine : Expr → List Expr
  | methodCall receiver method arguments p => methodCall receiver method arguments p :: spine receiver
  | _ => []

theorem spine_of_not_isMethodCall {e : Expr} (h : e.isMethodCall = false) : e.spine = [] := by
  cases e with
  | methodCall => exact Bool.noConfusion h
  | _ => rfl

theorem spine_of_isMethodCall {e : Expr} (h : e.isMethodCall = true) : e.spine = e :: e.spine.tail := by
  cases e with
  | methodCall => rfl
  | _ => exact Bool.noConfusion h

/-- The calls of a chain are those along it, the one next to the base first. -/
theorem unchain_snd : ∀ e : Expr, e.unchain.2 = (e.spine.filterMap call?).reverse
  | methodCall receiver method arguments p => by
    simp [unchain, spine, call?, unchain_snd receiver]
  | literal _ _ | path _ _ | field _ _ _ | call _ _ _ | closure _ _ _ | reference _ _ | negation _ _
  | macroCall _ _ _ | block _ _ | other _ => rfl

theorem isMethodCall_unchain_fst : ∀ e : Expr, e.unchain.1.isMethodCall = false
  | methodCall receiver _ _ _ => isMethodCall_unchain_fst receiver
  | literal _ _ | path _ _ | field _ _ _ | call _ _ _ | closure _ _ _ | reference _ _ | negation _ _
  | macroCall _ _ _ | block _ _ | other _ => rfl

/-- Calls on an expression go on with its chain. -/
theorem unchain_rechain (e : Expr) (calls : List ChainCall) :
    (rechain e calls).unchain = (e.unchain.1, e.unchain.2 ++ calls) := by
  induction calls generalizing e with
  | nil =>
    rw [List.append_nil]
    rfl
  | cons c calls ih =>
    have h := ih (methodCall e c.method c.arguments c.position)
    simpa [rechain, unchain] using h

theorem unchain_of_not_isMethodCall {e : Expr} (h : e.isMethodCall = false) : e.unchain = (e, []) := by
  cases e with
  | methodCall => exact Bool.noConfusion h
  | _ => rfl

/-- A base that calls no method and the calls on it are the only ones that an expression is taken apart
into, and they rebuild it. -/
theorem unchain_eq_iff {e base : Expr} {calls : List ChainCall} :
    e.unchain = (base, calls) ↔ base.isMethodCall = false ∧ rechain base calls = e := by
  constructor
  · intro h
    have hbase := isMethodCall_unchain_fst e
    have he := rechain_unchain e
    rw [h] at hbase he
    exact ⟨hbase, he⟩
  · rintro ⟨hbase, rfl⟩
    rw [unchain_rechain, unchain_of_not_isMethodCall hbase, List.nil_append]

/-- Of the receivers along a chain all but the base call methods, and they are its calls but the last. -/
theorem receivers_spine : ∀ e : Expr,
    (e.spine.filterMap receiver?).filter isMethodCall = e.spine.tail
  | methodCall receiver method arguments p => by
    have ih := receivers_spine receiver
    rw [spine, List.filterMap_cons, receiver?, List.filter_cons, ih, List.tail_cons]
    cases h : receiver.isMethodCall with
    | true => exact (spine_of_isMethodCall h).symm
    | false =>
      rw [spine_of_not_isMethodCall h]
      rfl
  | literal _ _ | path _ _ | field _ _ _ | call _ _ _ | closure _ _ _ | reference _ _ | negation _ _
  | macroCall _ _ _ | block _ _ | other _ => rfl

/-! ## All chains -/

theorem chainsInAll_eq (es : List Expr) : chainsInAll es = es.flatMap chains := by
  induction es with
  | nil => rfl
  | cons e es ih =>
    rw [chainsInAll, ih]
    rfl

/-- As a receiver a method call is no chain of its own; it is where it is met otherwise. -/
theorem chains_eq (e : Expr) : e.chains = [e].filter isMethodCall ++ chainsIn true e := by
  cases e <;> rw [chains, chainsIn, chainsIn] <;> rfl

/-- Below anything but a method call there are the chains of what is directly inside. -/
theorem chainsIn_of_not_isMethodCall {e : Expr} (h : e.isMethodCall = false) :
    chainsIn true e = e.children.flatMap chains := by
  cases e with
  | methodCall => exact Bool.noConfusion h
  | _ => simp [chainsIn, chainsInAll_eq, children, chains]

theorem filter_nodes (e : Expr) : e.nodes.filter isMethodCall =
    [e].filter isMethodCall ++ e.children.flatMap fun c => c.nodes.filter isMethodCall := by
  rw [nodes_eq, List.filter_cons, List.filter_flatMap]
  cases h : e.isMethodCall <;> simp [h]

/-- Below a method call there are the chains below its receiver and those of its arguments. -/
theorem chainsIn_methodCall (receiver : Expr) (method : String) (arguments : List Expr) (p : Position) :
    chainsIn true (methodCall receiver method arguments p) =
      chainsIn true receiver ++ arguments.flatMap chains := by
  rw [chainsIn, chainsInAll_eq]
  rfl

/-- Below a chain there are the chains of its base and those of the arguments of its calls. -/
theorem chainsIn_eq : ∀ e : Expr, chainsIn true e =
    e.unchain.1.chains ++ e.unchain.2.flatMap fun c => c.arguments.flatMap chains
  | methodCall receiver method arguments p => by
    rw [chainsIn_methodCall, chainsIn_eq receiver, List.append_assoc]
    simp [unchain]
  | literal _ _ | path _ _ | field _ _ _ | call _ _ _ | closure _ _ _ | reference _ _ | negation _ _
  | macroCall _ _ _ | block _ _ | other _ => by
    rw [unchain_of_not_isMethodCall rfl, List.flatMap_nil, List.append_nil, chains_eq]
    rfl

/-- A chain is met first, then the chains of its base and those of the arguments of its calls. -/
theorem chains_of_isMethodCall {e : Expr} (h : e.isMethodCall = true) : e.chains =
    e :: (e.unchain.1.chains ++ e.unchain.2.flatMap fun c => c.arguments.flatMap chains) := by
  rw [chains_eq, chainsIn_eq, List.filter_cons_of_pos h]
  rfl

/-- The chains of an expression are method calls if those below it are. -/
theorem forall_mem_chains {e : Expr} (h : ∀ c ∈ chainsIn true e, c.isMethodCall = true) :
    ∀ c ∈ e.chains, c.isMethodCall = true := by
  intro c hc
  rw [chains_eq] at hc
  exact (List.mem_append.1 hc).elim (fun hc => (List.mem_filter.1 hc).2) (h c)

theorem isMethodCall_of_mem_chainsIn (e : Expr) : ∀ c ∈ chainsIn true e, c.isMethodCall = true := by
  induction e using induct_children with
  | h e ih =>
    have hall {es : List Expr} (hes : ∀ d ∈ es, d ∈ e.children) :
        ∀ c ∈ es.flatMap chains, c.isMethodCall = true := by
      intro c hc
      obtain ⟨d, hd, hc⟩ := List.mem_flatMap.1 hc
      exact forall_mem_chains (ih d (hes d hd)) c hc
    cases h : e.isMethodCall with
    | false =>
      rw [chainsIn_of_not_isMethodCall h]
      exact hall fun d hd => hd
    | true =>
      cases e with
      | methodCall receiver method arguments p =>
        rw [chainsIn_methodCall]
        exact List.forall_mem_append.2 ⟨ih receiver List.mem_cons_self,
          hall fun d hd => List.mem_cons_of_mem receiver hd⟩
      | _ => exact Bool.noConfusion h

/-- The chains of an expression are method calls. -/
theorem isMethodCall_of_mem_chains {e c : Expr} (h : c ∈ e.chains) : c.isMethodCall = true :=
  forall_mem_chains (isMethodCall_of_mem_chainsIn e) c h

theorem flatMap_spine_chains (e : Expr) :
    e.chains.flatMap spine = e.spine ++ (chainsIn true e).flatMap spine := by
  rw [chains_eq, List.flatMap_append]
  cases h : e.isMethodCall with
  | true => rw [List.filter_cons_of_pos h, List.filter_nil, List.flatMap_singleton]
  | false => simp [h, spine_of_not_isMethodCall h]

/-- The chains go through the method calls of an expression, through each of them once. -/
theorem spines_perm (e : Expr) : (e.chains.flatMap spine).Perm (e.nodes.filter isMethodCall) := by
  induction e using induct_children with
  | h e ih =>
    have hall {es : List Expr} (hes : ∀ d ∈ es, d ∈ e.children) :
        ((es.flatMap chains).flatMap spine).Perm (es.flatMap fun d => d.nodes.filter isMethodCall) := by
      rw [List.flatMap_assoc]
      exact List.Perm.flatMap_left es fun d hd => ih d (hes d hd)
    rw [flatMap_spine_chains, filter_nodes]
    cases h : e.isMethodCall with
    | false =>
      rw [chainsIn_of_not_isMethodCall h, spine_of_not_isMethodCall h, List.filter_cons_of_neg (by simp [h])]
      exact hall fun d hd => hd
    | true =>
      cases e with
      | methodCall receiver method arguments p =>
        have hreceiver := ih receiver List.mem_cons_self
        have harguments := hall fun d hd => List.mem_cons_of_mem receiver hd
        rw [flatMap_spine_chains] at hreceiver
        -- The chain goes on through the receiver, whose own chain it takes over.
        rw [chainsIn_methodCall, List.flatMap_append, spine, List.cons_append, ← List.append_assoc]
        exact (hreceiver.append harguments).cons _
      | _ => exact Bool.noConfusion h

/-- The calls of the chains are the method calls of an expression, each of them once. -/
theorem calls_perm (e : Expr) : (e.chains.flatMap fun c => c.unchain.2).Perm e.methodCalls := by
  have hcalls : (e.chains.flatMap fun c => c.unchain.2).Perm
      (e.chains.flatMap fun c => c.spine.filterMap call?) := by
    refine List.Perm.flatMap_left _ fun c _ => ?_
    rw [unchain_snd]
    exact List.reverse_perm _
  have hnodes : (e.nodes.filter isMethodCall).filterMap call? = e.methodCalls := by
    rw [List.filterMap_filter, methodCalls]
    refine List.filterMap_congr fun n _ => ?_
    rw [isMethodCall]
    cases n.call? <;> rfl
  have hspines := (spines_perm e).filterMap call?
  rw [List.filterMap_flatMap, hnodes] at hspines
  exact hcalls.trans hspines

/-- A method call is a chain, or another method is called on it; no method call is both. -/
theorem chains_append_receivers_perm (e : Expr) :
    (e.chains ++ (e.nodes.filterMap receiver?).filter isMethodCall).Perm
      (e.nodes.filter isMethodCall) := by
  have hnodes : (e.nodes.filter isMethodCall).filterMap receiver? = e.nodes.filterMap receiver? := by
    rw [List.filterMap_filter]
    refine List.filterMap_congr fun n _ => ?_
    cases n <;> rfl
  have hreceivers : (e.chains.flatMap fun c => c.spine.tail).Perm
      ((e.nodes.filterMap receiver?).filter isMethodCall) := by
    have h := ((spines_perm e).filterMap receiver?).filter isMethodCall
    rw [hnodes, List.filterMap_flatMap, List.filter_flatMap] at h
    simpa only [receivers_spine] using h
  have hspines : (e.chains ++ e.chains.flatMap fun c => c.spine.tail).Perm (e.chains.flatMap spine) := by
    have h := List.flatMap_append_perm e.chains (fun c => [c]) fun c => c.spine.tail
    rw [List.flatMap_singleton'] at h
    refine h.trans (List.Perm.flatMap_left _ fun c hc => ?_)
    rw [List.singleton_append, ← spine_of_isMethodCall (isMethodCall_of_mem_chains hc)]
  exact (hreceivers.symm.append_left _).trans (hspines.trans (spines_perm e))

end Source.Expr

/-! ## The chains of a profile -/

open Source

/-- A profile reads every method call of its bodies once: the calls of the chains of an expression are its
method calls, however deep they are, each as often as it stands there. No chain is the receiver of a longer
one, and every method call that is none is such a receiver. A chain is taken apart into calls and a base that
calls no method in one way only; the calls on the base, one after the other, are the chain again. -/
theorem Profile.calls_read_once (p : Profile) (e : Expr) :
    (p.chains.flatMap (·.calls)).Perm (p.bodies.flatMap fun body => body.expr.methodCalls.map fun c =>
      ⟨c.method, c.arguments, ⟨body.file, c.position⟩⟩) ∧
    (e.chains.flatMap fun c => c.unchain.2).Perm e.methodCalls ∧
    (e.chains ++ (e.nodes.filterMap Expr.receiver?).filter Expr.isMethodCall).Perm
      (e.nodes.filter Expr.isMethodCall) ∧
    ∀ base calls, e.unchain = (base, calls) ↔
      base.isMethodCall = false ∧ Expr.rechain base calls = e := by
  refine ⟨?_, e.calls_perm, e.chains_append_receivers_perm, fun _ _ => Expr.unchain_eq_iff⟩
  rw [Profile.chains, List.flatMap_assoc]
  refine List.Perm.flatMap_left _ fun body _ => ?_
  rw [List.flatMap_map, ← List.map_flatMap]
  exact body.expr.calls_perm.map _

/-- A call in an argument has a chain of its own. -/
example : ((Expr.methodCall (.methodCall (.path ["map"] default) "table" [] default) "schema"
    [.methodCall (.path ["name"] default) "trim" [] default] default).chains.map
      fun c => c.unchain.2.map (·.method)) = [["table", "schema"], ["trim"]] := by
  rfl

end Tablewright
