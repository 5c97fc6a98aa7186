import Tablewright.Source.Expr

/-!
# Method chains

`base.a(..).b(..)` as its base and its calls in order. `Expr.unchain` takes a chain apart and
`Expr.rechain` puts it together again; `Expr.chains` lists the outermost chains of an expression.
-/

namespace Tablewright.Source

/-- One call of a chain. -/
structure ChainCall where
  method : String
  arguments : List Expr
  /-- Where the method's name is. -/
  position : Position
  deriving Inhabited

namespace Expr

/-- The base of a chain and its calls, the one next to the base first. -/
def unchain : Expr → Expr × List ChainCall
  | methodCall receiver method arguments p =>
    let (base, calls) := unchain receiver
    (base, calls ++ [⟨method, arguments, p⟩])
  | e => (e, [])

/-- The chain of calls on a base. -/
def rechain (base : Expr) (calls : List ChainCall) : Expr :=
  calls.foldl (fun e c => methodCall e c.method c.arguments c.position) base

theorem rechain_unchain : ∀ e : Expr, rechain e.unchain.1 e.unchain.2 = e
  | methodCall receiver method arguments p => by
    have h := rechain_unchain receiver
    simp only [rechain] at h
    simp [unchain, rechain, h]
  | literal _ _ | path _ _ | field _ _ _ | call _ _ _ | closure _ _ _ | reference _ _ | negation _ _
  | macroCall _ _ _ | block _ _ | other _ => rfl

mutual

/-- The outermost chains inside an expression, in the order of their bases; of a receiver, only those
inside its base and its arguments. -/
def chainsIn (isReceiver : Bool) : Expr → List Expr
  | methodCall receiver method arguments p =>
    (if isReceiver then [] else [methodCall receiver method arguments p]) ++
      (chainsIn true receiver ++ chainsInAll arguments)
  | block statements _ => chainsInAll statements
  | closure _ body _ => chainsIn false body
  | call function arguments _ => chainsIn false function ++ chainsInAll arguments
  | reference inner _ | negation inner _ => chainsIn false inner
  | field base _ _ => chainsIn false base
  | literal _ _ | path _ _ | macroCall _ _ _ | other _ => []

/-- The outermost chains inside expressions. -/
def chainsInAll : List Expr → List Expr
  | [] => []
  | e :: rest => chainsIn false e ++ chainsInAll rest

end

/-- The outermost chains of an expression. -/
def chains (e : Expr) : List Expr := chainsIn false e

/-- The field that a closure selects from its only parameter, as a value or by reference. -/
def selectedField? : Expr → Option String
  | closure [parameter] body _ =>
    let selected := match body with
      | reference inner _ => inner
      | e => e
    match selected with
    | field (path [s] _) member _ => if s = parameter then some member else none
    | _ => none
  | _ => none

end Expr

end Tablewright.Source
