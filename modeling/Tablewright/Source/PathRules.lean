import Tablewright.Source.AttributeRules

/-!
# Rules for paths

Paths with and without arguments in angle brackets. Lifetimes are written first among arguments and
parameters, wherever they stand.
-/

namespace Tablewright.Source

open Tablewright.Source.Parser

/-! ## Angle brackets -/

/-- What stands between the commas of angle brackets, and the comma behind it. -/
structure AngledNode where
  isLifetime : Bool
  tokens : List Token
  comma : List Token

/-- What angle brackets hold, lifetimes first and a comma between each two. -/
def lifetimesFirst (nodes : List AngledNode) : List Token :=
  let lifetimes := nodes.filter (·.isLifetime)
  let others := nodes.filter (!·.isLifetime)
  let isSeparated := others.isEmpty || lifetimes.getLast?.all (!·.comma.isEmpty)
  lifetimes.flatMap (fun a => a.tokens ++ a.comma) ++
    (if isSeparated then [] else Token.operator ",") ++
    others.flatMap (fun a => a.tokens ++ a.comma)

/-- Reads what angle brackets hold; `p` also says whether it has read a lifetime. -/
def Parser.angled {α : Type} (bound : Nat) (p : Parser (Bool × α)) : Parser (List α) := do
  op "<"
  let found ← rounds bound (fun found => do
    if ← sees (Token.op ">") then return .done found
    let ((isLifetime, a), tokens) ← collect p
    if ← sees (Token.op ">") then return .done (found ++ [(⟨isLifetime, tokens, []⟩, a)])
    let ((), comma) ← collect (op ",")
    return .again (found ++ [(⟨isLifetime, tokens, comma⟩, a)])) ([] : List (AngledNode × α))
  write (lifetimesFirst (found.map (·.1)))
  op ">"
  return found.map (·.2)

/-- Whether declared parameters come next rather than a type in angle brackets. -/
def seesGenerics (ts : List Token) : Bool :=
  Token.op "<" ts && (Token.second (Token.op ">") ts || Token.second (Token.op "#") ts ||
    Token.second (Token.word "const") ts ||
    (Token.second (fun ts => Token.lifetime ts || Token.name ts) ts &&
      Token.third (fun ts => Token.op ">" ts || Token.op "," ts ||
        (Token.op ":" ts && !Token.op "::" ts) || Token.op "=" ts) ts))

/-! ## Paths -/

/-- One segment of a path. -/
structure SegmentNode where
  name : String
  position : Position
  /-- Its arguments in angle brackets, with the two colons that may stand in front of them. -/
  argumentTokens : List Token
  /-- What each of the arguments is. -/
  arguments : Option (List (Option TypeExpr))
  deriving Inhabited

namespace SegmentNode

/-- Whether the segment has no arguments; empty brackets are none. -/
def isPlain (s : SegmentNode) : Bool := s.arguments.all List.isEmpty

/-- The segment without its arguments. -/
def plain (s : SegmentNode) : SegmentNode := ⟨s.name, s.position, [], none⟩

/-- The tokens of the segment. -/
def tokens (s : SegmentNode) : List Token := .ident s.name s.position :: s.argumentTokens

end SegmentNode

/-- A path that was read. -/
structure PathNode where
  /-- What stands in front of the segments: a type in angle brackets, two colons, both or nothing. -/
  lead : List Token
  /-- Whether it begins with a type in angle brackets. -/
  qualified : Bool
  /-- The names of the trait in the angle brackets. -/
  traitNames : List String
  segments : List SegmentNode
  deriving Inhabited

namespace PathNode

/-- The names of the path. -/
def names (p : PathNode) : List String := p.traitNames ++ p.segments.map (·.name)

/-- The tokens of the path. -/
def tokens (p : PathNode) : List Token :=
  p.lead ++ (Token.operator "::").intercalate (p.segments.map SegmentNode.tokens)

/-- What the arguments of the last segment are, if it has angle brackets. -/
def arguments (p : PathNode) : Option (List (Option TypeExpr)) :=
  p.segments.getLast?.bind (·.arguments)

/-- Whether the last segment has no arguments. -/
def endsPlain (p : PathNode) : Bool := p.segments.getLast?.all SegmentNode.isPlain

/-- The path without arguments of its last segment. -/
def withoutLastArguments (p : PathNode) : PathNode :=
  { p with segments := p.segments.dropLast ++ (p.segments.getLast?.map SegmentNode.plain).toList }

/-- Whether the path can name a macro. -/
def isModulePath (p : PathNode) : Bool := !p.qualified && p.segments.all SegmentNode.isPlain

/-- The path without any arguments. -/
def modulePath (p : PathNode) : PathNode :=
  { p with segments := p.segments.map SegmentNode.plain }

end PathNode

namespace Grammar

variable (g : Grammar)

/-- A segment of a path. In expressions its arguments need two colons. -/
def segment (inExpr : Bool) : Parser SegmentNode := do
  if ← sees fun ts => Token.word "super" ts || Token.word "self" ts || Token.word "crate" ts ||
      Token.word "try" ts then
    let (s, position) ← anyName
    return ⟨s, position, [], none⟩
  let (s, position) ← if ← sees (Token.word "Self") then anyName else name
  if ← sees fun ts =>
      (!inExpr && Token.op "<" ts && !Token.op "<=" ts && !Token.op "<<=" ts) ||
        (Token.op "::" ts && Token.third (Token.op "<") ts) then
    let (arguments, tokens) ← collect (do
      discard (op? "::")
      g.arguments)
    return ⟨s, position, tokens, some arguments⟩
  return ⟨s, position, [], none⟩

/-- A path with the segments that follow. -/
def pathFrom (inExpr : Bool) (continues : List Token → Bool) (path : PathNode) : Parser PathNode :=
  rounds g.bound (fun path => do
    if !(← sees continues) then return .done path
    op "::"
    let s ← g.segment inExpr
    return .again { path with segments := path.segments ++ [s] }) path

/-- A path that begins with a name. It is not written yet: what follows decides how. -/
def path (inExpr : Bool) : Parser PathNode := silently do
  let (_, lead) ← collect (op? "::")
  let s ← g.segment inExpr
  g.pathFrom inExpr (fun ts => Token.op "::" ts && !Token.third (Token.opened .paren) ts)
    ⟨lead, false, [], [s]⟩

/-- The type in angle brackets that a path begins with, up to the two colons behind it. Returns the
names of its trait. -/
def pathLead : Parser (List String) := do
  op "<"
  discard (g.type true)
  let names ← if ← word? "as" then (do
      let p ← g.path false
      write p.tokens
      pure p.names)
    else pure []
  op ">"
  op "::"
  return names

/-- A path that may begin with a type in angle brackets. It is not written yet. -/
def qualifiedPath (inExpr : Bool) : Parser PathNode := do
  if !(← sees (Token.op "<")) then return ← g.path inExpr
  silently do
    let (names, lead) ← collect g.pathLead
    let s ← g.segment inExpr
    g.pathFrom inExpr (Token.op "::") ⟨lead, true, names, [s]⟩

/-- A path as an expression or a pattern writes it. -/
def writtenPath (inExpr : Bool) : Parser PathNode := do
  let p ← g.qualifiedPath inExpr
  write p.tokens
  return p

end Grammar

end Tablewright.Source
