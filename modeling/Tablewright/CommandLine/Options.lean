/-!
# Options

How the words of a command line are read as options. A long option is `--name`, with its value behind `=`
or as the next word. Short options stand together behind one hyphen; what follows one that takes a value
is its value. The first word that is no option ends the reading.
-/

namespace Tablewright.CommandLine

/-- An option that may be given. -/
structure OptionRule where
  name : String
  letter : Option Char := none
  takesValue : Bool := true
  /-- Whether it may be given more than once. -/
  repeats : Bool := false
  /-- Which values it takes. -/
  accepts : String → Bool := fun _ => true

/-- An option that was given; one that takes no value has an empty one. -/
structure GivenOption where
  name : String
  value : String
  deriving DecidableEq, Repr

/-- What a word is. -/
inductive WordReading where
  /-- No option. -/
  | free
  /-- The word behind which there are no options. -/
  | stop
  | complete (given : List GivenOption)
  /-- Options of which the last one takes the next word. -/
  | awaits (given : List GivenOption) (rule : OptionRule)

/-- A long option without its hyphens. -/
def readLong (rules : List OptionRule) (s : List Char) : Option WordReading := do
  let (name, value) := match s.span (· != '=') with
    | (name, []) => (name, none)
    | (name, _ :: value) => (name, some (String.ofList value))
  let rule ← rules.find? (·.name.toList == name)
  match rule.takesValue, value with
  | true, some value => some (.complete [⟨rule.name, value⟩])
  | true, none => some (.awaits [] rule)
  | false, some _ => none
  | false, none => some (.complete [⟨rule.name, ""⟩])

/-- Short options without their hyphen. -/
def readShort (rules : List OptionRule) : List Char → Option WordReading
  | [] => some (.complete [])
  | c :: rest => do
    let rule ← rules.find? (·.letter == some c)
    if rule.takesValue then
      match rest with
      | [] => some (.awaits [] rule)
      | '=' :: value => some (.complete [⟨rule.name, String.ofList value⟩])
      | value => some (.complete [⟨rule.name, String.ofList value⟩])
    else
      let given : GivenOption := ⟨rule.name, ""⟩
      match ← readShort rules rest with
      | .complete more => some (.complete (given :: more))
      | .awaits more rule => some (.awaits (given :: more) rule)
      | reading => some reading

/-- A word; none if it is an option that there is no rule for. -/
def readWord (rules : List OptionRule) (word : String) : Option WordReading :=
  match word.toList with
  | ['-', '-'] => some .stop
  | '-' :: '-' :: s => readLong rules s
  | '-' :: c :: s => readShort rules (c :: s)
  | _ => some .free

/-- Whether a word is meant as an option; a single hyphen is not. -/
def looksLikeOption (word : String) : Bool :=
  match word.toList with
  | '-' :: _ :: _ => true
  | _ => false

/-- The options at the beginning of words, and the words from the first one on that is no option. -/
def readOptions (rules : List OptionRule) : List String → Option (List GivenOption × List String)
  | [] => some ([], [])
  | word :: rest =>
    match readWord rules word with
    | none => none
    | some .free => some ([], word :: rest)
    | some .stop => if rest.isEmpty then some ([], []) else none
    | some (.complete given) =>
      (readOptions rules rest).map fun (more, free) => (given ++ more, free)
    | some (.awaits given rule) =>
      match rest with
      | [] => none
      | value :: rest =>
        if looksLikeOption value then none
        else (readOptions rules rest).map fun (more, free) =>
          (given ++ ⟨rule.name, value⟩ :: more, free)

/-- Whether an option has a value that its rule takes and is not given too often. -/
def OptionRule.allows (rule : OptionRule) (given : List GivenOption) : Bool :=
  let mine := given.filter (·.name == rule.name)
  mine.all (fun g => rule.accepts g.value) && (rule.repeats || mine.length ≤ 1)

/-- The options at the beginning of words, if their rules allow them. -/
def options? (rules : List OptionRule) (words : List String) :
    Option (List GivenOption × List String) := do
  let (given, free) ← readOptions rules words
  if rules.all (·.allows given) then some (given, free) else none

/-- The values of an option. -/
def valuesOf (name : String) (given : List GivenOption) : List String :=
  (given.filter (·.name == name)).map (·.value)

/-- The value of an option that is given once. -/
def valueOf? (name : String) (given : List GivenOption) : Option String :=
  (valuesOf name given).head?

/-- Whether an option is given. -/
def isGiven (name : String) (given : List GivenOption) : Bool :=
  given.any (·.name == name)

/-- The values of an option that may be given at two places: those of the inner place, if there are any. -/
def innermost (name : String) (outer inner : List GivenOption) : List String :=
  if isGiven name inner then valuesOf name inner else valuesOf name outer

end Tablewright.CommandLine
