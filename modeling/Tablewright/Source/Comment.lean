import Tablewright.Text.Blank
import Tablewright.Text.Split

/-!
# Blanks and comments

What separates tokens: white space, line comments and nested block comments. Documentation comments
are not skipped; they stand for attributes. Each function returns what it takes and what is left.
-/

namespace Tablewright.Source

/-- White space between tokens; direction marks count. -/
def isSourceBlank (c : Char) : Bool :=
  Text.isBlank c || c == '\u200e' || c == '\u200f'

/-- The rest of a line, without its end. -/
def takeLine : List Char → List Char × List Char
  | [] => ([], [])
  | '\n' :: s => ([], '\n' :: s)
  | '\r' :: '\n' :: s => ([], '\r' :: '\n' :: s)
  | c :: s => let (line, rest) := takeLine s; (c :: line, rest)

/-- A block comment from within `depth` openings up to the last closing. -/
def takeBlock? : Nat → List Char → Option (List Char × List Char)
  | _, [] => none
  | depth, '/' :: '*' :: s => (takeBlock? (depth + 1) s).map fun (t, r) => ('/' :: '*' :: t, r)
  | depth, '*' :: '/' :: s =>
    if depth ≤ 1 then some (['*', '/'], s)
    else (takeBlock? (depth - 1) s).map fun (t, r) => ('*' :: '/' :: t, r)
  | depth, c :: s => (takeBlock? depth s).map fun (t, r) => (c :: t, r)

/-- A block comment. -/
def blockComment? : List Char → Option (List Char × List Char)
  | '/' :: '*' :: s => (takeBlock? 1 s).map fun (t, r) => ('/' :: '*' :: t, r)
  | _ => none

/-- A comment that documents nothing. -/
def plainComment? (s : List Char) : Option (List Char × List Char) :=
  let starts (lead : String) := Text.startsWith lead.toList s
  if starts "//" && (!starts "///" || starts "////") && !starts "//!" then some (takeLine s)
  else if starts "/**/" then some (s.take 4, s.drop 4)
  else if starts "/*" && (!starts "/**" || starts "/***") && !starts "/*!" then blockComment? s
  else none

/-- All blanks and comments at the beginning; the first argument bounds their number. -/
def skipBlanks : Nat → List Char → List Char × List Char
  | 0, s => ([], s)
  | fuel + 1, s =>
    match plainComment? s with
    | some (comment, rest) =>
      let (more, rest) := skipBlanks fuel rest
      (comment ++ more, rest)
    | none =>
      match s with
      | c :: tail =>
        if isSourceBlank c then
          let (more, rest) := skipBlanks fuel tail
          (c :: more, rest)
        else ([], s)
      | [] => ([], [])

/-- What a documentation comment says, and whether it is about what encloses it. -/
structure Documentation where
  content : List Char
  inner : Bool

/-- Whether each carriage return ends a line. -/
def hasWholeLines : List Char → Bool
  | [] => true
  | '\r' :: '\n' :: s => hasWholeLines s
  | '\r' :: _ => false
  | _ :: s => hasWholeLines s

/-- A documentation comment: what it says, all of it as written, and the rest. -/
def documentation? (s : List Char) : Option (Documentation × List Char × List Char) :=
  let starts (lead : String) := Text.startsWith lead.toList s
  let line (inner : Bool) :=
    let (content, rest) := takeLine (s.drop 3)
    some (⟨content, inner⟩, s.take 3 ++ content, rest)
  let block (inner : Bool) := (blockComment? s).map fun (comment, rest) =>
    (⟨((comment.drop 3).take (comment.length - 5)), inner⟩, comment, rest)
  let found : Option (Documentation × List Char × List Char) :=
    if starts "//!" then line true
    else if starts "/*!" then block true
    else if starts "///" then if starts "////" then none else line false
    else if starts "/**" && !starts "/***" then block false
    else none
  found.filter fun (d, _, _) => hasWholeLines d.content

end Tablewright.Source
