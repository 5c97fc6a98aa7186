import Tablewright.Postgres.Copy

/-!
# Reading a bulk load

How a server reads the lines of a bulk load, character by character. A comma ends a field and a line
feed ends a row; a field that begins with a double quote runs to the next one that is not doubled,
whatever stands between the two. A field with nothing in it is null unless it has quotes.
-/

namespace Tablewright.Postgres

/-- A field that was read. -/
inductive CopyCell where
  | null
  /-- The text between two double quotes. -/
  | quoted (s : String)
  /-- A text without quotes. -/
  | bare (s : String)
  deriving DecidableEq, Repr

/-- What a value is to be read as: the text of a quoted field is the value itself. -/
def CopyCell.ofValue : Value → CopyCell
  | .null => .null
  | .text s => .quoted s
  | v => .bare (copyField v)

/-- Where a reader stands, with what it has read of a field. -/
inductive CopyPlace where
  | fieldStart
  | inBare (read : List Char)
  | inQuotes (read : List Char)
  /-- Behind a double quote, which ends the field unless another one follows. -/
  | behindQuote (read : List Char)
  deriving DecidableEq, Repr

/-- What has been read: whole rows, the fields of the row that is not ended yet, and a place. -/
structure CopyReader where
  rows : List (List CopyCell)
  fields : List CopyCell
  place : CopyPlace
  deriving DecidableEq, Repr

namespace CopyReader

/-- A reader in front of the first row. -/
def start : CopyReader := ⟨[], [], .fieldStart⟩

/-- The reader behind a character that may end a field; what any other character does is given. -/
def endField (r : CopyReader) (cell : CopyCell) (c : Char) (other : Option CopyReader) :
    Option CopyReader :=
  if c = ',' then some { r with fields := r.fields ++ [cell], place := .fieldStart }
  else if c = '\n' then some ⟨r.rows ++ [r.fields ++ [cell]], [], .fieldStart⟩
  else other

/-- The reader behind one more character. No quote stands inside a field without quotes, and nothing
between the end of a quoted field and what ends it. -/
def next (r : CopyReader) (c : Char) : Option CopyReader :=
  match r.place with
  | .fieldStart =>
    r.endField .null c (some { r with place := if c = '"' then .inQuotes [] else .inBare [c] })
  | .inBare s =>
    r.endField (.bare (String.ofList s)) c
      (if c = '"' then none else some { r with place := .inBare (s ++ [c]) })
  | .inQuotes s => some { r with place := if c = '"' then .behindQuote s else .inQuotes (s ++ [c]) }
  | .behindQuote s =>
    r.endField (.quoted (String.ofList s)) c
      (if c = '"' then some { r with place := .inQuotes (s ++ [c]) } else none)

end CopyReader

/-- The rows of a text, each of which is ended. -/
def readCopy (text : String) : Option (List (List CopyCell)) :=
  match text.toList.foldlM CopyReader.next .start with
  | some ⟨rows, [], .fieldStart⟩ => some rows
  | _ => none

end Tablewright.Postgres
