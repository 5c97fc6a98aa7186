import Tablewright.Number.Power
import Tablewright.Text.Hex
import Tablewright.Value.Basic

/-!
# Rows for a bulk load

Rows are sent to a server as lines of fields between commas. A text stands in double quotes, so that an
empty text differs from null, for which nothing is written. Lines are sent in chunks that end with a line.
-/

namespace Tablewright.Postgres

/-- A text in double quotes, with each double quote in it doubled. -/
def quotedField (s : List Char) : List Char :=
  '"' :: s.flatMap (fun c => if c = '"' then ['"', '"'] else [c]) ++ ['"']

/-- The text of a binary number as a server reads it. -/
def floatField (x : Double) : String :=
  match x.value with
  | .nan => "NaN"
  | .infinity false => "Infinity"
  | .infinity true => "-Infinity"
  | .finite .. => x.text

/-- The field of a value. -/
def copyField : Value → String
  | .null => ""
  | .bool b => if b then "t" else "f"
  | .float32 x => floatField x.toDouble
  | .float64 x => floatField x
  | .text s => String.ofList (quotedField s.toList)
  | .bytes b => String.ofList ('\\' :: 'x' :: Text.hexOfBytes b)
  | v => v.logText

/-- The line of a row. -/
def copyLine (row : List Value) : String :=
  String.intercalate "," (row.map copyField) ++ "\n"

/-- The number of bytes from which on a chunk is sent. -/
def chunkSize : Nat := twoTo 20

/-- Lines in chunks: a chunk is sent with the line that fills it, and what is left at the end is sent if
there is any. -/
def copyChunks (size : Nat) (pending : String) : List String → List String
  | [] => if pending.isEmpty then [] else [pending]
  | line :: rest =>
    let chunk := pending ++ line
    if size ≤ chunk.utf8ByteSize then chunk :: copyChunks size "" rest
    else copyChunks size chunk rest

/-- The chunks in which rows are sent. -/
def rowChunks (rows : List (List Value)) : List String :=
  copyChunks chunkSize "" (rows.map copyLine)

end Tablewright.Postgres
