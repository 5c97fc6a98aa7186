import Tablewright.Text.Identifier
import Tablewright.Text.Quoted
import Tablewright.Text.Split

/-!
# Pieces of generated code

Generated code is text with one blank between each two tokens. The functions below put pieces together
that are themselves so spaced. `Code.isName` says which texts can stand as a name.
-/

namespace Tablewright.Code

/-- Pieces one behind the other; empty ones leave no trace. -/
def spaced (pieces : List String) : String :=
  String.intercalate " " (pieces.filter (!·.isEmpty))

/-- Pieces with commas between them. -/
def listed (pieces : List String) : String :=
  String.intercalate " , " pieces

/-- Pieces in braces. -/
def inBraces (pieces : List String) : String :=
  let content := spaced pieces
  if content.isEmpty then "\x7b \x7d" else "\x7b " ++ content ++ " \x7d"

/-- Pieces in parentheses, with commas between them. -/
def inParens (pieces : List String) : String := "(" ++ listed pieces ++ ")"

/-- Pieces in brackets, with commas between them. -/
def inBrackets (pieces : List String) : String := "[" ++ listed pieces ++ "]"

/-- A path. -/
def path (segments : List String) : String :=
  String.intercalate " :: " segments

/-- A path that begins outside the crate. -/
def rooted (segments : List String) : String := ":: " ++ path segments

/-- A quoted text. -/
def text (s : String) : String := Text.QuoteStyle.source.quote s

/-- A text that may be missing. -/
def optionalText : Option String → String
  | some s => rooted ["core", "option", "Option", "Some"] ++ " " ++ inParens [text s]
  | none => rooted ["core", "option", "Option", "None"]

/-- Names that cannot be raw. -/
def neverRaw : List String := ["_", "super", "self", "Self", "crate"]

/-- Whether characters begin and continue as those of a name do. -/
def isWord : List Char → Bool
  | [] => false
  | c :: rest => Text.isIdentifierStart c && rest.all Text.isIdentifierContinue

/-- Whether a text can stand as a name, raw or not. -/
def isName (s : String) : Bool :=
  match Text.after? "r#".toList s.toList with
  | some raw => isWord raw && !neverRaw.contains (String.ofList raw)
  | none => isWord s.toList

end Tablewright.Code
