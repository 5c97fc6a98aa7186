import Tablewright.Source.Position

/-!
# Tokens

Source text as tokens, with bracketed text as one token. `Token.textOf` writes tokens with one blank
between each two, but none behind a punctuation character that belongs to the next one.
-/

namespace Tablewright.Source

/-- A pair of brackets. -/
inductive Delimiter where
  | paren
  | bracket
  | brace
  deriving DecidableEq, Repr

/-- A token, with the position of its first character. -/
inductive Token where
  /-- A name or keyword, raw ones with their `r#`. -/
  | ident (text : String) (position : Position)
  /-- A punctuation character; `joined` to a punctuation character right behind it. -/
  | punct (char : Char) (joined : Bool) (position : Position)
  /-- A number, character or text as written. -/
  | literal (text : String) (position : Position)
  /-- Bracketed tokens. -/
  | group (delimiter : Delimiter) (inner : List Token) (position : Position)
  deriving Inhabited

namespace Token

/-- Where the token begins. -/
def position : Token → Position
  | ident _ p | punct _ _ p | literal _ p | group _ _ p => p

/-- What stands in front of bracketed tokens. -/
def opening : Delimiter → String
  | .paren => "("
  | .bracket => "["
  | .brace => "\x7b "

/-- What stands behind bracketed tokens. -/
def closing (delimiter : Delimiter) (isEmpty : Bool) : String :=
  match delimiter with
  | .paren => ")"
  | .bracket => "]"
  | .brace => if isEmpty then "\x7d" else " \x7d"

/-- Whether a blank follows the token. -/
def isSpaced : Token → Bool
  | punct _ joined _ => !joined
  | _ => true

mutual

/-- The text of one token. -/
def text : Token → String
  | ident s _ => s
  | punct c _ _ => String.singleton c
  | literal s _ => s
  | group d inner _ => opening d ++ textOf inner ++ closing d inner.isEmpty

/-- The text of tokens. -/
def textOf : List Token → String
  | [] => ""
  | [t] => t.text
  | t :: rest => (if t.isSpaced then t.text ++ " " else t.text) ++ textOf rest

end

end Token

end Tablewright.Source
