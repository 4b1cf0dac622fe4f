import SpendingLedger.Value

/-!
# Writing JSON

Lists and objects are written with one item on a line, two blanks deeper than the line of their
bracket.  Characters stand for themselves, the quote, the backslash and the controls apart.

## Main definitions

* `Json.quoteString` — a text as a JSON string.
* `Json.render` — a value as JSON.
-/

namespace SpendingLedger.Json

/-- The written form of a character of a string. -/
def escapeChar (c : Char) : List Char :=
  match c with
  | '"' => ['\\', '"']
  | '\\' => ['\\', '\\']
  | '\n' => ['\\', 'n']
  | '\r' => ['\\', 'r']
  | '\t' => ['\\', 't']
  | '\x0c' => ['\\', 'f']
  | '\x08' => ['\\', 'b']
  | c => if c.toNat < 0x20 then '\\' :: 'u' :: Text.hex 4 c.toNat else [c]

/-- A text as a JSON string. -/
def quoteString (s : String) : List Char := '"' :: (s.toList.flatMap escapeChar ++ ['"'])

/-- A number as JSON; what is no number and the infinities have names. -/
def numberText : Binary64 → List Char
  | .nan => "NaN".toList
  | .infinite s => Binary64.withSign s "Infinity".toList
  | x => x.textChars

/-- A new line at a depth. -/
def newLine (depth : Nat) : List Char := '\n' :: List.replicate (2 * depth) ' '

/-- Items one on a line between two brackets, at a depth. -/
def bracketed (left right : Char) (depth : Nat) : List (List Char) → List Char
  | [] => [left, right]
  | parts =>
    left :: (newLine (depth + 1) ++ List.intercalate (',' :: newLine (depth + 1)) parts
      ++ newLine depth ++ [right])

mutual

/-- A value as JSON at a depth.  A decimal is written as the string of its text. -/
def renderAt (depth : Nat) : Value → List Char
  | .null => "null".toList
  | .bool b => (if b then "true" else "false").toList
  | .int n => Integer.chars n
  | .float x => numberText x
  | .decimal x => quoteString x.text
  | .text s => quoteString s
  | .list items => bracketed '[' ']' depth (renderItems (depth + 1) items)
  | .table fields => bracketed '\x7b' '\x7d' depth (renderFields (depth + 1) fields)

/-- The items of a list as JSON at a depth. -/
def renderItems (depth : Nat) : List Value → List (List Char)
  | [] => []
  | v :: vs => renderAt depth v :: renderItems depth vs

/-- The members of an object as JSON at a depth. -/
def renderFields (depth : Nat) : List (String × Value) → List (List Char)
  | [] => []
  | (k, v) :: fs => (quoteString k ++ ": ".toList ++ renderAt depth v) :: renderFields depth fs

end

/-- A value as JSON. -/
def render (v : Value) : String := String.ofList (renderAt 0 v)

end SpendingLedger.Json
