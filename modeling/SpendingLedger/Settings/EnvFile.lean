import SpendingLedger.Text.Case
import SpendingLedger.Text.Space
import SpendingLedger.Value

/-!
# Files of environment variables

Variables of the environment can be written in a file, one `NAME=value` on a line.  A value may be
quoted and then goes over several lines; outside quotes, a mark behind a blank begins a comment.  A
value may refer to other variables, and a line that is no binding is passed over.

## Main definitions

* `EnvFile.Binding`, `EnvFile.bindings` — the bindings of a text.
* `EnvFile.expand` — a value with its references replaced.
* `EnvFile.extend` — an environment with the bindings of a text.
* `EnvFile.names` — the variables on which that depends.

## References

`SPEC_FULL.md`, section 4.12, *CLI*: the file that is loaded before a command.
-/

namespace SpendingLedger

/-- Variables by name. -/
abbrev Environment := Fields String

namespace EnvFile

/-! ### Blanks -/

/-- Whether `c` ends a line. -/
def isLineEnd (c : Char) : Bool := c = '\n' || c = '\r'

/-- Whether `c` is space inside a line. -/
def isBlank (c : Char) : Bool := Text.isSpace c && !isLineEnd c

/-- `cs` without its first line end, if it begins with one. -/
def dropLineEnd : List Char → Option (List Char)
  | [] => some []
  | '\r' :: '\n' :: cs => some cs
  | c :: cs => if isLineEnd c then some cs else none

/-- `cs` without the blanks and a comment at its head. -/
def dropComment (cs : List Char) : List Char :=
  match cs.dropWhile isBlank with
  | '#' :: rest => rest.dropWhile (!isLineEnd ·)
  | _ => cs

/-- `cs` behind its first line, if nothing but blanks and a comment stand there. -/
def endOfLine? (cs : List Char) : Option (List Char) :=
  dropLineEnd ((dropComment cs).dropWhile isBlank)

/-- `cs` behind its first line, whatever stands there. -/
def dropLine (cs : List Char) : List Char :=
  match cs.dropWhile (!isLineEnd ·) with
  | [] => []
  | _ :: rest => rest

/-! ### Values -/

/-- The text up to the quote `q` that ends it, and what follows that quote.  A quote behind a
backslash does not end the text unless no other one does. -/
def takeQuoted (q : Char) : List Char → Option (List Char × List Char)
  | [] => none
  | '\\' :: c :: cs =>
    if c = q then
      match takeQuoted q cs with
      | some (text, rest) => some ('\\' :: q :: text, rest)
      -- no later quote ends the text, so this one does
      | none => some (['\\'], cs)
    else (takeQuoted q (c :: cs)).map fun (text, rest) => ('\\' :: text, rest)
  | c :: cs =>
    if c = q then some ([], cs)
    else (takeQuoted q cs).map fun (text, rest) => (c :: text, rest)

/-- What a character behind a backslash stands for between double quotes. -/
def escaped? (c : Char) : Option Char :=
  match c with
  | '\\' => some '\\'
  | '\'' => some '\''
  | '"' => some '"'
  | 'a' => some '\x07'
  | 'b' => some '\x08'
  | 'f' => some '\x0c'
  | 'n' => some '\n'
  | 'r' => some '\r'
  | 't' => some '\t'
  | 'v' => some '\x0b'
  | _ => none

/-- A quoted text with its escapes replaced; `meaning` gives what they stand for. -/
def unescape (meaning : Char → Option Char) : List Char → List Char
  | [] => []
  | '\\' :: c :: cs =>
    match meaning c with
    | some d => d :: unescape meaning cs
    -- the backslash stands for itself, and what follows may begin an escape
    | none => '\\' :: unescape meaning (c :: cs)
  | c :: cs => c :: unescape meaning cs

/-- What a character behind a backslash stands for between single quotes. -/
def escapedSingle? (c : Char) : Option Char := if c = '\\' ∨ c = '\'' then some c else none

/-- A line without the comment that begins at a mark behind space, and without the space at its
end. -/
def withoutComment (line : List Char) : List Char :=
  let rec go (kept : List Char) : List Char → List Char
    | [] => kept.reverse
    | c :: cs =>
      if c = '#' ∧ kept.head?.any Text.isSpace then kept.reverse else go (c :: kept) cs
  Text.trimRightBy Text.isSpace (go [] line)

/-- The value at the head of `cs`, and what follows it. -/
def value? (cs : List Char) : Option (List Char × List Char) :=
  match cs with
  | '\'' :: rest => (takeQuoted '\'' rest).map fun (v, r) => (unescape escapedSingle? v, r)
  | '"' :: rest => (takeQuoted '"' rest).map fun (v, r) => (unescape escaped? v, r)
  | _ => some (withoutComment (cs.takeWhile (!isLineEnd ·)), cs.dropWhile (!isLineEnd ·))

/-! ### Bindings -/

/-- `cs` without the word `export` and the blanks behind it. -/
def dropExport (cs : List Char) : List Char :=
  let word := "export".toList
  if word.isPrefixOf cs then
    match cs.drop word.length with
    | c :: rest => if isBlank c then rest.dropWhile isBlank else cs
    | [] => cs
  else cs

/-- Whether `c` can stand in a name without quotes. -/
def isNameChar (c : Char) : Bool := c ≠ '=' && c ≠ '#' && !Text.isSpace c

/-- The name at the head of `cs`, if there is a comment none, and what follows it. -/
def name? (cs : List Char) : Option (Option (List Char) × List Char) :=
  match cs with
  | '#' :: _ => some (none, cs)
  | '\'' :: rest =>
    match rest.takeWhile (· ≠ '\''), rest.dropWhile (· ≠ '\'') with
    | c :: name, _ :: r => some (some (c :: name), r)
    | _, _ => none
  | _ =>
    match cs.takeWhile isNameChar with
    | [] => none
    | name => some (some name, cs.dropWhile isNameChar)

/-- A line of a file of variables. -/
inductive Binding
  /-- A name with its value, if it has one. -/
  | named (name : String) (value : Option String)
  /-- A comment. -/
  | comment
  /-- Something else, on a line with the given number. -/
  | malformed (line : Nat)
  deriving DecidableEq

/-- The binding at the head of `cs`, and what follows it; none, and the place where reading stopped,
when there is no binding. -/
def binding? (cs : List Char) : Except (List Char) (Binding × List Char) :=
  let cs := dropExport cs
  match name? cs with
  | none => .error cs
  | some (name, rest) =>
    let bind (value : Option (List Char)) (rest : List Char) :
        Except (List Char) (Binding × List Char) :=
      match endOfLine? rest with
      | none => .error (dropComment rest)
      | some r => .ok (match name with
          | none => .comment
          | some n => .named (String.ofList n) (value.map String.ofList), r)
    match rest.dropWhile isBlank with
    | '=' :: r =>
      let r := r.dropWhile isBlank
      match value? r with
      | none => .error r
      | some (v, rest) => bind (some v) rest
    | r => bind none r

/-- The bindings of a text that begins on a line with the given number. -/
def bindingsFrom : Nat → Nat → List Char → List Binding
  | 0, _, _ => []
  | fuel + 1, line, cs =>
    match cs.dropWhile Text.isSpace with
    | [] => []
    | c :: r =>
      let (b, rest) := match binding? (c :: r) with
        | .ok result => result
        | .error rest => (.malformed line, dropLine rest)
      b :: bindingsFrom fuel (line + (cs.take (cs.length - rest.length)).count '\n') rest

/-- The bindings of a text. -/
def bindings (cs : List Char) : List Binding := bindingsFrom (cs.length + 1) 1 cs

/-! ### References -/

/-- The reference behind a dollar sign and an opening brace: the name, the default if there is one,
and what follows the closing brace. -/
def reference? (cs : List Char) : Option (String × String × List Char) :=
  let name := cs.takeWhile fun c => c ≠ '\x7d' ∧ c ≠ ':'
  match cs.drop name.length with
  | '\x7d' :: rest => some (String.ofList name, "", rest)
  | ':' :: '-' :: more =>
    let default := more.takeWhile (· ≠ '\x7d')
    match more.drop default.length with
    | _ :: rest => some (String.ofList name, String.ofList default, rest)
    | [] => none
  | _ => none

/-- A value with its references replaced by what `lookup` gives for them. -/
def expandChars (lookup : String → Option String) : Nat → List Char → List Char
  | 0, cs => cs
  | _ + 1, [] => []
  | fuel + 1, c :: cs =>
    let behind := match cs with
      | '\x7b' :: r => if c = '$' then reference? r else none
      | _ => none
    match behind with
    | some (name, default, rest) =>
      ((lookup name).getD default).toList ++ expandChars lookup fuel rest
    | none => c :: expandChars lookup fuel cs

/-- A value with its references replaced: by the variables of `env`, else by those of `earlier`
bindings, which may have no value, else by their defaults. -/
def expand (env : Environment) (earlier : Fields (Option String)) (value : String) : String :=
  let lookup (name : String) : Option String :=
    match Fields.get? name env with
    | some v => some v
    | none => (Fields.get? name earlier).map (·.getD "")
  String.ofList (expandChars lookup (value.length + 1) value.toList)

/-- The variables of bindings in order, with their references replaced. -/
def resolved (env : Environment) (bs : List Binding) : Fields (Option String) :=
  bs.foldl (fun earlier b => match b with
    | .named name value => Fields.insert name (value.map (expand env earlier)) earlier
    | _ => earlier) []

/-- A binding that no environment can hold: there is an equals sign in its name, or a zero character
in either text. -/
structure Unstorable where
  name : String
  value : String
  deriving DecidableEq

/-- Whether an environment can hold a variable. -/
def isStorable (name value : String) : Bool :=
  name.toList.all (fun c => c ≠ '=' ∧ c ≠ '\x00') && value.toList.all (· ≠ '\x00')

/-- An environment with one more variable; a variable that it has is kept. -/
def define (env : Environment) : String × Option String → Except Unstorable Environment
  | (_, none) => .ok env
  | (name, some value) =>
    if (Fields.get? name env).isSome then .ok env
    else if isStorable name value then .ok (Fields.insert name value env)
    else .error ⟨name, value⟩

/-- An environment with the bindings of a text; a variable that it has is kept. -/
def extend (env : Environment) (text : String) : Except Unstorable Environment :=
  (resolved env (bindings text.toList)).foldlM define env

/-- The names that a value refers to. -/
def references : List Char → List String
  | [] => []
  | c :: cs =>
    let behind := match cs with
      | '\x7b' :: r => if c = '$' then reference? r else none
      | _ => none
    (behind.map fun r => r.1).toList ++ references cs

/-- The variables that a text binds or refers to. -/
def names (text : String) : List String :=
  (bindings text.toList).flatMap fun b => match b with
    | .named name value => name :: references (value.getD "").toList
    | _ => []

/-- The variable of the environment that keeps the file from being read. -/
def disablingName : String := "PYTHON_DOTENV_DISABLED"

/-- Whether the file is not to be read. -/
def isDisabled (env : Environment) : Bool :=
  match Fields.get? disablingName env with
  | some value => ["1", "true", "t", "yes", "y"].contains (Text.caseless value)
  | none => false

/-- What is said of the lines of a text that are no bindings. -/
def warnings (text : String) : List String :=
  (bindings text.toList).filterMap fun b => match b with
    | .malformed line =>
      some s!"python-dotenv could not parse statement starting at line {line}"
    | _ => none

end EnvFile

end SpendingLedger
