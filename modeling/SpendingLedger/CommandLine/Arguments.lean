import SpendingLedger.Disk.Path
import SpendingLedger.Number.Numeral

/-!
# Words of a command line

A command line is a list of words: options, which begin with a minus sign, their values, and
arguments.  Which words are options and which take a value is told by a grammar.  A word behind `--`
is an argument whatever it looks like.

## Main definitions

* `Flag`, `Grammar` — the options and the arguments that a command takes.
* `Grammar.parse` — options and arguments of a list of words.
-/

namespace SpendingLedger.CommandLine

/-- What the values of an option are. -/
inductive ValueKind
  | text
  | number
  | path
  deriving DecidableEq

/-- An option with a value: its long name, what its values are, and maybe a letter that names it
too. -/
structure Flag where
  name : String
  kind : ValueKind := .text
  letter : Option Char := none
  deriving DecidableEq

/-- Why a value of an option is refused. -/
inductive Refusal
  /-- It is no number but should be one. -/
  | notNumber
  /-- It should be a path but holds a zero character. -/
  | notPath
  deriving DecidableEq

/-- Why a value is refused, if it is. -/
def ValueKind.refusal? (kind : ValueKind) (value : String) : Option Refusal :=
  match kind with
  | .text => none
  | .number => if (Binary64.parse? value).isSome then none else some .notNumber
  | .path => if hasZeroCharacter value then some .notPath else none

/-- What a command takes. -/
structure Grammar where
  flags : List Flag
  /-- The options that have to be given. -/
  required : List String := []
  /-- The number of arguments. -/
  arguments : Nat
  /-- Whether the first argument ends the options; the words from there on are arguments. -/
  endsAtArgument : Bool := false

/-- Options with their values, the latest first, and arguments in order. -/
structure Words where
  values : List (String × String) := []
  /-- Whether help is asked for. -/
  help : Bool := false
  arguments : List String := []
  deriving DecidableEq

/-- The last value that is given to an option. -/
def Words.value? (w : Words) (name : String) : Option String := w.values.lookup name

namespace Grammar

/-- What an option name asks for. -/
inductive Meaning
  | help
  | flag (name : String)
  deriving DecidableEq

/-- The option with a long name. -/
def long? (g : Grammar) (name : String) : Option Meaning :=
  if name = "--help" then some .help
  else (g.flags.find? fun f => f.name = name).map fun f => .flag f.name

/-- The option with a letter. -/
def short? (g : Grammar) (letter : Char) : Option Meaning :=
  (g.flags.find? fun f => f.letter = some letter).map fun f => .flag f.name

/-- A word cut at its first equals sign. -/
def cut (word : List Char) : List Char × Option (List Char) :=
  match word.dropWhile (· ≠ '=') with
  | [] => (word, none)
  | _ :: value => (word.takeWhile (· ≠ '='), some value)

/-- The options and arguments of a list of words; none when a word is no option of the grammar or
its value is missing or superfluous. -/
def scan (g : Grammar) (w : Words) : List String → Option Words
  | [] => some w
  | word :: rest =>
    let cs := word.toList
    if word = "--" then some { w with arguments := w.arguments ++ rest }
    else if cs.head? = some '-' ∧ 1 < cs.length then
      let (name, attached) := cut cs
      match g.long? (String.ofList name), attached with
      | some .help, none => scan g { w with help := true } rest
      | some .help, some _ => none
      | some (.flag f), some value =>
        scan g { w with values := (f, String.ofList value) :: w.values } rest
      | some (.flag f), none => match rest with
        | value :: more => scan g { w with values := (f, value) :: w.values } more
        | [] => none
      -- a letter with its value behind it or in the next word
      | none, _ => match cs with
        | _ :: letter :: behind =>
          if letter = '-' then none
          else match g.short? letter with
            | some (.flag f) =>
              if behind.isEmpty then match rest with
                | value :: more => scan g { w with values := (f, value) :: w.values } more
                | [] => none
              else scan g { w with values := (f, String.ofList behind) :: w.values } rest
            | _ => none
        | _ => none
    else if g.endsAtArgument then some { w with arguments := w.arguments ++ word :: rest }
    else scan g { w with arguments := w.arguments ++ [word] } rest

/-- What a list of words gives. -/
inductive Outcome
  | usageError
  | help
  /-- A path holds a zero character. -/
  | notPath
  | words (w : Words)

/-- Why the value of the option `name` is refused, if it is. -/
def refusalOf? (g : Grammar) (w : Words) (name : String) : Option Refusal := do
  let flag ← g.flags.find? fun f => f.name = name
  let value ← w.value? name
  flag.kind.refusal? value

/-- The first reason to refuse a value.  The options are looked at in the order in which they were
first given. -/
def refusal? (g : Grammar) (w : Words) : Option Refusal :=
  (w.values.reverse.map Prod.fst).findSome? (g.refusalOf? w)

/-- The options and arguments of a list of words, if no value is refused, no option is missing and
there are as many arguments as the command takes. -/
def parse (g : Grammar) (words : List String) : Outcome :=
  match g.scan {} words with
  | none => .usageError
  | some w =>
    if w.help then .help
    else match g.refusal? w with
      | some .notNumber => .usageError
      | some .notPath => .notPath
      | none =>
        if !g.required.all fun name => (w.value? name).isSome then .usageError
        else if g.endsAtArgument then .words w
        else if w.arguments.length = g.arguments then .words w
        else .usageError

end Grammar

end SpendingLedger.CommandLine
