import SpendingLedger.Number.Decimal
import SpendingLedger.Number.Integer
import SpendingLedger.Text.Quoted

/-!
# Values of any kind

A cell of a statement or a field of a stored file may hold a value of any kind.  Where a text is
wanted, each value has one: a text is its own text, and within lists and tables texts are quoted.

## Main definitions

* `Value` — null, truth values, numbers of three kinds, texts, lists and tables.
* `Value.quoted` — a value as it stands inside a list.
* `Value.text` — the text of a value.
* `Fields` — tables as lists of fields in order, with `Fields.get?` and `Fields.insert`.
-/

namespace SpendingLedger

/-- A value of any kind. -/
inductive Value
  | null
  | bool (b : Bool)
  | int (n : Int)
  | float (x : Binary64)
  | decimal (x : Decimal)
  | text (s : String)
  | list (items : List Value)
  | table (fields : List (String × Value))

/-- Named values in order. -/
abbrev Fields (α : Type) := List (String × α)

namespace Fields

variable {α : Type}

/-- The value of the first field named `key`. -/
def get? (key : String) : Fields α → Option α
  | [] => none
  | (k, v) :: rest => if k = key then some v else get? key rest

/-- `fields` with the value of `key` replaced where it stands, or added at the end. -/
def insert (key : String) (value : α) : Fields α → Fields α
  | [] => [(key, value)]
  | (k, v) :: rest => if k = key then (key, value) :: rest else (k, v) :: insert key value rest

/-- The fields of a list in which a later value of a name replaces an earlier one. -/
def ofList (fields : List (String × α)) : Fields α :=
  fields.foldl (fun acc f => insert f.1 f.2 acc) []

@[simp] theorem get?_nil (key : String) : get? key ([] : Fields α) = none := rfl

theorem get?_insert (fields : Fields α) (key other : String) (value : α) :
    get? other (insert key value fields) =
      if key = other then some value else get? other fields := by
  induction fields with
  | nil => simp [insert, get?]
  | cons f rest ih =>
    obtain ⟨k, v⟩ := f
    by_cases hk : k = key
    · subst hk
      by_cases ho : k = other <;> simp [insert, get?, ho]
    · by_cases ho : k = other
      · subst ho
        simp [insert, get?, hk, Ne.symm hk]
      · simp [insert, get?, hk, ho, ih]

end Fields

namespace Value

/-- `parts` with `", "` between them. -/
def commaJoined (parts : List (List Char)) : List Char :=
  List.intercalate ", ".toList parts

mutual

/-- A value as it stands inside a list or a table. -/
def quoted : Value → Except Integer.TooLong (List Char)
  | .null => .ok "None".toList
  | .bool b => .ok (if b then "True" else "False").toList
  | .int n => (Integer.text n).map String.toList
  | .float x => .ok x.textChars
  | .decimal x => .ok ("Decimal('".toList ++ x.text.toList ++ "')".toList)
  | .text s => .ok (Text.quoteChars s.toList)
  | .list items => (quotedItems items).map fun parts => '[' :: commaJoined parts ++ [']']
  | .table fields => (quotedFields fields).map fun parts => '\x7b' :: commaJoined parts ++ ['\x7d']

/-- The items of a list, each as it stands there. -/
def quotedItems : List Value → Except Integer.TooLong (List (List Char))
  | [] => .ok []
  | v :: vs => do
    let head ← quoted v
    let tail ← quotedItems vs
    pure (head :: tail)

/-- The fields of a table, each as it stands there. -/
def quotedFields : List (String × Value) → Except Integer.TooLong (List (List Char))
  | [] => .ok []
  | (k, v) :: fs => do
    let head ← quoted v
    let tail ← quotedFields fs
    pure ((Text.quoteChars k.toList ++ ": ".toList ++ head) :: tail)

end

/-- The text of a value. -/
def asText : Value → Except Integer.TooLong String
  | .text s => .ok s
  | .decimal x => .ok x.text
  | v => (quoted v).map String.ofList

/-- The members of a value: the characters of a text, the items of a list and the names of a table;
none of a value that has no members. -/
def members? : Value → Option (List Value)
  | .text s => some (s.toList.map fun c => .text (String.ofList [c]))
  | .list items => some items
  | .table fields => some (fields.map fun f => .text f.1)
  | _ => none

/-- Whether a value stands for nothing: null, false, a zero, or an empty text, list or table. -/
def isNothing : Value → Bool
  | .null => true
  | .bool b => !b
  | .int n => n = 0
  | .float x => x.numEq .zero
  | .decimal (.finite x) => x.coefficient = 0
  | .decimal _ => false
  | .text s => s = ""
  | .list items => items.isEmpty
  | .table fields => fields.isEmpty

@[simp] theorem asText_text (s : String) : asText (.text s) = .ok s := rfl

end Value

end SpendingLedger
