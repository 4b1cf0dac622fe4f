import SpendingLedger.Category.Dictionary
import SpendingLedger.Category.Similarity
import SpendingLedger.Log.Record
import SpendingLedger.Number.Shortest
import SpendingLedger.Text.Case
import SpendingLedger.Text.Search
import SpendingLedger.Transaction

/-!
# Finding the category of a description

A description belongs to the category with most of its keywords in it.  A tie is broken by the one
category whose name is in the description, else by the name most similar to it.  Without any keyword
the most similar name decides, provided it is similar enough.  What remains open goes to the first
category with a keyword in the description.

## Main definitions

* `hitCount` — how many keywords of a category are in a text.
* `Resolution` — the category that was found, and how it was found.
* `resolve` — the resolution of a description.
* `categorize` — a transaction with the category of its description.

## References

`SPEC_FULL.md`, section 4.5, *Categorization Engine*.
-/

namespace SpendingLedger

/-- The least similarity at which a name counts as similar. -/
def defaultNameThreshold : Binary64 := .ofRatio false 6 10

/-- How the category of a description was found. -/
inductive Resolution
  /-- It alone has the most keywords in the description. -/
  | tally (name : String) (hits : Nat)
  /-- Of those with the most keywords it alone is named in the description. -/
  | mention (name : String) (hits : Nat)
  /-- Of those with the most keywords its name is most similar to the description. -/
  | similarAmongTied (name : String) (hits : Nat) (score : Binary64)
  /-- No keyword is in the description and its name is most similar to it. -/
  | similarName (name : String) (score : Binary64)
  /-- It is the first one with a keyword in the description. -/
  | firstHit (name : String)
  /-- No category was found. -/
  | unresolved
  deriving DecidableEq

/-- The category that a resolution gives. -/
def Resolution.category : Resolution → String
  | .tally name _ => name
  | .mention name _ => name
  | .similarAmongTied name _ _ => name
  | .similarName name _ => name
  | .firstHit name => name
  | .unresolved => uncategorized

/-- The record of a resolution; there is none when no category was found. -/
def Resolution.records (r : Resolution) : List LogRecord :=
  let record (message : String) : List LogRecord := [.debug "spending_analysis.categorize" message]
  match r with
  | .tally name hits => record s!"keyword tally picked {Text.quote name} ({hits} hits)"
  | .mention name hits =>
    record s!"tie on {hits} hits broken by name mention {Text.quote name}"
  | .similarAmongTied name hits score =>
    record s!"tie on {hits} hits broken by fuzzy name {Text.quote name} ({score.fixed 3})"
  | .similarName name score =>
    record s!"no keyword hits; fuzzy name match {Text.quote name} ({score.fixed 3})"
  | .firstHit name => record s!"fallback to first category with a hit: {Text.quote name}"
  | .unresolved => []

namespace CategoryEntry

/-- The number of keywords of a category that are in a text in lower case; the empty keyword is in
none. -/
def hitCount (e : CategoryEntry) (text : List Char) : Nat :=
  e.keywords.countP fun k => k ≠ "" && Text.occursIn (Text.lowerChars k.toList) text

/-- Whether the name of a category is in a text in lower case. -/
def isMentioned (e : CategoryEntry) (text : List Char) : Bool :=
  Text.occursIn (Text.lowerChars e.name.toList) text

/-- How similar the name of a category is to a text in lower case. -/
def nameScore (e : CategoryEntry) (text : List Char) : Binary64 :=
  Similarity.score text (Text.lowerChars e.name.toList)

end CategoryEntry

namespace Resolution

/-- The first pair with the greatest score. -/
def bestOf : List (String × Binary64) → Option (String × Binary64)
  | [] => none
  | p :: rest => some (rest.foldl (fun best q => if best.2.lt q.2 then q else best) p)

/-- The most similar name among the candidates that reach the threshold, with its score. -/
def bestSimilar (text : List Char) (candidates : List CategoryEntry) (threshold : Binary64) :
    Option (String × Binary64) :=
  bestOf ((candidates.map fun e => (e.name, e.nameScore text)).filter fun p => threshold.le p.2)

/-- The greatest number of keyword hits of a category. -/
def topCount (text : List Char) (entries : List CategoryEntry) : Nat :=
  entries.foldl (fun n e => max n (e.hitCount text)) 0

/-- The categories with the most keyword hits, if any has one. -/
def top (text : List Char) (entries : List CategoryEntry) : List CategoryEntry :=
  entries.filter fun e => 0 < e.hitCount text ∧ e.hitCount text = topCount text entries

/-- The first category with a keyword hit, if there is one. -/
def ofFirstHit (text : List Char) (entries : List CategoryEntry) : Resolution :=
  match entries.find? fun e => 0 < e.hitCount text with
  | some e => .firstHit e.name
  | none => .unresolved

/-- The resolution of a text in lower case. -/
def ofText (text : List Char) (entries : List CategoryEntry) (threshold : Binary64) : Resolution :=
  let hits := topCount text entries
  match top text entries with
  | [] => match bestSimilar text entries threshold with
    | some (name, score) => .similarName name score
    | none => ofFirstHit text entries
  | [e] => .tally e.name hits
  | tied => match tied.filter (·.isMentioned text) with
    | [e] => .mention e.name hits
    | _ => match bestSimilar text tied threshold with
      | some (name, score) => .similarAmongTied name hits score
      | none => ofFirstHit text entries

end Resolution

/-- The resolution of a description by a dictionary; its category is that of the specification's
`resolve_category`. -/
def resolve (description : Option String) (d : CategoryDictionary) (threshold : Binary64) :
    Resolution :=
  .ofText (Text.lowerChars (description.getD "").toList) d.entries threshold

/-- A transaction with the category of its description, the specification's
`categorize_transaction`. -/
def categorize (d : CategoryDictionary) (threshold : Binary64) (t : Transaction) : Transaction :=
  t.withCategory (resolve t.description d threshold).category

/-- The records of a categorization. -/
def categorizeRecords (d : CategoryDictionary) (threshold : Binary64) (t : Transaction) :
    List LogRecord :=
  (resolve t.description d threshold).records

end SpendingLedger
