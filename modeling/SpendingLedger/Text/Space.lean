/-!
# White space

Two classes of blank characters and the ways to take them off a text.  `isWhite` is the property
`White_Space`; `isSpace`, by which words are separated and most texts are trimmed, has the four
information separators besides.

## Main definitions

* `isWhite`, `isSpace` — the two classes.
* `trimBy` — a text without the members of a class at either end; `trim` trims by `isSpace`.
* `words` — the maximal runs of other characters.
* `isBlank` — the texts that hold nothing but space.
-/

namespace SpendingLedger.Text

/-- The property `White_Space`. -/
def isWhite (c : Char) : Bool :=
  let n := c.toNat
  (9 ≤ n && n ≤ 13) || n = 0x20 || n = 0x85 || n = 0xA0 || n = 0x1680 || (0x2000 ≤ n && n ≤ 0x200A)
    || n = 0x2028 || n = 0x2029 || n = 0x202F || n = 0x205F || n = 0x3000

/-- The characters that separate words: white space and the information separators U+001C to
U+001F. -/
def isSpace (c : Char) : Bool :=
  isWhite c || (0x1C ≤ c.toNat && c.toNat ≤ 0x1F)

/-- `cs` without the members of `p` at its right end. -/
def trimRightBy (p : Char → Bool) (cs : List Char) : List Char :=
  (cs.reverse.dropWhile p).reverse

/-- `cs` without the members of `p` at both ends. -/
def trimBy (p : Char → Bool) (cs : List Char) : List Char :=
  trimRightBy p (cs.dropWhile p)

/-- `cs` without space at both ends. -/
def trimChars (cs : List Char) : List Char := trimBy isSpace cs

/-- `s` without space at both ends. -/
def trim (s : String) : String := String.ofList (trimChars s.toList)

/-- Whether `s` holds nothing but space. -/
def isBlank (s : String) : Bool := s.toList.all isSpace

/-- The pieces of `cs` between the members of `p`; where two members meet, a piece is empty. -/
def pieces (p : Char → Bool) : List Char → List (List Char)
  | [] => [[]]
  | c :: cs =>
    if p c then [] :: pieces p cs
    else match pieces p cs with
      | [] => [[c]]
      | w :: ws => (c :: w) :: ws

/-- The maximal runs of characters other than space, in order. -/
def words (cs : List Char) : List (List Char) :=
  (pieces isSpace cs).filter (!·.isEmpty)

@[simp] theorem isSpace_of_isWhite {c : Char} (h : isWhite c = true) : isSpace c = true := by
  simp [isSpace, h]

@[simp] theorem trimRightBy_nil (p : Char → Bool) : trimRightBy p [] = [] := rfl

@[simp] theorem trimBy_nil (p : Char → Bool) : trimBy p [] = [] := rfl

@[simp] theorem trimChars_nil : trimChars [] = [] := rfl

@[simp] theorem toList_trim (s : String) : (trim s).toList = trimChars s.toList := by
  simp [trim]

theorem length_dropWhile_le {α : Type} (p : α → Bool) (l : List α) :
    (l.dropWhile p).length ≤ l.length := by
  induction l with
  | nil => simp
  | cons a l ih =>
    rw [List.dropWhile_cons]
    split
    · exact Nat.le_succ_of_le ih
    · exact Nat.le_refl _

theorem length_trimChars_le (cs : List Char) : (trimChars cs).length ≤ cs.length := by
  unfold trimChars trimBy trimRightBy
  rw [List.length_reverse]
  refine Nat.le_trans (length_dropWhile_le ..) ?_
  rw [List.length_reverse]
  exact length_dropWhile_le ..

theorem pieces_ne_nil (p : Char → Bool) (cs : List Char) : pieces p cs ≠ [] := by
  induction cs with
  | nil => simp [pieces]
  | cons c cs ih =>
    rw [pieces]
    split
    · simp
    · split <;> simp

end SpendingLedger.Text
