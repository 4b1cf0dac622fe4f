import SpendingLedger.Text.Space

/-!
# Text for terminals

A terminal takes some runs of characters for commands, to change the colour of what follows or to
move: the escape character and an opening bracket, numbers between semicolons or question marks, and
one letter.  Where no terminal reads a text, these runs are left out of it.

## Main definitions

* `behindSequence?` — the text behind a control sequence.
* `withoutSequences`, `plain` — a text without its control sequences.
-/

namespace SpendingLedger.Text

/-- Whether `c` can stand between the bracket and the letter of a control sequence. -/
def isSequenceParameter (c : Char) : Bool := c.isDigit || c = ';' || c = '?'

/-- What follows the control sequence at the head of `cs`, if there is one. -/
def behindSequence? : List Char → Option (List Char)
  | '\x1b' :: '[' :: cs => match cs.dropWhile isSequenceParameter with
    | c :: rest => if c.isAlpha then some rest else none
    | [] => none
  | _ => none

theorem length_lt_of_behindSequence? {cs rest : List Char} (h : behindSequence? cs = some rest) :
    rest.length < cs.length := by
  unfold behindSequence? at h
  split at h
  · next ds =>
    have hdrop := length_dropWhile_le isSequenceParameter ds
    split at h
    · next c r hr =>
      rw [hr] at hdrop
      split at h
      · simp only [Option.some.injEq] at h
        subst h
        simp only [List.length_cons] at hdrop ⊢
        omega
      · simp at h
    · simp at h
  · simp at h

/-- `cs` without its control sequences. -/
def withoutSequences (cs : List Char) : List Char :=
  match _h : behindSequence? cs with
  | some rest => withoutSequences rest
  | none => match cs with
    | [] => []
    | c :: cs => c :: withoutSequences cs
termination_by cs.length
decreasing_by
  · exact length_lt_of_behindSequence? _h
  · simp

/-- `s` without its control sequences. -/
def plain (s : String) : String := String.ofList (withoutSequences s.toList)

/-- A text without the escape character is kept. -/
theorem withoutSequences_of_not_mem {cs : List Char} (h : '\x1b' ∉ cs) :
    withoutSequences cs = cs := by
  induction cs with
  | nil => rw [withoutSequences]; simp [behindSequence?]
  | cons c cs ih =>
    have hnone : behindSequence? (c :: cs) = none := by
      unfold behindSequence?
      split
      · next heq => simp_all
      · rfl
    rw [withoutSequences]
    split
    · next heq => simp [hnone] at heq
    · simp [ih (fun hm => h (List.mem_cons_of_mem _ hm))]

end SpendingLedger.Text
