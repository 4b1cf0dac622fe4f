import SpendingLedger.Query.Error
import SpendingLedger.Query.Token

/-!
# Programs of a stack machine

A query is carried out by a program in which each operator stands behind its operands.  The program
is found in one pass over the tokens, with a stack of the operators and open parentheses that wait
for what comes after them; it is run on a stack of truth values.

## Main definitions

* `Instruction`, `Program` — the steps of the machine.
* `Yard`, `Yard.step`, `Program.ofTokens` — the pass over the tokens.
* `Program.run`, `Program.eval` — the machine, given the value of each term.

## References

`SPEC_FULL.md`, sections 4.2, *Parser*, and 4.4, *Query Engine*.
-/

namespace SpendingLedger.Query

/-- A step of the stack machine. -/
inductive Instruction
  /-- Puts the value of a term on the stack. -/
  | push (term : String)
  /-- Replaces the operands on the stack by the value of an operator. -/
  | apply (op : Operator)
  deriving DecidableEq

/-- A sequence of steps. -/
abbrev Program := List Instruction

/-- The token that a step comes from. -/
def Instruction.token : Instruction → Token
  | .push s => .term s
  | .apply op => .operator op

/-! ### From tokens to a program -/

/-- How tightly an operator binds. -/
def Operator.precedence : Operator → Nat
  | .not => 3
  | .and => 2
  | .or => 1

/-- Whether a row of the operator groups from the right. -/
def Operator.isRightAssoc : Operator → Bool
  | .not => true
  | .and => false
  | .or => false

/-- Whether the waiting operator `top` has all its operands when `incoming` follows. -/
def Operator.completes (incoming top : Operator) : Bool :=
  if incoming.isRightAssoc then incoming.precedence < top.precedence
  else incoming.precedence ≤ top.precedence

/-- What waits on the stack. -/
inductive Waiting
  | openParen
  | operator (op : Operator)
  deriving DecidableEq

/-- The program so far, and what waits, the latest first. -/
structure Yard where
  output : Program := []
  stack : List Waiting := []
  deriving DecidableEq

/-- The operators on top of the stack that `incoming` completes, as steps, and the rest of the
stack. -/
def completed (incoming : Operator) : List Waiting → Program × List Waiting
  | .operator top :: stack =>
    if incoming.completes top then
      let (steps, rest) := completed incoming stack
      (.apply top :: steps, rest)
    else ([], .operator top :: stack)
  | stack => ([], stack)

/-- The operators above the topmost open parenthesis, as steps, and the stack below that
parenthesis; none when there is no open parenthesis. -/
def closed : List Waiting → Option (Program × List Waiting)
  | [] => none
  | .openParen :: stack => some ([], stack)
  | .operator op :: stack => (closed stack).map fun (steps, rest) => (.apply op :: steps, rest)

/-- All waiting operators as steps; none when a parenthesis is still open. -/
def drained : List Waiting → Option Program
  | [] => some []
  | .openParen :: _ => none
  | .operator op :: stack => (drained stack).map (.apply op :: ·)

/-- The yard after one more token. -/
def Yard.step (y : Yard) : Token → Except QueryError Yard
  | .term s => .ok { y with output := y.output ++ [.push s] }
  | .openParen => .ok { y with stack := .openParen :: y.stack }
  | .closeParen => match closed y.stack with
    | none => .error .mismatchedParentheses
    | some (steps, rest) => .ok ⟨y.output ++ steps, rest⟩
  | .operator op =>
    let (steps, rest) := completed op y.stack
    .ok ⟨y.output ++ steps, .operator op :: rest⟩
  | .unknownOperator name => .error (.unknownOperator name)

/-- The program at the end of the tokens. -/
def Yard.finish (y : Yard) : Except QueryError Program :=
  match drained y.stack with
  | none => .error .mismatchedParentheses
  | some steps => .ok (y.output ++ steps)

/-- The program of a sequence of tokens, the specification's `to_postfix`.  Whether the operators
have operands is not looked at. -/
def Program.ofTokens (tokens : List Token) : Except QueryError Program :=
  (tokens.foldlM Yard.step {}).bind Yard.finish

/-! ### Running a program -/

/-- The value of an operator with two operands. -/
def Operator.value (op : Operator) (left right : Bool) : Bool :=
  match op with
  | .or => left || right
  | _ => left && right

/-- The stack after one step, where `value` gives the value of a term. -/
def Instruction.run (value : String → Except Fault Bool) (stack : List Bool) :
    Instruction → Except Fault (List Bool)
  | .push s => (value s).map (· :: stack)
  | .apply .not => match stack with
    | b :: rest => .ok ((!b) :: rest)
    | [] => .error .missingOperand
  | .apply op => match stack with
    | right :: left :: rest => .ok (op.value left right :: rest)
    | _ => .error (.missingOperands op.text)

/-- The stack after a program. -/
def Program.run (value : String → Except Fault Bool) (stack : List Bool) (p : Program) :
    Except Fault (List Bool) :=
  p.foldlM (Instruction.run value) stack

/-- The truth value of a program: the only value on the stack at its end. -/
def Program.eval (value : String → Except Fault Bool) (p : Program) : Except Fault Bool :=
  match p.run value [] with
  | .error e => .error e
  | .ok [b] => .ok b
  | .ok _ => .error .noSingleCondition

@[simp] theorem Program.run_nil (value : String → Except Fault Bool) (stack : List Bool) :
    Program.run value stack [] = .ok stack := rfl

/-- A program runs by running its first part and then the rest. -/
theorem Program.run_append (value : String → Except Fault Bool) (stack : List Bool)
    (p q : Program) :
    Program.run value stack (p ++ q) = (p.run value stack).bind (q.run value) := by
  simp only [Program.run, List.foldlM_append]
  rfl

end SpendingLedger.Query
