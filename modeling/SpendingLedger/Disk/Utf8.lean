/-!
# UTF-8

Bytes are read as characters by the rules of UTF-8.  The first byte that breaks them is reported
with the bytes before it that begin the same character.

## Main definitions

* `Utf8.Error` — where and why bytes are no text.
* `Utf8.decode` — the characters of a sequence of bytes.
-/

namespace SpendingLedger.Utf8

/-- Why bytes are no text. -/
inductive Reason
  | invalidStart
  | invalidContinuation
  | unexpectedEnd
  deriving DecidableEq

/-- The words for a reason. -/
def Reason.text : Reason → String
  | .invalidStart => "invalid start byte"
  | .invalidContinuation => "invalid continuation byte"
  | .unexpectedEnd => "unexpected end of data"

/-- Bytes that are no text: the position of the first of them, its value, how many there are, and
why. -/
structure Error where
  position : Nat
  byte : Nat
  count : Nat
  reason : Reason
  deriving DecidableEq

/-- Two hexadecimal digits. -/
def hexByte (n : Nat) : String :=
  String.ofList [Nat.digitChar (n / 16), Nat.digitChar (n % 16)]

/-- What is said of bytes that are no text. -/
def Error.message (e : Error) : String :=
  if e.count = 1 then
    String.join ["'utf-8' codec can't decode byte 0x", hexByte e.byte, " in position ",
      toString e.position, ": ", e.reason.text]
  else
    let last := e.position + e.count - 1
    String.join ["'utf-8' codec can't decode bytes in position ", toString e.position, "-",
      toString last, ": ", e.reason.text]

/-- Whether `b` continues a character. -/
def isContinuation (b : Nat) : Bool := 0x80 ≤ b && b < 0xC0

/-- Whether `b` can follow the first byte `a` of a character of three or four bytes: shorter forms,
surrogates and numbers beyond the last character are left out. -/
def isSecond (a b : Nat) : Bool :=
  isContinuation b && (a ≠ 0xE0 || 0xA0 ≤ b) && (a ≠ 0xED || b < 0xA0) && (a ≠ 0xF0 || 0x90 ≤ b)
    && (a ≠ 0xF4 || b < 0x90)

/-- The six low bits of a continuation byte. -/
def low (b : Nat) : Nat := b % 0x40

/-- The characters of bytes of which the first stands at `position`. -/
def decodeFrom (position : Nat) : List Nat → Except Error (List Char)
  | [] => .ok []
  | a :: rest =>
    let fail (count : Nat) (reason : Reason) : Except Error (List Char) :=
      .error ⟨position, a, count, reason⟩
    -- one byte
    if a < 0x80 then (decodeFrom (position + 1) rest).map (Char.ofNat a :: ·)
    else if a < 0xC2 then fail 1 .invalidStart
    -- two bytes
    else if a < 0xE0 then
      match rest with
      | [] => fail 1 .unexpectedEnd
      | b :: r =>
        if !isContinuation b then fail 1 .invalidContinuation
        else (decodeFrom (position + 2) r).map (Char.ofNat ((a - 0xC0) * 0x40 + low b) :: ·)
    -- three bytes
    else if a < 0xF0 then
      match rest with
      | [] => fail 1 .unexpectedEnd
      | b :: r =>
        if !isSecond a b then fail 1 .invalidContinuation
        else match r with
          | [] => fail 2 .unexpectedEnd
          | c :: r =>
            if !isContinuation c then fail 2 .invalidContinuation
            else (decodeFrom (position + 3) r).map
              (Char.ofNat (((a - 0xE0) * 0x40 + low b) * 0x40 + low c) :: ·)
    -- four bytes
    else if a < 0xF5 then
      match rest with
      | [] => fail 1 .unexpectedEnd
      | b :: r =>
        if !isSecond a b then fail 1 .invalidContinuation
        else match r with
          | [] => fail 2 .unexpectedEnd
          | c :: r =>
            if !isContinuation c then fail 2 .invalidContinuation
            else match r with
              | [] => fail 3 .unexpectedEnd
              | d :: r =>
                if !isContinuation d then fail 3 .invalidContinuation
                else (decodeFrom (position + 4) r).map
                  (Char.ofNat ((((a - 0xF0) * 0x40 + low b) * 0x40 + low c) * 0x40 + low d) :: ·)
    else fail 1 .invalidStart

/-- The text of a sequence of bytes. -/
def decode (bytes : List UInt8) : Except Error String :=
  (decodeFrom 0 (bytes.map UInt8.toNat)).map String.ofList

end SpendingLedger.Utf8
