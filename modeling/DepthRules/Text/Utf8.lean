import DepthRules.Text.Hex

/-!
# UTF-8

Reading bytes as UTF-8 either gives their characters or says where the bytes go wrong: the first
byte of the faulty sequence, how many bytes belong to it, and in which of three ways it is faulty.
-/

namespace DepthRules.Text

/-- In which way a sequence of bytes fails to be UTF-8. -/
inductive Utf8Fault where
  | invalidStart
  | invalidContinuation
  | unexpectedEnd
  deriving DecidableEq, Repr

/-- A faulty sequence: where it starts, how long it is, its first byte, and the fault. -/
structure Utf8Error where
  position : Nat
  length : Nat
  byte : UInt8
  fault : Utf8Fault
  deriving DecidableEq, Repr

/-- The wording of a fault. -/
def Utf8Fault.message : Utf8Fault → String
  | .invalidStart => "invalid start byte"
  | .invalidContinuation => "invalid continuation byte"
  | .unexpectedEnd => "unexpected end of data"

/-- The wording of an error. One byte is shown by its value, several by their positions. -/
def Utf8Error.message (e : Utf8Error) : String :=
  let place :=
    if e.length = 1 then
      "byte 0x" ++ String.ofList (hexDigits 2 e.byte.toNat) ++ " in position " ++
        toString e.position
    else
      "bytes in position " ++ toString e.position ++ "-" ++ toString (e.position + e.length - 1)
  "'utf-8' codec can't decode " ++ place ++ ": " ++ e.fault.message

/-- Bytes that may stand after the first one of a sequence. -/
def isContinuation (b : UInt8) : Bool := 0x80 ≤ b && b < 0xC0

/-- The second bytes allowed after the first byte `b` of three or four: they keep a character from
being written too long, from being a surrogate, and from lying beyond the last code point. -/
def isSecond (b second : UInt8) : Bool :=
  isContinuation second &&
    (if b = 0xE0 then 0xA0 ≤ second
     else if b = 0xED then second < 0xA0
     else if b = 0xF0 then 0x90 ≤ second
     else if b = 0xF4 then second < 0x90
     else true)

/-- The six low bits of a continuation byte. -/
def payload (b : UInt8) : Nat := b.toNat % 64

/-- Reads one character from its first byte and the bytes after it. The answer is the character and
the number of bytes it takes besides the first, or the fault and the length of the faulty part. -/
def decodeChar (b : UInt8) (rest : List UInt8) : Except (Utf8Fault × Nat) (Char × Nat) :=
  if b < 0x80 then .ok (Char.ofNat b.toNat, 0)
  else if b < 0xC2 then .error (.invalidStart, 1)
  else if b < 0xE0 then
    match rest with
    | [] => .error (.unexpectedEnd, 1)
    | b₂ :: _ =>
        if isContinuation b₂ then .ok (Char.ofNat (b.toNat % 32 * 64 + payload b₂), 1)
        else .error (.invalidContinuation, 1)
  else if b < 0xF0 then
    match rest with
    | [] => .error (.unexpectedEnd, 1)
    | b₂ :: rest =>
        if !isSecond b b₂ then .error (.invalidContinuation, 1)
        else match rest with
          | [] => .error (.unexpectedEnd, 2)
          | b₃ :: _ =>
              if isContinuation b₃ then
                .ok (Char.ofNat ((b.toNat % 16 * 64 + payload b₂) * 64 + payload b₃), 2)
              else .error (.invalidContinuation, 2)
  else if b < 0xF5 then
    match rest with
    | [] => .error (.unexpectedEnd, 1)
    | b₂ :: rest =>
        if !isSecond b b₂ then .error (.invalidContinuation, 1)
        else match rest with
          | [] => .error (.unexpectedEnd, 2)
          | b₃ :: rest =>
              if !isContinuation b₃ then .error (.invalidContinuation, 2)
              else match rest with
                | [] => .error (.unexpectedEnd, 3)
                | b₄ :: _ =>
                    if isContinuation b₄ then
                      .ok (Char.ofNat
                        (((b.toNat % 8 * 64 + payload b₂) * 64 + payload b₃) * 64 + payload b₄), 3)
                    else .error (.invalidContinuation, 3)
  else .error (.invalidStart, 1)

/-- Reads the bytes from `position` on; `done` holds the characters before it, last first. -/
def decodeUtf8From (position : Nat) (bytes : List UInt8) (done : List Char) :
    Except Utf8Error (List Char) :=
  match bytes with
  | [] => .ok done.reverse
  | b :: rest =>
      match decodeChar b rest with
      | .ok (c, more) => decodeUtf8From (position + 1 + more) (rest.drop more) (c :: done)
      | .error (fault, length) => .error ⟨position, length, b, fault⟩
  termination_by bytes.length
  decreasing_by exact Nat.lt_succ_of_le (List.length_drop ▸ Nat.sub_le _ _)

/-- The characters written by the bytes. -/
def decodeUtf8 (bytes : List UInt8) : Except Utf8Error (List Char) := decodeUtf8From 0 bytes []

/-- The bytes of one character. -/
def encodeChar (c : Char) : List UInt8 :=
  let n := c.toNat
  if n < 0x80 then [UInt8.ofNat n]
  else if n < 0x800 then [UInt8.ofNat (0xC0 + n / 64), UInt8.ofNat (0x80 + n % 64)]
  else if n < 0x10000 then
    [UInt8.ofNat (0xE0 + n / 4096), UInt8.ofNat (0x80 + n / 64 % 64), UInt8.ofNat (0x80 + n % 64)]
  else
    [UInt8.ofNat (0xF0 + n / 262144), UInt8.ofNat (0x80 + n / 4096 % 64),
      UInt8.ofNat (0x80 + n / 64 % 64), UInt8.ofNat (0x80 + n % 64)]

/-- The bytes that write the characters. -/
def encodeUtf8 (cs : List Char) : List UInt8 := cs.flatMap encodeChar

end DepthRules.Text
