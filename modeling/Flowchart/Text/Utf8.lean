/-
  Texts as bytes.

  `encode` writes a text in UTF-8.  `decode` reads bytes back and, when they are no UTF-8, says where
  the first bad sequence starts, how many bytes it spans and what is wrong with it:

  * a byte that can start no sequence is bad by itself;
  * a sequence broken by a byte that does not continue it spans the bytes before that byte;
  * a sequence cut off by the end of the input spans all that is left.

  The byte after the first one is held to a narrower range than the later ones, which rules out long
  forms, surrogates and numbers past the last code point.
-/

namespace Flowchart.Text.Utf8

/-! ## Writing -/

/-- The bytes of a text. -/
def encode (cs : List Char) : List UInt8 := cs.flatMap String.utf8EncodeChar

/-- How many bytes a text takes. -/
def size (cs : List Char) : Nat := cs.foldr (fun c n => c.utf8Size + n) 0

/-! ## What can be wrong -/

/-- Why a byte sequence stands for no character. -/
inductive Fault where
  | invalidStart
  | invalidContinuation
  | unexpectedEnd
deriving Repr, DecidableEq

/-- The words for a fault. -/
def Fault.message : Fault → String
  | .invalidStart => "invalid start byte"
  | .invalidContinuation => "invalid continuation byte"
  | .unexpectedEnd => "unexpected end of data"

/-- The first bad sequence: where it starts, its first byte, how many bytes it spans. -/
structure DecodeError where
  start : Nat
  byte : UInt8
  width : Nat
  fault : Fault
deriving Repr, DecidableEq

/-- One bad byte is shown, several are given by their positions. -/
def DecodeError.message (e : DecodeError) : String :=
  let digits := Nat.toDigits 16 e.byte.toNat
  let hex := String.ofList (List.replicate (2 - digits.length) '0' ++ digits)
  let spot :=
    if e.width ≤ 1 then s!"byte 0x{hex} in position {e.start}"
    else s!"bytes in position {e.start}-{e.start + e.width - 1}"
  s!"'utf-8' codec can't decode {spot}: {e.fault.message}"

/-! ## Reading -/

/-- Bytes `10xxxxxx`. -/
def isContinuation (b : UInt8) : Bool := 0x80 ≤ b && b < 0xc0

/-- The second byte of a three-byte sequence: no long forms, no surrogates. -/
def continuesThree (first second : UInt8) : Bool :=
  isContinuation second && (first != 0xe0 || 0xa0 ≤ second) && (first != 0xed || second < 0xa0)

/-- The second byte of a four-byte sequence: no long forms, nothing past the last code point. -/
def continuesFour (first second : UInt8) : Bool :=
  isContinuation second && (first != 0xf0 || 0x90 ≤ second) && (first != 0xf4 || second < 0x90)

/-- The payload of a continuation byte. -/
def payload (b : UInt8) : Nat := b.toNat % 64

/-- A sequence found at the head of the input, or the fault there and the bytes it spans. -/
abbrev Step := Except (Fault × Nat) (Char × List UInt8)

/-- Two bytes. -/
def step2 (first : UInt8) : List UInt8 → Step
  | [] => .error (.unexpectedEnd, 1)
  | b :: rest =>
    if isContinuation b then .ok (Char.ofNat (first.toNat % 32 * 64 + payload b), rest)
    else .error (.invalidContinuation, 1)

/-- Three bytes. -/
def step3 (first : UInt8) : List UInt8 → Step
  | [] => .error (.unexpectedEnd, 1)
  | b :: rest =>
    if continuesThree first b then
      match rest with
      | [] => .error (.unexpectedEnd, 2)
      | c :: rest =>
        if isContinuation c then
          .ok (Char.ofNat ((first.toNat % 16 * 64 + payload b) * 64 + payload c), rest)
        else .error (.invalidContinuation, 2)
    else .error (.invalidContinuation, 1)

/-- Four bytes. -/
def step4 (first : UInt8) : List UInt8 → Step
  | [] => .error (.unexpectedEnd, 1)
  | b :: rest =>
    if continuesFour first b then
      match rest with
      | [] => .error (.unexpectedEnd, 2)
      | c :: rest =>
        if isContinuation c then
          match rest with
          | [] => .error (.unexpectedEnd, 3)
          | d :: rest =>
            if isContinuation d then
              .ok (Char.ofNat
                (((first.toNat % 8 * 64 + payload b) * 64 + payload c) * 64 + payload d), rest)
            else .error (.invalidContinuation, 3)
        else .error (.invalidContinuation, 2)
    else .error (.invalidContinuation, 1)

/-- The sequence that starts with `first`. -/
def step (first : UInt8) (rest : List UInt8) : Step :=
  if first < 0x80 then .ok (Char.ofNat first.toNat, rest)
  else if first < 0xc2 then .error (.invalidStart, 1)
  else if first < 0xe0 then step2 first rest
  else if first < 0xf0 then step3 first rest
  else if first < 0xf5 then step4 first rest
  else .error (.invalidStart, 1)

/-- A sequence never gives back more than what follows its first byte. -/
theorem length_le_of_step {first : UInt8} {rest : List UInt8} {c : Char} {more : List UInt8}
    (h : step first rest = .ok (c, more)) : more.length ≤ rest.length := by
  unfold step step2 step3 step4 at h
  grind

/-- The characters of the bytes at and after position `pos`. -/
def decodeFrom (pos : Nat) (bytes : List UInt8) : Except DecodeError (List Char) :=
  match bytes with
  | [] => .ok []
  | first :: rest =>
    match _h : step first rest with
    | .error (fault, width) => .error ⟨pos, first, width, fault⟩
    | .ok (c, more) =>
      match decodeFrom (pos + (rest.length + 1 - more.length)) more with
      | .ok cs => .ok (c :: cs)
      | .error e => .error e
termination_by bytes.length
decreasing_by
  have := length_le_of_step _h
  simp only [List.length_cons]
  omega

/-- The text that the bytes stand for. -/
def decode (bytes : List UInt8) : Except DecodeError (List Char) := decodeFrom 0 bytes

end Flowchart.Text.Utf8
