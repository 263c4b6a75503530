/-
UTF-8. A character is written in one to four bytes: a first byte that tells how many follow, and
tail bytes of six bits each.

* `encodeUtf8`: the bytes of a text;
* `decodeUtf8`: the text of a run of bytes, or the first place where there is none: the bytes that
  belong together up to it, and what is wrong with them.
-/
namespace ShaderPreprocessor.Text

/-! ### Writing -/

/-- The bytes of a character. -/
def encodeChar (c : Char) : List UInt8 :=
  let n := c.toNat
  if n < 0x80 then [.ofNat n]
  else if n < 0x800 then [.ofNat (0xC0 + n / 64), .ofNat (0x80 + n % 64)]
  else if n < 0x10000 then
    [.ofNat (0xE0 + n / 4096), .ofNat (0x80 + n / 64 % 64), .ofNat (0x80 + n % 64)]
  else
    [.ofNat (0xF0 + n / 262144), .ofNat (0x80 + n / 4096 % 64), .ofNat (0x80 + n / 64 % 64),
     .ofNat (0x80 + n % 64)]

/-- The bytes of a text. -/
def encodeUtf8 (text : List Char) : List UInt8 := text.flatMap encodeChar

@[simp] theorem encodeUtf8_nil : encodeUtf8 [] = [] := rfl

/-- Texts one after another are written one after another. -/
@[simp] theorem encodeUtf8_append (s t : List Char) :
    encodeUtf8 (s ++ t) = encodeUtf8 s ++ encodeUtf8 t := by
  simp [encodeUtf8]

/-! ### Reading -/

/-- What is wrong with bytes that are not the text of an encoding. -/
inductive Fault where
  /-- No character starts with the byte. -/
  | invalidStart
  /-- The byte that follows cannot continue the character. -/
  | invalidContinuation
  /-- The bytes end within the character. -/
  | unexpectedEnd
  /-- The byte is none of the characters of the encoding. -/
  | outOfRange
  deriving DecidableEq, Repr

/-- The first place where bytes are not the text of an encoding. -/
structure DecodeFault where
  /-- How many bytes stand before it. -/
  position : Nat
  /-- The bytes that belong together up to the fault. -/
  bytes : List UInt8
  /-- What is wrong with them. -/
  fault : Fault
  deriving DecidableEq, Repr

/-- Whether a byte continues a character. -/
def isTail (b : UInt8) : Bool := 0x80 ≤ b && b ≤ 0xBF

/-- Whether a byte may be second of three: neither an over-long form nor half of a pair. -/
def isSecondOfThree (a b : UInt8) : Bool :=
  isTail b && (a ≠ 0xE0 || 0xA0 ≤ b) && (a ≠ 0xED || b ≤ 0x9F)

/-- Whether a byte may be second of four: neither an over-long form nor beyond the last code
point. -/
def isSecondOfFour (a b : UInt8) : Bool :=
  isTail b && (a ≠ 0xF0 || 0x90 ≤ b) && (a ≠ 0xF4 || b ≤ 0x8F)

/-- The six bits of a tail byte, after those in front of them. -/
def pushTail (n : Nat) (b : UInt8) : Nat := 64 * n + (b.toNat - 0x80)

/-- The text of the bytes from a position on. -/
def decodeUtf8From (position : Nat) : List UInt8 → Except DecodeFault (List Char)
  | [] => .ok []
  | a :: rest =>
    if a < 0x80 then
      (decodeUtf8From (position + 1) rest).map (Char.ofNat a.toNat :: ·)
    else if a < 0xC2 then .error ⟨position, [a], .invalidStart⟩
    else if a < 0xE0 then
      match rest with
      | [] => .error ⟨position, [a], .unexpectedEnd⟩
      | b :: rest =>
        if isTail b then
          (decodeUtf8From (position + 2) rest).map
            (Char.ofNat (pushTail (a.toNat - 0xC0) b) :: ·)
        else .error ⟨position, [a], .invalidContinuation⟩
    else if a < 0xF0 then
      match rest with
      | [] => .error ⟨position, [a], .unexpectedEnd⟩
      | b :: rest =>
        if isSecondOfThree a b then
          match rest with
          | [] => .error ⟨position, [a, b], .unexpectedEnd⟩
          | c :: rest =>
            if isTail c then
              (decodeUtf8From (position + 3) rest).map
                (Char.ofNat (pushTail (pushTail (a.toNat - 0xE0) b) c) :: ·)
            else .error ⟨position, [a, b], .invalidContinuation⟩
        else .error ⟨position, [a], .invalidContinuation⟩
    else if a < 0xF5 then
      match rest with
      | [] => .error ⟨position, [a], .unexpectedEnd⟩
      | b :: rest =>
        if isSecondOfFour a b then
          match rest with
          | [] => .error ⟨position, [a, b], .unexpectedEnd⟩
          | c :: rest =>
            if isTail c then
              match rest with
              | [] => .error ⟨position, [a, b, c], .unexpectedEnd⟩
              | d :: rest =>
                if isTail d then
                  (decodeUtf8From (position + 4) rest).map
                    (Char.ofNat (pushTail (pushTail (pushTail (a.toNat - 0xF0) b) c) d) :: ·)
                else .error ⟨position, [a, b, c], .invalidContinuation⟩
            else .error ⟨position, [a, b], .invalidContinuation⟩
        else .error ⟨position, [a], .invalidContinuation⟩
    else .error ⟨position, [a], .invalidStart⟩

/-- The text of a run of bytes. -/
def decodeUtf8 (data : List UInt8) : Except DecodeFault (List Char) := decodeUtf8From 0 data

@[simp] theorem decodeUtf8_nil : decodeUtf8 [] = .ok [] := rfl

end ShaderPreprocessor.Text
