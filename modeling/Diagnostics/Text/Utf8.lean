/-!
# UTF-8

Encoding of characters as bytes, and the strict decoder. The decoder refuses overlong forms,
surrogates and code points past the last one; it names the first byte of the sequence that cannot
be completed, so what stands before that position is well formed.
-/

namespace Diagnostics.Utf8

def encodeChar (c : Char) : List UInt8 :=
  String.utf8EncodeChar c

def encode (text : List Char) : List UInt8 :=
  text.flatMap encodeChar

/-- The number of bytes that `text` takes once encoded. -/
def byteLength : List Char → Nat
  | [] => 0
  | c :: rest => c.utf8Size + byteLength rest

inductive Reason where
  | startByte
  | continuationByte
  | endOfData
  deriving DecidableEq, Repr

def Reason.message : Reason → String
  | .startByte => "invalid start byte"
  | .continuationByte => "invalid continuation byte"
  | .endOfData => "unexpected end of data"

structure DecodeError where
  position : Nat
  reason : Reason
  deriving DecidableEq, Repr

def isTail (b : UInt8) : Bool :=
  0x80 ≤ b && b ≤ 0xBF

/-- The values that may follow a first byte of a sequence of three bytes. -/
def isSecondOfThree (first second : UInt8) : Bool :=
  if first = 0xE0 then 0xA0 ≤ second && second ≤ 0xBF
  else if first = 0xED then 0x80 ≤ second && second ≤ 0x9F
  else isTail second

/-- The values that may follow a first byte of a sequence of four bytes. -/
def isSecondOfFour (first second : UInt8) : Bool :=
  if first = 0xF0 then 0x90 ≤ second && second ≤ 0xBF
  else if first = 0xF4 then 0x80 ≤ second && second ≤ 0x8F
  else isTail second

/-- The low six bits of a continuation byte. -/
def tailBits (b : UInt8) : Nat :=
  b.toNat % 64

def charOfTwo (a b : UInt8) : Char :=
  Char.ofNat (a.toNat % 32 * 64 + tailBits b)

def charOfThree (a b c : UInt8) : Char :=
  Char.ofNat (a.toNat % 16 * 4096 + tailBits b * 64 + tailBits c)

def charOfFour (a b c d : UInt8) : Char :=
  Char.ofNat (a.toNat % 8 * 262144 + tailBits b * 4096 + tailBits c * 64 + tailBits d)

/-- Decodes bytes of which the first stands at `position`. -/
def decodeFrom (position : Nat) : List UInt8 → Except DecodeError (List Char)
  | [] => .ok []
  | a :: afterA =>
      if a < 0x80 then
        (Char.ofNat a.toNat :: ·) <$> decodeFrom (position + 1) afterA
      else if 0xC2 ≤ a && a ≤ 0xDF then
        match afterA with
        | [] => .error ⟨position, .endOfData⟩
        | b :: afterB =>
            if isTail b then (charOfTwo a b :: ·) <$> decodeFrom (position + 2) afterB
            else .error ⟨position, .continuationByte⟩
      else if 0xE0 ≤ a && a ≤ 0xEF then
        match afterA with
        | [] => .error ⟨position, .endOfData⟩
        | b :: afterB =>
            if isSecondOfThree a b then
              match afterB with
              | [] => .error ⟨position, .endOfData⟩
              | c :: afterC =>
                  if isTail c then (charOfThree a b c :: ·) <$> decodeFrom (position + 3) afterC
                  else .error ⟨position, .continuationByte⟩
            else .error ⟨position, .continuationByte⟩
      else if 0xF0 ≤ a && a ≤ 0xF4 then
        match afterA with
        | [] => .error ⟨position, .endOfData⟩
        | b :: afterB =>
            if isSecondOfFour a b then
              match afterB with
              | [] => .error ⟨position, .endOfData⟩
              | c :: afterC =>
                  if isTail c then
                    match afterC with
                    | [] => .error ⟨position, .endOfData⟩
                    | d :: afterD =>
                        if isTail d then
                          (charOfFour a b c d :: ·) <$> decodeFrom (position + 4) afterD
                        else .error ⟨position, .continuationByte⟩
                  else .error ⟨position, .continuationByte⟩
            else .error ⟨position, .continuationByte⟩
      else .error ⟨position, .startByte⟩

def decode (bytes : List UInt8) : Except DecodeError (List Char) :=
  decodeFrom 0 bytes

@[simp]
theorem encode_nil : encode [] = [] := rfl

@[simp]
theorem encode_cons (c : Char) (text : List Char) :
    encode (c :: text) = encodeChar c ++ encode text := rfl

theorem encode_append (left right : List Char) :
    encode (left ++ right) = encode left ++ encode right := by
  simp [encode]

@[simp]
theorem byteLength_nil : byteLength [] = 0 := rfl

@[simp]
theorem byteLength_cons (c : Char) (text : List Char) :
    byteLength (c :: text) = c.utf8Size + byteLength text := rfl

theorem byteLength_append (left right : List Char) :
    byteLength (left ++ right) = byteLength left + byteLength right := by
  induction left with
  | nil => simp
  | cons c left ih => simp [ih, Nat.add_assoc]

theorem length_encode (text : List Char) : (encode text).length = byteLength text := by
  induction text with
  | nil => rfl
  | cons c text ih => simp [encodeChar, ih]

end Diagnostics.Utf8
