import CrateDoc.Text.Quoted

/-!
# UTF-8

Bytes and characters. `decode` refuses the first ill-formed sequence and says where it is;
`decodeLossy` puts one replacement character for each maximal ill-formed sequence.
`decodeArrived` does so for bytes that more may follow: it leaves what they do not decide. All
read the bytes through `next`, which splits off one character or one ill-formed sequence.
-/

namespace CrateDoc.Text.Utf8

/-- Why bytes are no UTF-8. -/
inductive Fault
  | startByte
  | continuationByte
  | endOfData
deriving DecidableEq

/-- The reason in words. -/
def Fault.message : Fault → String
  | .startByte => "invalid start byte"
  | .continuationByte => "invalid continuation byte"
  | .endOfData => "unexpected end of data"

/-- The bytes of a text. -/
def encode (s : List Char) : List UInt8 := s.flatMap String.utf8EncodeChar

/-- Whether a byte may follow a start byte. -/
def isContinuation (b : UInt8) : Bool := 0x80 ≤ b && b ≤ 0xbf

/-- The six bits of a continuation byte. -/
def bits (b : UInt8) : Nat := b.toNat % 64

/-- Whether `b` may be the second byte after the start byte `a`: no overlong forms, no
surrogates, nothing above the last code point. -/
def isSecond (a b : UInt8) : Bool :=
  isContinuation b &&
    !(a == 0xe0 && b < 0xa0) && !(a == 0xed && 0xa0 ≤ b) &&
    !(a == 0xf0 && b < 0x90) && !(a == 0xf4 && 0x90 ≤ b)

/-- What stands at the start of the bytes: a character and its length, or an ill-formed
sequence, its length and its fault. -/
def next (a : UInt8) (rest : List UInt8) : Except (Nat × Fault) (Nat × Char) :=
  if a < 0x80 then .ok (1, Char.ofNat a.toNat)
  else if a < 0xc2 || 0xf5 ≤ a then .error (1, .startByte)
  else match rest with
    | [] => .error (1, .endOfData)
    | b :: rest =>
      if !isSecond a b then .error (1, .continuationByte)
      else if a < 0xe0 then .ok (2, Char.ofNat (a.toNat % 32 * 64 + bits b))
      else match rest with
        | [] => .error (2, .endOfData)
        | c :: rest =>
          if !isContinuation c then .error (2, .continuationByte)
          else if a < 0xf0 then
            .ok (3, Char.ofNat ((a.toNat % 16 * 64 + bits b) * 64 + bits c))
          else match rest with
            | [] => .error (3, .endOfData)
            | d :: _ =>
              if !isContinuation d then .error (3, .continuationByte)
              else .ok (4, Char.ofNat (((a.toNat % 8 * 64 + bits b) * 64 + bits c) * 64 + bits d))

/-- Where and why decoding failed. -/
structure DecodeError where
  /-- Number of bytes before the ill-formed sequence. -/
  position : Nat
  /-- The ill-formed sequence. -/
  bytes : List UInt8
  fault : Fault
deriving DecidableEq

/-- The error in words. -/
def DecodeError.message (e : DecodeError) : String :=
  let place := match e.bytes with
    | [b] => "byte 0x" ++ String.ofList (hexPadded 2 b.toNat) ++ " in position " ++
        toString e.position
    | bytes => "bytes in position " ++ toString e.position ++ "-" ++
        toString (e.position + bytes.length - 1)
  "'utf-8' codec can't decode " ++ place ++ ": " ++ e.fault.message

/-- Reads bytes from a position on; `skip` counts bytes that belong to the character before. -/
def decodeFrom (position : Nat) : Nat → List UInt8 → Except DecodeError (List Char)
  | _, [] => .ok []
  | skip + 1, _ :: rest => decodeFrom (position + 1) skip rest
  | 0, a :: rest =>
    match next a rest with
    | .ok (length, c) => (decodeFrom (position + 1) (length - 1) rest).map (c :: ·)
    | .error (length, fault) => .error ⟨position, (a :: rest).take length, fault⟩

/-- The text of well-formed bytes, or the first fault. -/
def decode (bytes : List UInt8) : Except DecodeError (List Char) := decodeFrom 0 0 bytes

/-- Reads bytes with replacement; `skip` counts bytes that belong to what was read before. -/
def decodeLossyFrom : Nat → List UInt8 → List Char
  | _, [] => []
  | skip + 1, _ :: rest => decodeLossyFrom skip rest
  | 0, a :: rest =>
    match next a rest with
    | .ok (length, c) => c :: decodeLossyFrom (length - 1) rest
    | .error (length, _) => '\ufffd' :: decodeLossyFrom (length - 1) rest

/-- The text of any bytes, with one `U+FFFD` for each maximal ill-formed sequence. -/
def decodeLossy (bytes : List UInt8) : List Char := decodeLossyFrom 0 bytes

/-- Reads bytes with replacement as far as they have arrived. Bytes at the end that may be the
beginning of a character are left. -/
def decodeArrivedFrom : Nat → List UInt8 → List Char × List UInt8
  | _, [] => ([], [])
  | skip + 1, _ :: rest => decodeArrivedFrom skip rest
  | 0, a :: rest =>
    match next a rest with
    | .ok (length, c) => (decodeArrivedFrom (length - 1) rest).map (c :: ·) id
    | .error (_, .endOfData) => ([], a :: rest)
    | .error (length, _) => (decodeArrivedFrom (length - 1) rest).map ('\ufffd' :: ·) id

/-- The text that bytes stand for whatever follows them, and the bytes that are left. -/
def decodeArrived (bytes : List UInt8) : List Char × List UInt8 := decodeArrivedFrom 0 bytes

end CrateDoc.Text.Utf8
