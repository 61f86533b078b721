import Collation.Text

/-! Texts read from bytes in UTF-8, strictly. -/

namespace Collation.Utf8

inductive Reason where
  | start
  | continuation
  | endOfData
  deriving DecidableEq, Repr

def Reason.message : Reason → Text
  | start => "invalid start byte"
  | continuation => "invalid continuation byte"
  | endOfData => "unexpected end of data"

/-- The bytes that cannot be read: how many, where the first one stands, and which it is. -/
structure Fault where
  position : Nat
  count : Nat
  byte : UInt8
  reason : Reason
  deriving DecidableEq, Repr

def Fault.message (f : Fault) : Text :=
  let place : Text :=
    if f.count = 1 then
      "byte 0x" ++ hexDigits 2 f.byte.toNat ++ " in position " ++ digits f.position
    else "bytes in position " ++ digits f.position ++ '-' :: digits (f.position + f.count - 1 : Nat)
  "'utf-8' codec can't decode " ++ place ++ ": " ++ f.reason.message

/-- The number of bytes after a first byte, its own bits of the character, and the range of the byte
after it. Longer forms than needed, surrogates, and codes past the last one are out of range. -/
def lead? (b : UInt8) : Option (Nat × Nat × UInt8 × UInt8) :=
  let n := b.toNat
  if b < 0xC2 then none
  else if b < 0xE0 then some (1, n - 0xC0, 0x80, 0xBF)
  else if b < 0xF0 then
    some (2, n - 0xE0, if b = 0xE0 then 0xA0 else 0x80, if b = 0xED then 0x9F else 0xBF)
  else if b < 0xF5 then
    some (3, n - 0xF0, if b = 0xF0 then 0x90 else 0x80, if b = 0xF4 then 0x8F else 0xBF)
  else none

/-- Reads continuation bytes, the first of which has a range of its own. Gives the code of the
character, or how many bytes were good and whether the bytes ended there. -/
def continuation (code : Nat) (low high : UInt8) (good : Nat) :
    Nat → List UInt8 → Except (Nat × Reason) Nat
  | 0, _ => .ok code
  | _ + 1, [] => .error (good, .endOfData)
  | k + 1, b :: bs =>
    if low ≤ b && b ≤ high then
      continuation (code * 64 + (b.toNat - 0x80)) 0x80 0xBF (good + 1) k bs
    else .error (good, .continuation)

/-- Reads bytes that stand at `position`. `skip` of them belong to the character before. -/
def decodeFrom (position skip : Nat) : List UInt8 → Except Fault Text
  | [] => .ok []
  | b :: bs =>
    match skip with
    | k + 1 => decodeFrom (position + 1) k bs
    | 0 =>
      if b < 0x80 then (decodeFrom (position + 1) 0 bs).map (Char.ofNat b.toNat :: ·)
      else match lead? b with
        | none => .error ⟨position, 1, b, .start⟩
        | some (count, bits, low, high) =>
          match continuation bits low high 1 count bs with
          | .error (good, reason) => .error ⟨position, good, b, reason⟩
          | .ok code => (decodeFrom (position + 1) count bs).map (Char.ofNat code :: ·)

def decode (bs : List UInt8) : Except Fault Text :=
  decodeFrom 0 0 bs

/-- The bytes before a last character that is not complete, and the bytes of that one. -/
def splitIncomplete (bs : List UInt8) : List UInt8 × List UInt8 :=
  match decode bs with
  | .error f => if f.reason = .endOfData then bs.splitAt f.position else (bs, [])
  | .ok _ => (bs, [])

def encode (t : Text) : List UInt8 :=
  (String.ofList t).toUTF8.toList

end Collation.Utf8
