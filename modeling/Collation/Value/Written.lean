import Collation.Number.Shortest
import Collation.Text.Quoted
import Collation.Value.Basic

/-! The written form of values in messages. -/

namespace Collation.Value

def byteEscape (mark : Char) (b : UInt8) : Text :=
  let c := Char.ofNat b.toNat
  if c = mark || c = '\\' then ['\\', c]
  else if c = '\n' then ['\\', 'n']
  else if c = '\r' then ['\\', 'r']
  else if c = '\t' then ['\\', 't']
  else if 0x20 ≤ b && b < 0x7F then [c]
  else '\\' :: 'x' :: hexDigits 2 b.toNat

def writtenBytes (bs : List UInt8) : Text :=
  let mark := Text.quoteMark (bs.map fun b => Char.ofNat b.toNat)
  'b' :: mark :: bs.flatMap (byteEscape mark) ++ [mark]

/-- Whole members of a set are listed by size before its other members. -/
def memberLe (a b : Value) : Bool :=
  match a, b with
  | int m, int n => m ≤ n
  | int _, _ => true
  | _, int _ => false
  | _, _ => true

mutual

def written : Value → Text
  | none => "None"
  | ellipsis => "Ellipsis"
  | bool b => if b then "True" else "False"
  | int n => digits n
  | float x => Shortest.text x
  | complex re im => Shortest.complexText re im
  | text t => Text.quoted t
  | bytes bs => writtenBytes bs
  | list vs => '[' :: Text.join ", " (writtenAll vs) ++ [']']
  | tuple vs =>
    let parts := writtenAll vs
    if parts.length = 1 then '(' :: parts.flatten ++ [',', ')']
    else '(' :: Text.join ", " parts ++ [')']
  | set vs =>
    if vs.isEmpty then "set()"
    else '\x7b' :: Text.join ", " (writtenMembers vs) ++ ['\x7d']
  | dict pairs => '\x7b' :: Text.join ", " (writtenPairs pairs) ++ ['\x7d']

def writtenAll : List Value → List Text
  | [] => []
  | v :: vs => written v :: writtenAll vs

def writtenMembers (vs : List Value) : List Text :=
  (((vs.zip (writtenAll vs))).mergeSort fun a b => memberLe a.1 b.1).map Prod.snd

def writtenPairs : List (Value × Value) → List Text
  | [] => []
  | (k, v) :: pairs => (written k ++ ':' :: ' ' :: written v) :: writtenPairs pairs

end

/-- A value as a part of a text: a text stands as it is. -/
def plain : Value → Text
  | text t => t
  | v => written v

end Collation.Value
