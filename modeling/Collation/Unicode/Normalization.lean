import Collation.Text
import Collation.Unicode.CanonicalDecomposition
import Collation.Unicode.CombiningClass
import Collation.Unicode.CompatibilityDecomposition
import Collation.Unicode.Composition
import Collation.Unicode.Hangul

/-! The four normalization forms. -/

namespace Collation

/-- Composed or decomposed, by canonical or by compatibility equivalence. -/
inductive Form where
  | nfc
  | nfd
  | nfkc
  | nfkd
  deriving DecidableEq, Repr

namespace Form

def name : Form → Text
  | nfc => "NFC"
  | nfd => "NFD"
  | nfkc => "NFKC"
  | nfkd => "NFKD"

def all : List Form :=
  [nfc, nfd, nfkc, nfkd]

def ofName? (t : Text) : Option Form :=
  all.find? (·.name = t)

def isCompatible : Form → Bool
  | nfkc | nfkd => true
  | _ => false

def isComposed : Form → Bool
  | nfc | nfkc => true
  | _ => false

end Form

namespace Unicode

def decompose (compatible : Bool) (code : Nat) : List Nat :=
  match Hangul.decompose? code with
  | some codes => codes
  | none =>
    match if compatible then compatibilityDecomposition? code else none with
    | some codes => codes
    | none => (canonicalDecomposition? code).getD [code]

/-- Puts `code` before characters in canonical order: a mark passes the marks of lower class. -/
def insertMark (code : Nat) : List Nat → List Nat
  | [] => [code]
  | other :: rest =>
    if combiningClass other ≠ 0 ∧ combiningClass other < combiningClass code then
      other :: insertMark code rest
    else code :: other :: rest

/-- Canonical order: between starters, marks stand by class, and in their own order within it. -/
def canonicalOrder (codes : List Nat) : List Nat :=
  codes.foldr insertMark []

def composite? (first second : Nat) : Option Nat :=
  (Hangul.compose? first second).or (primaryComposite? first second)

/-- Composes a starter with what follows it. `marks`, read backwards, stand after the starter and
did not compose with it; the last of them blocks what is not of a higher class. -/
def composeAfter (starter : Nat) (marks : List Nat) : List Nat → List Nat
  | [] => starter :: marks.reverse
  | code :: rest =>
    let isFree := marks.head?.all (combiningClass · < combiningClass code)
    match if isFree then composite? starter code else none with
    | some composed => composeAfter composed marks rest
    | none =>
      if combiningClass code = 0 then starter :: marks.reverse ++ composeAfter code [] rest
      else composeAfter starter (code :: marks) rest

/-- Marks before the first starter stay as they are. -/
def compose : List Nat → List Nat
  | [] => []
  | code :: rest =>
    if combiningClass code = 0 then composeAfter code [] rest else code :: compose rest

end Unicode

def Form.normalize (form : Form) (t : Text) : Text :=
  let codes := Unicode.canonicalOrder (t.flatMap fun c => Unicode.decompose form.isCompatible c.toNat)
  (if form.isComposed then Unicode.compose codes else codes).map Char.ofNat

/-- With no form, a text is taken as it is. -/
def normalize (form : Option Form) (t : Text) : Text :=
  match form with
  | none => t
  | some f => f.normalize t

end Collation
