import Collation.Unicode.Hangul
import Collation.Unicode.Name.Alias
import Collation.Unicode.Name.Alphabet
import Collation.Unicode.Name.Ancient
import Collation.Unicode.Name.Cuneiform
import Collation.Unicode.Name.Frequent
import Collation.Unicode.Name.Picture
import Collation.Unicode.Name.Supplement
import Collation.Unicode.Name.Syllabary
import Collation.Unicode.Name.Symbol
import Collation.Unicode.Packed

/-! Characters by name (Unicode 14.0). Names are packed one after another, in the order of their
characters. Before each name a mark tells how many of its first words it shares with the name before
it, and the other words follow: frequent ones as two small letters, and the rest in full, with a
blank between two of them. An at sign and a code stand before a name whose character does not come
right after the one before. -/

namespace Collation.Unicode

namespace Name

/-- The mark for no shared word, for one, and so on. -/
def marks : Text := "&*+,.:;<=>^_|~"

def frequentWords : Array Text :=
  ((Packed.entries frequent).map String.toList).toArray

/-- The frequent word that two small letters stand for. -/
def expand (a b : Char) : Text :=
  frequentWords.getD (26 * (a.toNat - 'a'.toNat) + (b.toNat - 'a'.toNat)) []

/-- How far packed names are read. -/
structure Progress where
  /-- The character whose name is read, or the code that is read after an at sign. -/
  code : Nat
  isCode : Bool
  /-- The words of the name so far, the last one first. -/
  words : List Text
  /-- The letters of a word so far, the last one first. -/
  letters : Text

def Progress.start : Progress := ⟨0, true, [], []⟩

/-- Ends the word that is read, if there is one. -/
def Progress.endWord (p : Progress) : Progress :=
  if p.letters.isEmpty then p else ⟨p.code, p.isCode, p.letters.reverse :: p.words, []⟩

/-- Reads a letter of a name. -/
def Progress.letter (p : Progress) (c : Char) : Progress :=
  if c.isLower then
    match p.letters with
    | [a] =>
      if a.isLower then ⟨p.code, p.isCode, expand a c :: p.words, []⟩
      else { p.endWord with letters := [c] }
    | _ => { p.endWord with letters := [c] }
  else ⟨p.code, p.isCode, p.words, c :: p.letters⟩

/-- The character whose name has the words `wanted`, the last one first, among packed names. -/
def search (wanted : List Text) (p : Progress) : Text → Option Nat
  | [] => if p.endWord.words = wanted then some p.code else none
  | c :: rest =>
    if c.isUpper || c.isLower || c.isDigit || c = '-' then
      if p.isCode then search wanted { p with code := 16 * p.code + Packed.digit c } rest
      else search wanted (p.letter c) rest
    else if c = ' ' || c = '\n' then search wanted p.endWord rest
    else
      let p := p.endWord
      if !p.isCode && p.words = wanted then some p.code
      else if c = '@' then search wanted ⟨0, true, p.words, []⟩ rest
      else
        let shared := marks.idxOf c
        let code := if p.isCode then p.code else p.code + 1
        search wanted ⟨code, false, p.words.drop (p.words.length - shared), []⟩ rest

def tables : List String :=
  [alphabets, syllabaries, symbols, supplements, ancients, cuneiforms, pictures, aliases]

/-- The character of a name that is packed. -/
def packed? (t : Text) : Option Nat :=
  let wanted := (t.splitAt ' ').reverse
  tables.findSome? fun table => search wanted .start table.toList

/-- The number of four or five capital hexadecimal digits. -/
def code? (t : Text) : Option Nat :=
  if (t.length = 4 || t.length = 5) && t.all (fun c => c.isDigit || 'A' ≤ c && c ≤ 'F') then
    some (t.foldl (fun n c => 16 * n + Packed.digit c) 0)
  else none

def ideographs : Array Span := Packed.spans
  "3400-4DBF 4E00-9FFF 20000-2A6DF 2A700-2B738 2B740-2B81D 2B820-2CEA1 2CEB0-2EBE0 30000-3134A"

/-- Beginnings of names that end with the code of the character. -/
def families : List (Text × Array Span) :=
  [("CJK COMPATIBILITY IDEOGRAPH-", Packed.spans "F900-FA6D FA70-FAD9 2F800-2FA1D"),
    ("KHITAN SMALL SCRIPT CHARACTER-", Packed.spans "18B00-18CD5"),
    ("NUSHU CHARACTER-", Packed.spans "1B170-1B2FB")].map fun (s, spans) => (s.toList, spans)

/-- The character of a name that ends with its code, which has no leading zero. -/
def member? (t : Text) : Option Nat := do
  let (start, spans) ← families.find? fun (start, _) => start.isPrefixOf t
  let digits := t.drop start.length
  let code ← code? digits
  if (Span.find? spans code).isSome && digits.head? ≠ some '0' then some code else none

end Name

def hangulStart : Text := "HANGUL SYLLABLE "

def ideographStart : Text := "CJK UNIFIED IDEOGRAPH-"

/-- The character of a name. Capital and small letters are alike, but not in the names of Hangul
syllables and of ideographs. -/
def named? (t : Text) : Option Nat :=
  if hangulStart.isPrefixOf t then Hangul.named? (t.drop hangulStart.length)
  else if ideographStart.isPrefixOf t then
    (Name.code? (t.drop ideographStart.length)).filter fun code =>
      (Span.find? Name.ideographs code).isSome
  else
    let name := Text.upperAscii t
    (Name.member? name).or (Name.packed? name)

end Collation.Unicode
