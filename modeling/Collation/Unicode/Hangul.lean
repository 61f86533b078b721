import Collation.Text

/-! Hangul syllables, which are composed and named by arithmetic. -/

namespace Collation.Hangul

def firstSyllable : Nat := 0xAC00
def firstLeading : Nat := 0x1100
def firstVowel : Nat := 0x1161

/-- The character before the first trailing consonant: a syllable may have none. -/
def beforeTrailing : Nat := 0x11A7
def leadingCount : Nat := 19
def vowelCount : Nat := 21
def trailingCount : Nat := 28

def syllableCount : Nat := leadingCount * vowelCount * trailingCount

def isSyllable (code : Nat) : Bool :=
  firstSyllable ≤ code && code < firstSyllable + syllableCount

def decompose? (code : Nat) : Option (List Nat) :=
  if isSyllable code then
    let index := code - firstSyllable
    let leading := firstLeading + index / (vowelCount * trailingCount)
    let vowel := firstVowel + index % (vowelCount * trailingCount) / trailingCount
    let trailing := index % trailingCount
    some (leading :: vowel :: if trailing = 0 then [] else [beforeTrailing + trailing])
  else none

/-- A leading consonant and a vowel, or a syllable of these two and a trailing consonant. -/
def compose? (first second : Nat) : Option Nat :=
  if firstLeading ≤ first && first < firstLeading + leadingCount &&
      firstVowel ≤ second && second < firstVowel + vowelCount then
    some (firstSyllable +
      ((first - firstLeading) * vowelCount + (second - firstVowel)) * trailingCount)
  else if isSyllable first && (first - firstSyllable) % trailingCount = 0 &&
      beforeTrailing < second && second < beforeTrailing + trailingCount then
    some (first + (second - beforeTrailing))
  else none

/-- The short names of the leading consonants, of which one is silent. -/
def leadingNames : List Text :=
  ["G", "GG", "N", "D", "DD", "R", "M", "B", "BB", "S", "SS", "", "J", "JJ", "C", "K", "T", "P",
    "H"].map String.toList

def vowelNames : List Text :=
  ["A", "AE", "YA", "YAE", "EO", "E", "YEO", "YE", "O", "WA", "WAE", "OE", "YO", "U", "WEO", "WE",
    "WI", "YU", "EU", "YI", "I"].map String.toList

/-- The short names of the trailing consonants, after the one for none. -/
def trailingNames : List Text :=
  ["", "G", "GG", "GS", "N", "NJ", "NH", "D", "L", "LG", "LM", "LB", "LS", "LT", "LP", "LH", "M",
    "B", "BS", "S", "SS", "NG", "J", "C", "K", "T", "P", "H"].map String.toList

/-- The place of the longest name with which a text starts, and the text after it. -/
def longest? (names : List Text) (t : Text) : Option (Nat × Text) :=
  let fitting := names.filter (·.isPrefixOf t)
  (fitting.find? fun s => fitting.all (·.length ≤ s.length)).map fun s =>
    (names.idxOf s, t.drop s.length)

/-- The syllable that the short names of its parts name together. -/
def named? (t : Text) : Option Nat := do
  let (leading, t) ← longest? leadingNames t
  let (vowel, t) ← longest? vowelNames t
  let (trailing, t) ← longest? trailingNames t
  if t.isEmpty then
    some (firstSyllable + (leading * vowelCount + vowel) * trailingCount + trailing)
  else none

end Collation.Hangul
