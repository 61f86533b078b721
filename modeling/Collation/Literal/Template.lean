import Collation.Literal.Token

/-! Templates: texts with fields in braces. A field holds an expression, and after it there can be
an equals sign, a conversion and a format, which is a template as well. -/

namespace Collation.Literal.Template

def isBrace (c : Char) : Bool :=
  c = '\x7b' || c = '\x7d'

/-- The plain text at the start of a template, and the text from the brace after it. Outside formats
a doubled brace is a plain one, and no brace closes. Braces round the name of a character are plain.
`found` holds what was read, the last character first. -/
def plain? (isRaw isFormat inName : Bool) (found : Text) : Text → Option (Text × Text)
  | [] => some (found.reverse, [])
  | c :: rest =>
    if inName then plain? isRaw isFormat (c ≠ '\x7d') (c :: found) rest
    else if c = '\\' && !isRaw then
      match rest with
      | 'N' :: '\x7b' :: rest =>
        plain? isRaw isFormat true ('\x7b' :: 'N' :: '\\' :: found) rest
      | d :: rest =>
        if isBrace d then plain? isRaw isFormat false ('\\' :: found) (d :: rest)
        else plain? isRaw isFormat false (d :: '\\' :: found) rest
      | [] => some (('\\' :: found).reverse, [])
    else if isBrace c then
      if isFormat then some (found.reverse, c :: rest)
      else match rest with
        | d :: rest =>
          if d = c then plain? isRaw isFormat false (c :: found) rest
          else if c = '\x7b' then some (found.reverse, c :: d :: rest)
          else none
        | [] => if c = '\x7b' then some (found.reverse, [c]) else none
    else plain? isRaw isFormat false (c :: found) rest

/-- What is open where an expression is searched for its end: a quote, which may be a triple one, and
brackets. -/
structure Nesting where
  quote : Option (Char × Bool)
  brackets : List Bracket

def maxBrackets : Nat := 200

/-- The expression at the start of a field, and the text after it, which is not empty. It holds no
backslash and no comment. The next `skipped` characters belong to it as they are. -/
def source? (skipped : Nat) (nesting : Nesting) (found : Text) : Text → Option (Text × Text)
  | [] => none
  | c :: rest =>
    if 0 < skipped then source? (skipped - 1) nesting (c :: found) rest
    else if c = '\\' then none
    else match nesting.quote with
      | some (mark, triple) =>
        if c ≠ mark || triple && !([c, c].isPrefixOf rest) then source? 0 nesting (c :: found) rest
        else source? (if triple then 2 else 0) ⟨none, nesting.brackets⟩ (c :: found) rest
      | none =>
        if isQuote c then
          let triple := [c, c].isPrefixOf rest
          source? (if triple then 2 else 0) ⟨some (c, triple), nesting.brackets⟩ (c :: found) rest
        else if c = '#' then none
        else match Bracket.ofChar? c, nesting.brackets with
          | some (b, true), brackets =>
            if brackets.length < maxBrackets then source? 0 ⟨none, b :: brackets⟩ (c :: found) rest
            else none
          | some (b, false), b' :: brackets =>
            if b = b' then source? 0 ⟨none, brackets⟩ (c :: found) rest else none
          | some (_, false), [] => if c = '\x7d' then some (found.reverse, c :: rest) else none
          | none, _ :: _ => source? 0 nesting (c :: found) rest
          | none, [] =>
            if "!=<>".contains c && rest.head? = some '=' then source? 1 nesting (c :: found) rest
            else if "!=:".contains c then some (found.reverse, c :: rest)
            else source? 0 nesting (c :: found) rest

/-- Drops the equals sign that shows an expression, and the white space after it. -/
def dropEquals : Text → Text
  | '=' :: rest => rest.dropWhile fun c => c = ' ' || (0x09 ≤ c.toNat && c.toNat ≤ 0x0D)
  | t => t

def dropConversion? : Text → Option Text
  | '!' :: c :: rest => if c = 's' || c = 'r' || c = 'a' then some rest else none
  | ['!'] => none
  | t => some t

def isEmptySource (t : Text) : Bool :=
  t.all fun c => c = ' ' || c = '\t' || c = '\n' || c = '\x0c'

def maxFormats : Nat := 2

/-- The expressions of the fields of a template, each with the number of formats around it, and the
text after the template or format. `fuel` is greater than the length of the text. -/
def sourcesFrom (isRaw : Bool) (fuel formats : Nat) (found : List (Text × Nat)) (t : Text) :
    Option (List (Text × Nat) × Text) :=
  match fuel with
  | 0 => none
  | fuel + 1 => do
    let (piece, rest) ← plain? isRaw (0 < formats) false [] t
    if !isRaw && (unescape false [] piece).isNone then none
    match rest with
    | '\x7b' :: rest =>
      let (source, rest) ← source? 0 ⟨none, []⟩ [] rest
      if formats = maxFormats || isEmptySource source then none
      let found := (source, formats) :: found
      let (found, rest) ← match ← dropConversion? (dropEquals rest) with
        | ':' :: rest => sourcesFrom isRaw fuel (formats + 1) found rest
        | rest => some (found, rest)
      match rest with
      | '\x7d' :: rest => sourcesFrom isRaw fuel formats found rest
      | _ => none
    | rest => some (found, rest)

def sources? (isRaw : Bool) (body : Text) : Option (List (Text × Nat)) :=
  (sourcesFrom isRaw (body.length + 1) 0 [] body).map fun (found, _) => found.reverse

end Collation.Literal.Template
