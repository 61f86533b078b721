import Collation.Literal.Token

/-! The tokens of a text. A line end counts only outside brackets. -/

namespace Collation.Literal

/-- The column after the white space at the start of a line, and the text there. A form feed starts
the line anew, and a backslash joins the next line. The column before the first joint counts, if it
is not zero. -/
def indentation (column : Nat) (joint : Option Nat) : Text → Option (Nat × Text)
  | ' ' :: rest => indentation (column + 1) joint rest
  | '\t' :: rest => indentation ((column / 8 + 1) * 8) joint rest
  | '\x0c' :: rest => indentation 0 joint rest
  | '\\' :: '\n' :: rest =>
    if rest.isEmpty then none
    else indentation column (joint.or (if column = 0 then none else some column)) rest
  | '\\' :: _ => none
  | t => some (joint.getD column, t)

def dropComment (t : Text) : Text :=
  if t.head? = some '#' then t.dropWhile (· ≠ '\n') else t

def isPad (c : Char) : Bool :=
  c = ' ' || c = '\t' || c = '\x0c'

def maxDepth : Nat := 200

def stopped (found : List Token) : List Token :=
  (.fault :: found).reverse

/-- Goes on to the tokens of a text after those `found` before, the last one first. `stack` holds
the open brackets, and `fuel` is at least twice the number of characters left. -/
def tokensFrom (fuel : Nat) (stack : List Bracket) (atLineStart : Bool) (found : List Token)
    (t : Text) : List Token :=
  match fuel with
  | 0 => stopped found
  | fuel + 1 =>
    if atLineStart && stack.isEmpty then
      match indentation 0 none t with
      | none => stopped found
      | some (column, rest) =>
        match dropComment rest with
        | '\n' :: rest' => tokensFrom fuel stack true found rest'
        | rest' =>
          if rest'.isEmpty && rest.head? = some '#' then found.reverse
          else if column ≠ 0 then stopped found
          else if rest'.isEmpty then found.reverse
          else tokensFrom fuel stack false found rest'
    else
      match dropComment (t.dropWhile isPad) with
      | [] => found.reverse
      | '\n' :: rest =>
        if stack.isEmpty then tokensFrom fuel stack true (.newline :: found) rest
        else tokensFrom fuel stack false found rest
      | '\\' :: '\n' :: rest =>
        if rest.isEmpty then stopped found else tokensFrom fuel stack false found rest
      | rest =>
        match Token.read? rest with
        | none => stopped found
        | some (.opening b, after) =>
          if stack.length = maxDepth then stopped found
          else tokensFrom fuel (b :: stack) false (.opening b :: found) after
        | some (.closing b, after) =>
          match stack with
          | [] => stopped found
          | b' :: stack =>
            if b = b' then tokensFrom fuel stack false (.closing b :: found) after else stopped found
        | some (token, after) => tokensFrom fuel stack false (token :: found) after

def tokens (t : Text) : List Token :=
  if t.contains '\x00' then [.fault]
  else
    let source := Text.unifyNewlines t
    tokensFrom (2 * source.length + 2) [] true [] source

end Collation.Literal
