import Collation.Rule.Error

/-! Operators and operands of a rule text. White space between them, and between the pieces of an
operand, is passed over. -/

namespace Collation.Rule

def quote : Char := '\''

/-- ASCII punctuation that is no operator and no quote stands only inside quotes. -/
def isReserved (c : Char) : Bool :=
  let n := c.toNat
  let punctuation := (0x21 ≤ n && n ≤ 0x2F) || (0x3A ≤ n && n ≤ 0x40) || (0x5B ≤ n && n ≤ 0x60) ||
    (0x7B ≤ n && n ≤ 0x7E)
  punctuation && (Relation.ofSymbol? c).isNone && c ≠ quote

inductive Token where
  | operator (relation : Relation) (position : Nat)
  | operand (text : Text) (position : Nat)
  deriving DecidableEq, Repr

/-- The tokens that can be read, in order, and the fault after them if there is one. -/
structure Scan where
  tokens : List Token
  fault : Option RuleError

def Scan.prepend (ts : List Token) (s : Scan) : Scan :=
  ⟨ts ++ s.tokens, s.fault⟩

/-- The rest of a quoted run up to its closing quote: the run with each doubled quote single, and
the text after the closing quote. -/
def quotedRun? : Text → Option (Text × Text)
  | [] => none
  | '\'' :: '\'' :: rest => (quotedRun? rest).map fun (run, after) => (quote :: run, after)
  | '\'' :: rest => some ([], rest)
  | c :: rest => (quotedRun? rest).map fun (run, after) => (c :: run, after)

/-- What follows an opening quote: at once another quote, which makes both a literal apostrophe, or
a quoted run. -/
def quotedLiteral? : Text → Option (Text × Text)
  | '\'' :: rest => some ([quote], rest)
  | text => quotedRun? text

theorem quotedRun?_length {text run after : Text} (h : quotedRun? text = some (run, after)) :
    after.length < text.length := by
  fun_induction quotedRun? text generalizing run with
  | case1 => simp at h
  | case2 rest ih =>
    obtain ⟨⟨run', after'⟩, hrest, heq⟩ := Option.map_eq_some_iff.mp h
    obtain ⟨rfl, rfl⟩ := Prod.mk.inj heq
    have := ih hrest
    simp only [List.length_cons]
    omega
  | case3 rest _ =>
    obtain ⟨rfl, rfl⟩ := Prod.mk.inj (Option.some.inj h)
    simp
  | case4 c rest _ _ ih =>
    obtain ⟨⟨run', after'⟩, hrest, heq⟩ := Option.map_eq_some_iff.mp h
    obtain ⟨rfl, rfl⟩ := Prod.mk.inj heq
    have := ih hrest
    simp only [List.length_cons]
    omega

theorem quotedLiteral?_length {text literal after : Text}
    (h : quotedLiteral? text = some (literal, after)) : after.length < text.length := by
  unfold quotedLiteral? at h
  split at h
  · obtain ⟨rfl, rfl⟩ := Prod.mk.inj (Option.some.inj h)
    simp
  · exact quotedRun?_length h

/-- An operand that is being read: where it starts, and its text so far. -/
abbrev Pending := Option (Nat × Text)

def Pending.extend (pending : Pending) (position : Nat) (piece : Text) : Pending :=
  match pending with
  | none => some (position, piece)
  | some (start, text) => some (start, text ++ piece)

def Pending.tokens : Pending → List Token
  | none => []
  | some (start, text) => [.operand text start]

/-- Scans `text`, which stands at `position` in the rule text. -/
def scanFrom (position : Nat) (pending : Pending) (text : Text) : Scan :=
  match text with
  | [] => ⟨pending.tokens, none⟩
  | c :: rest =>
    if c = quote then
      match h : quotedLiteral? rest with
      | none => ⟨[], some ⟨.unclosedQuote, position⟩⟩
      | some (literal, after) =>
        have := quotedLiteral?_length h
        scanFrom (position + 1 + (rest.length - after.length)) (pending.extend position literal)
          after
    else match Relation.ofSymbol? c with
      | some relation =>
        (scanFrom (position + 1) none rest).prepend
          (pending.tokens ++ [.operator relation position])
      | none =>
        if isSpace c then scanFrom (position + 1) pending rest
        else if isReserved c then ⟨[], some ⟨.reserved c, position⟩⟩
        else scanFrom (position + 1) (pending.extend position [c]) rest
termination_by text.length
decreasing_by all_goals simp_all <;> omega

def scan (text : Text) : Scan :=
  scanFrom 0 none text

end Collation.Rule
