import Platformer.Json.Basic

/-! # Reading JSON texts

A text is cut into tokens, and the tokens are put together to one value. The grammar is the strict
one: no comments, no trailing commas, no leading zeros, and only the four blanks of the format.

* **`Json.Token`**, **`Json.tokens?`** — the tokens of a text.
* **`Json.value?`** — the value at the start of a list of tokens, with the tokens after it.
* **`Json.parse?`** — the value that a whole text writes. -/

namespace Platformer

namespace Json

/-- The tokens of a text. -/
inductive Token where
  | leftBrace
  | rightBrace
  | leftBracket
  | rightBracket
  | colon
  | comma
  | null
  | bool (b : Bool)
  | number (n : Numeral)
  | string (s : Option String)
deriving DecidableEq

/-! ### Numerals -/

/-- The value of a decimal digit. -/
def digitValue (c : Char) : Nat := c.toNat - '0'.toNat

/-- The digits at the start of a text, and the text after them. -/
def digits (cs : List Char) : List Nat × List Char :=
  ((cs.takeWhile Char.isDigit).map digitValue, cs.dropWhile Char.isDigit)

/-- The digits after a point, if there is one. -/
def fraction? : List Char → Option (List Nat × List Char)
  | '.' :: cs =>
    match digits cs with
    | ([], _) => none
    | (ds, cs) => some (ds, cs)
  | cs => some ([], cs)

/-- A sign that may stand before an exponent: whether it is a minus. -/
def exponentSign : List Char → Bool × List Char
  | '+' :: cs => (false, cs)
  | '-' :: cs => (true, cs)
  | cs => (false, cs)

/-- The exponent, if there is one. -/
def exponent? : List Char → Option (Option Int × List Char)
  | c :: cs =>
    if c = 'e' ∨ c = 'E' then
      let (negative, cs) := exponentSign cs
      match digits cs with
      | ([], _) => none
      | (ds, cs) => some (some (Single.signed negative (ds.foldl (10 * · + ·) 0)), cs)
    else some (none, c :: cs)
  | [] => some (none, [])

/-- The numeral at the start of a text, after its sign. -/
def numeral? (negative : Bool) (cs : List Char) : Option (Numeral × List Char) := do
  let (whole, cs) := digits cs
  if whole.isEmpty ∨ (1 < whole.length ∧ whole.head? = some 0) then none
  else
    let (fraction, cs) ← fraction? cs
    let (exponent, cs) ← exponent? cs
    return (⟨negative, whole, fraction, exponent⟩, cs)

/-! ### Strings -/

/-- The value of a hexadecimal digit. -/
def hexValue? (c : Char) : Option Nat :=
  if '0' ≤ c ∧ c ≤ '9' then some (c.toNat - '0'.toNat)
  else if 'a' ≤ c ∧ c ≤ 'f' then some (c.toNat - 'a'.toNat + 10)
  else if 'A' ≤ c ∧ c ≤ 'F' then some (c.toNat - 'A'.toNat + 10)
  else none

/-- The number that four hexadecimal digits write. -/
def hexUnit? (a b c d : Char) : Option Nat := do
  return (((← hexValue? a) * 16 + (← hexValue? b)) * 16 + (← hexValue? c)) * 16 + (← hexValue? d)

/-- The character that a backslash and a letter stand for. -/
def escaped? : Char → Option Char
  | '"' => some '"'
  | '\\' => some '\\'
  | '/' => some '/'
  | 'b' => some '\x08'
  | 'f' => some '\x0c'
  | 'n' => some '\n'
  | 'r' => some '\r'
  | 't' => some '\t'
  | _ => none

/-- The characters up to the closing quote as code points, where an escape may give half of a
character pair, and the text after the quote. -/
def stringPoints? : List Char → Option (List Nat × List Char)
  | [] => none
  | '"' :: cs => some ([], cs)
  | '\\' :: 'u' :: a :: b :: c :: d :: cs => do
    let point ← hexUnit? a b c d
    let (points, cs) ← stringPoints? cs
    return (point :: points, cs)
  | '\\' :: c :: cs => do
    let c ← escaped? c
    let (points, cs) ← stringPoints? cs
    return (c.toNat :: points, cs)
  | c :: cs =>
    if c < ' ' ∨ c = '\\' then none
    else (stringPoints? cs).map fun (points, cs) => (c.toNat :: points, cs)

/-- Whether a code point is the first half of a character pair. -/
def isLeadingHalf (point : Nat) : Bool := 0xd800 ≤ point && point < 0xdc00

/-- Whether a code point is the second half of a character pair. -/
def isTrailingHalf (point : Nat) : Bool := 0xdc00 ≤ point && point < 0xe000

/-- The characters of code points, with the halves of pairs put together; a half on its own has
none. -/
def joinPairs? : List Nat → Option (List Char)
  | [] => some []
  | [p] => if isLeadingHalf p || isTrailingHalf p then none else some [Char.ofNat p]
  | p :: q :: ps =>
    if isLeadingHalf p && isTrailingHalf q then
      (joinPairs? ps).map (Char.ofNat (0x10000 + (p - 0xd800) * 0x400 + (q - 0xdc00)) :: ·)
    else if isLeadingHalf p || isTrailingHalf p then none
    else (joinPairs? (q :: ps)).map (Char.ofNat p :: ·)

/-! ### Tokens -/

/-- Whether a character is a blank between tokens. -/
def isBlank (c : Char) : Bool := c = ' ' || c = '\n' || c = '\t' || c = '\r'

/-- The token at the start of a text without leading blanks, and the text after it. -/
def token? : List Char → Option (Token × List Char)
  | '\x7b' :: cs => some (.leftBrace, cs)
  | '\x7d' :: cs => some (.rightBrace, cs)
  | '[' :: cs => some (.leftBracket, cs)
  | ']' :: cs => some (.rightBracket, cs)
  | ':' :: cs => some (.colon, cs)
  | ',' :: cs => some (.comma, cs)
  | 'n' :: 'u' :: 'l' :: 'l' :: cs => some (.null, cs)
  | 't' :: 'r' :: 'u' :: 'e' :: cs => some (.bool true, cs)
  | 'f' :: 'a' :: 'l' :: 's' :: 'e' :: cs => some (.bool false, cs)
  | '"' :: cs => (stringPoints? cs).map fun (points, cs) =>
    (.string ((joinPairs? points).map String.ofList), cs)
  | '-' :: cs => (numeral? true cs).map fun (n, cs) => (.number n, cs)
  | cs => (numeral? false cs).map fun (n, cs) => (.number n, cs)

/-- The tokens of a text; `fuel` is at least the number of its characters. -/
def tokensWithin? : (fuel : Nat) → List Char → Option (List Token)
  | fuel, cs =>
    match cs.dropWhile isBlank, fuel with
    | [], _ => some []
    | _, 0 => none
    | cs, fuel + 1 => do
      let (t, cs) ← token? cs
      return t :: (← tokensWithin? fuel cs)

/-- The tokens of a text. -/
def tokens? (s : String) : Option (List Token) := tokensWithin? s.length s.toList

/-! ### Values -/

mutual

/-- The value at the start of a list of tokens, and the tokens after it; `fuel` is at least twice
the number of tokens. -/
def value? : (fuel : Nat) → List Token → Option (Json × List Token)
  | 0, _ => none
  | fuel + 1, ts =>
    match ts with
    | .null :: ts => some (.null, ts)
    | .bool b :: ts => some (.bool b, ts)
    | .number n :: ts => some (.number n, ts)
    | .string s :: ts => some (.string s, ts)
    | .leftBracket :: .rightBracket :: ts => some (.array [], ts)
    | .leftBracket :: ts => (elements? fuel ts).map fun (xs, ts) => (.array xs, ts)
    | .leftBrace :: .rightBrace :: ts => some (.object [], ts)
    | .leftBrace :: ts => (members? fuel ts).map fun (xs, ts) => (.object xs, ts)
    | _ => none

/-- The elements of an array up to its closing bracket. -/
def elements? : (fuel : Nat) → List Token → Option (List Json × List Token)
  | 0, _ => none
  | fuel + 1, ts => do
    match ← value? fuel ts with
    | (x, .rightBracket :: ts) => return ([x], ts)
    | (x, .comma :: ts) =>
      let (xs, ts) ← elements? fuel ts
      return (x :: xs, ts)
    | _ => none

/-- The members of an object up to its closing brace. -/
def members? : (fuel : Nat) → List Token → Option (List (Option String × Json) × List Token)
  | 0, _ => none
  | fuel + 1, .string name :: .colon :: ts => do
    match ← value? fuel ts with
    | (x, .rightBrace :: ts) => return ([(name, x)], ts)
    | (x, .comma :: ts) =>
      let (xs, ts) ← members? fuel ts
      return ((name, x) :: xs, ts)
    | _ => none
  | _ + 1, _ => none

end

/-- The value that a whole text writes. -/
def parse? (s : String) : Option Json := do
  let ts ← tokens? s
  match ← value? (2 * ts.length + 1) ts with
  | (x, []) => return x
  | _ => none

end Json

end Platformer
