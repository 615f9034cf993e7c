

/-!
# TOML scalars

Reading the scalar values of TOML 1.0 at the start of the input: basic and literal strings,
on one line or on several, integers in decimal, hexadecimal, octal and binary, floats,
booleans and the four forms of date and time. Each reader gives the value and the rest of the
input, or nothing when the text is not of its form. A digit group may be split by single
underscores between digits; an integer must fit in 64 signed bits; a date must exist.
-/

/-! ## TOML values

The values of a TOML document: strings, integers, floats, booleans, date-times, arrays and
tables. Floats and date-times are kept as their text, which is all that a configuration needs
of them. A table lists its keys in the order they were defined.
-/

namespace TableDdl.Toml

/-- A TOML value. -/
inductive Value where
  | string (s : String)
  | integer (n : Int)
  | float (text : String)
  | boolean (b : Bool)
  | datetime (text : String)
  | array (items : List Value)
  | table (entries : List (String × Value))
  deriving Repr, Inhabited

/-- The value of a key of a table. -/
def lookup (entries : List (String × Value)) (key : String) : Option Value :=
  (entries.find? (·.1 == key)).map (·.2)

end TableDdl.Toml

namespace TableDdl.Toml

/-- Whether a character may stand in a string or comment: tab, or no control character. -/
def isTextChar (c : Char) : Bool :=
  c = '\t' || (c.toNat ≥ 0x20 && c.toNat ≠ 0x7F)

/-- Whether the character is a TOML blank. -/
def isBlank (c : Char) : Bool := c = ' ' || c = '\t'

/-- The input without its leading blanks. -/
def skipBlanks (s : List Char) : List Char := s.dropWhile isBlank

/-- The input after a line break at its start. -/
def afterNewline : List Char → Option (List Char)
  | '\n' :: r => some r
  | '\r' :: '\n' :: r => some r
  | _ => none

/-- The value of a hexadecimal digit. -/
def hexValue (c : Char) : Option Nat :=
  if c.isDigit then some (c.toNat - '0'.toNat)
  else if 'a' ≤ c && c ≤ 'f' then some (c.toNat - 'a'.toNat + 10)
  else if 'A' ≤ c && c ≤ 'F' then some (c.toNat - 'A'.toNat + 10)
  else none

/-- The character of the code point written by the hexadecimal digits, if it is a Unicode
scalar value. -/
def codePoint (ds : List Char) : Option Char := do
  let n ← ds.foldlM (fun n c => (hexValue c).map (16 * n + ·)) 0
  if n < 0xD800 || (0xDFFF < n && n < 0x110000) then some (Char.ofNat n) else none

/-- The character of an escape sequence, the input starting after the backslash. -/
def escape : List Char → Option (Char × List Char)
  | 'b' :: r => some ('\x08', r)
  | 't' :: r => some ('\t', r)
  | 'n' :: r => some ('\n', r)
  | 'f' :: r => some ('\x0c', r)
  | 'r' :: r => some ('\r', r)
  | '"' :: r => some ('"', r)
  | '\\' :: r => some ('\\', r)
  | 'u' :: a :: b :: c :: d :: r => (codePoint [a, b, c, d]).map (·, r)
  | 'U' :: a :: b :: c :: d :: e :: f :: g :: h :: r => (codePoint [a, b, c, d, e, f, g, h]).map (·, r)
  | _ => none

/-- Puts a character in front of what a reader read. -/
def consRead (c : Char) : Option (List Char × List Char) → Option (List Char × List Char)
  | some (cs, r) => some (c :: cs, r)
  | none => none

/-- The rest of a basic string on one line, after its opening quote. -/
def basicBody : List Char → Option (List Char × List Char)
  | [] => none
  | '"' :: r => some ([], r)
  | '\\' :: 'b' :: r => consRead '\x08' (basicBody r)
  | '\\' :: 't' :: r => consRead '\t' (basicBody r)
  | '\\' :: 'n' :: r => consRead '\n' (basicBody r)
  | '\\' :: 'f' :: r => consRead '\x0c' (basicBody r)
  | '\\' :: 'r' :: r => consRead '\r' (basicBody r)
  | '\\' :: '"' :: r => consRead '"' (basicBody r)
  | '\\' :: '\\' :: r => consRead '\\' (basicBody r)
  | '\\' :: 'u' :: a :: b :: c :: d :: r =>
    match codePoint [a, b, c, d] with
    | some ch => consRead ch (basicBody r)
    | none => none
  | '\\' :: 'U' :: a :: b :: c :: d :: e :: f :: g :: h :: r =>
    match codePoint [a, b, c, d, e, f, g, h] with
    | some ch => consRead ch (basicBody r)
    | none => none
  | '\\' :: _ => none
  | c :: r => if isTextChar c then consRead c (basicBody r) else none

/-- The rest of a literal string on one line, after its opening quote. -/
def literalBody : List Char → Option (List Char × List Char)
  | [] => none
  | '\'' :: r => some ([], r)
  | c :: r => if isTextChar c then consRead c (literalBody r) else none

/-- Whether the character is white space or a line break, as a line-ending backslash trims. -/
def isTrimmed (c : Char) : Bool := c = ' ' || c = '\t' || c = '\n' || c = '\r'

/-- The closing delimiter of a multi-line string of quote `q` and up to two quotes before it,
which belong to the string. -/
def closeMultiline (q : Char) (r : List Char) : List Char × List Char :=
  match r with
  | a :: b :: rest => if a = q && b = q then ([q, q], rest) else if a = q then ([q], b :: rest) else ([], r)
  | [a] => if a = q then ([q], []) else ([], r)
  | [] => ([], [])

/-- The rest of a multi-line basic string, after its opening delimiter and the line break that
may follow it; `fuel` bounds the characters read. -/
def multilineBasicBody : Nat → List Char → Option (List Char × List Char)
  | 0, _ => none
  | _ + 1, [] => none
  | _ + 1, '"' :: '"' :: '"' :: r => some (closeMultiline '"' r)
  | f + 1, '\\' :: r =>
    match afterNewline (skipBlanks r) with
    | some rest => multilineBasicBody f (rest.dropWhile isTrimmed)
    | none =>
      match escape r with
      | some (c, rest) => consRead c (multilineBasicBody f rest)
      | none => none
  | f + 1, '\r' :: '\n' :: r => consRead '\n' (multilineBasicBody f r)
  | f + 1, c :: r =>
    if c = '\n' || isTextChar c then consRead c (multilineBasicBody f r) else none

/-- The rest of a multi-line literal string, after its opening delimiter and the line break
that may follow it; `fuel` bounds the characters read. -/
def multilineLiteralBody : Nat → List Char → Option (List Char × List Char)
  | 0, _ => none
  | _ + 1, [] => none
  | _ + 1, '\'' :: '\'' :: '\'' :: r => some (closeMultiline '\'' r)
  | f + 1, '\r' :: '\n' :: r => consRead '\n' (multilineLiteralBody f r)
  | f + 1, c :: r =>
    if c = '\n' || isTextChar c then consRead c (multilineLiteralBody f r) else none

/-- The input without one line break at its start. -/
def dropFirstNewline (s : List Char) : List Char :=
  (afterNewline s).getD s

/-- Whether the digits, of which `isDigit` tells, come in groups split by single underscores. -/
def isDigitGroups (isDigit : Char → Bool) : List Char → Bool
  | [] => false
  | [c] => isDigit c
  | c :: '_' :: r => isDigit c && isDigitGroups isDigit r
  | c :: r => isDigit c && isDigitGroups isDigit r

/-- The value of digits in the base, underscores skipped. -/
def digitsValue (base : Nat) (s : List Char) : Nat :=
  (s.filter (· ≠ '_')).foldl (fun n c => base * n + ((hexValue c).getD 0)) 0

/-- Whether the character is an octal digit. -/
def isOctal (c : Char) : Bool := '0' ≤ c && c ≤ '7'

/-- Whether the character is a binary digit. -/
def isBinary (c : Char) : Bool := c = '0' || c = '1'

/-- Whether the character is a hexadecimal digit. -/
def isHex (c : Char) : Bool := (hexValue c).isSome

/-- A decimal integer without sign: `0`, or digit groups that do not start with `0`. -/
def isUnsignedDecimal : List Char → Bool
  | ['0'] => true
  | '0' :: _ => false
  | s => isDigitGroups Char.isDigit s

/-- The value of an integer token, if it is one and fits in 64 signed bits. -/
def integerValue (s : List Char) : Option Int :=
  let v : Option Int :=
    match s with
    | '0' :: 'x' :: r => if isDigitGroups isHex r then some (digitsValue 16 r) else none
    | '0' :: 'o' :: r => if isDigitGroups isOctal r then some (digitsValue 8 r) else none
    | '0' :: 'b' :: r => if isDigitGroups isBinary r then some (digitsValue 2 r) else none
    | '+' :: r => if isUnsignedDecimal r then some (digitsValue 10 r) else none
    | '-' :: r => if isUnsignedDecimal r then some (-(digitsValue 10 r : Int)) else none
    | r => if isUnsignedDecimal r then some (digitsValue 10 r) else none
  v.filter fun n => -Int.pow 2 63 ≤ n && n < Int.pow 2 63

/-- Whether the token is an exponent: `e` or `E`, an optional sign and digit groups. -/
def isExponent : List Char → Bool
  | c :: '+' :: r | c :: '-' :: r => (c = 'e' || c = 'E') && isDigitGroups Char.isDigit r
  | c :: r => (c = 'e' || c = 'E') && isDigitGroups Char.isDigit r
  | [] => false

/-- Whether the token, without sign, is a float: an integer part, then a fraction, an exponent
or both, or `inf` or `nan`. -/
def isUnsignedFloat (s : List Char) : Bool :=
  s = "inf".toList || s = "nan".toList ||
    (let intPart := s.takeWhile fun c => c.isDigit || c = '_'
     let rest := s.drop intPart.length
     isUnsignedDecimal intPart &&
       match rest with
       | '.' :: r =>
         let frac := r.takeWhile fun c => c.isDigit || c = '_'
         isDigitGroups Char.isDigit frac && (r.drop frac.length = [] || isExponent (r.drop frac.length))
       | r => isExponent r)

/-- Whether the token is a float. -/
def isFloat : List Char → Bool
  | '+' :: r | '-' :: r => isUnsignedFloat r
  | r => isUnsignedFloat r

/-- The digits and the power of ten of a decimal float token without sign, underscores
dropped: `12.5e3` is `125` and `2`. -/
def decimalParts (s : List Char) : Nat × Int :=
  let s := s.filter (· ≠ '_')
  let intPart := s.takeWhile Char.isDigit
  let afterInt := s.drop intPart.length
  let (frac, rest) := match afterInt with
    | '.' :: r => (r.takeWhile Char.isDigit, r.dropWhile Char.isDigit)
    | r => ([], r)
  let exp : Int := match rest with
    | _ :: '-' :: ds => -(digitsValue 10 ds : Int)
    | _ :: '+' :: ds => digitsValue 10 ds
    | _ :: ds => digitsValue 10 ds
    | [] => 0
  (digitsValue 10 (intPart ++ frac), exp - frac.length)

/-- The least real number that rounds to infinity in double precision: halfway between the
largest finite double, `(2^53 - 1) * 2^971`, and `2^1024`. -/
def overflowThreshold : Nat := Nat.pow 2 970 * (Nat.pow 2 54 - 1)

/-- Whether `m * 10^e` rounds to infinity in double precision. Numbers of more than 309 digits
before the point do, numbers below `10^308` do not; in between the comparison is exact. -/
def roundsToInfinity (m : Nat) (e : Int) : Bool :=
  let digits : Int := (Nat.repr m).length
  if m = 0 then false
  else if digits + e > 309 then true
  else if digits + e ≤ 308 then false
  else if e ≥ 0 then m * Nat.pow 10 e.toNat ≥ overflowThreshold
  else m ≥ overflowThreshold * Nat.pow 10 (-e).toNat

/-- Whether a float token stands for a number too large for a double. Only the positive side is
refused: a negative number that overflows is read as minus infinity, and `inf` is a value. -/
def isPositiveOverflow : List Char → Bool
  | '-' :: _ => false
  | '+' :: r => isPositiveOverflow r
  | r => r ≠ "inf".toList && r ≠ "nan".toList &&
      let (m, e) := decimalParts r
      roundsToInfinity m e

/-- The value of exactly two decimal digits. -/
def twoDigits : List Char → Option Nat
  | [a, b] => if a.isDigit && b.isDigit then some (10 * (a.toNat - 48) + (b.toNat - 48)) else none
  | _ => none

/-- Whether the year is a leap year. -/
def isLeapYear (y : Nat) : Bool := y % 4 = 0 && (y % 100 ≠ 0 || y % 400 = 0)

/-- Whether the text is a date `YYYY-MM-DD` that exists. -/
def isDate (s : List Char) : Bool :=
  match s with
  | [y1, y2, y3, y4, '-', m1, m2, '-', d1, d2] =>
    [y1, y2, y3, y4].all Char.isDigit &&
      match twoDigits [m1, m2], twoDigits [d1, d2] with
      | some m, some d =>
        let y := digitsValue 10 [y1, y2, y3, y4]
        let maxDay := if m = 2 then (if isLeapYear y then 29 else 28)
          else if m = 4 || m = 6 || m = 9 || m = 11 then 30 else 31
        1 ≤ m && m ≤ 12 && 1 ≤ d && d ≤ maxDay
      | _, _ => false
  | _ => false

/-- Whether the text is a time `HH:MM:SS` with optional fraction of a second. -/
def isTime (s : List Char) : Bool :=
  match s with
  | h1 :: h2 :: ':' :: m1 :: m2 :: ':' :: s1 :: s2 :: frac =>
    (match twoDigits [h1, h2], twoDigits [m1, m2], twoDigits [s1, s2] with
      | some h, some m, some sec => h ≤ 23 && m ≤ 59 && sec ≤ 60
      | _, _, _ => false) &&
      match frac with
      | [] => true
      | '.' :: ds => !ds.isEmpty && ds.all Char.isDigit
      | _ => false
  | _ => false

/-- Whether the text is a time zone offset: `Z` or a signed `HH:MM`. -/
def isOffset : List Char → Bool
  | ['Z'] | ['z'] => true
  | [c, h1, h2, ':', m1, m2] =>
    (c = '+' || c = '-') &&
      match twoDigits [h1, h2], twoDigits [m1, m2] with
      | some h, some m => h ≤ 23 && m ≤ 59
      | _, _ => false
  | _ => false

/-- Whether the text is a time, optionally followed by an offset. -/
def isTimeWithOffset (s : List Char) : Bool :=
  let n := s.length
  isTime s || (List.range n).any fun i => isTime (s.take i) && isOffset (s.drop i)

/-- Whether the token is a date, a time, or a date and a time with an optional offset. -/
def isDateTime (s : List Char) : Bool :=
  isDate s || isTime s ||
    (isDate (s.take 10) &&
      match s.drop 10 with
      | c :: r => (c = 'T' || c = 't' || c = ' ') && isTimeWithOffset r
      | [] => false)

/-- Whether the character can be part of a number, boolean or date token. -/
def isTokenChar (c : Char) : Bool :=
  c.isAlphanum || c = '+' || c = '-' || c = '_' || c = '.' || c = ':'

/-- The token of a number, boolean or date at the start of the input; a date followed by a
space and a time is one token. -/
def bareToken (s : List Char) : List Char × List Char :=
  let t := s.takeWhile isTokenChar
  let rest := s.drop t.length
  match rest with
  | ' ' :: d :: r =>
    if isDate t && d.isDigit then
      let t2 := (d :: r).takeWhile isTokenChar
      (t ++ ' ' :: t2, (d :: r).drop t2.length)
    else (t, rest)
  | _ => (t, rest)

/-- The value of a number, boolean or date token. -/
def tokenValue (t : List Char) : Option Value :=
  if t = "true".toList then some (.boolean true)
  else if t = "false".toList then some (.boolean false)
  else match integerValue t with
    | some n => some (.integer n)
    | none =>
      if isFloat t then
        if isPositiveOverflow t then none else some (.float (String.ofList t))
      else if isDateTime t then some (.datetime (String.ofList t))
      else none

/-- Whether the character may stand in a bare key. -/
def isBareKeyChar (c : Char) : Bool :=
  (c.isAlphanum && c.toNat < 128) || c = '_' || c = '-'

/-- One key of a dotted key: bare, or a string on one line. -/
def simpleKey : List Char → Option (String × List Char)
  | '"' :: r => (basicBody r).map fun (cs, rest) => (String.ofList cs, rest)
  | '\'' :: r => (literalBody r).map fun (cs, rest) => (String.ofList cs, rest)
  | s =>
    let k := s.takeWhile isBareKeyChar
    if k.isEmpty then none else some (String.ofList k, s.drop k.length)

/-- How deep a document may go: a dotted key has fewer keys than this, and arrays and inline
tables nest fewer levels deep. -/
def nestingLimit : Nat := 80

/-- A dotted key: keys joined by dots with optional blanks around them; `fuel` bounds the
number of keys. -/
def dottedKey : Nat → List Char → Option (List String × List Char)
  | 0, _ => none
  | f + 1, s => do
    let (k, rest) ← simpleKey s
    match skipBlanks rest with
    | '.' :: r =>
      let (ks, rest) ← dottedKey f (skipBlanks r)
      pure (k :: ks, rest)
    | _ => pure ([k], rest)

/-- A dotted key of fewer than `nestingLimit` keys. -/
def keyPath (fuel : Nat) (s : List Char) : Option (List String × List Char) := do
  let (ks, rest) ← dottedKey fuel s
  if ks.length < nestingLimit then pure (ks, rest) else none

end TableDdl.Toml
