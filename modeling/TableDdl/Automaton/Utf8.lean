/-!
# UTF-8 sequences of a range of code points

In UTF-8 the characters of a range of code points are the byte strings of a few *sequences*:
lists of byte ranges, all of one length, whose strings are exactly the products of their ranges.
`utf8Sequences lo hi` splits the range `lo..hi` into such sequences, in increasing order: at the
surrogates, which have no encoding; where the encoded length changes; and wherever a range of
trailing bytes would not run over all 64 continuation bytes. An automaton that reads UTF-8
spends one state per byte range of such a sequence.
-/

namespace TableDdl.Automaton

/-- A range of byte values, both ends included. -/
structure ByteRange where
  lo : Nat
  hi : Nat
  deriving BEq, DecidableEq, Repr

/-- The UTF-8 encoding of a code point below `0x110000`. -/
def utf8Bytes (n : Nat) : List Nat :=
  if n < 0x80 then [n]
  else if n < 0x800 then [0xC0 + n / 64, 0x80 + n % 64]
  else if n < 0x10000 then [0xE0 + n / 4096, 0x80 + n / 64 % 64, 0x80 + n % 64]
  else [0xF0 + n / 262144, 0x80 + n / 4096 % 64, 0x80 + n / 64 % 64, 0x80 + n % 64]

/-- The number of bytes that encode a code point. -/
def utf8Length (n : Nat) : Nat :=
  if n < 0x80 then 1 else if n < 0x800 then 2 else if n < 0x10000 then 3 else 4

/-- The last code point of one, two and three bytes. -/
def lengthBoundaries : List Nat := [0x7F, 0x7FF, 0xFFFF]

/-- Whether the range `lo..hi` has to be split at the blocks of `64 ^ i` code points: it
spans two of them and does not cover whole blocks at one of its ends. -/
def straddles (lo hi i : Nat) : Bool :=
  let w := Nat.pow 64 i
  lo / w != hi / w && (lo % w != 0 || hi % w != w - 1)

/-- The sequences of the range `lo..hi`; `fuel` bounds the depth of the splitting. -/
def splitSequences : Nat → Nat → Nat → List (List ByteRange)
  | 0, _, _ => []
  | fuel + 1, lo, hi =>
    if hi < lo then []
    else if lo < 0xE000 ∧ 0xD7FF < hi then
      splitSequences fuel lo 0xD7FF ++ splitSequences fuel 0xE000 hi
    else
      match lengthBoundaries.find? (fun m => lo ≤ m && m < hi) with
      | some m => splitSequences fuel lo m ++ splitSequences fuel (m + 1) hi
      | none =>
        if hi ≤ 0x7F then [[⟨lo, hi⟩]]
        else
          match [1, 2, 3].find? (straddles lo hi) with
          | some i =>
            let w := Nat.pow 64 i
            if lo % w != 0 then
              splitSequences fuel lo (lo / w * w + w - 1) ++ splitSequences fuel (lo / w * w + w) hi
            else splitSequences fuel lo (hi / w * w - 1) ++ splitSequences fuel (hi / w * w) hi
          | none => [List.zipWith ByteRange.mk (utf8Bytes lo) (utf8Bytes hi)]

/-- The sequences of the range `lo..hi` of code points, in increasing order. Splitting goes at
most one level deep for the surrogates, three for the lengths and two for each of the three
kinds of trailing byte, so twenty levels are more than enough. -/
def utf8Sequences (lo hi : Nat) : List (List ByteRange) :=
  splitSequences 20 lo hi

end TableDdl.Automaton
