/-!
# File name patterns, as tokens

A pattern is a list of tokens and describes a set of *byte strings*: names are matched in their
UTF-8 form, so "one of anything" is one byte, and a character class holds bytes. The slash is
special only as a separator: `anyByte` and `star` never match it, while a class may.

    literal bs      the bytes bs
    anyByte         one byte other than the slash
    star            any run without a slash
    leadingDirs     nothing, or anything up to and including a slash
    middleDirs      a slash, or two slashes with anything between them
    trailingDirs    a slash and anything behind it
    oneOf / noneOf  one byte in, or not in, some ranges
    group           any of several token lists
-/

set_option autoImplicit false

namespace TableCatalog.Glob

def slash : UInt8 := 0x2F

/-- Ranges of bytes, both ends included. -/
abbrev ByteRanges := List (UInt8 × UInt8)

def ByteRanges.has (rs : ByteRanges) (b : UInt8) : Bool :=
  rs.any fun r => decide (r.1 ≤ b) && decide (b ≤ r.2)

inductive Token where
  | literal (bytes : List UInt8)
  | anyByte
  | star
  | leadingDirs
  | middleDirs
  | trailingDirs
  | oneOf (ranges : ByteRanges)
  | noneOf (ranges : ByteRanges)
  | group (branches : List (List Token))

def bytesOf (cs : List Char) : List UInt8 := cs.flatMap String.utf8EncodeChar

def Token.ofChar (c : Char) : Token := .literal (String.utf8EncodeChar c)

def singles (bs : List UInt8) : ByteRanges := bs.map fun b => (b, b)

/-- The bytes that a range of characters contributes to a class: those of its two ends, and
everything from the last byte of the first to the first byte of the second. For characters of one
byte this is the range itself. -/
def rangeBytes (first last : Char) : ByteRanges :=
  let a := String.utf8EncodeChar first
  let b := String.utf8EncodeChar last
  if first = last then singles a
  else
    match a.getLast?, b with
    | some low, high :: more => singles a.dropLast ++ [(low, high)] ++ singles more
    | _, _ => []

end TableCatalog.Glob
