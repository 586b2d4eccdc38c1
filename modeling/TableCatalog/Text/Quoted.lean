import TableCatalog.Text.Quoted.Table

/-!
# Quoting a text for a message

A text shown inside a message stands between double quotes. Five characters have a short escape
(`\0`, `\t`, `\n`, `\r`, and the backslash and the double quote themselves); a character without
a visible form of its own is spelled `\u` with its code point in braces, in lower-case
hexadecimal without leading zeros. Every other character stands for itself, the single quote
among them.
-/

set_option autoImplicit false

namespace TableCatalog.Text

def quotedChar (c : Char) : List Char :=
  if c = '\x00' then ['\\', '0']
  else if c = '\t' then ['\\', 't']
  else if c = '\n' then ['\\', 'n']
  else if c = '\r' then ['\\', 'r']
  else if c = '"' then ['\\', '"']
  else if c = '\\' then ['\\', '\\']
  else if unprintedRanges.has c then
    ['\\', 'u', '\x7b'] ++ Nat.toDigits 16 c.toNat ++ ['\x7d']
  else [c]

def quoted (cs : List Char) : List Char :=
  ['"'] ++ cs.flatMap quotedChar ++ ['"']

end TableCatalog.Text
