import TableCatalog.Decimal.Layout
import TableCatalog.Json.Cursor
import TableCatalog.Text.Quoted

/-!
# What a JSON reader complains about

A complaint has a cause and a place. Most causes are breaches of the grammar; `mismatch` is the
one about meaning: a well-formed beginning of a value of another kind than the reader wants. The
wording of all of them is `Cause.words`, and a complaint's message adds the place.
-/

set_option autoImplicit false

namespace TableCatalog.Json

/-- The kind of value that was met where another was wanted. Lists and objects are refused at
their first character, so nothing of them is known. -/
inductive Found
  | null
  | boolean (b : Bool)
  | integer (n : Int)
  | float (x : Float)
  | text (cs : List Char)
  | list
  | object

inductive Wanted
  | text
  | object
deriving DecidableEq

inductive Cause
  | endInValue
  | endInObject
  | endInText
  | expectedValue
  | expectedLiteral
  | expectedColon
  | expectedCommaOrBrace
  | keyNotText
  | trailingComma
  | trailingCharacters
  | invalidNumber
  | numberOutOfRange
  | invalidEscape
  | controlCharacter
  | loneSurrogate
  | brokenSurrogatePair
  | mismatch (found : Found) (wanted : Wanted)

structure Complaint where
  cause : Cause
  place : Place

def Found.words : Found → String
  | .null => "null"
  | .boolean b => "boolean `" ++ (if b then "true" else "false") ++ "`"
  | .integer n => "integer `" ++ toString n ++ "`"
  | .float x => "floating point `" ++ String.ofList (Decimal.Layout.plain.writeFloat x) ++ "`"
  | .text cs => "string " ++ String.ofList (Text.quoted cs)
  | .list => "sequence"
  | .object => "map"

def Wanted.words : Wanted → String
  | .text => "a string"
  | .object => "a map"

def Cause.words : Cause → String
  | .endInValue => "EOF while parsing a value"
  | .endInObject => "EOF while parsing an object"
  | .endInText => "EOF while parsing a string"
  | .expectedValue => "expected value"
  | .expectedLiteral => "expected ident"
  | .expectedColon => "expected `:`"
  | .expectedCommaOrBrace => "expected `,` or `\x7d`"
  | .keyNotText => "key must be a string"
  | .trailingComma => "trailing comma"
  | .trailingCharacters => "trailing characters"
  | .invalidNumber => "invalid number"
  | .numberOutOfRange => "number out of range"
  | .invalidEscape => "invalid escape"
  | .controlCharacter => "control character (\\u0000-\\u001F) found while parsing a string"
  | .loneSurrogate => "lone leading surrogate in hex escape"
  | .brokenSurrogatePair => "unexpected end of hex escape"
  | .mismatch found wanted => "invalid type: " ++ found.words ++ ", expected " ++ wanted.words

/-- The message of a complaint: its wording and where it arose. -/
def Complaint.message (e : Complaint) : String :=
  e.cause.words ++ " at line " ++ toString e.place.line ++ " column " ++ toString e.place.column

end TableCatalog.Json
