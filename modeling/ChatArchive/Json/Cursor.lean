namespace ChatArchive.Json

structure Cursor where
  rest : List UInt8
  index : Nat
  deriving DecidableEq, Repr

inductive Code where
  | eofWhileParsingList
  | eofWhileParsingObject
  | eofWhileParsingString
  | eofWhileParsingValue
  | expectedColon
  | expectedListCommaOrEnd
  | expectedObjectCommaOrEnd
  | expectedSomeIdent
  | expectedSomeValue
  | invalidEscape
  | invalidNumber
  | numberOutOfRange
  | controlCharacterWhileParsingString
  | keyMustBeAString
  | loneLeadingSurrogateInHexEscape
  | trailingComma
  | trailingCharacters
  | unexpectedEndOfHexEscape
  | recursionLimitExceeded
  deriving DecidableEq, Repr

def Code.message : Code → String
  | .eofWhileParsingList => "EOF while parsing a list"
  | .eofWhileParsingObject => "EOF while parsing an object"
  | .eofWhileParsingString => "EOF while parsing a string"
  | .eofWhileParsingValue => "EOF while parsing a value"
  | .expectedColon => "expected `:`"
  | .expectedListCommaOrEnd => "expected `,` or `]`"
  | .expectedObjectCommaOrEnd => "expected `,` or `\x7d`"
  | .expectedSomeIdent => "expected ident"
  | .expectedSomeValue => "expected value"
  | .invalidEscape => "invalid escape"
  | .invalidNumber => "invalid number"
  | .numberOutOfRange => "number out of range"
  | .controlCharacterWhileParsingString =>
    "control character (\\u0000-\\u001F) found while parsing a string"
  | .keyMustBeAString => "key must be a string"
  | .loneLeadingSurrogateInHexEscape => "lone leading surrogate in hex escape"
  | .trailingComma => "trailing comma"
  | .trailingCharacters => "trailing characters"
  | .unexpectedEndOfHexEscape => "unexpected end of hex escape"
  | .recursionLimitExceeded => "recursion limit exceeded"

structure Fault where
  message : String
  index : Nat
  deriving DecidableEq, Repr

/-- Line (from 1) and column (bytes since the last line feed) of a byte index. -/
def position (input : List UInt8) (index : Nat) : Nat × Nat :=
  let before := input.take index
  let lineStart := before.length - (before.reverse.takeWhile (· != 10)).length
  (1 + ((before.take lineStart).filter (· == 10)).length, index - lineStart)

def Fault.render (f : Fault) (input : List UInt8) : String :=
  let (line, column) := position input f.index
  s!"{f.message} at line {line} column {column}"

abbrev Scan (α : Type) := Cursor → Except Fault (α × Cursor)

namespace Cursor

def start (input : List UInt8) : Cursor := ⟨input, 0⟩

def peek? (c : Cursor) : Option UInt8 := c.rest.head?

def bump (c : Cursor) : Cursor := ⟨c.rest.drop 1, c.index + 1⟩

def fault (c : Cursor) (code : Code) : Fault := ⟨code.message, c.index⟩

/-- A fault at the byte after the one the cursor looks at (at the cursor at the end). -/
def peekFault (c : Cursor) (code : Code) : Fault :=
  ⟨code.message, if c.rest.isEmpty then c.index else c.index + 1⟩

def isBlank (b : UInt8) : Bool := b == 32 || b == 10 || b == 9 || b == 13

def blanks (c : Cursor) : Cursor :=
  let n := (c.rest.takeWhile isBlank).length
  ⟨c.rest.drop n, c.index + n⟩

def ident : List UInt8 → Scan Unit
  | [], c => .ok ((), c)
  | w :: ws, c =>
    match c.rest with
    | [] => .error (c.fault .eofWhileParsingValue)
    | b :: _ => if b == w then ident ws c.bump else .error (c.bump.fault .expectedSomeIdent)

def digits (c : Cursor) : List UInt8 × Cursor :=
  let ds := c.rest.takeWhile fun b => 48 ≤ b && b ≤ 57
  (ds, ⟨c.rest.drop ds.length, c.index + ds.length⟩)

end Cursor

def isDigit (b : UInt8) : Bool := 48 ≤ b && b ≤ 57

end ChatArchive.Json
