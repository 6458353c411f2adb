import ChatArchive.Json.Lexeme
import ChatArchive.Json.Doc

namespace ChatArchive.Json

namespace Cursor

mutual
def skipValue : Nat → Cursor → Except Fault Cursor
  | 0, c => .error (c.fault .recursionLimitExceeded)
  | fuel + 1, c =>
    let c := c.blanks
    match c.peek? with
    | none => .error (c.peekFault .eofWhileParsingValue)
    | some b =>
      match b with
      | 110 => (ident [117, 108, 108] c.bump).map Prod.snd
      | 116 => (ident [114, 117, 101] c.bump).map Prod.snd
      | 102 => (ident [97, 108, 115, 101] c.bump).map Prod.snd
      | 45 => skipNumber c.bump
      | 34 => skipStr c.bump
      | 91 => skipItems fuel c.bump
      | 123 => skipMembers fuel c.bump
      | _ => if isDigit b then skipNumber c else .error (c.peekFault .expectedSomeValue)

def skipItems : Nat → Cursor → Except Fault Cursor
  | 0, c => .error (c.fault .recursionLimitExceeded)
  | fuel + 1, c =>
    let c := c.blanks
    match c.peek? with
    | none => .error (c.peekFault .eofWhileParsingList)
    | some 93 => .ok c.bump
    | some _ => skipItemsAfterFirst fuel c

def skipItemsAfterFirst : Nat → Cursor → Except Fault Cursor
  | 0, c => .error (c.fault .recursionLimitExceeded)
  | fuel + 1, c =>
    match skipValue fuel c with
    | .error e => .error e
    | .ok c =>
      let c := c.blanks
      match c.peek? with
      | some 44 => skipItemsAfterFirst fuel c.bump
      | some 93 => .ok c.bump
      | some _ => .error (c.peekFault .expectedListCommaOrEnd)
      | none => .error (c.peekFault .eofWhileParsingList)

def skipMembers : Nat → Cursor → Except Fault Cursor
  | 0, c => .error (c.fault .recursionLimitExceeded)
  | fuel + 1, c =>
    let c := c.blanks
    match c.peek? with
    | none => .error (c.peekFault .eofWhileParsingObject)
    | some 125 => .ok c.bump
    | some _ => skipMembersAfterFirst fuel c

def skipMembersAfterFirst : Nat → Cursor → Except Fault Cursor
  | 0, c => .error (c.fault .recursionLimitExceeded)
  | fuel + 1, c =>
    let c := c.blanks
    match c.peek? with
    | none => .error (c.peekFault .eofWhileParsingValue)
    | some 34 =>
      match skipStr c.bump with
      | .error e => .error e
      | .ok c =>
        let c := c.blanks
        match c.peek? with
        | some 58 =>
          match skipValue fuel c.bump with
          | .error e => .error e
          | .ok c =>
            let c := c.blanks
            match c.peek? with
            | some 44 => skipMembersAfterFirst fuel c.bump
            | some 125 => .ok c.bump
            | some _ => .error (c.peekFault .expectedObjectCommaOrEnd)
            | none => .error (c.peekFault .eofWhileParsingObject)
        | some _ => .error (c.peekFault .expectedColon)
        | none => .error (c.peekFault .eofWhileParsingObject)
    | some _ => .error (c.peekFault .keyMustBeAString)
end

/-- Past one value. The fuel is the length of the text: each level of nesting and each item
takes at least one byte. -/
def skip (c : Cursor) : Except Fault Cursor := skipValue (2 * c.rest.length + 2) c

end Cursor

namespace Doc

def ofNumber : Number → Doc
  | .unsigned n => .int n
  | .signed n => .int n
  | .float x => .num x

mutual
/-- One document, with `depth` levels of nesting left and at most `fuel` steps. -/
def readValue : Nat → Nat → Cursor → Except Fault (Doc × Cursor)
  | 0, _, c => .error (c.fault .recursionLimitExceeded)
  | fuel + 1, depth, c =>
    let c := c.blanks
    match c.peek? with
    | none => .error (c.peekFault .eofWhileParsingValue)
    | some b =>
      match b with
      | 110 => (Cursor.ident [117, 108, 108] c.bump).map fun (_, c') => (.null, c')
      | 116 => (Cursor.ident [114, 117, 101] c.bump).map fun (_, c') => (.bool true, c')
      | 102 => (Cursor.ident [97, 108, 115, 101] c.bump).map fun (_, c') => (.bool false, c')
      | 45 => (Cursor.number false c.bump).map fun (n, c') => (ofNumber n, c')
      | 34 => (Cursor.str c.bump).map fun (s, c') => (.str s, c')
      | 91 =>
        if depth ≤ 1 then .error (c.peekFault .recursionLimitExceeded)
        else (readItems fuel (depth - 1) [] true c.bump).map fun (xs, c') => (.arr xs, c')
      | 123 =>
        if depth ≤ 1 then .error (c.peekFault .recursionLimitExceeded)
        else (readMembers fuel (depth - 1) [] true c.bump).map fun (ms, c') => (.obj (collect ms), c')
      | _ =>
        if isDigit b then (Cursor.number true c).map fun (n, c') => (ofNumber n, c')
        else .error (c.peekFault .expectedSomeValue)

def readItems : Nat → Nat → List Doc → Bool → Cursor → Except Fault (List Doc × Cursor)
  | 0, _, _, _, c => .error (c.fault .recursionLimitExceeded)
  | fuel + 1, depth, acc, first, c =>
    let c := c.blanks
    match c.peek? with
    | none => .error (c.peekFault .eofWhileParsingList)
    | some 93 =>
      if first then .ok (acc.reverse, c.bump)
      else .ok (acc.reverse, c.bump)
    | some b =>
      let next : Except Fault Cursor :=
        if first then .ok c
        else if b == 44 then .ok c.bump.blanks
        else .error (c.peekFault .expectedListCommaOrEnd)
      match next with
      | .error e => .error e
      | .ok c =>
        match c.peek? with
        | some 93 => .error (c.peekFault .trailingComma)
        | none => .error (c.peekFault .eofWhileParsingValue)
        | some _ =>
          match readValue fuel depth c with
          | .error e => .error e
          | .ok (d, c) => readItems fuel depth (d :: acc) false c

def readMembers : Nat → Nat → List (String × Doc) → Bool → Cursor →
    Except Fault (List (String × Doc) × Cursor)
  | 0, _, _, _, c => .error (c.fault .recursionLimitExceeded)
  | fuel + 1, depth, acc, first, c =>
    let c := c.blanks
    match c.peek? with
    | none => .error (c.peekFault .eofWhileParsingObject)
    | some 125 => .ok (acc.reverse, c.bump)
    | some b =>
      let next : Except Fault Cursor :=
        if first then .ok c
        else if b == 44 then .ok c.bump.blanks
        else .error (c.peekFault .expectedObjectCommaOrEnd)
      match next with
      | .error e => .error e
      | .ok c =>
        match c.peek? with
        | some 34 =>
          match Cursor.str c.bump with
          | .error e => .error e
          | .ok (k, c) =>
            let c := c.blanks
            match c.peek? with
            | some 58 =>
              match readValue fuel depth c.bump with
              | .error e => .error e
              | .ok (d, c) => readMembers fuel depth ((k, d) :: acc) false c
            | some _ => .error (c.peekFault .expectedColon)
            | none => .error (c.peekFault .eofWhileParsingObject)
        | some 125 => .error (c.peekFault .trailingComma)
        | some _ => .error (c.peekFault .keyMustBeAString)
        | none => .error (c.peekFault .eofWhileParsingValue)
end

def parse (input : List UInt8) : Except Fault Doc :=
  match readValue (2 * input.length + 2) 128 (Cursor.start input) with
  | .error e => .error e
  | .ok (d, c) =>
    let c := c.blanks
    if c.rest.isEmpty then .ok d else .error (c.peekFault .trailingCharacters)

end Doc

end ChatArchive.Json
