import ChatArchive.Json.Read
import ChatArchive.Json.Print
import ChatArchive.Inspect
import ChatArchive.Text.Unicode
/-!
Inspector settings: the database file, the output format and whether deleted records are left
out. They are read from a JSON object (or an array of the three values in that order); a missing
member keeps its default and an unknown one is checked for syntax and ignored.

Reading stops at the first fault, which is reported at the byte where the reader stood: a value
of the wrong type names what was found and what was expected, a repeated member is refused at its
key, an unknown format names the two known ones, and anything after the document is refused.
-/
namespace ChatArchive

open ChatArchive.Json

inductive OutputFormat where
  | text
  | json
  deriving DecidableEq, Repr

namespace OutputFormat

def name : OutputFormat → String
  | .text => "text"
  | .json => "json"

def ofName (s : String) : Except Problem OutputFormat :=
  match s.map Char.toLower with
  | "text" => .ok .text
  | "json" => .ok .json
  | other => .error (.config s!"unknown output format '{other}' (expected text or json)")

end OutputFormat

structure Settings where
  database : String
  format : OutputFormat
  hideDeletedNodes : Bool
  deriving DecidableEq, Repr

namespace Settings

/-- The defaults: `chat.db` in the working directory, text, deleted records shown. -/
def default : Settings := ⟨"chat.db", .text, false⟩

def codeEscape (c : Char) : String :=
  "\\u" ++ "\x7b" ++ String.ofList (Nat.toDigits 16 c.toNat) ++ "\x7d"

def quoted (s : String) : String :=
  let esc (c : Char) : String :=
    if c = '"' then "\\\"" else if c = '\\' then "\\\\"
    else if c = '\t' then "\\t" else if c = '\n' then "\\n" else if c = '\r' then "\\r"
    else if c.toNat = 0 then "\\0"
    else if Text.isGraphemeExtend c || !Text.isPrintable c then codeEscape c
    else c.toString
  "\"" ++ String.join (s.toList.map esc) ++ "\""

inductive Found where
  | null
  | bool (b : Bool)
  | number (n : Number)
  | str (s : String)
  | seq
  | map

def Found.text : Found → String
  | .null => "null"
  | .bool b => s!"boolean `{b}`"
  | .number (.unsigned n) => s!"integer `{n}`"
  | .number (.signed n) => s!"integer `{n}`"
  | .number (.float x) => "floating point `" ++ numberText x ++ "`"
  | .str s => "string " ++ quoted s
  | .seq => "sequence"
  | .map => "map"

def invalidType (found : Found) (expected : String) (c : Cursor) : Fault :=
  ⟨s!"invalid type: {found.text}, expected {expected}", c.index⟩

def wrongType (expected : String) (c : Cursor) : Fault :=
  let found (f : Found) (c' : Cursor) : Fault := invalidType f expected c'
  match c.peek? with
  | some 110 =>
    match Cursor.ident [117, 108, 108] c.bump with
    | .ok (_, c') => found .null c'
    | .error e => e
  | some 116 =>
    match Cursor.ident [114, 117, 101] c.bump with
    | .ok (_, c') => found (.bool true) c'
    | .error e => e
  | some 102 =>
    match Cursor.ident [97, 108, 115, 101] c.bump with
    | .ok (_, c') => found (.bool false) c'
    | .error e => e
  | some 45 =>
    match Cursor.number false c.bump with
    | .ok (n, c') => found (.number n) c'
    | .error e => e
  | some 34 =>
    match Cursor.str c.bump with
    | .ok (s, c') => found (.str s) c'
    | .error e => e
  | some 91 => found .seq c
  | some 123 => found .map c
  | some b =>
    if isDigit b then
      match Cursor.number true c with
      | .ok (n, c') => found (.number n) c'
      | .error e => e
    else c.peekFault .expectedSomeValue
  | none => c.peekFault .expectedSomeValue

def readPath : Scan String := fun c =>
  let c := c.blanks
  match c.peek? with
  | none => .error (c.peekFault .eofWhileParsingValue)
  | some 34 => Cursor.str c.bump
  | some _ => .error (wrongType "path string" c)

def readFlag : Scan Bool := fun c =>
  let c := c.blanks
  match c.peek? with
  | none => .error (c.peekFault .eofWhileParsingValue)
  | some 116 => (Cursor.ident [114, 117, 101] c.bump).map fun (_, c') => (true, c')
  | some 102 => (Cursor.ident [97, 108, 115, 101] c.bump).map fun (_, c') => (false, c')
  | some _ => .error (wrongType "a boolean" c)

def variant (name : String) (c : Cursor) : Except Fault OutputFormat :=
  match name with
  | "text" => .ok .text
  | "json" => .ok .json
  | other => .error ⟨s!"unknown variant `{other}`, expected `text` or `json`", c.index⟩

def unitAfterVariant : Scan Unit := fun c =>
  let c := c.blanks
  match c.peek? with
  | some 58 =>
    let c := c.bump.blanks
    match c.peek? with
    | none => .error (c.peekFault .eofWhileParsingValue)
    | some 110 => Cursor.ident [117, 108, 108] c.bump
    | some _ => .error (wrongType "unit" c)
  | some _ => .error (c.peekFault .expectedColon)
  | none => .error (c.peekFault .eofWhileParsingObject)

def readFormat : Scan OutputFormat := fun c =>
  let c := c.blanks
  match c.peek? with
  | some 34 =>
    match Cursor.str c.bump with
    | .error e => .error e
    | .ok (s, c') => (variant s c').map fun f => (f, c')
  | some 123 =>
    let c := c.bump.blanks
    let key : Except Fault (OutputFormat × Cursor) :=
      match c.peek? with
      | none => .error (c.peekFault .eofWhileParsingValue)
      | some 34 =>
        match Cursor.str c.bump with
        | .error e => .error e
        | .ok (s, c') => (variant s c').map fun f => (f, c')
      | some _ => .error (wrongType "variant identifier" c)
    match key with
    | .error e => .error e
    | .ok (f, c) =>
      match unitAfterVariant c with
      | .error e => .error e
      | .ok (_, c) =>
        let c := c.blanks
        match c.peek? with
        | some 125 => .ok (f, c.bump)
        | some _ => .error (c.fault .expectedSomeValue)
        | none => .error (c.fault .eofWhileParsingObject)
  | some _ => .error (c.peekFault .expectedSomeValue)
  | none => .error (c.peekFault .eofWhileParsingValue)

structure Partial where
  database : Option String := none
  format : Option OutputFormat := none
  hideDeletedNodes : Option Bool := none

def Partial.complete (p : Partial) : Settings :=
  ⟨p.database.getD default.database, p.format.getD default.format,
    p.hideDeletedNodes.getD default.hideDeletedNodes⟩

def colon (c : Cursor) : Except Fault Cursor :=
  let c := c.blanks
  match c.peek? with
  | some 58 => .ok c.bump
  | some _ => .error (c.peekFault .expectedColon)
  | none => .error (c.peekFault .eofWhileParsingObject)

/-- Where a fault without a place of its own is reported: past the blanks after the reader's
position, and past a closing `}` there. -/
def closingPlace (c : Cursor) : Nat :=
  let c := c.blanks
  match c.peek? with
  | some 125 => c.index + 1
  | _ => c.index

/-- The value of a member, after its key. A repeated member is refused before its value is
read. -/
def member (p : Partial) (key : String) (c : Cursor) : Except Fault (Partial × Cursor) :=
  let dup (name : String) : Fault := ⟨s!"duplicate field `{name}`", closingPlace c⟩
  match key with
  | "database" =>
    if p.database.isSome then .error (dup key)
    else do let (v, c) ← readPath (← colon c); return ({ p with database := some v }, c)
  | "format" =>
    if p.format.isSome then .error (dup key)
    else do let (v, c) ← readFormat (← colon c); return ({ p with format := some v }, c)
  | "hide_deleted_nodes" =>
    if p.hideDeletedNodes.isSome then .error (dup key)
    else do let (v, c) ← readFlag (← colon c); return ({ p with hideDeletedNodes := some v }, c)
  | _ => do return (p, ← Cursor.skip (← colon c))

def members : Nat → Partial → Bool → Scan Partial
  | 0, _, _, c => .error (c.fault .recursionLimitExceeded)
  | fuel + 1, p, first, c =>
    let c := c.blanks
    match c.peek? with
    | some 125 => .ok (p, c.bump)
    | none => .error (c.peekFault .eofWhileParsingObject)
    | some b =>
      let next : Except Fault Cursor :=
        if first then .ok c
        else if b == 44 then .ok c.bump.blanks
        else .error (c.peekFault .expectedObjectCommaOrEnd)
      match next with
      | .error e => .error e
      | .ok c =>
        match c.peek? with
        | some 34 =>
          match Cursor.str c.bump with
          | .error e => .error e
          | .ok (k, c) =>
            match member p k c with
            | .error e => .error e
            | .ok (p, c) => members fuel p false c
        | some 125 => .error (c.peekFault .trailingComma)
        | some _ => .error (c.peekFault .keyMustBeAString)
        | none => .error (c.peekFault .eofWhileParsingValue)

def element {α : Type} (read : Scan α) (first : Bool) : Scan (Option α) := fun c =>
  let c := c.blanks
  match c.peek? with
  | some 93 => .ok (none, c)
  | none => .error (c.peekFault .eofWhileParsingList)
  | some b =>
    let next : Except Fault Cursor :=
      if first then .ok c
      else if b == 44 then .ok c.bump.blanks
      else .error (c.peekFault .expectedListCommaOrEnd)
    match next with
    | .error e => .error e
    | .ok c =>
      match c.peek? with
      | some 93 => .error (c.peekFault .trailingComma)
      | none => .error (c.peekFault .eofWhileParsingValue)
      | some _ => (read c).map fun (a, c') => (some a, c')

def elements : Scan Settings := fun c => do
  let (d, c) ← element readPath true c
  let (f, c) ← element readFormat d.isNone c
  let (h, c) ← element readFlag (d.isNone && f.isNone) c
  let settings := ({ database := d, format := f, hideDeletedNodes := h } : Partial).complete
  let c := c.blanks
  match c.peek? with
  | some 93 => return (settings, c.bump)
  | some 44 =>
    let c := c.bump.blanks
    match c.peek? with
    | some 93 => throw (c.peekFault .trailingComma)
    | _ => throw (c.peekFault .trailingCharacters)
  | some _ => throw (c.peekFault .trailingCharacters)
  | none => throw (c.peekFault .eofWhileParsingList)

/-- Settings from a JSON text. -/
def read (input : List UInt8) : Except Fault Settings := do
  let c := (Cursor.start input).blanks
  let (s, c) ← match c.peek? with
    | none => throw (c.peekFault .eofWhileParsingValue)
    | some 123 => (members (input.length + 1) {} true c.bump).map fun (p, c') => (p.complete, c')
    | some 91 => elements c.bump
    | some _ => throw (wrongType "struct InspectorConfig" c)
  let c := c.blanks
  if c.rest.isEmpty then return s else throw (c.peekFault .trailingCharacters)

inductive LoadError where
  | unreadable (path : String)
  | unparsable (path : String) (detail : String)
  deriving DecidableEq, Repr

def LoadError.message : LoadError → String
  | .unreadable path => s!"Failed to read config file: {quoted path}: No such file or directory (os error 2)"
  | .unparsable path detail => s!"Failed to parse config file: {quoted path}: {detail}"

def load (path : String) : Option (List UInt8) → Except LoadError Settings
  | none => .error (.unreadable path)
  | some bytes =>
    match read bytes with
    | .ok s => .ok s
    | .error f => .error (.unparsable path (f.render bytes))

end Settings

end ChatArchive
