import ChatArchive.Json.Doc
import ChatArchive.Json.Quote
import ChatArchive.Numeral.Layout

namespace ChatArchive.Json

open ChatArchive.Numeral

/-- Numbers in JSON: `1.0`, `0.0001`, `1e-5`, `1e+16`, ties to even. -/
def numberLayout : Layout :=
  ⟨some (-5), some 16, true, true, .toEven, "null", "null"⟩

/-- The JSON text of a binary64 number; NaN and the infinities have none and become `null`. -/
def numberText (x : Double) : String :=
  if x.isFinite then numberLayout.render x else "null"

namespace Doc

/-
Each writer appends to the text written so far and hands it on, so a document is written in
time proportional to its text, however long its lists.
-/

mutual
def writeCompact (out : String) : Doc → String
  | .null => out ++ "null"
  | .bool b => out ++ (if b then "true" else "false")
  | .int n => out ++ toString n
  | .num x => out ++ numberText x
  | .str s => out ++ quote s
  | .arr items => writeItems (out ++ "[") items ++ "]"
  | .obj members => writeMembers (out ++ "\x7b") members ++ "\x7d"

def writeItems (out : String) : List Doc → String
  | [] => out
  | [d] => writeCompact out d
  | d :: rest => writeItems (writeCompact out d ++ ",") rest

def writeMembers (out : String) : List (String × Doc) → String
  | [] => out
  | [(k, d)] => writeCompact (out ++ quote k ++ ":") d
  | (k, d) :: rest => writeMembers (writeCompact (out ++ quote k ++ ":") d ++ ",") rest
end

def compact (d : Doc) : String := writeCompact "" d

def indent (level : Nat) : String := String.ofList (List.replicate (2 * level) ' ')

mutual
def writePretty (level : Nat) (out : String) : Doc → String
  | .arr [] => out ++ "[]"
  | .obj [] => out ++ "\x7b\x7d"
  | .arr items =>
    writePrettyItems (level + 1) (out ++ "[\n") items ++ "\n" ++ indent level ++ "]"
  | .obj members =>
    writePrettyMembers (level + 1) (out ++ "\x7b\n") members ++ "\n" ++ indent level ++ "\x7d"
  | d => writeCompact out d

def writePrettyItems (level : Nat) (out : String) : List Doc → String
  | [] => out
  | [d] => writePretty level (out ++ indent level) d
  | d :: rest => writePrettyItems level (writePretty level (out ++ indent level) d ++ ",\n") rest

def writePrettyMembers (level : Nat) (out : String) : List (String × Doc) → String
  | [] => out
  | [(k, d)] => writePretty level (out ++ indent level ++ quote k ++ ": ") d
  | (k, d) :: rest =>
    writePrettyMembers level (writePretty level (out ++ indent level ++ quote k ++ ": ") d ++ ",\n")
      rest
end

def pretty (level : Nat) (d : Doc) : String := writePretty level "" d

end Doc

end ChatArchive.Json
