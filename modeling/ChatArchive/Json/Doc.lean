import ChatArchive.Numeral.Double
/-!
JSON documents. An object is a list of members in order; `Doc.record` builds one the way an
insertion-ordered map does: a key met again keeps its first position and takes the last value.
-/
namespace ChatArchive.Json

open ChatArchive.Numeral

/-- A JSON document. Integers and binary64 numbers are kept apart, as they are written apart. -/
inductive Doc where
  | null
  | bool (b : Bool)
  | int (n : Int)
  | num (x : Double)
  | str (s : String)
  | arr (items : List Doc)
  | obj (members : List (String × Doc))
  deriving Inhabited

namespace Doc

/-- Put a member into an ordered member list: a present key keeps its place and takes the new
value, a new key goes last. -/
def put (members : List (String × Doc)) (key : String) (value : Doc) : List (String × Doc) :=
  if members.any (fun m => m.1 == key) then
    members.map fun m => if m.1 == key then (key, value) else m
  else members ++ [(key, value)]

def collect (entries : List (String × Doc)) : List (String × Doc) :=
  entries.foldl (fun acc e => put acc e.1 e.2) []

def record (entries : List (String × Doc)) : Doc := .obj (collect entries)

def optStr : Option String → Doc
  | some s => .str s
  | none => .null

end Doc

end ChatArchive.Json
