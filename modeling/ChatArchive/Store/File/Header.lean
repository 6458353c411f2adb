import ChatArchive.Store.Table

namespace ChatArchive.Store.File

def byteAt (b : ByteArray) (i : Nat) : Nat :=
  if h : i < b.size then b[i].toNat else 0

def wordAt (b : ByteArray) (i n : Nat) : Nat :=
  (List.range n).foldl (fun acc k => acc * 256 + byteAt b (i + k)) 0

def magic : List Nat := "SQLite format 3".toList.map Char.toNat ++ [0]

structure Header where
  pageSize : Nat
  usableSize : Nat
  pageCount : Nat
  encoding : TextEncoding
  schemaFormat : Nat
  deriving DecidableEq, Repr

/-- The page size a header gives: two bytes, the second of them worth `2 ^ 16`, so that the
stored value 1 means 65536. -/
def pageSizeOf (b : ByteArray) : Nat := byteAt b 16 * 256 + byteAt b 17 * 65536

def validPageSize (n : Nat) : Bool := 256 < n && n ≤ 65536 && (n &&& (n - 1)) == 0

def filePages (size pageSize : Nat) : Nat := (size + pageSize - 1) / pageSize

def encodingOf (b : ByteArray) : TextEncoding :=
  match wordAt b 56 4 % 4 with
  | 2 => .utf16le
  | 3 => .utf16be
  | _ => .utf8

/-- Read the header of a non-empty file. -/
def Header.read? (b : ByteArray) : Except SqlError Header := do
  if (List.range 16).map (byteAt b) != magic then throw .notADatabase
  if byteAt b 19 > 2 then throw .notADatabase
  if byteAt b 21 != 64 || byteAt b 22 != 32 || byteAt b 23 != 32 then throw .notADatabase
  let pageSize := pageSizeOf b
  if !validPageSize pageSize then throw .notADatabase
  let usable := pageSize - byteAt b 20
  let inFile := filePages b.size pageSize
  let declared := wordAt b 28 4
  -- the declared count holds only when the change counter matches its stamp
  let count := if declared == 0 || wordAt b 24 4 != wordAt b 92 4 then inFile else declared
  if count > inFile then throw .corrupt
  if usable < 480 then throw .notADatabase
  -- the schema format is its low byte; above four the engine does not read it
  if byteAt b 47 > 4 then throw .unsupportedFormat
  return ⟨pageSize, usable, count, encodingOf b, max 1 (byteAt b 47)⟩

end ChatArchive.Store.File
