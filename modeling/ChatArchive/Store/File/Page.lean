import ChatArchive.Store.File.Header

namespace ChatArchive.Store.File

def pageBytes (file : ByteArray) (h : Header) (n : Nat) : ByteArray :=
  let b := file.extract ((n - 1) * h.pageSize) (n * h.pageSize)
  if b.size < h.pageSize then b ++ ⟨Array.replicate (h.pageSize - b.size) 0⟩ else b

def varintFrom : Nat → Nat → ByteArray → Nat → Nat × Nat
  | 0, acc, _, i => (acc, i)
  | left + 1, acc, b, i =>
    let x := byteAt b i
    if left = 0 then (acc * 256 + x, i + 1)
    else if x < 128 then (acc * 128 + x, i + 1)
    else varintFrom left (acc * 128 + (x - 128)) b (i + 1)

def varintAt (b : ByteArray) (i : Nat) : Nat × Nat := varintFrom 9 0 b i

def signed64 (n : Nat) : Int := if n < Nat.pow 2 63 then n else (n : Int) - Int.pow 2 64

inductive PageKind where
  | tableInterior
  | tableLeaf
  | indexInterior
  | indexLeaf
  deriving DecidableEq, Repr

def PageKind.ofByte? : Nat → Option PageKind
  | 5 => some .tableInterior
  | 13 => some .tableLeaf
  | 2 => some .indexInterior
  | 10 => some .indexLeaf
  | _ => none

def PageKind.isTable : PageKind → Bool
  | .tableInterior | .tableLeaf => true
  | _ => false

def PageKind.isLeaf : PageKind → Bool
  | .tableLeaf | .indexLeaf => true
  | _ => false

structure Page where
  bytes : ByteArray
  start : Nat
  kind : PageKind
  cells : Nat

def readPage (file : ByteArray) (h : Header) (n : Nat) : Except SqlError Page := do
  if n = 0 ∨ n > h.pageCount then throw .corrupt
  let bytes := pageBytes file h n
  let start := if n = 1 then 100 else 0
  let some kind := PageKind.ofByte? (byteAt bytes start) | throw .corrupt
  let cells := wordAt bytes (start + 3) 2
  if cells > (h.pageSize - 8) / 6 then throw .corrupt
  return ⟨bytes, start, kind, cells⟩

def Page.cellAt (p : Page) (h : Header) (i : Nat) : Nat :=
  let headerSize := if p.kind.isLeaf then 8 else 12
  wordAt p.bytes (p.start + headerSize + 2 * i) 2 % h.pageSize

def Page.childAt (p : Page) (i : Nat) : Nat := wordAt p.bytes i 4

def Page.rightmost (p : Page) : Nat := wordAt p.bytes (p.start + 8) 4

/-- How many bytes of a payload stay on a page of the given kind; the rest overflows. -/
def localSize (h : Header) (kind : PageKind) (payload : Nat) : Nat :=
  let u := h.usableSize
  let maxLocal := if kind.isTable then u - 35 else (u - 12) * 64 / 255 - 23
  let minLocal := (u - 12) * 32 / 255 - 23
  if payload ≤ maxLocal then payload
  else
    let surplus := minLocal + (payload - minLocal) % (u - 4)
    if surplus ≤ maxLocal then surplus else minLocal

def sizeFrom : Nat → Nat → ByteArray → Nat → Nat × Nat
  | 0, acc, _, i => (acc, i)
  | left + 1, acc, b, i =>
    let x := byteAt b i
    let acc := (acc * 128 + x % 128) % Nat.pow 2 32
    if x < 128 || left = 0 then (acc, i + 1) else sizeFrom left acc b (i + 1)

def sizeAt (b : ByteArray) (i : Nat) : Nat × Nat := sizeFrom 9 0 b i

structure Slot where
  page : ByteArray
  start : Nat
  size : Nat
  held : Nat

def Page.slotAt (h : Header) (p : Page) (pos : Nat) : Int × Slot :=
  let (size, i) := sizeAt p.bytes pos
  let (rowid, i) := if p.kind.isTable then varintAt p.bytes i else (0, i)
  (signed64 rowid, ⟨p.bytes, i, size, localSize h p.kind size⟩)

/-- The deepest a descent goes: a cursor holds twenty pages. -/
def maxDepth : Nat := 20

/-- The entries of a tree below page `n` in key order, each a row id (zero in an index tree)
with its slot, added in front of `acc` last first, and the fault that ended the walk early.
`table` is whether a table tree is expected, `depth` how many more pages may be entered.

Every page must be of the expected kind, and a page below the root must have cells. A root
interior page without cells leads to its rightmost child only on page 1. An index tree's
interior pages hold entries between their children. -/
def treeSlots (file : ByteArray) (h : Header) (table : Bool) :
    Nat → Bool → Nat → List (Int × Slot) → List (Int × Slot) × Option SqlError
  | 0, _, _, acc => (acc, some .corrupt)
  | depth + 1, isRoot, n, acc =>
    match readPage file h n with
    | .error e => (acc, some e)
    | .ok p =>
      if p.kind.isTable != table then (acc, some .corrupt)
      else if !isRoot && p.cells = 0 then (acc, some .corrupt)
      else if p.cells = 0 && !p.kind.isLeaf && n ≠ 1 then (acc, some .corrupt)
      else if p.kind.isLeaf then
        ((List.range p.cells).foldl (fun acc i => p.slotAt h (p.cellAt h i) :: acc) acc, none)
      else
        let step (st : List (Int × Slot) × Option SqlError) (i : Nat) :=
          match st with
          | (acc, none) =>
            let c := p.cellAt h i
            match treeSlots file h table depth false (p.childAt c) acc with
            | (acc, none) => (if table then acc else p.slotAt h (c + 4) :: acc, none)
            | stopped => stopped
          | stopped => stopped
        match (List.range p.cells).foldl step (acc, none) with
        | (acc, none) => treeSlots file h table depth false p.rightmost acc
        | stopped => stopped

def Header.entries (file : ByteArray) (h : Header) (table : Bool) (n : Nat) :
    List (Int × Slot) × Option SqlError :=
  let (acc, fault) := treeSlots file h table maxDepth true n []
  (acc.reverse, fault)

end ChatArchive.Store.File
