import ChatArchive.Store.File.Page

namespace ChatArchive.Store.File

open ChatArchive.Numeral

def serialLength (t : Nat) : Nat :=
  if 12 ≤ t then (t - 12) / 2
  else match t with
    | 1 => 1
    | 2 => 2
    | 3 => 3
    | 4 => 4
    | 5 => 6
    | 6 => 8
    | 7 => 8
    | _ => 0

def signedOf (n v : Nat) : Int :=
  if v < Nat.pow 2 (8 * n - 1) then v else (v : Int) - Int.pow 2 (8 * n)

def utf8Of (c : Nat) : List UInt8 :=
  if c < 0x80 then [c.toUInt8]
  else if c < 0x800 then [(0xC0 + c / 64 % 32).toUInt8, (0x80 + c % 64).toUInt8]
  else if c < 0x10000 then
    [(0xE0 + c / 4096 % 16).toUInt8, (0x80 + c / 64 % 64).toUInt8, (0x80 + c % 64).toUInt8]
  else
    [(0xF0 + c / 262144 % 8).toUInt8, (0x80 + c / 4096 % 64).toUInt8,
     (0x80 + c / 64 % 64).toUInt8, (0x80 + c % 64).toUInt8]

/-- UTF-16 code units as UTF-8 bytes: a surrogate joins the unit after it, whatever that unit
is, and a surrogate at the end stands alone. -/
def unitsToUtf8 : List Nat → List UInt8
  | [] => []
  | u :: rest =>
    if 0xD800 ≤ u ∧ u < 0xE000 then
      match rest with
      | v :: more => utf8Of (v % 1024 + u % 64 * 1024 + (u / 64 % 16 * 64 + 64) * 1024) ++
          unitsToUtf8 more
      | [] => utf8Of u
    else utf8Of u ++ unitsToUtf8 rest

def textOf (enc : TextEncoding) (b : ByteArray) : List UInt8 :=
  match enc with
  | .utf8 => b.toList
  | .utf16le => unitsToUtf8 ((List.range (b.size / 2)).map fun i =>
      byteAt b (2 * i) + 256 * byteAt b (2 * i + 1))
  | .utf16be => unitsToUtf8 ((List.range (b.size / 2)).map fun i =>
      256 * byteAt b (2 * i) + byteAt b (2 * i + 1))

def cellOf (enc : TextEncoding) (t : Nat) (body : ByteArray) : Cell :=
  if 1 ≤ t ∧ t ≤ 6 then .integer (signedOf (serialLength t) (wordAt body 0 (serialLength t)))
  else if t = 7 then
    let x : Double := ⟨(wordAt body 0 8).toUInt64⟩
    if x.isNaN then .null else .real x
  else if t = 8 then .integer 0
  else if t = 9 then .integer 1
  else if t < 12 then .null
  else if t % 2 = 0 then .blob body.toList
  else .text (textOf enc body)

def varint32At (b : ByteArray) (i : Nat) : Nat × Nat :=
  let (v, j) := varintAt b i
  (min v (Nat.pow 2 32 - 1), j)

def Slot.available (h : Header) (s : Slot) : Nat := min s.held (h.pageSize - s.start)

def chainRead (file : ByteArray) (h : Header) :
    Nat → Nat → Nat → Nat → ByteArray → Except SqlError ByteArray
  | 0, _, _, _, _ => .error .corrupt
  | fuel + 1, next, offset, amount, acc =>
    if next = 0 ∨ h.pageCount < next then .error .corrupt
    else
      let room := h.usableSize - 4
      let page := pageBytes file h next
      if room ≤ offset then chainRead file h fuel (wordAt page 0 4) (offset - room) amount acc
      else
        let a := min amount (room - offset)
        if offset = 0 ∧ 4 ≤ acc.size ∧ file.size < (next - 1) * h.pageSize + a + 4 then
          .error .ioError
        else
          let acc := acc ++ page.extract (offset + 4) (offset + 4 + a)
          if a = amount then .ok acc
          else chainRead file h fuel (wordAt page 0 4) 0 (amount - a) acc

/-- The bytes `offset` to `offset + amount` of a slot's record: first from its page, then from
its overflow chain. A record whose part on the page runs past the page's usable bytes is
corrupt. -/
def Slot.read (file : ByteArray) (h : Header) (s : Slot) (offset amount : Nat) :
    Except SqlError ByteArray :=
  if h.usableSize < s.start + s.held then .error .corrupt
  else
    let here := if offset < s.held then
        s.page.extract (s.start + offset) (s.start + min s.held (offset + amount))
      else ByteArray.empty
    if here.size = amount then .ok here
    else
      let offset := offset - s.held
      chainRead file h ((offset + amount) / (h.usableSize - 4) + 3)
        (wordAt s.page (s.start + s.held) 4) offset (amount - here.size) here

def headerTypes (b : ByteArray) (stop : Nat) :
    Nat → Nat → Nat → List (Nat × Nat) → List (Nat × Nat) × Nat × Nat
  | 0, i, off, acc => (acc.reverse, i, off)
  | count + 1, i, off, acc =>
    let (t, j) := varint32At b i
    let acc := (t, off) :: acc
    let off := off + serialLength t
    if count = 0 ∨ stop ≤ j then (acc.reverse, j, off) else headerTypes b stop count j off acc

def maxLength : Nat := 1000000000

/-- The value in column `k` of a slot's record, none when the record has fewer values. `table`
is whether the record lies in a table tree, where a value longer than 4000 bytes is read without
first bounding it by the size of the file. -/
def Slot.column (file : ByteArray) (h : Header) (table : Bool) (s : Slot) (k : Nat) :
    Except SqlError (Option Cell) := do
  let avail := s.available h
  let row := s.page.extract s.start s.page.size
  let (hdr, first) := varint32At row 0
  let header ←
    if hdr ≤ avail then pure (some row)
    else if 98307 < hdr ∨ s.size < hdr then throw .corrupt
    else if hdr ≤ first then pure none
    else if h.pageSize * h.pageCount < hdr then throw .corrupt
    else some <$> s.read file h 0 hdr
  let some bytes := header | return none
  let (types, stop, total) := headerTypes bytes hdr (k + 1) first hdr []
  if (hdr ≤ stop ∧ (hdr < stop ∨ total ≠ s.size)) ∨ s.size < total then
    if hdr = 0 then return none else throw .corrupt
  let some (t, off) := types[k]? | return none
  let len := serialLength t
  if off + len ≤ avail then return some (cellOf h.encoding t (row.extract off (off + len)))
  if len = 0 then return some (cellOf h.encoding t ByteArray.empty)
  if maxLength < len then throw .tooBig
  if (!table || len ≤ 4000) && h.pageSize * h.pageCount < off + len then throw .corrupt
  return some (cellOf h.encoding t (← s.read file h off len))

end ChatArchive.Store.File
