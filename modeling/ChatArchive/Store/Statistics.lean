import ChatArchive.Store.Table
import ChatArchive.Store.Cost

namespace ChatArchive.Store

def guessEstimates (rows : Int) (keys : Nat) (unique isPartial : Bool) : List Int :=
  let first := if isPartial then rows - 10 else rows
  let shares := (List.range keys).map fun i => ([33, 32, 30, 28, 26] : List Int).getD i 23
  let shares := if unique && keys > 0 then shares.set (keys - 1) 0 else shares
  first :: shares

def readCounts : Nat → List Char → List Nat × List Char
  | 0, cs => ([], cs)
  | _, [] => ([], [])
  | n + 1, c :: cs =>
    let digits := (c :: cs).takeWhile Char.isDigit
    let rest := (c :: cs).drop digits.length
    let v := digits.foldl (fun acc d => (acc * 10 + (d.toNat - 48)) % Nat.pow 2 64) 0
    let rest := match rest with
      | ' ' :: r => r
      | r => r
    let (more, tail) := readCounts n rest
    (v :: more, tail)

def hexValue (c : Char) : Nat :=
  if c.isDigit then c.toNat - 48 else c.toLower.toNat - 87

def isHexDigit (c : Char) : Bool :=
  c.isDigit || ('a' ≤ c.toLower && c.toLower ≤ 'f')

/-- A 32-bit number at the start of a text as the engine reads one where it wants a small
integer: decimal digits, or `0x` and hexadecimal digits; zero when it does not fit. -/
def leadingInt (cs : List Char) : Nat :=
  match cs with
  | '0' :: x :: h :: rest =>
    if (x = 'x' || x = 'X') && isHexDigit h then
      let digits := (h :: rest).dropWhile (· = '0')
      let taken := digits.takeWhile isHexDigit
      let u := (taken.take 8).foldl (fun acc d => acc * 16 + hexValue d) 0
      if u < Nat.pow 2 31 && taken.length ≤ 8 then u else 0
    else (leadingNumber? cs).getD 0
  | _ => (leadingNumber? cs).getD 0

def optionWords (cs : List Char) : List (List Char) :=
  (cs.splitOn ' ').filter (!·.isEmpty)

def widthOption? (w : List Char) : Option Int :=
  match w with
  | 's' :: 'z' :: '=' :: d :: rest =>
    if d.isDigit then some (logEst (max (leadingInt (d :: rest)) 2)) else none
  | _ => none

def wordStarts (w : List Char) (s : String) : Bool := s.toList.isPrefixOf w

def Index.withStatistics (ix : Index) (text : List Char) : Index :=
  let (counts, rest) := readCounts (ix.keyCount + 1) text
  let estimates : List Int := ix.estimates.zipIdx.map fun ((e, i) : Int × Nat) =>
    match counts[i]? with
    | some n => logEst n
    | none => e
  let words := optionWords rest
  let ix := { ix with estimates := estimates, hasStatistics := true }
  let ix := { ix with unordered := words.any (wordStarts · "unordered") }
  let ix := { ix with noSkipScan := words.any (wordStarts · "noskipscan") }
  let ix := match (words.filterMap widthOption?).getLast? with
    | some width => { ix with width := width }
    | none => ix
  let first := estimates.getD 0 0
  if first > 66 && first ≤ estimates.getD ix.keyCount 0 then { ix with lowQuality := true } else ix

def Table.withStatistics (t : Table) (text : List Char) : Table :=
  let (counts, rest) := readCounts 1 text
  let t := match counts with
    | n :: _ => { t with rowEstimate := logEst n }
    | [] => t
  match ((optionWords rest).filterMap widthOption?).getLast? with
  | some width => { t with rowWidth := width }
  | none => t

def Table.primaryIndex? (t : Table) : Option Index := t.indexes.find? (·.primary)

def applyStatistics (known : String → Bool) (tables : List Table)
    (row : Option String × Option String × Option String) : List Table :=
  match row with
  | (some tbl, idx, some stat) =>
    if !known tbl then tables
    else
      let text := stat.toList
      let owner := tables.find? (Table.sameName ·.name tbl)
      let index? : Option Index := match idx with
        | none => none
        | some i =>
          if Table.sameName i tbl then owner.bind Table.primaryIndex?
          else (tables.flatMap (·.indexes)).find? (Table.sameName ·.name i)
      match index? with
      | some ix =>
        let updated := ix.withStatistics text
        let tables := tables.map fun t =>
          { t with indexes := t.indexes.map fun j =>
              if Table.sameName j.name ix.name then updated else j }
        if updated.condition.isSome then tables
        else tables.map fun t =>
          if Table.sameName t.name tbl then
            { t with rowEstimate := updated.estimates.getD 0 t.rowEstimate }
          else t
      | none =>
        tables.map fun t => if Table.sameName t.name tbl then t.withStatistics text else t
  | _ => tables

def Table.withGuesses (t : Table) : Table :=
  if t.indexes.all (·.hasStatistics) then t
  else
    let rows := max t.rowEstimate 99
    let guessed (ix : Index) : Index :=
      if ix.hasStatistics then ix
      else { ix with estimates := guessEstimates rows ix.keyCount ix.unique ix.condition.isSome }
    { t with rowEstimate := rows, indexes := t.indexes.map guessed }

/-- The tables with the statistics of the given rows applied in order, then the guesses. -/
def withStatistics (known : String → Bool) (tables : List Table)
    (rows : List (Option String × Option String × Option String)) : List Table :=
  (rows.foldl (applyStatistics known) tables).map Table.withGuesses

end ChatArchive.Store
