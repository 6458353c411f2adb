import ChatArchive.Store.Table

namespace ChatArchive.Store.File

inductive TokenKind where
  | blank
  | word
  | quoted
  | string
  | number
  | blob
  | parameter
  | symbol
  | illegal
  | finish
  deriving DecidableEq, Repr

/-- A token, the text it was read from, and the blanks and comments before it. -/
structure Token where
  kind : TokenKind
  raw : String
  lead : String := ""
  deriving DecidableEq, Repr

def singleQuote : Char := Char.ofNat 39

def backQuote : Char := Char.ofNat 96

def byteOrderMark : Char := Char.ofNat 0xFEFF

def startsBlank (c : Char) : Bool :=
  c = ' ' || c = '\t' || c = '\n' || c = '\x0c' || c = '\r'

def isBlankChar (c : Char) : Bool := startsBlank c || c = '\x0b'

def isWordChar (c : Char) : Bool := c.isAlphanum || c = '_' || c = '$' || c.toNat ≥ 0x80

def isHexDigit (c : Char) : Bool :=
  c.isDigit || ('a' ≤ c && c ≤ 'f') || ('A' ≤ c && c ≤ 'F')

def quotedLength (close : Char) : List Char → Option Nat
  | [] => none
  | c :: rest =>
    if c = close then
      match rest with
      | d :: more => if d = close then (quotedLength close more).map (· + 2) else some 1
      | [] => some 1
    else (quotedLength close rest).map (· + 1)

def commentBody : List Char → Nat × Bool
  | '*' :: '/' :: _ => (0, true)
  | _ :: rest => let (n, found) := commentBody rest; (n + 1, found)
  | [] => (0, false)

def digitRun (cs : List Char) : Nat × Bool :=
  let run := cs.takeWhile fun c => c.isDigit || c = '_'
  (run.length, run.contains '_')

def numberLength (cs : List Char) : Nat × TokenKind :=
  match cs with
  | '0' :: x :: h :: more =>
    if (x = 'x' || x = 'X') && isHexDigit h then (3 + (more.takeWhile isHexDigit).length, .number)
    else decimalLength cs
  | _ => decimalLength cs
where
  decimalLength (cs : List Char) : Nat × TokenKind :=
    let (whole, _) := digitRun cs
    let i := whole
    let i := match cs.drop i with
      | '.' :: r => i + 1 + (digitRun r).1
      | _ => i
    let i := match cs.drop i with
      | e :: s :: d :: _ =>
        if (e = 'e' || e = 'E') && (s.isDigit || ((s = '+' || s = '-') && d.isDigit)) then
          i + 2 + (digitRun (cs.drop (i + 2))).1
        else i
      | [e, s] => if (e = 'e' || e = 'E') && s.isDigit then i + 2 else i
      | _ => i
    let tail := ((cs.drop i).takeWhile isWordChar).length
    (i + tail, if tail = 0 then .number else .illegal)

def parameterLength : Nat → Nat → List Char → Nat × Bool
  | 0, n, _ => (0, n > 0)
  | fuel + 1, n, cs =>
    match cs with
    | c :: rest =>
      if isWordChar c then
        let (k, ok) := parameterLength fuel (n + 1) rest
        (k + 1, ok)
      else if c = '(' && n > 0 then
        let body := rest.takeWhile fun d => !isBlankChar d && d != ')'
        match rest.drop body.length with
        | ')' :: _ => (body.length + 2, true)
        | _ => (body.length + 1, false)
      else if c = ':' && rest.head? = some ':' then
        let (k, ok) := parameterLength fuel n (rest.drop 1)
        (k + 2, ok)
      else (0, n > 0)
    | [] => (0, n > 0)

/-- The kind and length of the token that starts with `c`, followed by `rest`. -/
def scan (c : Char) (rest : List Char) : TokenKind × Nat :=
  let next := rest.head?
  if startsBlank c then (.blank, 1 + (rest.takeWhile isBlankChar).length)
  else if c = byteOrderMark then (.blank, 1)
  else if c = '-' then
    if next = some '-' then (.blank, 2 + ((rest.drop 1).takeWhile (· != '\n')).length)
    else if next = some '>' then (.symbol, if (rest.drop 1).head? = some '>' then 3 else 2)
    else (.symbol, 1)
  else if c = '/' then
    match rest with
    | '*' :: body@(_ :: _) =>
      let (n, found) := commentBody body
      (.blank, 2 + n + (if found then 2 else 0))
    | _ => (.symbol, 1)
  else if c = '(' || c = ')' || c = ';' || c = '+' || c = '*' || c = '%' || c = ',' ||
      c = '&' || c = '~' then (.symbol, 1)
  else if c = '=' then (.symbol, if next = some '=' then 2 else 1)
  else if c = '<' then (.symbol, if next = some '=' || next = some '>' || next = some '<' then 2 else 1)
  else if c = '>' then (.symbol, if next = some '=' || next = some '>' then 2 else 1)
  else if c = '!' then if next = some '=' then (.symbol, 2) else (.illegal, 1)
  else if c = '|' then (.symbol, if next = some '|' then 2 else 1)
  else if c = '"' || c = singleQuote || c = backQuote then
    match quotedLength c rest with
    | some n => (if c = singleQuote then .string else .quoted, 1 + n)
    | none => (.illegal, 1 + rest.length)
  else if c = '[' then
    let body := rest.takeWhile (· != ']')
    if body.length < rest.length then (.quoted, body.length + 2) else (.illegal, 1 + rest.length)
  else if c = '.' then
    match next with
    | some d => if d.isDigit then (numberLength (c :: rest)).swap else (.symbol, 1)
    | none => (.symbol, 1)
  else if c.isDigit then (numberLength (c :: rest)).swap
  else if c = '?' then (.parameter, 1 + (rest.takeWhile Char.isDigit).length)
  else if c = '$' || c = '@' || c = '#' || c = ':' then
    let (n, ok) := parameterLength (rest.length + 1) 0 rest
    (if ok then .parameter else .illegal, 1 + n)
  else if (c = 'x' || c = 'X') && next = some singleQuote then
    let digits := ((rest.drop 1).takeWhile isHexDigit).length
    match rest.drop (1 + digits) with
    | q :: _ =>
      if q = singleQuote && digits % 2 = 0 then (.blob, 3 + digits)
      else
        let more := ((rest.drop (1 + digits)).takeWhile (· != singleQuote)).length
        let closed := (rest.drop (1 + digits + more)).length > 0
        (.illegal, 2 + digits + more + (if closed then 1 else 0))
    | [] => (.illegal, 2 + digits)
  else if c.isAlpha || c = '_' || c.toNat ≥ 0x80 then (.word, 1 + (rest.takeWhile isWordChar).length)
  else (.illegal, 1)

/-- The tokens of a text, ending with the end of the text; blanks and comments go with the
token after them. -/
def tokensOf : List Char → List Token
  | [] => [⟨.finish, "", ""⟩]
  | c :: rest =>
    let (kind, n) := scan c rest
    let n := max n 1
    let text := String.ofList ((c :: rest).take n)
    let tail := tokensOf ((c :: rest).drop n)
    if kind = .blank then
      match tail with
      | t :: more => { t with lead := text ++ t.lead } :: more
      | [] => []
    else ⟨kind, text, ""⟩ :: tail
termination_by cs => cs.length
decreasing_by rw [List.length_drop, List.length_cons]; omega

def tokenize (s : String) : List Token := tokensOf s.toList

end ChatArchive.Store.File
