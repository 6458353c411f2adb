import ChatArchive.Store.File.Keyword
import ChatArchive.Store.Query

namespace ChatArchive.Store.File

def spanText : List Token → String
  | [] => ""
  | t :: rest => t.raw ++ String.join (rest.map fun u => u.lead ++ u.raw)

def consumed (all rest : List Token) : List Token := all.take (all.length - rest.length)

def trimBlanks (s : String) : String :=
  String.ofList ((s.toList.dropWhile isBlankChar).reverse.dropWhile isBlankChar).reverse

def blobBytes (digits : List Char) : List UInt8 :=
  let value (c : Char) : Nat :=
    if c.isDigit then c.toNat - 48 else if 'a' ≤ c && c ≤ 'f' then c.toNat - 87 else c.toNat - 55
  let rec pairs : List Char → List UInt8
    | a :: b :: rest => (value a * 16 + value b).toUInt8 :: pairs rest
    | _ => []
  pairs digits

def Token.blobValue (t : Token) : List UInt8 :=
  blobBytes ((t.raw.toList.drop 2).take (t.raw.length - 3))

def Token.isPlainNumber (t : Token) : Bool := t.kind = .number && !t.raw.contains '_'

def Token.isIdj (t : Token) : Bool :=
  t.isId || t.is "INDEXED" ||
    (match t.keyword? with
      | some k => joinKeywords.contains k
      | none => false)

def Token.startsQuery (t : Token) : Bool := t.is "SELECT" || t.is "VALUES" || t.is "WITH"

def numberLiteral (raw : String) : Except String Expr :=
  let cs := raw.toList
  let hex := match cs with
    | '0' :: x :: _ => x = 'x' || x = 'X'
    | _ => false
  let isDigitOf (c : Char) : Bool := if hex then isHexDigit c else c.isDigit
  let rec strip : List Char → List Char → Option Char → Except String (List Char)
    | [], out, _ => .ok out.reverse
    | c :: rest, out, before =>
      if c = '_' then
        let ok := (match before with
          | some b => isDigitOf b
          | none => false) && (match rest.head? with
          | some a => isDigitOf a
          | none => false)
        if ok then strip rest out (some c)
        else
          let written := out.reverse
          .error s!"unrecognized token: \"{String.ofList (written ++ cs.drop written.length)}\""
      else strip rest (c :: out) (some c)
  match strip cs [] none with
  | .error e => .error e
  | .ok digits =>
    let text := String.ofList digits
    if hex then .ok (.integer text)
    else if digits.any (fun c => c = '.' || c = 'e' || c = 'E') then .ok (.real text)
    else .ok (.integer text)

def signedNumber (ts : List Token) : Except String (List Token × List Token) := do
  let s := peek ts
  if s.isSymbol "+" || s.isSymbol "-" then
    let (n, rest) ← expect Token.isPlainNumber (ts.drop 1)
    return ([s, n], rest)
  let (n, rest) ← expect Token.isPlainNumber ts
  return ([n], rest)

def typeSize (ts : List Token) : Except String (List Token × List Token) := do
  let (first, rest) ← signedNumber ts
  let c := peek rest
  if c.isSymbol "," then
    let (second, rest) ← signedNumber (rest.drop 1)
    let (close, rest) ← expect (·.isSymbol ")") rest
    return (first ++ [c] ++ second ++ [close], rest)
  let (close, rest) ← expect (·.isSymbol ")") rest
  return (first ++ [close], rest)

def typeSizeAfter (words : List Token) (ts : List Token) :
    Except String (List Token × List Token) := do
  let p := peek ts
  if words.isEmpty || !p.isSymbol "(" then return ([], ts)
  let (size, rest) ← typeSize (ts.drop 1)
  return (p :: size, rest)

def typeWords : List Token → List Token × List Token
  | t :: rest =>
    if t.kind != .illegal && t.isTypeWord then
      let (ws, after) := typeWords rest
      (t :: ws, after)
    else ([], t :: rest)
  | [] => ([], [])

def orLevel : Nat := 1
def andLevel : Nat := 2
def notLevel : Nat := 3
def compareLevel : Nat := 4
def orderLevel : Nat := 5
def bitLevel : Nat := 7
def addLevel : Nat := 8
def mulLevel : Nat := 9
def concatLevel : Nat := 10
def collateLevel : Nat := 11
def prefixLevel : Nat := 12

def binaryOperator (t : Token) : Option (BinaryOp × Nat) :=
  if t.is "OR" then some (.or, orLevel)
  else if t.is "AND" then some (.and, andLevel)
  else if t.kind != .symbol then none
  else match t.raw with
    | "=" | "==" => some (.eq, compareLevel)
    | "!=" | "<>" => some (.ne, compareLevel)
    | "<" => some (.lt, orderLevel)
    | "<=" => some (.le, orderLevel)
    | ">" => some (.gt, orderLevel)
    | ">=" => some (.ge, orderLevel)
    | "&" => some (.bitAnd, bitLevel)
    | "|" => some (.bitOr, bitLevel)
    | "<<" => some (.shiftLeft, bitLevel)
    | ">>" => some (.shiftRight, bitLevel)
    | "+" => some (.add, addLevel)
    | "-" => some (.sub, addLevel)
    | "*" => some (.mul, mulLevel)
    | "/" => some (.div, mulLevel)
    | "%" => some (.rem, mulLevel)
    | "||" => some (.concat, concatLevel)
    | "->" => some (.extract false, concatLevel)
    | "->>" => some (.extract true, concatLevel)
    | _ => none

def patternOperator (t : Token) : Option PatternOp :=
  if t.is "LIKE" then some .like
  else if t.is "GLOB" then some .glob
  else if t.is "REGEXP" then some .regexp
  else if t.is "MATCH" then some .matches
  else none

def clockWord (t : Token) : Option ClockWord :=
  if t.is "CURRENT_DATE" then some .date
  else if t.is "CURRENT_TIME" then some .time
  else if t.is "CURRENT_TIMESTAMP" then some .timestamp
  else none

def overflowMessage : String := "parser stack overflow"

def skipGroup : Nat → List Token → Except String (List Token)
  | _, [] => .error "incomplete input"
  | depth, t :: rest =>
    if t.kind = .illegal || t.ends then .error t.unexpected
    else if t.isSymbol ")" then
      if depth = 0 then .ok rest else skipGroup (depth - 1) rest
    else if t.isSymbol "(" then skipGroup (depth + 1) rest
    else skipGroup depth rest

def aliasClause (ts : List Token) : Except String (Option String × List Token) := do
  let t := peek ts
  if t.is "AS" then
    let (n, rest) ← expect Token.isName (ts.drop 1)
    return (some n.name, rest)
  if t.kind != .illegal && t.isTypeWord then return (some t.name, ts.drop 1)
  return (none, ts)

mutual

/-- An expression whose operators bind at `level` or tighter. -/
def parseExpr : Nat → Nat → List Token → Except String (Expr × List Token)
  | 0, _, _ => .error overflowMessage
  | fuel + 1, level, ts => do
    let (lhs, rest) ← parseTerm fuel ts
    parseOperators fuel level lhs rest

def parseExprs : Nat → List Token → Except String (List Expr × List Token)
  | 0, _ => .error overflowMessage
  | fuel + 1, ts => do
    let (e, rest) ← parseExpr fuel 0 ts
    if (peek rest).isSymbol "," then
      let (more, rest) ← parseExprs fuel (rest.drop 1)
      return (e :: more, rest)
    return ([e], rest)

def parseTerm : Nat → List Token → Except String (Expr × List Token)
  | 0, _ => .error overflowMessage
  | fuel + 1, ts => do
    let t := peek ts
    let rest := ts.drop 1
    if t.kind = .illegal then throw t.unexpected
    if t.isSymbol "(" then
      if (peek rest).startsQuery then
        let (_, rest) ← parseQuery fuel rest
        let (_, rest) ← expect (·.isSymbol ")") rest
        return (.query, rest)
      let (e, rest) ← parseExpr fuel 0 rest
      if (peek rest).isSymbol "," then
        let (more, rest) ← parseExprs fuel (rest.drop 1)
        let (_, rest) ← expect (·.isSymbol ")") rest
        return (.vector (e :: more), rest)
      let (_, rest) ← expect (·.isSymbol ")") rest
      return (e, rest)
    if t.kind = .number then return (← numberLiteral t.raw, rest)
    if t.kind = .string then
      if (peek rest).isSymbol "." then return (← parseQualified fuel [t.name] rest)
      return (.string t.name, rest)
    if t.kind = .blob then return (.blob t.blobValue, rest)
    if t.kind = .parameter then return (.parameter, rest)
    if t.is "NULL" then return (.null, rest)
    if let some w := clockWord t then return (.clock w, rest)
    if t.is "CAST" then
      let (_, rest) ← expect (·.isSymbol "(") rest
      let (e, rest) ← parseExpr fuel 0 rest
      let (_, rest) ← expect (·.is "AS") rest
      let (words, rest) := typeWords rest
      let (size, rest) ← typeSizeAfter words rest
      let (_, rest) ← expect (·.isSymbol ")") rest
      return (.cast e (spanText (words ++ size)), rest)
    if t.is "CASE" then return (← parseCase fuel rest)
    if t.is "EXISTS" then
      let (_, rest) ← expect (·.isSymbol "(") rest
      let (_, rest) ← parseQuery fuel rest
      let (_, rest) ← expect (·.isSymbol ")") rest
      return (.exists, rest)
    if t.is "RAISE" then
      let (_, rest) ← expect (·.isSymbol "(") rest
      let k := peek rest
      if k.is "IGNORE" then
        let (_, rest) ← expect (·.isSymbol ")") (rest.drop 1)
        return (.raise, rest)
      let (_, rest) ← expect (fun k => k.is "ROLLBACK" || k.is "ABORT" || k.is "FAIL") rest
      let (_, rest) ← expect (·.isSymbol ",") rest
      let (_, rest) ← expect Token.isName rest
      let (_, rest) ← expect (·.isSymbol ")") rest
      return (.raise, rest)
    if t.is "NOT" then
      let (e, rest) ← parseExpr fuel notLevel rest
      return (.unary .not e, rest)
    if t.isSymbol "~" then
      let (e, rest) ← parseExpr fuel prefixLevel rest
      return (.unary .bitNot e, rest)
    if t.isSymbol "-" || t.isSymbol "+" then
      let op : UnaryOp := if t.isSymbol "-" then .negate else .plus
      let (e, rest) ← parseExpr fuel prefixLevel rest
      match e with
      | .unary .plus inner => return (.unary op inner, rest)
      | _ => return (.unary op e, rest)
    if t.isIdj then
      let n := peek rest
      if n.isSymbol "(" then return (← parseCall fuel t.name (rest.drop 1))
      if n.isSymbol "." then return (← parseQualified fuel [t.name] rest)
      return (.column [] t.name (t.raw.startsWith "\""), rest)
    throw t.unexpected

def parseQualified : Nat → List String → List Token → Except String (Expr × List Token)
  | 0, _, _ => .error overflowMessage
  | fuel + 1, parts, ts => do
    let (n, rest) ← expect Token.isName (ts.drop 1)
    if (peek rest).isSymbol "." && parts.length < 2 then
      return (← parseQualified fuel (parts ++ [n.name]) rest)
    return (.column parts n.name (n.raw.startsWith "\""), rest)

def parseCall : Nat → String → List Token → Except String (Expr × List Token)
  | 0, _, _ => .error overflowMessage
  | fuel + 1, name, ts => do
    let (star, distinct, args, rest) ←
      if (peek ts).isSymbol "*" then do
        let (_, rest) ← expect (·.isSymbol ")") (ts.drop 1)
        pure (true, false, [], rest)
      else do
        let d := peek ts
        let (distinct, ts) :=
          if d.is "DISTINCT" then (true, ts.drop 1)
          else if d.is "ALL" then (false, ts.drop 1)
          else (false, ts)
        let (args, ts) ←
          if (peek ts).isSymbol ")" || (peek ts).is "ORDER" then pure ([], ts)
          else parseExprs fuel ts
        let ts ← if (peek ts).is "ORDER" then do
            let (_, ts) ← expect (·.is "BY") (ts.drop 1)
            let (_, ts) ← parseOrderTerms fuel ts
            pure ts
          else pure ts
        let (_, rest) ← expect (·.isSymbol ")") ts
        pure (false, distinct, args, rest)
    let (window, rest) ← windowClauses fuel rest
    return (.call name distinct star window args, rest)

def windowClauses : Nat → List Token → Except String (Bool × List Token)
  | 0, _ => .error overflowMessage
  | fuel + 1, ts => do
    let mut ts := ts
    let mut any := false
    if (peek ts).is "FILTER" then
      let (_, rest) ← expect (·.isSymbol "(") (ts.drop 1)
      let (_, rest) ← expect (·.is "WHERE") rest
      let (_, rest) ← parseExpr fuel 0 rest
      let (_, rest) ← expect (·.isSymbol ")") rest
      ts := rest
      any := true
    if (peek ts).is "OVER" then
      let n := peek (ts.drop 1)
      if n.isSymbol "(" then ts ← skipGroup 0 (ts.drop 2)
      else
        let (_, rest) ← expect Token.isName (ts.drop 1)
        ts := rest
      any := true
    return (any, ts)

def parseCase : Nat → List Token → Except String (Expr × List Token)
  | 0, _ => .error overflowMessage
  | fuel + 1, ts => do
    let (operand, ts) ←
      if (peek ts).is "WHEN" then pure (none, ts)
      else do
        let (e, ts) ← parseExpr fuel 0 ts
        pure (some e, ts)
    let (_, ts) ← expect (·.is "WHEN") ts
    let (branches, ts) ← parseBranches fuel ts
    let (otherwise, ts) ←
      if (peek ts).is "ELSE" then do
        let (e, ts) ← parseExpr fuel 0 (ts.drop 1)
        pure (some e, ts)
      else pure (none, ts)
    let (_, ts) ← expect (·.is "END") ts
    return (.case operand branches otherwise, ts)

def parseBranches : Nat → List Token → Except String (List (Expr × Expr) × List Token)
  | 0, _ => .error overflowMessage
  | fuel + 1, ts => do
    let (c, ts) ← parseExpr fuel 0 ts
    let (_, ts) ← expect (·.is "THEN") ts
    let (v, ts) ← parseExpr fuel 0 ts
    if (peek ts).is "WHEN" then
      let (more, ts) ← parseBranches fuel (ts.drop 1)
      return ((c, v) :: more, ts)
    return ([(c, v)], ts)

def parseOperators : Nat → Nat → Expr → List Token → Except String (Expr × List Token)
  | 0, _, _, _ => .error overflowMessage
  | fuel + 1, level, lhs, ts => do
    let t := peek ts
    let rest := ts.drop 1
    if let some (op, l) := binaryOperator t then
      if l < level then return (lhs, ts)
      let (rhs, rest) ← parseExpr fuel (l + 1) rest
      parseOperators fuel level (.binary op lhs rhs) rest
    else if t.is "COLLATE" then
      if collateLevel < level then return (lhs, ts)
      let (n, rest) ← expect Token.isTypeWord rest
      parseOperators fuel level (.collate lhs n.name) rest
    else if compareLevel < level then return (lhs, ts)
    else if t.is "ISNULL" then parseOperators fuel level (.isNull lhs) rest
    else if t.is "NOTNULL" then parseOperators fuel level (.notNull lhs) rest
    else if t.is "IS" then
      let (op, rest) ←
        if (peek rest).is "NOT" then
          if (peek (rest.drop 1)).is "DISTINCT" then do
            let (_, rest) ← expect (·.is "FROM") (rest.drop 2)
            pure (BinaryOp.is, rest)
          else pure (BinaryOp.isNot, rest.drop 1)
        else if (peek rest).is "DISTINCT" then do
          let (_, rest) ← expect (·.is "FROM") (rest.drop 1)
          pure (BinaryOp.isNot, rest)
        else pure (BinaryOp.is, rest)
      let (rhs, rest) ← parseExpr fuel orderLevel rest
      parseOperators fuel level (.binary op lhs rhs) rest
    else if t.is "NOT" then
      let n := peek rest
      if n.is "NULL" then parseOperators fuel level (.notNull lhs) (rest.drop 1)
      else if n.is "BETWEEN" || n.is "IN" || (patternOperator n).isSome then
        let (e, rest) ← parseComparison fuel true lhs rest
        parseOperators fuel level e rest
      else throw n.unexpected
    else if t.is "BETWEEN" || t.is "IN" || (patternOperator t).isSome then
      let (e, rest) ← parseComparison fuel false lhs ts
      parseOperators fuel level e rest
    else return (lhs, ts)

def parseComparison : Nat → Bool → Expr → List Token → Except String (Expr × List Token)
  | 0, _, _, _ => .error overflowMessage
  | fuel + 1, negated, lhs, ts => do
    let t := peek ts
    let rest := ts.drop 1
    if t.is "BETWEEN" then
      let (low, rest) ← parseExpr fuel notLevel rest
      let (_, rest) ← expect (·.is "AND") rest
      let (high, rest) ← parseExpr fuel orderLevel rest
      return (.between negated lhs low high, rest)
    if t.is "IN" then
      if (peek rest).isSymbol "(" then
        let inner := rest.drop 1
        if (peek inner).isSymbol ")" then return (.inList negated lhs [], inner.drop 1)
        if (peek inner).startsQuery then
          let (_, inner) ← parseQuery fuel inner
          let (_, inner) ← expect (·.isSymbol ")") inner
          return (.inQuery negated lhs, inner)
        let (items, inner) ← parseExprs fuel inner
        let (_, inner) ← expect (·.isSymbol ")") inner
        return (.inList negated lhs items, inner)
      let (_, rest) ← expect Token.isName rest
      let rest ← if (peek rest).isSymbol "." then do
          let (_, rest) ← expect Token.isName (rest.drop 1)
          pure rest
        else pure rest
      let rest ← if (peek rest).isSymbol "(" then do
          let inner := rest.drop 1
          if (peek inner).isSymbol ")" then pure (inner.drop 1)
          else do
            let (_, inner) ← parseExprs fuel inner
            let (_, inner) ← expect (·.isSymbol ")") inner
            pure inner
        else pure rest
      return (.inQuery negated lhs, rest)
    match patternOperator t with
    | some op =>
      let (pat, rest) ← parseExpr fuel orderLevel rest
      if (peek rest).is "ESCAPE" then
        let (esc, rest) ← parseExpr fuel orderLevel (rest.drop 1)
        return (.pattern op negated lhs pat (some esc), rest)
      return (.pattern op negated lhs pat none, rest)
    | none => throw t.unexpected

def parseOrderTerms : Nat → List Token → Except String (List OrderTerm × List Token)
  | 0, _ => .error overflowMessage
  | fuel + 1, ts => do
    let (e, ts) ← parseExpr fuel 0 ts
    let d := peek ts
    let (descending, ts) :=
      if d.is "DESC" then (true, ts.drop 1)
      else if d.is "ASC" then (false, ts.drop 1)
      else (false, ts)
    let ts ← if (peek ts).is "NULLS" then do
        let (_, ts) ← expect (fun k => k.is "FIRST" || k.is "LAST") (ts.drop 1)
        pure ts
      else pure ts
    if (peek ts).isSymbol "," then
      let (more, ts) ← parseOrderTerms fuel (ts.drop 1)
      return (⟨e, descending⟩ :: more, ts)
    return ([⟨e, descending⟩], ts)

def parseQuery : Nat → List Token → Except String (Query × List Token)
  | 0, _ => .error overflowMessage
  | fuel + 1, ts => do
    if (peek ts).is "WITH" then
      let ts := if (peek (ts.drop 1)).is "RECURSIVE" then ts.drop 2 else ts.drop 1
      let ts ← parseCommonTables fuel ts
      let (q, ts) ← parseCompound fuel ts
      return (.withClause q, ts)
    parseCompound fuel ts

def parseCommonTables : Nat → List Token → Except String (List Token)
  | 0, _ => .error overflowMessage
  | fuel + 1, ts => do
    let (_, ts) ← expect Token.isName ts
    let ts ← if (peek ts).isSymbol "(" then skipGroup 0 (ts.drop 1) else pure ts
    let (_, ts) ← expect (·.is "AS") ts
    let ts :=
      if (peek ts).is "MATERIALIZED" then ts.drop 1
      else if (peek ts).is "NOT" && (peek (ts.drop 1)).is "MATERIALIZED" then ts.drop 2
      else ts
    let (_, ts) ← expect (·.isSymbol "(") ts
    let (_, ts) ← parseQuery fuel ts
    let (_, ts) ← expect (·.isSymbol ")") ts
    if (peek ts).isSymbol "," then return (← parseCommonTables fuel (ts.drop 1))
    return ts

def parseCompound : Nat → List Token → Except String (Query × List Token)
  | 0, _ => .error overflowMessage
  | fuel + 1, ts => do
    let (first, ts) ← parseSimple fuel ts
    parseCompoundRest fuel first ts

def parseCompoundRest : Nat → Query → List Token → Except String (Query × List Token)
  | 0, _, _ => .error overflowMessage
  | fuel + 1, left, ts => do
    let t := peek ts
    let (op, ts) :=
      if t.is "UNION" then
        if (peek (ts.drop 1)).is "ALL" then (some CompoundOp.unionAll, ts.drop 2)
        else (some CompoundOp.union, ts.drop 1)
      else if t.is "EXCEPT" then (some CompoundOp.except, ts.drop 1)
      else if t.is "INTERSECT" then (some CompoundOp.intersect, ts.drop 1)
      else (none, ts)
    match op with
    | none => return (left, ts)
    | some op =>
      let (right, ts) ← parseSimple fuel ts
      parseCompoundRest fuel (.compound op left right) ts

def parseSimple : Nat → List Token → Except String (Query × List Token)
  | 0, _ => .error overflowMessage
  | fuel + 1, ts => do
    let t := peek ts
    if t.is "VALUES" then
      let (rows, ts) ← parseValueRows fuel (ts.drop 1)
      return (.values rows, ts)
    let (_, ts) ← expect (·.is "SELECT") ts
    let d := peek ts
    let (distinct, ts) :=
      if d.is "DISTINCT" then (true, ts.drop 1)
      else if d.is "ALL" then (false, ts.drop 1)
      else (false, ts)
    let (columns, ts) ← parseResultColumns fuel ts
    let (sources, joined, ts) ←
      if (peek ts).is "FROM" then parseSources fuel (ts.drop 1)
      else pure ([], false, ts)
    let (filter, ts) ←
      if (peek ts).is "WHERE" then do
        let (e, ts) ← parseExpr fuel 0 (ts.drop 1)
        pure (some e, ts)
      else pure (none, ts)
    let (grouped, ts) ←
      if (peek ts).is "GROUP" then do
        let (_, ts) ← expect (·.is "BY") (ts.drop 1)
        let (_, ts) ← parseExprs fuel ts
        pure (true, ts)
      else pure (false, ts)
    let ts ← if (peek ts).is "HAVING" then do
        let (_, ts) ← parseExpr fuel 0 (ts.drop 1)
        pure ts
      else pure ts
    let ts ← if (peek ts).is "WINDOW" then parseWindows fuel (ts.drop 1) else pure ts
    let (orderBy, ts) ←
      if (peek ts).is "ORDER" then do
        let (_, ts) ← expect (·.is "BY") (ts.drop 1)
        parseOrderTerms fuel ts
      else pure ([], ts)
    let (limited, ts) ←
      if (peek ts).is "LIMIT" then do
        let (_, ts) ← parseExpr fuel 0 (ts.drop 1)
        let n := peek ts
        if n.is "OFFSET" || n.isSymbol "," then
          let (_, ts) ← parseExpr fuel 0 (ts.drop 1)
          pure (true, ts)
        else pure (true, ts)
      else pure (false, ts)
    return (.select { distinct, columns, sources, joined, filter, grouped, orderBy, limited }, ts)

def parseWindows : Nat → List Token → Except String (List Token)
  | 0, _ => .error overflowMessage
  | fuel + 1, ts => do
    let (_, ts) ← expect Token.isName ts
    let (_, ts) ← expect (·.is "AS") ts
    let (_, ts) ← expect (·.isSymbol "(") ts
    let ts ← skipGroup 0 ts
    if (peek ts).isSymbol "," then return (← parseWindows fuel (ts.drop 1))
    return ts

def parseValueRows : Nat → List Token → Except String (List (List Expr) × List Token)
  | 0, _ => .error overflowMessage
  | fuel + 1, ts => do
    let (_, ts) ← expect (·.isSymbol "(") ts
    let (row, ts) ← parseExprs fuel ts
    let (_, ts) ← expect (·.isSymbol ")") ts
    if (peek ts).isSymbol "," then
      let (more, ts) ← parseValueRows fuel (ts.drop 1)
      return (row :: more, ts)
    return ([row], ts)

def parseResultColumns : Nat → List Token → Except String (List ResultColumn × List Token)
  | 0, _ => .error overflowMessage
  | fuel + 1, ts => do
    let t := peek ts
    let (col, rest) ←
      if t.isSymbol "*" then pure (ResultColumn.all none, ts.drop 1)
      else if t.isName && (peek (ts.drop 1)).isSymbol "." && (peek (ts.drop 2)).isSymbol "*" then
        pure (ResultColumn.all (some t.name), ts.drop 3)
      else do
        let (e, rest) ← parseExpr fuel 0 ts
        let text := trimBlanks (spanText (consumed ts rest) ++ (peek rest).lead)
        let (aliasName, rest) ← aliasClause rest
        pure (ResultColumn.expr e text aliasName, rest)
    if (peek rest).isSymbol "," then
      let (more, rest) ← parseResultColumns fuel (rest.drop 1)
      return (col :: more, rest)
    return ([col], rest)

def parseSources : Nat → List Token → Except String (List RowSource × Bool × List Token)
  | 0, _ => .error overflowMessage
  | fuel + 1, ts => do
    let (src, constrained, ts) ← parseSource fuel ts
    let t := peek ts
    let isJoinWord := match t.keyword? with
      | some k => joinKeywords.contains k
      | none => false
    let (joins, ts) ←
      if t.isSymbol "," || t.is "JOIN" then pure (true, ts.drop 1)
      else if isJoinWord then do
        let ts := ts.drop 1
        if (peek ts).is "JOIN" then pure (true, ts.drop 1)
        else do
          let (_, ts) ← expect Token.isName ts
          if (peek ts).is "JOIN" then pure (true, ts.drop 1)
          else do
            let (_, ts) ← expect Token.isName ts
            let (_, ts) ← expect (·.is "JOIN") ts
            pure (true, ts)
      else pure (false, ts)
    if !joins then return ([src], constrained, ts)
    let (more, _, ts) ← parseSources fuel ts
    return (src :: more, true, ts)

def parseSource : Nat → List Token → Except String (RowSource × Bool × List Token)
  | 0, _ => .error overflowMessage
  | fuel + 1, ts => do
    let t := peek ts
    let (src, ts) ←
      if t.isSymbol "(" then do
        let inner := ts.drop 1
        let inner ← if (peek inner).startsQuery then do
            let (_, inner) ← parseQuery fuel inner
            pure inner
          else do
            let (_, _, inner) ← parseSources fuel inner
            pure inner
        let (_, ts) ← expect (·.isSymbol ")") inner
        let (aliasName, ts) ← aliasClause ts
        pure (RowSource.other aliasName, ts)
      else do
        let (n, ts) ← expect Token.isName ts
        let (database, name, ts) ← if (peek ts).isSymbol "." then do
            let (m, ts) ← expect Token.isName (ts.drop 1)
            pure (some n.name, m.name, ts)
          else pure (none, n.name, ts)
        if (peek ts).isSymbol "(" then
          let inner := ts.drop 1
          let ts ← if (peek inner).isSymbol ")" then pure (inner.drop 1)
            else do
              let (_, inner) ← parseExprs fuel inner
              let (_, inner) ← expect (·.isSymbol ")") inner
              pure inner
          let (aliasName, ts) ← aliasClause ts
          pure (RowSource.other aliasName, ts)
        else
          let (aliasName, ts) ← aliasClause ts
          let ts ← if (peek ts).is "INDEXED" then do
              let (_, ts) ← expect (·.is "BY") (ts.drop 1)
              let (_, ts) ← expect Token.isName ts
              pure ts
            else if (peek ts).is "NOT" then do
              let (_, ts) ← expect (·.is "INDEXED") (ts.drop 1)
              pure ts
            else pure ts
          pure (RowSource.table database name aliasName, ts)
    if (peek ts).is "ON" then
      let (_, ts) ← parseExpr fuel 0 (ts.drop 1)
      return (src, true, ts)
    if (peek ts).is "USING" then
      let (_, ts) ← expect (·.isSymbol "(") (ts.drop 1)
      let ts ← parseNames fuel ts
      let (_, ts) ← expect (·.isSymbol ")") ts
      return (src, true, ts)
    return (src, false, ts)

def parseNames : Nat → List Token → Except String (List Token)
  | 0, _ => .error overflowMessage
  | fuel + 1, ts => do
    let (_, ts) ← expect Token.isName ts
    if (peek ts).isSymbol "," then return (← parseNames fuel (ts.drop 1))
    return ts

end

/-- The fuel for parsing a list of tokens. -/
def fuelFor (ts : List Token) : Nat := 8 * ts.length + 16

/-- An expression at the front of `ts`. -/
def Expr.parse (ts : List Token) : Except String (Expr × List Token) :=
  parseExpr (fuelFor ts) 0 ts

def Query.parse (ts : List Token) : Except String (Query × List Token) :=
  parseQuery (fuelFor ts) ts

def OrderTerm.parseList (ts : List Token) : Except String (List OrderTerm × List Token) :=
  parseOrderTerms (fuelFor ts) ts

end ChatArchive.Store.File
