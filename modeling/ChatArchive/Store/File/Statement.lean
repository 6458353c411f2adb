import ChatArchive.Store.File.Schema
import ChatArchive.Store.File.Expression

namespace ChatArchive.Store.File

def enclosed : Nat → List Token → List Token → Except String (List Token × List Token)
  | _, [], _ => .error "incomplete input"
  | depth, t :: rest, acc =>
    if t.kind = .illegal || t.ends then .error t.unexpected
    else if t.isSymbol ")" then
      if depth = 0 then
        if acc.isEmpty then .error t.unexpected else .ok (acc.reverse, rest)
      else enclosed (depth - 1) rest (t :: acc)
    else if t.isSymbol "(" then enclosed (depth + 1) rest (t :: acc)
    else enclosed depth rest (t :: acc)

def toEnd : List Token → Except String (List Token)
  | [] => .ok []
  | t :: rest =>
    if t.kind = .illegal then .error t.unexpected
    else if t.ends then .ok (t :: rest)
    else toEnd rest

def Token.isTerm (t : Token) : Bool :=
  t.is "NULL" || t.kind = .number || t.kind = .string || t.kind = .blob || (clockWord t).isSome

def termOf (t : Token) : Except String Expr :=
  if t.kind = .number then numberLiteral t.raw
  else if t.kind = .string then .ok (.string t.name)
  else if t.kind = .blob then .ok (.blob t.blobValue)
  else match clockWord t with
    | some w => .ok (.clock w)
    | none => .ok .null

/-- The default value after `DEFAULT`: a term, a signed term, a parenthesised expression, or a
name read as a string (an unquoted `true` or `false` as a truth value). -/
def defaultClause (ts : List Token) : Except String (Expr × List Token) := do
  let t := peek ts
  let rest := ts.drop 1
  if t.kind = .illegal then throw t.unexpected
  if t.isSymbol "(" then
    let (e, rest) ← Expr.parse rest
    let (_, rest) ← expect (·.isSymbol ")") rest
    return (e, rest)
  if t.isSymbol "+" || t.isSymbol "-" then
    let (v, more) ← expect Token.isTerm rest
    let e ← termOf v
    return (if t.isSymbol "-" then .unary .negate e else e, more)
  if t.isTerm then return (← termOf t, rest)
  if t.isId || t.is "INDEXED" then
    if t.kind = .word && sameName t.raw "true" then return (.truth true, rest)
    if t.kind = .word && sameName t.raw "false" then return (.truth false, rest)
    return (.string t.name, rest)
  throw t.unexpected

def enclosedExpr (ts : List Token) : Except String (Expr × List Token) := do
  let (_, ts) ← expect (·.isSymbol "(") ts
  let (e, ts) ← Expr.parse ts
  let (_, ts) ← expect (·.isSymbol ")") ts
  return (e, ts)

def columnFollows (t : Token) : Bool :=
  t.is "CONSTRAINT" || t.is "DEFAULT" || t.is "NULL" || t.is "NOT" || t.is "PRIMARY" ||
    t.is "UNIQUE" || t.is "CHECK" || t.is "REFERENCES" || t.is "DEFERRABLE" ||
    t.is "COLLATE" || t.is "GENERATED" || t.is "AS" || t.isSymbol "," || t.isSymbol ")"

def startsTableConstraint (t : Token) : Bool :=
  t.is "CONSTRAINT" || t.is "PRIMARY" || t.is "UNIQUE" || t.is "CHECK" || t.is "FOREIGN"

def conflictChoice (ts : List Token) : Except String (Option String × List Token) := do
  if !(peek ts).is "ON" then return (none, ts)
  let (_, ts) ← expect (·.is "CONFLICT") (ts.drop 1)
  let (k, ts) ← expect (fun k => k.is "ROLLBACK" || k.is "ABORT" || k.is "FAIL" ||
    k.is "IGNORE" || k.is "REPLACE") ts
  return (some (k.raw.map Char.toUpper), ts)

def conflictClause (ts : List Token) : Except String (List Token) := do
  return (← conflictChoice ts).2

def deferralClause (ts : List Token) : Except String (List Token) := do
  if !(peek ts).is "INITIALLY" then return ts
  let (_, ts) ← expect (fun k => k.is "DEFERRED" || k.is "IMMEDIATE") (ts.drop 1)
  return ts

def deferrableClause (ts : List Token) : Except String (List Token) :=
  let t := peek ts
  if t.is "DEFERRABLE" then deferralClause (ts.drop 1)
  else if t.is "NOT" && (peek (ts.drop 1)).is "DEFERRABLE" then deferralClause (ts.drop 2)
  else .ok ts

def nameListClause (ts : List Token) : Except String (List Token) := do
  if !(peek ts).isSymbol "(" then return ts
  let (_, ts) ← enclosed 0 (ts.drop 1) []
  return ts

def foreignActions : Nat → List Token → Except String (List Token)
  | 0, ts => .ok ts
  | fuel + 1, ts => do
    let t := peek ts
    if t.is "MATCH" then
      let (_, ts) ← expect Token.isName (ts.drop 1)
      foreignActions fuel ts
    else if t.is "ON" then
      let (_, ts) ← expect (fun k => k.is "DELETE" || k.is "UPDATE" || k.is "INSERT") (ts.drop 1)
      let a := peek ts
      if a.is "SET" then
        let (_, ts) ← expect (fun k => k.is "NULL" || k.is "DEFAULT") (ts.drop 1)
        foreignActions fuel ts
      else if a.is "CASCADE" || a.is "RESTRICT" then foreignActions fuel (ts.drop 1)
      else if a.is "NO" then
        let (_, ts) ← expect (·.is "ACTION") (ts.drop 1)
        foreignActions fuel ts
      else throw a.unexpected
    else return ts

def referencesClause (ts : List Token) : Except String (List Token) := do
  let (_, ts) ← expect Token.isName ts
  let ts ← nameListClause ts
  foreignActions (ts.length + 1) ts

def columnConstraints : Nat → Draft → List Token → Except String (Draft × List Token)
  | 0, d, ts => .ok (d, ts)
  | fuel + 1, d, ts => do
    let t := peek ts
    let rest := ts.drop 1
    let (applied, after) : Except String Draft × List Token ←
      if t.is "CONSTRAINT" then do
        let (_, after) ← expect Token.isName rest
        pure (.ok d, after)
      else if t.is "DEFAULT" then do
        let (value, after) ← defaultClause rest
        pure (d.setDefault value, after)
      else if t.is "NULL" then do
        pure (.ok d, ← conflictClause rest)
      else if t.is "NOT" then do
        let n := peek rest
        if n.is "NULL" then pure (.ok d, ← conflictClause (rest.drop 1))
        else if n.is "DEFERRABLE" then pure (.ok d, ← deferralClause (rest.drop 1))
        else throw n.unexpected
      else if t.is "PRIMARY" then do
        let (_, after) ← expect (·.is "KEY") rest
        let o := peek after
        let (descending, after) :=
          if o.is "DESC" then (true, after.drop 1)
          else if o.is "ASC" then (false, after.drop 1)
          else (false, after)
        let (conflict, after) ← conflictChoice after
        let (autoinc, after) :=
          if (peek after).is "AUTOINCREMENT" then (true, after.drop 1) else (false, after)
        pure (d.addPrimaryKey none descending autoinc conflict, after)
      else if t.is "UNIQUE" then do
        let (conflict, after) ← conflictChoice rest
        pure (d.addIndex [.column ⟨.word, d.lastName, ""⟩ none] false conflict, after)
      else if t.is "CHECK" then do
        let (_, after) ← enclosedExpr rest
        pure (.ok d, after)
      else if t.is "REFERENCES" then do
        let after ← referencesClause rest
        pure (.ok d, ← deferrableClause after)
      else if t.is "DEFERRABLE" then do
        pure (.ok d, ← deferralClause rest)
      else if t.is "COLLATE" then do
        let (name, after) ← expect Token.isTypeWord rest
        pure (.ok (d.setCollation name.name), after)
      else if t.is "GENERATED" || t.is "AS" then do
        let after ← if t.is "GENERATED" then do
            let (_, after) ← expect (·.is "ALWAYS") rest
            let (_, after) ← expect (·.is "AS") after
            pure after
          else pure rest
        let (e, after) ← enclosedExpr after
        let k := peek after
        if k.isId then pure (d.setGenerated e (some k), after.drop 1)
        else pure (d.setGenerated e none, after)
      else return (d, ts)
    proceed columnFollows (pendingOf applied) after
    columnConstraints fuel (← applied) after

def KeyTerm.ofTokens (ts : List Token) : KeyTerm :=
  let (ts, down) := match ts.reverse with
    | t :: rest =>
      if t.is "DESC" then (rest.reverse, true)
      else if t.is "ASC" then (rest.reverse, false)
      else (ts, false)
    | [] => (ts, false)
  match ts with
  | [n] => if n.isName then .column n none down else .expression
  | [n, c, k] =>
    if n.isName && c.is "COLLATE" && k.isTypeWord then .column n (some k.name) down
    else .expression
  | _ => .expression

def splitTerms : Nat → List Token → List Token → List (List Token) → List (List Token)
  | _, [], cur, acc => (cur.reverse :: acc).reverse
  | depth, t :: rest, cur, acc =>
    if depth = 0 && t.isSymbol "," then splitTerms 0 rest [] (cur.reverse :: acc)
    else if t.isSymbol "(" then splitTerms (depth + 1) rest (t :: cur) acc
    else if t.isSymbol ")" then splitTerms (depth - 1) rest (t :: cur) acc
    else splitTerms depth rest (t :: cur) acc

def keyTerms (ts : List Token) : Except String (List KeyTerm × List Token) := do
  let (inside, rest) ← enclosed 0 ts []
  let parts := splitTerms 0 inside [] []
  match parts.findIdx? (·.isEmpty) with
  | some k =>
    if k + 1 = parts.length then throw s!"near \")\": syntax error"
    else throw s!"near \",\": syntax error"
  | none => return (parts.map KeyTerm.ofTokens, rest)

def tableConstraint (d : Draft) (ts : List Token) :
    Except String (Except String Draft × List Token) := do
  let t := peek ts
  let rest := ts.drop 1
  if t.is "CONSTRAINT" then
    let (_, after) ← expect Token.isName rest
    return (.ok d, after)
  if t.is "PRIMARY" then
    let (_, after) ← expect (·.is "KEY") rest
    let (_, after) ← expect (·.isSymbol "(") after
    let (inside, after) ← enclosed 0 after []
    let (inside, autoinc) := match inside.reverse with
      | a :: more => if a.is "AUTOINCREMENT" then (more.reverse, true) else (inside, false)
      | [] => (inside, false)
    let (terms, _) ← keyTerms (inside ++ [⟨.symbol, ")", ""⟩])
    let (conflict, after) ← conflictChoice after
    return (d.addPrimaryKey (some terms) false autoinc conflict, after)
  if t.is "UNIQUE" then
    let (_, after) ← expect (·.isSymbol "(") rest
    let (terms, after) ← keyTerms after
    let (conflict, after) ← conflictChoice after
    return (d.addIndex terms false conflict, after)
  if t.is "CHECK" then
    let (_, after) ← enclosedExpr rest
    return (.ok d, ← conflictClause after)
  if t.is "FOREIGN" then
    let (_, after) ← expect (·.is "KEY") rest
    let (_, after) ← expect (·.isSymbol "(") after
    let (_, after) ← enclosed 0 after []
    let (_, after) ← expect (·.is "REFERENCES") after
    let after ← referencesClause after
    return (.ok d, ← deferrableClause after)
  throw t.unexpected

def tableConstraints : Nat → Draft → List Token → Except String (Draft × List Token)
  | 0, d, ts => .ok (d, ts)
  | fuel + 1, d, ts => do
    let (applied, after) ← tableConstraint d ts
    proceed (fun t => startsTableConstraint t || t.isSymbol "," || t.isSymbol ")")
      (pendingOf applied) after
    let d ← applied
    let c := peek after
    if c.isSymbol "," then tableConstraints fuel d (after.drop 1)
    else if c.isSymbol ")" then return (d, after)
    else tableConstraints fuel d after

def columnDefinitions : Nat → Draft → List Token → Except String (Draft × List Token)
  | 0, d, ts => .ok (d, ts)
  | fuel + 1, d, ts => do
    let (name, rest) ← expect Token.isName ts
    let (words, rest) := typeWords rest
    let (size, rest) ← typeSizeAfter words rest
    let typeText := if words.isEmpty then none else some (spanText (words ++ size))
    let added := d.addColumn name typeText
    proceed columnFollows (pendingOf added) rest
    let (d, rest) ← columnConstraints (rest.length + 1) (← added) rest
    proceed (fun t => t.isSymbol "," || t.isSymbol ")") none rest
    if (peek rest).isSymbol "," then
      let more := rest.drop 1
      if startsTableConstraint (peek more) then tableConstraints (more.length + 1) d more
      else columnDefinitions fuel d more
    else return (d, rest)

def tableOptions : Nat → Bool × Bool → List Token →
    Except String ((Bool × Bool) × Option String × List Token)
  | 0, acc, ts => .ok (acc, none, ts)
  | fuel + 1, (withoutRowid, strict), ts => do
    let t := peek ts
    if t.kind != .illegal && t.ends then return ((withoutRowid, strict), none, ts)
    let (option, after) ←
      if t.is "WITHOUT" then do
        let (n, after) ← expect Token.isName (ts.drop 1)
        if n.raw.length = 5 && sameName n.raw "rowid" then pure (Except.ok (true, strict), after)
        else pure (Except.error s!"unknown table option: {n.raw}", after)
      else do
        let (n, after) ← expect Token.isName ts
        if n.raw.length = 6 && sameName n.raw "strict" then
          pure (Except.ok (withoutRowid, true), after)
        else pure (Except.error s!"unknown table option: {n.raw}", after)
    let next := peek after
    if next.kind = .illegal || !(next.ends || next.isSymbol ",") then throw next.unexpected
    match option with
    | .error e => if next.ends then return ((withoutRowid, strict), some e, after) else throw e
    | .ok acc => if next.ends then return (acc, none, after) else tableOptions fuel acc (after.drop 1)

structure Context where
  entryType : Option String
  entryName : Option String
  entryTable : Option String
  root : Nat
  tables : List String
  views : List String
  others : List String
  indexes : List String

def sameAs (entry : Option String) (name : String) : Bool :=
  match entry with
  | some e => sameName e name
  | none => false

def isSchemaTable (name : String) : Bool :=
  sameName name "sqlite_master" || sameName name "sqlite_schema"

def Context.existing? (cx : Context) (name : String) : Option String :=
  if isSchemaTable name || cx.tables.any (sameName · name) || cx.others.any (sameName · name) then
    some "table"
  else if cx.views.any (sameName · name) then some "view"
  else none

/-- The checks at the start of a table or view declaration: its name may not be qualified by a
database, must agree with the entry, and may not be taken. Gives the error, and whether the
declaration creates its object; one that allows an existing object creates nothing. -/
def Context.start (cx : Context) (kind : String) (name : Token) (qualified ifNotExists : Bool) :
    Option String × Bool :=
  if qualified then (some "corrupt database", false)
  else
    let zName := if cx.root = 1 then "sqlite_master" else name.name
    if !(sameAs cx.entryType kind && sameAs cx.entryName zName && sameAs cx.entryTable zName) then
      (some "", false)
    else match cx.existing? zName with
      | some k => if ifNotExists then (none, false) else (some s!"{k} {name.raw} already exists", false)
      | none =>
        if cx.indexes.any (sameName · zName) then
          (some s!"there is already an index named {zName}", false)
        else (none, true)

structure IndexKey where
  expr : Expr
  descending : Bool
  nulls : Option String
  deriving Repr

structure IndexDecl where
  name : String
  qualified : Bool
  table : String
  unique : Bool
  ifNotExists : Bool
  keys : List IndexKey
  condition : Option Expr
  deriving Repr

inductive Statement where
  | table (decl : Option TableDecl)
  | index (decl : IndexDecl)
  | view (decl : Option View)
  | virtualTable (name : Option String)
  | trigger
  deriving Repr

def ifNotExistsClause (ts : List Token) : Except String (Bool × List Token) := do
  if !(peek ts).is "IF" then return (false, ts)
  let (_, ts) ← expect (·.is "NOT") (ts.drop 1)
  let (_, ts) ← expect (·.is "EXISTS") ts
  return (true, ts)

def qualifiedName (ts : List Token) : Except String (Bool × Token × List Token) := do
  let (name, ts) ← expect Token.isName ts
  if (peek ts).isSymbol "." then
    let (name, ts) ← expect Token.isName (ts.drop 1)
    return (true, name, ts)
  return (false, name, ts)

def tableStatement (cx : Context) (ts : List Token) : Except String Statement := do
  let (ifNotExists, ts) ← ifNotExistsClause ts
  let (qualified, name, ts) ← qualifiedName ts
  let (pending, live) := cx.start "table" name qualified ifNotExists
  proceed (fun t => t.isSymbol "(" || t.is "AS") pending ts
  if (peek ts).is "AS" then
    -- a table made from a query: the loader takes no such declaration
    let _ ← toEnd (ts.drop 1)
    if live then throw "" else return .table none
  let zName := if cx.root = 1 then "sqlite_master" else name.name
  let (d, ts) ← columnDefinitions (ts.length + 1) { name := zName, live := live } (ts.drop 1)
  let (_, ts) ← expect (·.isSymbol ")") ts
  let ((withoutRowid, strict), optionError, _) ← tableOptions (ts.length + 1) (false, false) ts
  if !live then
    match optionError with
    | some e => throw e
    | none => return .table none
  let decl ← d.finish withoutRowid strict
  match optionError with
  | some e => throw e
  | none => return .table (some decl)

def indexKeys : Nat → List Token → Except String (List IndexKey × List Token)
  | 0, ts => .error (peek ts).unexpected
  | fuel + 1, ts => do
    let (e, ts) ← Expr.parse ts
    let d := peek ts
    let (descending, ts) :=
      if d.is "DESC" then (true, ts.drop 1)
      else if d.is "ASC" then (false, ts.drop 1)
      else (false, ts)
    let (nulls, ts) ← if (peek ts).is "NULLS" then do
        let (k, ts) ← expect (fun k => k.is "FIRST" || k.is "LAST") (ts.drop 1)
        pure (some (k.raw.map Char.toUpper), ts)
      else pure (none, ts)
    let key : IndexKey := ⟨e, descending, nulls⟩
    if (peek ts).isSymbol "," then
      let (more, ts) ← indexKeys fuel (ts.drop 1)
      return (key :: more, ts)
    let (_, ts) ← expect (·.isSymbol ")") ts
    return ([key], ts)

def indexStatement (unique : Bool) (ts : List Token) : Except String Statement := do
  let (ifNotExists, ts) ← ifNotExistsClause ts
  let (qualified, name, ts) ← qualifiedName ts
  let (_, ts) ← expect (·.is "ON") ts
  let (table, ts) ← expect Token.isName ts
  let (_, ts) ← expect (·.isSymbol "(") ts
  let (keys, ts) ← indexKeys ts.length ts
  let (condition, ts) ← if (peek ts).is "WHERE" then do
      let (e, ts) ← Expr.parse (ts.drop 1)
      pure (some e, ts)
    else pure (none, ts)
  let _ ← expect Token.ends ts
  return .index ⟨name.name, qualified, table.name, unique, ifNotExists, keys, condition⟩

def viewColumnNames : Nat → List Token → Except String (List String × List Token)
  | 0, ts => .ok ([], ts)
  | fuel + 1, ts => do
    let (n, ts) ← expect Token.isName ts
    let ts ← if (peek ts).is "COLLATE" then do
        let (_, ts) ← expect Token.isTypeWord (ts.drop 1)
        pure ts
      else pure ts
    let ts := if (peek ts).is "ASC" || (peek ts).is "DESC" then ts.drop 1 else ts
    let c := peek ts
    if c.isSymbol "," then
      let (more, ts) ← viewColumnNames fuel (ts.drop 1)
      return (n.name :: more, ts)
    let (_, ts) ← expect (·.isSymbol ")") ts
    return ([n.name], ts)

def viewStatement (cx : Context) (ts : List Token) : Except String Statement := do
  let (ifNotExists, ts) ← ifNotExistsClause ts
  let (qualified, name, ts) ← qualifiedName ts
  let (names, ts) ← if (peek ts).isSymbol "(" then do
      let (names, ts) ← viewColumnNames ts.length (ts.drop 1)
      pure (some names, ts)
    else pure (none, ts)
  let (_, body) ← expect (·.is "AS") ts
  let (query, ts) ← Query.parse body
  let (pending, live) := cx.start "view" name qualified ifNotExists
  let parameters := (consumed body ts).any (·.kind = .parameter)
  let pending := if parameters then some "parameters are not allowed in views" else pending
  proceed Token.ends pending ts
  if live && cx.root ≠ 0 then throw ""
  return .view (if live then some ⟨name.name, names, query⟩ else none)

def virtualStatement (cx : Context) (ts : List Token) : Except String Statement := do
  let (ifNotExists, ts) ← ifNotExistsClause ts
  let (qualified, name, ts) ← qualifiedName ts
  let (_, ts) ← expect (·.is "USING") ts
  let (_, ts) ← expect Token.isName ts
  let (pending, live) := cx.start "table" name qualified ifNotExists
  proceed (fun t => t.ends || t.isSymbol "(") pending ts
  return .virtualTable (if live then some name.name else none)

/-- Read the statement of a schema entry. -/
def Statement.read (cx : Context) (sql : String) : Except String Statement := do
  let ts := tokenize sql
  let (_, ts) ← expect (·.is "CREATE") ts
  let t := peek ts
  let rest := ts.drop 1
  if t.is "TEMP" || t.is "TEMPORARY" then
    let k := peek rest
    if k.is "TABLE" then tableStatement cx (rest.drop 1)
    else if k.is "VIEW" then viewStatement cx (rest.drop 1)
    else if k.is "TRIGGER" then let _ ← toEnd (rest.drop 1); return .trigger
    else throw k.unexpected
  else if t.is "TABLE" then tableStatement cx rest
  else if t.is "UNIQUE" then
    let (_, rest) ← expect (·.is "INDEX") rest
    indexStatement true rest
  else if t.is "INDEX" then indexStatement false rest
  else if t.is "VIEW" then viewStatement cx rest
  else if t.is "TRIGGER" then let _ ← toEnd rest; return .trigger
  else if t.is "VIRTUAL" then
    let (_, rest) ← expect (·.is "TABLE") rest
    virtualStatement cx rest
  else throw t.unexpected

end ChatArchive.Store.File
