import ChatArchive.Store.File.Token

namespace ChatArchive.Store.File

def dequote (s : String) : String :=
  match s.toList with
  | c :: rest =>
    if c = '"' || c = singleQuote || c = backQuote || c = '[' then
      let close := if c = '[' then ']' else c
      let rec go : List Char → List Char
        | [] => []
        | d :: more =>
          if d = close then
            match more with
            | e :: more' => if e = close then d :: go more' else []
            | [] => []
          else d :: go more
      String.ofList (go rest)
    else s
  | [] => s

def Token.name (t : Token) : String := dequote t.raw

def isQuote (c : Char) : Bool := c = '"' || c = singleQuote || c = backQuote || c = '['

def keywords : List String :=
  ["ABORT", "ACTION", "ADD", "AFTER", "ALL", "ALTER", "ALWAYS", "ANALYZE", "AND", "AS", "ASC",
   "ATTACH", "AUTOINCREMENT", "BEFORE", "BEGIN", "BETWEEN", "BY", "CASCADE", "CASE", "CAST",
   "CHECK", "COLLATE", "COLUMN", "COMMIT", "CONFLICT", "CONSTRAINT", "CREATE", "CROSS",
   "CURRENT", "CURRENT_DATE", "CURRENT_TIME", "CURRENT_TIMESTAMP", "DATABASE", "DEFAULT",
   "DEFERRABLE", "DEFERRED", "DELETE", "DESC", "DETACH", "DISTINCT", "DO", "DROP", "EACH",
   "ELSE", "END", "ESCAPE", "EXCEPT", "EXCLUDE", "EXCLUSIVE", "EXISTS", "EXPLAIN", "FAIL",
   "FILTER", "FIRST", "FOLLOWING", "FOR", "FOREIGN", "FROM", "FULL", "GENERATED", "GLOB",
   "GROUP", "GROUPS", "HAVING", "IF", "IGNORE", "IMMEDIATE", "IN", "INDEX", "INDEXED",
   "INITIALLY", "INNER", "INSERT", "INSTEAD", "INTERSECT", "INTO", "IS", "ISNULL", "JOIN", "KEY",
   "LAST", "LEFT", "LIKE", "LIMIT", "MATCH", "MATERIALIZED", "NATURAL", "NO", "NOT", "NOTHING",
   "NOTNULL", "NULL", "NULLS", "OF", "OFFSET", "ON", "OR", "ORDER", "OTHERS", "OUTER", "OVER",
   "PARTITION", "PLAN", "PRAGMA", "PRECEDING", "PRIMARY", "QUERY", "RAISE", "RANGE",
   "RECURSIVE", "REFERENCES", "REGEXP", "REINDEX", "RELEASE", "RENAME", "REPLACE", "RESTRICT",
   "RETURNING", "RIGHT", "ROLLBACK", "ROW", "ROWS", "SAVEPOINT", "SELECT", "SET", "TABLE",
   "TEMP", "TEMPORARY", "THEN", "TIES", "TO", "TRANSACTION", "TRIGGER", "UNBOUNDED", "UNION",
   "UNIQUE", "UPDATE", "USING", "VACUUM", "VALUES", "VIEW", "VIRTUAL", "WHEN", "WHERE",
   "WINDOW", "WITH", "WITHOUT"]

/-- The keywords that serve as names where the grammar has no rule for them as keywords. -/
def nameKeywords : List String :=
  ["ABORT", "ACTION", "AFTER", "ANALYZE", "ASC", "ATTACH", "BEFORE", "BEGIN", "BY", "CASCADE",
   "CAST", "COLUMN", "CONFLICT", "DATABASE", "DEFERRED", "DESC", "DETACH", "DO", "EACH", "END",
   "EXCLUSIVE", "EXPLAIN", "FAIL", "FOR", "IGNORE", "IMMEDIATE", "INITIALLY", "INSTEAD", "LIKE",
   "GLOB", "REGEXP", "MATCH", "NO", "PLAN", "QUERY", "KEY", "OF", "OFFSET", "PRAGMA", "RAISE",
   "RECURSIVE", "RELEASE", "REPLACE", "RESTRICT", "ROW", "ROWS", "SAVEPOINT", "TEMP",
   "TEMPORARY", "TRIGGER", "VACUUM", "VIEW", "VIRTUAL", "WITH", "WITHOUT", "NULLS", "FIRST",
   "LAST", "CURRENT", "FOLLOWING", "PARTITION", "PRECEDING", "RANGE", "UNBOUNDED", "EXCLUDE",
   "GROUPS", "OTHERS", "TIES", "GENERATED", "ALWAYS", "MATERIALIZED", "REINDEX", "RENAME",
   "CURRENT_DATE", "CURRENT_TIME", "CURRENT_TIMESTAMP", "IF", "WINDOW", "OVER", "FILTER"]

def joinKeywords : List String := ["CROSS", "FULL", "INNER", "LEFT", "NATURAL", "OUTER", "RIGHT"]

def Token.keyword? (t : Token) : Option String :=
  if t.kind = .word then
    let upper := t.raw.toUpper
    if keywords.contains upper then some upper else none
  else none

def Token.is (t : Token) (k : String) : Bool := t.keyword? = some k

def Token.isSymbol (t : Token) (s : String) : Bool := t.kind = .symbol && t.raw = s

def Token.ends (t : Token) : Bool := t.kind = .finish || t.isSymbol ";"

def Token.isId (t : Token) : Bool :=
  t.kind = .quoted ||
    (t.kind = .word && match t.keyword? with
      | none => true
      | some k => nameKeywords.contains k)

def Token.isName (t : Token) : Bool :=
  t.isId || t.kind = .string || t.is "INDEXED" ||
    (match t.keyword? with
      | some k => joinKeywords.contains k
      | none => false)

def Token.isTypeWord (t : Token) : Bool := t.isId || t.kind = .string

def Token.unexpected (t : Token) : String :=
  match t.kind with
  | .illegal => s!"unrecognized token: \"{t.raw}\""
  | .finish => "incomplete input"
  | _ => s!"near \"{t.raw}\": syntax error"

def peek : List Token → Token
  | t :: _ => t
  | [] => ⟨.finish, "", ""⟩

/-- Go on at the next token once a rule is complete: an illegal token is reported first, then a
token that `valid` does not take, and only then the error the completed rule met. -/
def proceed (valid : Token → Bool) (pending : Option String) (ts : List Token) :
    Except String Unit :=
  let t := peek ts
  if t.kind = .illegal || !valid t then .error t.unexpected
  else match pending with
    | some e => .error e
    | none => .ok ()

def pendingOf {α : Type} : Except String α → Option String
  | .error e => some e
  | .ok _ => none

def expect (valid : Token → Bool) (ts : List Token) : Except String (Token × List Token) :=
  let t := peek ts
  if t.kind != .illegal && valid t then .ok (t, ts.drop 1) else .error t.unexpected

end ChatArchive.Store.File
