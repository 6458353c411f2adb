namespace ChatArchive.Store

inductive UnaryOp where
  | negate
  | plus
  | not
  | bitNot
  deriving DecidableEq, Repr

inductive BinaryOp where
  | or
  | and
  | eq
  | ne
  | lt
  | le
  | gt
  | ge
  | is
  | isNot
  | bitAnd
  | bitOr
  | shiftLeft
  | shiftRight
  | add
  | sub
  | mul
  | div
  | rem
  | concat
  | extract (text : Bool)
  deriving DecidableEq, Repr

inductive PatternOp where
  | like
  | glob
  | regexp
  | matches
  deriving DecidableEq, Repr

inductive ClockWord where
  | date
  | time
  | timestamp
  deriving DecidableEq, Repr

/-- An expression. -/
inductive Expr where
  | null
  | integer (text : String)
  | real (text : String)
  | string (s : String)
  | blob (bytes : List UInt8)
  | truth (b : Bool)
  | parameter
  | column (qualifier : List String) (name : String) (doubleQuoted : Bool)
  | clock (w : ClockWord)
  | unary (op : UnaryOp) (e : Expr)
  | binary (op : BinaryOp) (a b : Expr)
  | collate (e : Expr) (name : String)
  | cast (e : Expr) (type : String)
  | call (name : String) (distinct star window : Bool) (args : List Expr)
  | isNull (e : Expr)
  | notNull (e : Expr)
  | between (negated : Bool) (e low high : Expr)
  | inList (negated : Bool) (e : Expr) (items : List Expr)
  | inQuery (negated : Bool) (e : Expr)
  | pattern (op : PatternOp) (negated : Bool) (e pat : Expr) (escape : Option Expr)
  | case (operand : Option Expr) (branches : List (Expr × Expr)) (otherwise : Option Expr)
  | vector (items : List Expr)
  | query
  | exists
  | raise
  deriving Repr, Inhabited

end ChatArchive.Store
