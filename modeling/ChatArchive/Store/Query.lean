import ChatArchive.Store.Expr

namespace ChatArchive.Store

inductive ResultColumn where
  | all (qualifier : Option String)
  | expr (e : Expr) (text : String) (aliasName : Option String)
  deriving Repr, Inhabited

inductive RowSource where
  | table (database : Option String) (name : String) (aliasName : Option String)
  | other (aliasName : Option String)
  deriving Repr, Inhabited

inductive CompoundOp where
  | union
  | unionAll
  | except
  | intersect
  deriving DecidableEq, Repr

structure OrderTerm where
  e : Expr
  descending : Bool
  deriving Repr, Inhabited

structure Select where
  distinct : Bool := false
  columns : List ResultColumn
  sources : List RowSource := []
  joined : Bool := false
  filter : Option Expr := none
  grouped : Bool := false
  orderBy : List OrderTerm := []
  limited : Bool := false
  deriving Repr, Inhabited

inductive Query where
  | select (s : Select)
  | values (rows : List (List Expr))
  | compound (op : CompoundOp) (left right : Query)
  | withClause (body : Query)
  deriving Repr, Inhabited

/-- A view as a schema declares it: its name, the names its column list gives, if it has one,
and its query. -/
structure View where
  name : String
  columnNames : Option (List String)
  query : Query
  deriving Repr

end ChatArchive.Store
