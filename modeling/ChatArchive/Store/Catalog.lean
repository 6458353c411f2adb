import ChatArchive.Store.Table

namespace ChatArchive.Store

inductive FunctionKind where
  | scalar
  | aggregate
  | window
  | refusal
  deriving DecidableEq, Repr

structure FunctionDef where
  name : String
  arity : Option Nat
  kind : FunctionKind := .scalar
  deterministic : Bool := true
  deriving DecidableEq, Repr

def defsOf (name : String) (arities : List (Option Nat)) (kind : FunctionKind)
    (deterministic : Bool) : List FunctionDef :=
  arities.map fun a => ⟨name, a, kind, deterministic⟩

def pureFunctions : List FunctionDef :=
  let f (name : String) (arities : List (Option Nat)) := defsOf name arities .scalar true
  let r (name : String) (arities : List (Option Nat)) := defsOf name arities .refusal true
  f "ltrim" [some 1, some 2] ++ f "rtrim" [some 1, some 2] ++
  f "trim" [some 1, some 2] ++
  f "min" [none] ++ r "min" [some 0] ++
  f "max" [none] ++ r "max" [some 0] ++
  f "typeof" [some 1] ++ f "subtype" [some 1] ++ f "length" [some 1] ++
  f "octet_length" [some 1] ++ f "instr" [some 2] ++ f "printf" [none] ++
  f "format" [none] ++ f "unicode" [some 1] ++ f "char" [none] ++
  f "abs" [some 1] ++ f "round" [some 1, some 2] ++ f "upper" [some 1] ++
  f "lower" [some 1] ++ f "hex" [some 1] ++ f "unhex" [some 1, some 2] ++
  f "concat" [none] ++ r "concat" [some 0] ++
  f "concat_ws" [none] ++ r "concat_ws" [some 0, some 1] ++
  f "ifnull" [some 2] ++ f "nullif" [some 2] ++ f "sqlite_log" [some 2] ++
  f "quote" [some 1] ++ f "replace" [some 3] ++ f "zeroblob" [some 1] ++
  f "substr" [some 2, some 3] ++ f "substring" [some 2, some 3] ++
  f "glob" [some 2] ++ f "like" [some 2, some 3] ++
  r "coalesce" [some 1, some 0] ++ f "coalesce" [none] ++
  f "iif" [some 3] ++ f "sign" [some 1] ++ f "unlikely" [some 1] ++
  f "likelihood" [some 2] ++ f "likely" [some 1] ++ f "soundex" [some 1] ++
  f "julianday" [none] ++ f "unixepoch" [none] ++ f "date" [none] ++
  f "time" [none] ++ f "datetime" [none] ++ f "strftime" [none] ++
  f "timediff" [some 2] ++
  f "json" [some 1] ++ f "jsonb" [some 1] ++ f "json_array" [none] ++
  f "jsonb_array" [none] ++ f "json_array_length" [some 1, some 2] ++
  f "json_error_position" [some 1] ++ f "json_extract" [none] ++
  f "jsonb_extract" [none] ++ f "->" [some 2] ++ f "->>" [some 2] ++
  f "json_insert" [none] ++ f "jsonb_insert" [none] ++ f "json_object" [none] ++
  f "jsonb_object" [none] ++ f "json_patch" [some 2] ++ f "jsonb_patch" [some 2] ++
  f "json_pretty" [some 1, some 2] ++ f "json_quote" [some 1] ++
  f "json_remove" [none] ++ f "jsonb_remove" [none] ++ f "json_replace" [none] ++
  f "jsonb_replace" [none] ++ f "json_set" [none] ++ f "jsonb_set" [none] ++
  f "json_type" [some 1, some 2] ++ f "json_valid" [some 1, some 2]

def volatileFunctions : List FunctionDef :=
  let v (name : String) (arities : List (Option Nat)) := defsOf name arities .scalar false
  v "random" [some 0] ++ v "randomblob" [some 1] ++ v "last_insert_rowid" [some 0] ++
  v "changes" [some 0] ++ v "total_changes" [some 0] ++ v "sqlite_version" [some 0] ++
  v "sqlite_source_id" [some 0] ++ v "current_time" [some 0] ++
  v "current_timestamp" [some 0] ++ v "current_date" [some 0] ++
  v "sqlite_compileoption_used" [some 1] ++ v "sqlite_compileoption_get" [some 1] ++
  v "load_extension" [some 1, some 2] ++ v "match" [some 2] ++ v "snippet" [none] ++
  v "offsets" [some 1] ++ v "matchinfo" [some 1, some 2] ++ v "optimize" [some 1] ++
  v "fts5" [some 1] ++ v "fts5_source_id" [some 0] ++ v "rtreenode" [some 2] ++
  v "rtreedepth" [some 1] ++ v "rtreecheck" [none]

def groupFunctions : List FunctionDef :=
  let a (name : String) (arities : List (Option Nat)) := defsOf name arities .aggregate true
  let w (name : String) (arities : List (Option Nat)) := defsOf name arities .window true
  a "sum" [some 1] ++ a "total" [some 1] ++ a "avg" [some 1] ++ a "count" [some 0, some 1] ++
  a "group_concat" [some 1, some 2] ++ a "string_agg" [some 2] ++ a "max" [some 1] ++
  a "min" [some 1] ++ a "json_group_array" [some 1] ++ a "jsonb_group_array" [some 1] ++
  a "json_group_object" [some 2] ++ a "jsonb_group_object" [some 2] ++
  w "row_number" [some 0] ++ w "dense_rank" [some 0] ++ w "rank" [some 0] ++
  w "percent_rank" [some 0] ++ w "cume_dist" [some 0] ++ w "ntile" [some 1] ++
  w "last_value" [some 1] ++ w "nth_value" [some 2] ++ w "first_value" [some 1] ++
  w "lead" [some 1, some 2, some 3] ++ w "lag" [some 1, some 2, some 3]

def functionCatalog : List FunctionDef := pureFunctions ++ volatileFunctions ++ groupFunctions

inductive Lookup where
  | found (d : FunctionDef)
  | wrongCount
  | unknown
  deriving DecidableEq, Repr

/-- How well a definition fits a call of `n` arguments: exactly, for any number, or not. -/
def FunctionDef.fit (d : FunctionDef) (n : Nat) : Nat :=
  match d.arity with
  | some k => if k = n then 2 else 0
  | none => 1

/-- The definition a call of a name with `n` arguments finds: the first that fits best. -/
def lookupFunction (name : String) (n : Nat) : Lookup :=
  let key := name.map Char.toLower
  let defs := functionCatalog.filter (·.name == key)
  let best := defs.foldl (fun (acc : Option FunctionDef) d =>
    if d.fit n = 0 then acc
    else match acc with
      | some b => if b.fit n < d.fit n then some d else acc
      | none => some d) none
  match best with
  | some d => if d.kind = .refusal then .wrongCount else .found d
  | none => if defs.any (·.kind != .refusal) then .wrongCount else .unknown

end ChatArchive.Store
