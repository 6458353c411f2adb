import ChatArchive.Store.Resolve
import ChatArchive.Store.Eval

namespace ChatArchive.Store

def Expr.integerText? : Expr → Option String
  | .integer t => some t
  | _ => none

def literalFaults (text : String) (negated : Bool) : List SqlError :=
  match integerLiteral text negated with
  | .error m => [.failure m]
  | .ok _ => []

def Collation.faults : Collation → List SqlError
  | .unknown name => [.noSuchCollation name]
  | _ => []

def callFaults (name : String) (n : Nat) : Option (List SqlError) :=
  match lookupFunction name n with
  | .found d => if d.kind = .scalar then none else some [.failure s!"unknown function: {name}()"]
  | _ => some [.failure s!"unknown function: {name}()"]

mutual
/-- The faults compiling an expression meets, in order, given those of computing what each name
reaches; `paired` when the expression is a list of values compared with another. -/
def Scope.codeFaults (sc : Scope) (reach : Ref → Column → List SqlError) (paired : Bool) :
    Expr → List SqlError
  | .integer t => literalFaults t false
  | .unary op e =>
    match op, e.integerText? with
    | .negate, some t => literalFaults t true
    | _, _ => sc.codeFaults reach false e
  | .column q n _ =>
    match sc.resolve q n with
    | .found r c => reach r c
    | _ => []
  | .call name _ _ _ args =>
    match callFaults name args.length with
    | some fs => fs
    | none => sc.codeFaultsAll reach args
  | .pattern op _ e pat escape =>
    match callFaults op.functionName (if escape.isSome then 3 else 2) with
    | some fs => fs
    | none =>
      sc.codeFaults reach false pat ++ sc.codeFaults reach false e ++
        sc.codeFaultsOption reach escape
  | .binary op a b =>
    let rows := op.compares && 1 < a.width && a.width == b.width
    let order := if op.compares && !rows then (sc.compareCollation a b).faults else []
    order ++ sc.codeFaults reach rows a ++ sc.codeFaults reach rows b
  | .between _ e lo hi =>
    (sc.compareCollation e lo).faults ++ sc.codeFaults reach false e ++
      sc.codeFaults reach false lo ++ sc.codeFaults reach false hi
  | .inList _ e items =>
    ((sc.collation e).getD .binary).faults ++ sc.codeFaults reach false e ++
      sc.codeFaultsAll reach items
  | .collate e _ | .cast e _ | .isNull e | .notNull e | .inQuery _ e =>
    sc.codeFaults reach false e
  | .vector items =>
    if paired then sc.codeFaultsAll reach items else [.failure "row value misused"]
  | .case operand branches otherwise =>
    sc.codeFaultsOption reach operand ++ sc.codeFaultsBranches reach branches ++
      sc.codeFaultsOption reach otherwise
  | .raise => [.failure "RAISE() may only be used within a trigger-program"]
  | _ => []

def Scope.codeFaultsAll (sc : Scope) (reach : Ref → Column → List SqlError) :
    List Expr → List SqlError
  | [] => []
  | e :: es => sc.codeFaults reach false e ++ sc.codeFaultsAll reach es

def Scope.codeFaultsOption (sc : Scope) (reach : Ref → Column → List SqlError) :
    Option Expr → List SqlError
  | none => []
  | some e => sc.codeFaults reach false e

def Scope.codeFaultsBranches (sc : Scope) (reach : Ref → Column → List SqlError) :
    List (Expr × Expr) → List SqlError
  | [] => []
  | (w, t) :: rest =>
    sc.codeFaults reach false w ++ sc.codeFaults reach false t ++
      sc.codeFaultsBranches reach rest
end

def Scope.faultsOf (sc : Scope) (e : Expr) : List SqlError :=
  sc.codeFaults (fun _ c => c.faults) false e

end ChatArchive.Store
