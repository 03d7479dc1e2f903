import Primer.Proofs.Tree.Part
import Primer.Proofs.Typing.Program

/-! How checking gets to the parts of a program.

A visit tells a part, as it stands in the program, and the checker that comes to it. Bodies are
visited in scopes of their own; what follows a part is visited with the checker it leaves.
-/

set_option autoImplicit false

namespace Primer

inductive Visit : Part Ty → Checker → Nat → Part Ty → Checker → Prop where
  | inner {checker : Checker} {inner : Expr} {type : Option Ty} :
    Visit (.value (.group inner type)) checker 0 (.value inner) checker
  | left {checker : Checker} {operator : Operator} {left right : Expr} {type : Option Ty} :
    Visit (.value (.binary operator left right type)) checker 0 (.value left) checker
  | right {checker : Checker} {operator : Operator} {left right : Expr} {type : Option Ty} :
    Visit (.value (.binary operator left right type)) checker 1 (.value right) checker
  | index {checker : Checker} {name : String} {index : Expr} {binding : Option Variable}
      {type : Option Ty} :
    Visit (.value (.element name index binding type)) checker 0 (.value index) checker
  | arguments {checker : Checker} {name : String} {arguments : List Expr}
      {binding : Option Signature} {type : Option Ty} :
    Visit (.value (.call name arguments binding type)) checker 0 (.values arguments) checker
  | elements {checker : Checker} {elements : List Expr} {elementType type : Option Ty} :
    Visit (.value (.list elements elementType type)) checker 0 (.values elements) checker
  | head {checker : Checker} {first : Expr} {rest : List Expr} :
    Visit (.values (first :: rest)) checker 0 (.value first) checker
  | tail {checker : Checker} {first : Expr} {rest : List Expr} :
    Visit (.values (first :: rest)) checker 1 (.values rest) checker
  | targetIndex {checker : Checker} {name : String} {index : Expr} {binding : Option Variable}
      {type : Option Ty} :
    Visit (.target (.element name index binding type)) checker 0 (.value index) checker
  | expression {checker : Checker} {value : Expr} :
    Visit (.statement (.expression value)) checker 0 (.value value) checker
  | declared {checker : Checker} {name : String} {typeName : Option String} {value : Expr}
      {binding : Option Variable} :
    Visit (.statement (.declaration name typeName (some value) binding)) checker 0 (.value value)
      checker
  | receiver {checker : Checker} {receiver value : Expr} :
    Visit (.statement (.assignment receiver value)) checker 0 (.target receiver) checker
  | assigned {checker : Checker} {receiver value : Expr} :
    Visit (.statement (.assignment receiver value)) checker 1 (.value value) checker
  | test {checker : Checker} {test : Expr} {thenBody elseBody : List Stmt} :
    Visit (.statement (.conditional test thenBody elseBody)) checker 0 (.value test) checker
  | thenBody {checker : Checker} {test : Expr} {thenBody elseBody : List Stmt} :
    Visit (.statement (.conditional test thenBody elseBody)) checker 1 (.statements thenBody)
      checker.inside
  | elseBody {checker last : Checker} {test : Expr} {thenBody elseBody typed : List Stmt}
      (before : Stmt.checkAll thenBody checker.inside = .ok typed last) :
    Visit (.statement (.conditional test thenBody elseBody)) checker 2 (.statements elseBody)
      (last.comeBack checker.names.current).inside
  | loopTest {checker : Checker} {test : Expr} {body : List Stmt} :
    Visit (.statement (.loop test body)) checker 0 (.value test) checker
  | loopBody {checker : Checker} {test : Expr} {body : List Stmt} :
    Visit (.statement (.loop test body)) checker 1 (.statements body) checker.inside
  | scrutinee {checker : Checker} {value : Expr} {cases : List Case} :
    Visit (.statement (.switch value cases)) checker 0 (.value value) checker
  | cases {checker : Checker} {value typed : Expr} {type : Ty} {cases : List Case}
      (about : value.check checker.names = .ok (typed, type)) :
    Visit (.statement (.switch value cases)) checker 1 (.cases type cases) checker
  | returned {checker : Checker} {value : Expr} :
    Visit (.statement (.returns value)) checker 0 (.value value) checker
  | first {checker : Checker} {first : Stmt} {rest : List Stmt} :
    Visit (.statements (first :: rest)) checker 0 (.statement first) checker
  | next {checker after : Checker} {first typed : Stmt} {rest : List Stmt}
      (before : first.check checker = .ok typed after) :
    Visit (.statements (first :: rest)) checker 1 (.statements rest) after
  | candidate {checker : Checker} {type : Ty} {value : Expr} {body : List Stmt}
      {rest : List Case} :
    Visit (.cases type (.matching value body :: rest)) checker 0 (.value value) checker
  | matched {checker : Checker} {type : Ty} {value : Expr} {body : List Stmt}
      {rest : List Case} :
    Visit (.cases type (.matching value body :: rest)) checker 1 (.statements body) checker.inside
  | unmatched {checker last : Checker} {type : Ty} {value : Expr} {body typed : List Stmt}
      {rest : List Case} (before : Stmt.checkAll body checker.inside = .ok typed last) :
    Visit (.cases type (.matching value body :: rest)) checker 2 (.cases type rest)
      (last.comeBack checker.names.current)
  | otherwise {checker : Checker} {type : Ty} {body : List Stmt} {rest : List Case} :
    Visit (.cases type (.otherwise body :: rest)) checker 1 (.statements body) checker.inside

def Program.ChecksGlobal (program : Program) (index : Nat) (global : Global) (checker : Checker) :
    Prop :=
  ∃ earlier later done, program.globals = earlier ++ global :: later ∧ earlier.length = index ∧
    earlier.mapM Check.global Checker.initial = .ok done checker

def Program.ChecksBody (program : Program) (function : Function) (checker : Checker) : Prop :=
  ∃ earlier later globals done loaded before signature,
    program.globals.mapM Check.global Checker.initial = .ok globals loaded ∧
    program.functions = earlier ++ function :: later ∧
    earlier.mapM Check.function loaded = .ok done before ∧
    function.signature = .ok signature ∧
    checker = signature.inBody
      (before.names.defineFunction function.name function.arity signature) function.parameters

/-- Checking the program comes to the part that stands in this place, with this checker. -/
inductive Visits (program : Program) : Place → Part Ty → Checker → Prop where
  | global {index : Nat} {global : Global} {value : Expr} {checker : Checker}
      (checks : program.ChecksGlobal index global checker) (given : global.value = some value) :
    Visits program (Root.global index).place (.value value) checker
  | body {function : Function} {checker : Checker}
      (checks : program.ChecksBody function checker) :
    Visits program (Root.body function.name function.arity).place (.statements function.body)
      checker
  | turn {place : Place} {part inner : Part Ty} {checker after : Checker} {index : Nat}
      (visits : Visits program place part checker) (visit : Visit part checker index inner after) :
    Visits program (place.turn index) inner after

/-- What checking declares: a variable, kept in the scope of that number behind so many older ones. -/
inductive Declares (program : Program) : Origin → Nat → Nat → Variable → Prop where
  | global {index : Nat} {global : Global} {checker : Checker} {value : Option Expr}
      {binding : Variable} (checks : program.ChecksGlobal index global checker)
      (declared : Variable.declare checker.names global.name global.typeName global.mutable
        global.value = .ok (value, binding)) :
    Declares program (.global index) checker.names.current.top
      (checker.names.boundVariables checker.names.current.top).length binding
  | parameter {function : Function} {checker : Checker} {signature : Signature} {index : Nat}
      {name : String} {type : Ty} (checks : program.ChecksBody function checker)
      (spelled : function.signature = .ok signature)
      (named : function.parameters[index]? = some name)
      (typed : signature.parameterTypes[index]? = some type) :
    Declares program (.parameter function.name function.arity index) checker.names.current.top index
      (.single name type true)
  | declaration {place : Place} {checker : Checker} {name : String} {typeName : Option String}
      {value typed : Option Expr} {bound : Option Variable} {binding : Variable}
      (visits : Visits program place (.statement (.declaration name typeName value bound)) checker)
      (declared : Variable.declare checker.names name typeName true value = .ok (typed, binding)) :
    Declares program (.declaration place) checker.names.current.top
      (checker.names.boundVariables checker.names.current.top).length binding

end Primer
