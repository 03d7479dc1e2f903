import Primer.Java.Tree
import Primer.Tree.Program

/-!
Programs as Java. Where checking has filled in what a name stands for, the translation uses it;
elsewhere it goes by the names and type names of the program.
-/

set_option autoImplicit false

namespace Primer

mutual

def Expr.toJava : Expr → Java.Expr
  | .literal value _ => .literal value
  | .group inner _ => .parenthesized inner.toJava
  | .binary .power left right _ => .power left.toJava right.toJava
  | .binary operator left right _ => .binary operator left.toJava right.toJava
  | .named name binding _ => .name ((binding.map Variable.emittedName).getD name)
  | .element name index binding _ =>
    .element ((binding.map Variable.emittedName).getD name) index.toJava
  | .call name arguments binding _ =>
    .call ((binding.map Signature.emittedName).getD name) (Expr.allToJava arguments)
  | .list elements _ _ => .initializer (Expr.allToJava elements)

def Expr.allToJava : List Expr → List Java.Expr
  | [] => []
  | first :: rest => first.toJava :: Expr.allToJava rest

end

/-- The type with this name; `Any` for an unknown name. -/
def Ty.named (name : String) : Ty :=
  (Ty.ofName? name).getD .any

def Ty.annotated (typeName : Option String) : Ty :=
  (typeName.map Ty.named).getD .any

def Variable.javaType (binding : Variable) : Java.TypeName :=
  if binding.isList then .array binding.type else .single binding.type

def Java.declared (name : String) (typeName : Option String) (binding : Option Variable) :
    Java.TypeName × String :=
  match binding with
  | some binding => (binding.javaType, binding.emittedName)
  | none => (.single (Ty.annotated typeName), name)

mutual

def Stmt.toJava : Stmt → Java.Stmt
  | .expression value => .expression value.toJava
  | .declaration name typeName value binding =>
    let (type, name) := Java.declared name typeName binding
    .declaration type name (value.map Expr.toJava)
  | .assignment receiver value => .assignment receiver.toJava value.toJava
  | .conditional condition thenBody elseBody =>
    .conditional condition.toJava (Stmt.allToJava thenBody) (Stmt.allToJava elseBody)
  | .loop condition body => .loop condition.toJava (Stmt.allToJava body)
  | .switch value cases => .switch value.toJava (Case.allToJava cases)
  | .returns value => .returns value.toJava

def Stmt.allToJava : List Stmt → List Java.Stmt
  | [] => []
  | first :: rest => first.toJava :: Stmt.allToJava rest

def Case.allToJava : List Case → List Java.Group
  | [] => []
  | .matching value body :: cases =>
    .labelled value.toJava (Stmt.allToJava body) :: Case.allToJava cases
  | .otherwise body :: cases => .otherwise (Stmt.allToJava body) :: Case.allToJava cases

end

mutual

def Stmt.mayReturn : Stmt → Bool
  | .returns _ => true
  | .conditional _ thenBody elseBody => Stmt.anyMayReturn thenBody || Stmt.anyMayReturn elseBody
  | .loop _ body => Stmt.anyMayReturn body
  | .switch _ cases => Case.anyMayReturn cases
  | .expression _ | .declaration .. | .assignment .. => false

def Stmt.anyMayReturn : List Stmt → Bool
  | [] => false
  | first :: rest => first.mayReturn || Stmt.anyMayReturn rest

def Case.anyMayReturn : List Case → Bool
  | [] => false
  | .matching _ body :: cases | .otherwise body :: cases =>
    Stmt.anyMayReturn body || Case.anyMayReturn cases

end

namespace Function

/-- A function that does not say what it returns becomes `void`, or an `Object` method if it
returns anything; `main` is always an `int` method. -/
def javaReturnType (function : Function) (resolved : Ty) : Java.TypeName :=
  if function.returnTypeName.isSome then .single resolved
  else if function.name = "main" then .single .integer
  else if Stmt.anyMayReturn function.body then .single .any
  else .void

def toJava (function : Function) : Java.Method :=
  let (name, returnType, parameterTypes) :=
    match function.binding with
    | some binding => (binding.emittedName, binding.returnType, binding.parameterTypes)
    | none =>
      (function.name, Ty.annotated function.returnTypeName, function.parameterTypes.map Ty.named)
  { returnType := function.javaReturnType returnType
    name
    parameters := (parameterTypes.map Java.TypeName.single).zip function.parameters
    body := Stmt.allToJava function.body }

end Function

def Global.toJava (global : Global) : Java.Field :=
  let (type, name) := Java.declared global.name global.typeName global.binding
  { fixed := !global.mutable, type, name, value := global.value.map Expr.toJava }

def Program.toJava (program : Program) : Java.Main :=
  { fields := program.globals.map Global.toJava
    methods := program.functions.map Function.toJava }

end Primer
