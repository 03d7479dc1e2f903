import Primer.Java.Tree
import Primer.Proofs.Tree.Part

/-! Which variable a name denotes in a Java method.

A local variable is in scope from its own declarator on, the initializer included, to the end of the
block that declares it; all groups of a `switch` are one block. Parameters are in scope in the whole
method. Where no local and no parameter of its name is in scope, a name denotes a field. While one
is in scope, no other of its name may be declared.

Places are those of the program that the method was translated from, so what stands in one place
can be compared.
-/

set_option autoImplicit false

namespace Primer.Java

/-- What is in scope. -/
structure Context where
  fields : List String
  locals : List (String × Origin)

namespace Context

def declare (context : Context) (name : String) (origin : Origin) : Context :=
  { context with locals := (name, origin) :: context.locals }

def hasLocal (context : Context) (name : String) : Bool :=
  (context.locals.lookup name).isSome

/-- What the name denotes, if anything. Two fields of one name are told apart by nothing. -/
def denoted? (context : Context) (name : String) : Option Origin :=
  match context.locals.lookup name with
  | some origin => some origin
  | none =>
    if context.fields.count name = 1 then some (.global (context.fields.idxOf name)) else none

end Context

inductive Mention where
  /-- A declarator, fresh if no parameter or local variable of its name is in scope. -/
  | declarator (origin : Origin) (name : String) (fresh : Bool)
  /-- A name that is read or assigned, and what it denotes. -/
  | use (place : Place) (name : String) (denoted : Option Origin)

mutual

def Expr.mentions (context : Context) (place : Place) : Expr → List Mention
  | .literal _ => []
  | .parenthesized inner => inner.mentions context (place.turn 0)
  | .binary _ left right | .power left right =>
    left.mentions context (place.turn 0) ++ right.mentions context (place.turn 1)
  | .name identifier => [.use place identifier (context.denoted? identifier)]
  | .element array index =>
    .use place array (context.denoted? array) :: index.mentions context (place.turn 0)
  | .call _ arguments => Expr.allMentions context (place.turn 0) arguments
  | .initializer elements => Expr.allMentions context (place.turn 0) elements

def Expr.allMentions (context : Context) (place : Place) : List Expr → List Mention
  | [] => []
  | first :: rest =>
    first.mentions context (place.turn 0) ++ Expr.allMentions context (place.turn 1) rest

end

def Expr.initialMentions (context : Context) (place : Place) : Option Expr → List Mention
  | none => []
  | some value => value.mentions context (place.turn 0)

def Stmt.behind (context : Context) (place : Place) : Stmt → Context
  | .declaration _ name _ => context.declare name (.declaration place)
  | .expression _ | .assignment .. | .conditional .. | .loop .. | .switch .. | .returns _ => context

def Stmt.allBehind (context : Context) (place : Place) : List Stmt → Context
  | [] => context
  | first :: rest => Stmt.allBehind (first.behind context (place.turn 0)) (place.turn 1) rest

mutual

def Stmt.mentions (context : Context) (place : Place) : Stmt → List Mention
  | .expression value | .returns value => value.mentions context (place.turn 0)
  | .declaration _ name value =>
    -- The initializer is in the scope of the variable that it initializes.
    .declarator (.declaration place) name (!context.hasLocal name) ::
      Expr.initialMentions (context.declare name (.declaration place)) place value
  | .assignment receiver value =>
    receiver.mentions context (place.turn 0) ++ value.mentions context (place.turn 1)
  | .conditional condition thenBody elseBody =>
    condition.mentions context (place.turn 0) ++ (Stmt.allMentions context (place.turn 1) thenBody ++
      Stmt.allMentions context (place.turn 2) elseBody)
  | .loop condition body =>
    condition.mentions context (place.turn 0) ++ Stmt.allMentions context (place.turn 1) body
  | .switch value groups =>
    value.mentions context (place.turn 0) ++ Group.allMentions context (place.turn 1) groups

def Stmt.allMentions (context : Context) (place : Place) : List Stmt → List Mention
  | [] => []
  | first :: rest =>
    first.mentions context (place.turn 0) ++
      Stmt.allMentions (first.behind context (place.turn 0)) (place.turn 1) rest

/-- Groups of one `switch`: what one of them declares is in scope in those behind it. -/
def Group.allMentions (context : Context) (place : Place) : List Group → List Mention
  | [] => []
  | .labelled value body :: rest =>
    value.mentions context (place.turn 0) ++ (Stmt.allMentions context (place.turn 1) body ++
      Group.allMentions (Stmt.allBehind context (place.turn 1) body) (place.turn 2) rest)
  | .otherwise body :: rest =>
    Stmt.allMentions context (place.turn 1) body ++
      Group.allMentions (Stmt.allBehind context (place.turn 1) body) (place.turn 2) rest

end

namespace Context

def declarators (context : Context) : List (String × Origin) → List Mention
  | [] => []
  | (name, origin) :: rest =>
    .declarator origin name (!context.hasLocal name) :: (context.declare name origin).declarators rest

def declareAll (context : Context) (entries : List (String × Origin)) : Context :=
  entries.foldl (fun context entry => context.declare entry.1 entry.2) context

end Context

namespace Method

def parameterNames (method : Method) : List String :=
  method.parameters.map Prod.snd

def origins (method : Method) : List (String × Origin) :=
  method.parameterNames.zipIdx.map fun (name, index) =>
    (name, .parameter method.name method.parameterNames.length index)

def mentions (fields : List String) (method : Method) : List Mention :=
  let context : Context := { fields, locals := [] }
  context.declarators method.origins ++
    Stmt.allMentions (context.declareAll method.origins)
      (Root.body method.name method.parameterNames.length).place method.body

end Method

def Main.fieldNames (main : Main) : List String :=
  main.fields.map Field.name

end Primer.Java
