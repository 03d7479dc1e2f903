/-!
Names bound in blocks. A scope holds the names of one block; a chain leads from a scope outwards,
and the nearest binding on the chain is the one that counts. Functions are told apart by name and
number of parameters.
-/

set_option autoImplicit false

namespace Primer

variable {V F : Type}

structure Scope (V F : Type) where
  variableBindings : List (String × V) := []
  functionBindings : List ((String × Nat) × F) := []
  deriving Repr

namespace Scope

def getVariable? (scope : Scope V F) (name : String) : Option V :=
  scope.variableBindings.lookup name

def getFunction? (scope : Scope V F) (name : String) (arity : Nat) : Option F :=
  scope.functionBindings.lookup (name, arity)

def defineVariable (scope : Scope V F) (name : String) (value : V) : Scope V F :=
  { scope with variableBindings := (name, value) :: scope.variableBindings }

def defineFunction (scope : Scope V F) (name : String) (arity : Nat) (value : F) : Scope V F :=
  { scope with functionBindings := ((name, arity), value) :: scope.functionBindings }

end Scope

/-- A scope and the scopes around it, by the numbers they were created under. -/
structure Chain where
  top : Nat
  outer : List Nat
  deriving Repr, DecidableEq

namespace Chain

def numbers (chain : Chain) : List Nat :=
  chain.top :: chain.outer

def depth (chain : Chain) : Nat :=
  chain.numbers.length

/-- The chain without its innermost scope; a root stays what it is. -/
def parent (chain : Chain) : Chain :=
  match chain.outer with
  | [] => chain
  | top :: outer => { top, outer }

end Chain

structure Environment (V F : Type) where
  scopes : Array (Scope V F)
  global : Chain
  current : Chain
  deriving Repr

namespace Environment

def root : Environment V F :=
  { scopes := #[{}], global := { top := 0, outer := [] }, current := { top := 0, outer := [] } }

def create (env : Environment V F) (outer : List Nat) : Chain × Environment V F :=
  ({ top := env.scopes.size, outer }, { env with scopes := env.scopes.push {} })

def child (env : Environment V F) (chain : Chain) : Chain × Environment V F :=
  env.create chain.numbers

def enter (env : Environment V F) (chain : Chain) : Environment V F :=
  { env with current := chain }

def push (env : Environment V F) : Environment V F :=
  let (chain, env) := env.child env.current
  env.enter chain

def pop (env : Environment V F) : Environment V F :=
  env.enter env.current.parent

def depth (env : Environment V F) : Nat :=
  env.current.depth

def reaches (env : Environment V F) (number : Nat) : Bool :=
  number == env.global.top || env.current.numbers.contains number

def variableIn? (env : Environment V F) (chain : Chain) (name : String) : Option V :=
  chain.numbers.findSome? fun number => env.scopes[number]?.bind fun scope => scope.getVariable? name

def functionIn? (env : Environment V F) (chain : Chain) (name : String) (arity : Nat) : Option F :=
  chain.numbers.findSome? fun number =>
    env.scopes[number]?.bind fun scope => scope.getFunction? name arity

def getVariable? (env : Environment V F) (name : String) : Option V :=
  env.variableIn? env.current name

def getFunction? (env : Environment V F) (name : String) (arity : Nat) : Option F :=
  env.functionIn? env.current name arity

def bindsFunction (env : Environment V F) (chain : Chain) (name : String) (arity : Nat) : Bool :=
  (env.scopes[chain.top]?.bind fun scope => scope.getFunction? name arity).isSome

def defineVariable (env : Environment V F) (name : String) (value : V) : Environment V F :=
  { env with scopes := env.scopes.modify env.current.top fun scope =>
      scope.defineVariable name value }

def defineFunction (env : Environment V F) (name : String) (arity : Nat) (value : F) :
    Environment V F :=
  { env with scopes := env.scopes.modify env.current.top fun scope =>
      scope.defineFunction name arity value }

end Environment

end Primer
