import Primer.Grammar.Program

/-! The grammar of the language, as phrases.

A phrase is a list of tokens with what it stands for. Larger phrases are put together from smaller
ones; where something may be left out or repeated, one definition says so for every kind of phrase.
-/

set_option autoImplicit false

namespace Primer

/-- The language of the rule for expressions: it reads the whole list. -/
def Expr.Recognised (tokens : List Token) (expr : Expr) : Prop :=
  Parse.expression (Cursor.ofTokens tokens) =
    .ok expr { tokens := tokens.toArray, position := tokens.length }

namespace Phrase

section shapes

variable {α : Type} (item : List Token → α → Prop)

/-- `[item]` -/
inductive Perhaps : List Token → Option α → Prop where
  | none : Perhaps [] none
  | some {taken : List Token} {value : α} (given : item taken value) :
    Perhaps taken (some value)

/-- `item*` -/
inductive Many : List Token → List α → Prop where
  | nil : Many [] []
  | cons {first rest : List Token} {value : α} {values : List α} (head : item first value)
      (others : Many rest values) : Many (first ++ rest) (value :: values)

/-- `item {, item} close` -/
inductive Items (close : String) : List Token → List α → Prop where
  | last {first : List Token} {value : α} {closing : Token} (head : item first value)
      (closes : closing.value = close) : Items close (first ++ [closing]) [value]
  | more {first rest : List Token} {value : α} {values : List α} {comma : Token}
      (head : item first value) (isComma : comma.value = ",") (others : Items close rest values) :
      Items close (first ++ comma :: rest) (value :: values)

/-- `[item {, item}] close` -/
inductive Enclosed (close : String) : List Token → List α → Prop where
  | none {closing : Token} (closes : closing.value = close) : Enclosed close [closing] []
  | some {taken : List Token} {values : List α} (items : Items item close taken values) :
    Enclosed close taken values

end shapes

/-! ### Statements and programs -/

/-- `: id` -/
inductive TypeName : List Token → String → Prop where
  | mk {colon name : Token} (isColon : colon.value = ":") (isName : name.isName = true) :
    TypeName [colon, name] name.value

/-- `= expr` -/
inductive Initial : List Token → Expr → Prop where
  | mk {equals : Token} {taken : List Token} {value : Expr} (isEquals : equals.value = "=")
      (recognised : Expr.Recognised taken value) : Initial (equals :: taken) value

/-- `case expr : stmt*` -/
inductive Arm (statement : List Token → Stmt → Prop) : List Token → Case → Prop where
  | mk {word colon : Token} {value body : List Token} {expr : Expr} {stmts : List Stmt}
      (isCase : word.value = "case") (recognised : Expr.Recognised value expr)
      (isColon : colon.value = ":") (block : Many statement body stmts) :
      Arm statement (word :: (value ++ colon :: body)) (.matching expr stmts)

/-- `else stmt*` -/
inductive Alternative (statement : List Token → Stmt → Prop) : List Token → List Stmt → Prop where
  | mk {word : Token} {body : List Token} {stmts : List Stmt} (isElse : word.value = "else")
      (block : Many statement body stmts) : Alternative statement (word :: body) stmts

inductive Statement : List Token → Stmt → Prop where
  /-- `let id [: id] [= expr] ;` -/
  | declaration {word name semicolon : Token} {typed initial : List Token}
      {typeName : Option String} {value : Option Expr} (isLet : word.value = "let")
      (isName : name.isName = true) (typing : Perhaps TypeName typed typeName)
      (initializer : Perhaps Initial initial value) (isSemicolon : semicolon.value = ";") :
      Statement (word :: name :: (typed ++ (initial ++ [semicolon])))
        (.declaration name.value typeName value none)
  /-- `if expr do stmt* [else stmt*] end` -/
  | conditional {word opening closing : Token} {condition body other : List Token} {expr : Expr}
      {thenBody : List Stmt} {elseBody : Option (List Stmt)} (isIf : word.value = "if")
      (recognised : Expr.Recognised condition expr) (isDo : opening.value = "do")
      (block : Many Statement body thenBody)
      (alternative : Perhaps (Alternative Statement) other elseBody)
      (isEnd : closing.value = "end") :
      Statement (word :: (condition ++ opening :: (body ++ (other ++ [closing]))))
        (.conditional expr thenBody (elseBody.getD []))
  /-- `while expr do stmt* end` -/
  | loop {word opening closing : Token} {condition body : List Token} {expr : Expr}
      {stmts : List Stmt} (isWhile : word.value = "while")
      (recognised : Expr.Recognised condition expr) (isDo : opening.value = "do")
      (block : Many Statement body stmts) (isEnd : closing.value = "end") :
      Statement (word :: (condition ++ opening :: (body ++ [closing]))) (.loop expr stmts)
  /-- `switch expr {case expr : stmt*} default : stmt* end` -/
  | switch {word default colon closing : Token} {condition arms body : List Token} {expr : Expr}
      {cases : List Case} {stmts : List Stmt} (isSwitch : word.value = "switch")
      (recognised : Expr.Recognised condition expr) (matching : Many (Arm Statement) arms cases)
      (isDefault : default.value = "default") (isColon : colon.value = ":")
      (block : Many Statement body stmts) (isEnd : closing.value = "end") :
      Statement (word :: (condition ++ (arms ++ default :: colon :: (body ++ [closing]))))
        (.switch expr (cases ++ [.otherwise stmts]))
  /-- `return expr ;` -/
  | returns {word semicolon : Token} {value : List Token} {expr : Expr}
      (isReturn : word.value = "return") (recognised : Expr.Recognised value expr)
      (isSemicolon : semicolon.value = ";") :
      Statement (word :: (value ++ [semicolon])) (.returns expr)
  /-- `expr ;` -/
  | expression {semicolon : Token} {value : List Token} {expr : Expr}
      (recognised : Expr.Recognised value expr) (isSemicolon : semicolon.value = ";") :
      Statement (value ++ [semicolon]) (.expression expr)
  /-- `expr = expr ;` -/
  | assignment {equals semicolon : Token} {target value : List Token} {receiver expr : Expr}
      (receives : Expr.Recognised target receiver) (isEquals : equals.value = "=")
      (recognised : Expr.Recognised value expr) (isSemicolon : semicolon.value = ";") :
      Statement (target ++ equals :: (value ++ [semicolon])) (.assignment receiver expr)

inductive Global : List Token → Primer.Global → Prop where
  /-- `val id [: id] = expr ;` -/
  | val {word name semicolon : Token} {typed initial : List Token} {typeName : Option String}
      {value : Expr} (isVal : word.value = "val") (isName : name.isName = true)
      (typing : Perhaps TypeName typed typeName) (initializer : Initial initial value)
      (isSemicolon : semicolon.value = ";") :
      Global (word :: name :: (typed ++ (initial ++ [semicolon])))
        { name := name.value, typeName, mutable := false, value := some value, binding := none }
  /-- `var id [: id] [= expr] ;` -/
  | var {word name semicolon : Token} {typed initial : List Token} {typeName : Option String}
      {value : Option Expr} (isVar : word.value = "var") (isName : name.isName = true)
      (typing : Perhaps TypeName typed typeName) (initializer : Perhaps Initial initial value)
      (isSemicolon : semicolon.value = ";") :
      Global (word :: name :: (typed ++ (initial ++ [semicolon])))
        { name := name.value, typeName, mutable := true, value, binding := none }

/-- `id : id` -/
inductive Parameter : List Token → String × String → Prop where
  | mk {name colon type : Token} (isName : name.isName = true) (isColon : colon.value = ":")
      (isType : type.isName = true) : Parameter [name, colon, type] (name.value, type.value)

/-- `fun id ( [id : id {, id : id}] ) [: id] do stmt* end` -/
inductive Function : List Token → Primer.Function → Prop where
  | mk {word name opening start closing : Token} {inside typed body : List Token}
      {parameters : List (String × String)} {returnTypeName : Option String} {stmts : List Stmt}
      (isFun : word.value = "fun") (isName : name.isName = true) (opens : opening.value = "(")
      (enclosed : Enclosed Parameter ")" inside parameters)
      (typing : Perhaps TypeName typed returnTypeName) (isDo : start.value = "do")
      (block : Many Statement body stmts) (isEnd : closing.value = "end") :
      Function (word :: name :: opening :: (inside ++ (typed ++ start :: (body ++ [closing]))))
        { name := name.value
          parameters := parameters.map Prod.fst
          parameterTypes := parameters.map Prod.snd
          returnTypeName
          body := stmts
          binding := none }

/-- `global* function*` -/
inductive Program : List Token → Primer.Program → Prop where
  | mk {first second : List Token} {globals : List Primer.Global}
      {functions : List Primer.Function} (allGlobals : Many Global first globals)
      (allFunctions : Many Function second functions) :
      Program (first ++ second) { globals, functions }

end Phrase

end Primer
