import Primer.Decimal.Text
import Primer.Java.Tree
import Primer.Text.Escape

/-!
Java source text. Every level of braces is indented by four more spaces.
-/

set_option autoImplicit false

namespace Primer

def Ty.javaName : Ty → String
  | .nil => "Void"
  | .boolean => "boolean"
  | .integer => "int"
  | .decimal => "double"
  | .character => "char"
  | .string => "String"
  | .any => "Object"
  | .comparable => "Comparable"

def Literal.javaText : Literal → String
  | .nil => "null"
  | .boolean value => if value then "true" else "false"
  | .character value => "'" ++ String.ofList (Text.escape [value]) ++ "'"
  | .string value => "\"" ++ String.ofList (Text.escape value.toList) ++ "\""
  | .integer value => toString value
  | .decimal value => value.text

namespace Java

def TypeName.text : TypeName → String
  | void => "void"
  | single type => type.javaName
  | array element => element.javaName ++ "[]"

mutual

def Expr.text : Expr → String
  | .literal value => value.javaText
  | .parenthesized inner => "(" ++ inner.text ++ ")"
  | .binary operator left right => left.text ++ " " ++ operator.symbol ++ " " ++ right.text
  | .power base exponent => "(int) Math.pow(" ++ base.text ++ ", " ++ exponent.text ++ ")"
  | .name identifier => identifier
  | .element array index => array ++ "[" ++ index.text ++ "]"
  | .call method arguments => method ++ "(" ++ ", ".intercalate (Expr.texts arguments) ++ ")"
  | .initializer elements => "\x7b" ++ ", ".intercalate (Expr.texts elements) ++ "\x7d"

def Expr.texts : List Expr → List String
  | [] => []
  | first :: rest => first.text :: Expr.texts rest

end

structure Line where
  depth : Nat
  text : String
  deriving Repr, DecidableEq

/-- An empty line is not indented. -/
def Line.render (line : Line) : String :=
  if line.text.isEmpty then "\n" else "".pushn ' ' (4 * line.depth) ++ line.text ++ "\n"

def initialValue (value : Option Expr) : String :=
  match value with
  | some value => " = " ++ value.text
  | none => ""

mutual

def Stmt.lines (depth : Nat) : Stmt → List Line
  | .expression value => [{ depth, text := value.text ++ ";" }]
  | .declaration type name value =>
    [{ depth, text := type.text ++ " " ++ name ++ initialValue value ++ ";" }]
  | .assignment receiver value => [{ depth, text := receiver.text ++ " = " ++ value.text ++ ";" }]
  | .conditional condition thenBody elseBody =>
    { depth, text := "if (" ++ condition.text ++ ") \x7b" } :: Stmt.allLines (depth + 1) thenBody ++
      (if elseBody.isEmpty then []
        else { depth, text := "\x7d else \x7b" } :: Stmt.allLines (depth + 1) elseBody) ++
      [{ depth, text := "\x7d" }]
  | .loop condition body =>
    let header := "while (" ++ condition.text ++ ") \x7b"
    if body.isEmpty then [{ depth, text := header ++ "\x7d" }]
    else { depth, text := header } :: Stmt.allLines (depth + 1) body ++ [{ depth, text := "\x7d" }]
  | .switch value groups =>
    { depth, text := "switch (" ++ value.text ++ ") \x7b" } :: Group.allLines (depth + 1) groups ++
      [{ depth, text := "\x7d" }]
  | .returns value => [{ depth, text := "return " ++ value.text ++ ";" }]

def Stmt.allLines (depth : Nat) : List Stmt → List Line
  | [] => []
  | first :: rest => first.lines depth ++ Stmt.allLines depth rest

def Group.allLines (depth : Nat) : List Group → List Line
  | [] => []
  | .labelled value body :: rest =>
    { depth, text := "case " ++ value.text ++ ":" } :: Stmt.allLines (depth + 1) body ++
      { depth := depth + 1, text := "break;" } :: Group.allLines depth rest
  | .otherwise body :: rest =>
    { depth, text := "default:" } :: Stmt.allLines (depth + 1) body ++ Group.allLines depth rest

end

def Field.text (field : Field) : String :=
  (if field.fixed then "final " else "") ++ field.type.text ++ " " ++ field.name ++
    initialValue field.value ++ ";"

def Method.header (method : Method) : String :=
  let parameters := method.parameters.map fun (type, name) => type.text ++ " " ++ name
  method.returnType.text ++ " " ++ method.name ++ "(" ++ ", ".intercalate parameters ++ ") \x7b"

def Method.lines (method : Method) : List Line :=
  if method.body.isEmpty then [{ depth := 1, text := method.header ++ "\x7d" }]
  else
    { depth := 1, text := method.header } :: Stmt.allLines 2 method.body ++
      [{ depth := 1, text := "\x7d" }]

namespace Main

def blank : Line :=
  { depth := 0, text := "" }

def entry : List Line :=
  [{ depth := 1, text := "public static void main(String[] args) \x7b" },
   { depth := 2, text := "System.exit(new Main().main());" },
   { depth := 1, text := "\x7d" }]

def lines (main : Main) : List Line :=
  [{ depth := 0, text := "public class Main \x7b" }, blank] ++
  main.fields.map (fun field => { depth := 1, text := field.text }) ++
  (if main.fields.isEmpty then [] else [blank]) ++
  entry ++ [blank] ++
  main.methods.flatMap (fun method => method.lines ++ [blank]) ++
  [{ depth := 0, text := "\x7d" }]

def text (main : Main) : String :=
  String.join (main.lines.map Line.render)

end Main

end Java

end Primer
