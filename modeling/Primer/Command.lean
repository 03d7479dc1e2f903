import Primer.Diagnostic.Report
import Primer.Grammar.Program
import Primer.Java.Text
import Primer.Java.Translation
import Primer.Run.Evaluation
import Primer.Typing.Program

/-!
The commands of the tool: run a program, check it, emit it as Java, list its tokens. A command turns
what was read from a file into what is written and the status that is left behind.
-/

set_option autoImplicit false

namespace Primer

inductive Command where
  | run
  | check
  | emit
  | tokens
  deriving Repr, DecidableEq

inductive Unreadable where
  | missing
  | directory
  | notUtf8
  | other (reason : String)
  deriving Repr, DecidableEq

def Unreadable.reason : Unreadable → String
  | missing => "No such file or directory (os error 2)"
  | directory => "Is a directory (os error 21)"
  | notUtf8 => "stream did not contain valid UTF-8"
  | other reason => reason

structure Outcome where
  status : UInt8
  stdout : String
  stderr : String
  deriving Repr, DecidableEq

def Outcome.success (stdout : String) : Outcome :=
  { status := 0, stdout, stderr := "" }

def Outcome.failure (stderr : String) (stdout : String) : Outcome :=
  { status := 1, stdout, stderr }

/-- The last component of a path; the whole path if that is no name. -/
def fileName (path : String) : String :=
  let components := (path.splitOn "/").filter fun part => !part.isEmpty && part != "."
  match components.getLast? with
  | some name => if name == ".." then path else name
  | none => path

namespace Document

def unnamed : String := "shell"

def program (document : Document) : Except Diagnostic Program := do
  let program ← (Program.ofSource document.text).mapError Diagnostic.malformed
  program.check.mapError Diagnostic.illTyped

end Document

/-- A run on a fresh machine: how it ends, and the console afterwards. -/
def Program.run (program : Program) (console : Console) (fuel : Nat) :
    Except Halt Int × Console :=
  match Eval.runProgram fuel program (Machine.initial console) with
  | .ok code machine => (.ok code, machine.console)
  | .error halt machine => (.error halt, machine.console)

def Token.line (token : Token) : String :=
  let start := toString token.start.toNat
  let kind := token.kind.name
  "".pushn ' ' (5 - start.length) ++ start ++ " " ++ kind ++ "".pushn ' ' (10 - kind.length) ++
    " " ++ token.value ++ "\n"

namespace Command

def process (command : Command) (document : Document) : Outcome :=
  let failure (diagnostic : Diagnostic) (stdout : String) : Outcome :=
    .failure (diagnostic.report document) stdout
  match command with
  | .run =>
    match document.program with
    | .error diagnostic => failure diagnostic ""
    | .ok program =>
      match program.run {} ampleFuel with
      | (.ok code, console) =>
        { status := UInt8.ofNat (code % 256).toNat, stdout := console.text, stderr := "" }
      | (.error (.error error), console) => failure (.failed error) console.text
      | (.error .outOfFuel, console) => .failure "Error: out of fuel\n" console.text
  | .check =>
    match document.program with
    | .error diagnostic => failure diagnostic ""
    | .ok _ => .success (document.name ++ ": ok\n")
  | .emit =>
    match document.program with
    | .error diagnostic => failure diagnostic ""
    | .ok program => .success program.toJava.text
  | .tokens =>
    match Token.scan document.text with
    | .error error => failure (.malformed error) ""
    | .ok found => .success (String.join (found.map Token.line))

def execute (command : Command) (path : String) (contents : Except Unreadable String) : Outcome :=
  match contents with
  | .error error =>
    .failure ("Error: could not read " ++ path ++ " (" ++ error.reason ++ ")\n") ""
  | .ok text => command.process { name := fileName path, text }

end Command

end Primer
