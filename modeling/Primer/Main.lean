import Primer.Command

/-!
The command line: a command and a file.
-/

set_option autoImplicit false

namespace Primer

def Command.ofName? (name : String) : Option Command :=
  match name with
  | "run" => some .run
  | "check" => some .check
  | "emit" => some .emit
  | "tokens" => some .tokens
  | _ => none

def Unreadable.ofError (error : IO.Error) : Unreadable :=
  match error with
  | .noFileOrDirectory .. => .missing
  | .inappropriateType _ 21 _ => .directory
  | _ => .other error.toString

def readContents (path : String) : IO (Except Unreadable String) := do
  try
    let bytes ← IO.FS.readBinFile path
    match String.fromUTF8? bytes with
    | some text => return .ok text
    | none => return .error .notUtf8
  catch error => return .error (.ofError error)

end Primer

def main (arguments : List String) : IO UInt32 := do
  match arguments with
  | [name, path] =>
    match Primer.Command.ofName? name with
    | some command =>
      let outcome := command.execute path (← Primer.readContents path)
      IO.print outcome.stdout
      IO.eprint outcome.stderr
      return outcome.status.toUInt32
    | none =>
      IO.eprintln ("unknown command: " ++ name)
      return 2
  | _ =>
    IO.eprintln "expected a command (run, check, emit, tokens) and a file"
    return 2
