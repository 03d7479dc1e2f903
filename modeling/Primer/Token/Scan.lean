import Primer.Diagnostic.SyntaxError
import Primer.Token.Lexeme

/-!
Source text read as tokens. Gaps are dropped; every other lexeme becomes a token. Reading fails
only at a quote that opens no literal.
-/

set_option autoImplicit false

namespace Primer

def Lexeme.token? (lexeme : Lexeme) (start : Nat) : Option Token :=
  lexeme.kind.map fun kind =>
    { kind
      value := String.ofList lexeme.text
      start := UInt32.ofNat start
      stop := UInt32.ofNat (start + Text.byteLength lexeme.text) }

namespace Token

/-- Reads `text`, which begins `position` bytes into the source, behind the tokens already read,
the last of them first. -/
def scanFrom (position : Nat) (read : List Token) (text : List Char) :
    Except SyntaxError (List Token) :=
  match text with
  | [] => .ok read.reverse
  | c :: rest =>
    match _found : Lexeme.head? (read.head?.any endsOperand) (c :: rest) with
    | none =>
      .error { cause := .unrecognised c.toString, position := UInt32.ofNat position }
    | some lexeme =>
      scanFrom (position + Text.byteLength lexeme.text)
        ((lexeme.token? position).toList ++ read) ((c :: rest).drop lexeme.text.length)
termination_by text.length
decreasing_by
  have nonempty := List.length_pos_iff.2 (Lexeme.head?_ne_nil _found)
  simp only [List.length_drop, List.length_cons]
  omega

def scan (source : String) : Except SyntaxError (List Token) :=
  scanFrom 0 [] source.toList

end Token

end Primer
