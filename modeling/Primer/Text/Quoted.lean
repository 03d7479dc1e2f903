import Primer.Text.Unprintable

/-!
Quoted names in messages. A name stands between double quotes; quotes and backslashes inside it
are escaped, and so are the characters that do not show by themselves.
-/

set_option autoImplicit false

namespace Primer.Text

def hexadecimal (n : Nat) : String :=
  String.ofList (Nat.toDigits 16 n)

def quotedChar (c : Char) : String :=
  if c = '"' then "\\\""
  else if c = '\\' then "\\\\"
  else if c = '\n' then "\\n"
  else if c = '\r' then "\\r"
  else if c = '\t' then "\\t"
  else if c = '\x00' then "\\0"
  else if isUnprintable c then "\\u\x7b" ++ hexadecimal c.toNat ++ "\x7d"
  else c.toString

def quoted (text : String) : String :=
  "\"" ++ String.join (text.toList.map quotedChar) ++ "\""

end Primer.Text
