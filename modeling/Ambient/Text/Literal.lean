import Ambient.Text.Hex
import Ambient.Text.Printable

namespace Ambient.Text

def literalChar (c : Char) : List Char :=
  match c with
  | '"' => ['\\', '"']
  | '\\' => ['\\', '\\']
  | '\n' => ['\\', 'n']
  | '\r' => ['\\', 'r']
  | '\t' => ['\\', 't']
  | '\x00' => ['\\', '0']
  | c => if isPrintable c then [c] else ['\\', 'u', '{'] ++ hexNumeral c.toNat ++ ['}']

def literal (cs : List Char) : List Char := '"' :: cs.flatMap literalChar ++ ['"']

end Ambient.Text
