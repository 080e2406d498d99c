import LoadedImage.Text.Hidden
import LoadedImage.Text.Radix

/-!
# Quoted text

A quoted text stands between double quotes. Inside, a quote and a backslash are
written after a backslash, the null character, tab, line feed and carriage return as
a backslash with a letter or digit, and any other hidden character by its number in
base sixteen between braces. All else stands as itself, a single quote included.
-/

namespace LoadedImage.Text

/-- The characters written for `c` inside quotes. -/
def escape (c : Char) : List Char :=
  match c with
  | '\x00' => ['\\', '0']
  | '\t' => ['\\', 't']
  | '\n' => ['\\', 'n']
  | '\r' => ['\\', 'r']
  | '"' => ['\\', '"']
  | '\\' => ['\\', '\\']
  | c => if isHidden c then ['\\', 'u', '\x7b'] ++ Radix.hex.digits c.toNat ++ ['\x7d'] else [c]

/-- The text between double quotes. -/
def quoted (text : String) : String :=
  String.ofList (['"'] ++ text.toList.flatMap escape ++ ['"'])

end LoadedImage.Text
