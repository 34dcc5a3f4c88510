import Retention.Text.Extending
import Retention.Text.Printable

/-!
# Quoted text

How a text is quoted inside a message: between double quotes, with short escapes for
common control characters, and every character that would not show, or would melt into
the one before it, replaced by its code point.
-/

namespace Retention.Text

/-- A character by its code point, as in a backslash, `u` and braces around hexadecimal
digits. -/
def codePointEscape (c : Char) : List Char :=
  ['\\', 'u', '\x7b'] ++ Nat.toDigits 16 c.toNat ++ ['\x7d']

def quoteChar (c : Char) : List Char :=
  if c = '\x00' then ['\\', '0']
  else if c = '\t' then ['\\', 't']
  else if c = '\r' then ['\\', 'r']
  else if c = '\n' then ['\\', 'n']
  else if c = '\x22' ∨ c = '\\' then ['\\', c]
  else if isExtending c || !isPrintable c then codePointEscape c
  else [c]

def quoted (text : String) : String :=
  String.ofList ('\x22' :: text.toList.flatMap quoteChar ++ ['\x22'])

end Retention.Text
