import TokenDesk.Text.Visible

/-! The quoted forms in which a message shows a character or a text.

A visible character stands for itself. The quote, the backslash and the common
control characters have short escapes, every other character that cannot be
seen is written by its code point in hexadecimal.
-/

set_option autoImplicit false

namespace TokenDesk.Text.Literal

def codePoint (c : Char) : List Char :=
  ['\\', 'u', '\x7b'] ++ Nat.toDigits 16 c.toNat ++ ['\x7d']

/-- The escape that both kinds of quotes use, if the character needs one. -/
def escape? (c : Char) : Option (List Char) :=
  if c = '\x00' then some ['\\', '0']
  else if c = '\t' then some ['\\', 't']
  else if c = '\n' then some ['\\', 'n']
  else if c = '\r' then some ['\\', 'r']
  else if c = '\\' then some ['\\', '\\']
  else if isVisible c then none
  else some (codePoint c)

def quote (c : Char) : String :=
  let shown := if c = '\x27' then ['\\', '\x27'] else (escape? c).getD [c]
  String.ofList ('\x27' :: shown ++ ['\x27'])

def inText (c : Char) : List Char :=
  if c = '"' then ['\\', '"'] else (escape? c).getD [c]

def quoteText (text : String) : String :=
  String.ofList ('"' :: text.toList.flatMap inText ++ ['"'])

end TokenDesk.Text.Literal
