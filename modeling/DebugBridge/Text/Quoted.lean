import DebugBridge.Text.Invisible

/-!
# Quoted texts

How error texts quote a text that came from outside: between double quotes, with the quote and the backslash
escaped, line ends and tabs by their letters, and a character that does not show by its number. An apostrophe
stays.
-/

namespace DebugBridge.Text

/-- The digits of `n` in base 16, lower case. -/
def hexDigits (n : Nat) : String :=
  String.ofList (Nat.toDigits 16 n)

/-- One character of a quoted text. -/
def quoteChar (c : Char) : String :=
  if c = '"' then "\\\""
  else if c = '\\' then "\\\\"
  else if c = '\n' then "\\n"
  else if c = '\r' then "\\r"
  else if c = '\t' then "\\t"
  else if c.toNat = 0 then "\\0"
  else if isInvisible c then "\\u\x7b" ++ hexDigits c.toNat ++ "\x7d"
  else c.toString

def quote (text : String) : String :=
  "\"" ++ String.join (text.toList.map quoteChar) ++ "\""

end DebugBridge.Text
