import DebugBridge.Text.Blank

/-!
# Expressions

An editor that asks about a string literal under the cursor sends it with its quotes. One pair of quotes around an
expression is taken off.
-/

namespace DebugBridge.Debugger

/-- The text between two of these quotes, if the text begins and ends with them. -/
def between? (quote : Char) (text : List Char) : Option (List Char) :=
  match text with
  | c :: rest => if c = quote ∧ rest.getLast? = some quote then some rest.dropLast else none
  | [] => none

/-- An expression without the blanks around it, and then without one pair of equal quotes. -/
def trimQuotes (expression : String) : String :=
  let trimmed := Text.trimChars expression.toList
  String.ofList (((between? '"' trimmed).or (between? '\'' trimmed)).getD trimmed)

end DebugBridge.Debugger
