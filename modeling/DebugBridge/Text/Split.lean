/-!
# Text in parts

A text cut at every occurrence of a character. A text without that character is one part, so there is always at
least one, and the parts joined by the character are the text again.
-/

namespace DebugBridge.Text

/-- The parts of a text between the separators, empty ones included. -/
def split (separator : Char) : List Char → List (List Char)
  | [] => [[]]
  | c :: rest =>
    if c = separator then [] :: split separator rest
    else
      match split separator rest with
      | [] => [[c]]
      | part :: parts => (c :: part) :: parts

/-- Parts with a separator between any two. -/
def join (separator : Char) : List (List Char) → List Char
  | [] => []
  | [part] => part
  | part :: parts => part ++ separator :: join separator parts

theorem split_ne_nil (separator : Char) (text : List Char) : split separator text ≠ [] := by
  cases text with
  | nil => simp [split]
  | cons c rest =>
    simp only [split]
    split
    · simp
    · split <;> simp

/-- A separator between two texts ends a part of the first and begins one of the second. -/
theorem split_append (separator : Char) (text more : List Char) :
    split separator (text ++ separator :: more) = split separator text ++ split separator more := by
  induction text with
  | nil => simp [split]
  | cons c rest ih =>
    simp only [List.cons_append, split, ih]
    split
    · rfl
    · cases h : split separator rest with
      | nil => exact absurd h (split_ne_nil separator rest)
      | cons part parts => rfl

theorem join_split (separator : Char) (text : List Char) : join separator (split separator text) = text := by
  induction text with
  | nil => rfl
  | cons c rest ih =>
    simp only [split]
    cases h : split separator rest with
    | nil => exact absurd h (split_ne_nil separator rest)
    | cons part parts =>
      rw [h] at ih
      by_cases hc : c = separator
      · simp [hc, join, ih]
      · cases parts <;> simp_all [join]

end DebugBridge.Text
