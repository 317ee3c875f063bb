import DebugBridge.Text.Blank

/-!
# Trimmed texts

A trimmed text neither begins nor ends with a blank.
-/

namespace DebugBridge.Text

/-- What is left when the blanks at the end are dropped stood in front of them. -/
theorem dropBlanksRight_prefix (chars : List Char) : dropBlanksRight chars <+: chars := by
  have hsuffix : chars.reverse.dropWhile isBlank <:+ chars.reverse := List.dropWhile_suffix _
  have hprefix := List.reverse_prefix.2 hsuffix
  rwa [List.reverse_reverse] at hprefix

theorem isBlank_of_head?_trimChars {chars : List Char} {c : Char} (hhead : (trimChars chars).head? = some c) :
    isBlank c = false := by
  obtain ⟨blanks, hblanks⟩ := dropBlanksRight_prefix (chars.dropWhile isBlank)
  have hfirst : (chars.dropWhile isBlank).head? = some c := by
    rw [← hblanks, List.head?_append]
    exact Option.or_eq_some_iff.2 (.inl hhead)
  have hnot := List.head?_dropWhile_not isBlank chars
  rwa [hfirst] at hnot

theorem isBlank_of_getLast?_trimChars {chars : List Char} {c : Char} (hlast : (trimChars chars).getLast? = some c) :
    isBlank c = false := by
  have hnot := List.head?_dropWhile_not isBlank (chars.dropWhile isBlank).reverse
  rw [trimChars, dropBlanksRight, List.getLast?_reverse] at hlast
  rwa [hlast] at hnot

/-! ## Trimming again -/

theorem trimChars_append_left {blanks : List Char} (hblanks : ∀ c ∈ blanks, isBlank c = true) (chars : List Char) :
    trimChars (blanks ++ chars) = trimChars chars := by
  rw [trimChars, trimChars, List.dropWhile_append_of_pos hblanks]

theorem dropBlanksRight_append {blanks : List Char} (hblanks : ∀ c ∈ blanks, isBlank c = true) (chars : List Char) :
    dropBlanksRight (chars ++ blanks) = dropBlanksRight chars := by
  have hreversed : ∀ c ∈ blanks.reverse, isBlank c = true := fun c hmem => hblanks c (List.mem_reverse.1 hmem)
  rw [dropBlanksRight, dropBlanksRight, List.reverse_append, List.dropWhile_append_of_pos hreversed]

theorem trimChars_append_right {blanks : List Char} (hblanks : ∀ c ∈ blanks, isBlank c = true) (chars : List Char) :
    trimChars (chars ++ blanks) = trimChars chars := by
  rw [trimChars, trimChars, List.dropWhile_append]
  split
  · next hempty =>
    -- Nothing but blanks: what is left of either side is nothing.
    have hgone : (blanks ++ []).dropWhile isBlank = [] := List.dropWhile_append_of_pos hblanks
    rw [List.append_nil] at hgone
    rw [List.isEmpty_iff.1 hempty, hgone]
  · exact dropBlanksRight_append hblanks _

/-- A text that neither begins nor ends with a blank stays as it is. -/
theorem trimChars_of_trimmed {chars : List Char} (hhead : ∀ c, chars.head? = some c → isBlank c = false)
    (hlast : ∀ c, chars.getLast? = some c → isBlank c = false) : trimChars chars = chars := by
  have hkept : ∀ chars : List Char, (∀ c, chars.head? = some c → isBlank c = false) → chars.dropWhile isBlank = chars := by
    intro chars hhead
    cases chars with
    | nil => rfl
    | cons c chars => exact List.dropWhile_cons_of_neg (by rw [hhead c rfl]; exact Bool.false_ne_true)
  rw [trimChars, hkept chars hhead, dropBlanksRight, hkept, List.reverse_reverse]
  intro c hfirst
  rw [List.head?_reverse] at hfirst
  exact hlast c hfirst

theorem trimChars_trimChars (chars : List Char) : trimChars (trimChars chars) = trimChars chars :=
  trimChars_of_trimmed (fun _ => isBlank_of_head?_trimChars) (fun _ => isBlank_of_getLast?_trimChars)

theorem trim_trim (text : String) : trim (trim text) = trim text := by
  rw [trim, trim, String.toList_ofList, trimChars_trimChars]

/-- Blanks around a text are not part of it. -/
theorem trim_of_blanks {before after : String} (hbefore : ∀ c ∈ before.toList, isBlank c = true)
    (hafter : ∀ c ∈ after.toList, isBlank c = true) (text : String) : trim (before ++ text ++ after) = trim text := by
  rw [trim, trim, String.toList_append, String.toList_append, trimChars_append_right hafter,
    trimChars_append_left hbefore]

end DebugBridge.Text
