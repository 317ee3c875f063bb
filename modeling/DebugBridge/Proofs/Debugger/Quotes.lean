import DebugBridge.Proofs.Debugger.Moves

/-!
# Quotes around an expression

What an evaluation sends is the expression without the blanks around it, and without one pair of quotes. A pair of quotes
is told by its looks: the same quote stands first and last. In a literal these two belong together. In a text of several
literals they need not, and are taken off all the same, which leaves the halves of two literals:
`outer_quotes_come_off` says what is sent of every text, and for which texts this is more than a literal's quotes.
-/

namespace DebugBridge.Debugger

/-! ## Literals -/

/-- The quotes that a literal can stand in. -/
def IsQuote (c : Char) : Prop :=
  c = '"' ∨ c = '\''

/-- Whether a quote occurs in a text without being escaped. A backslash escapes the character behind it. -/
def occursFree (quote : Char) : List Char → Bool
  | [] => false
  | '\\' :: _ :: rest => occursFree quote rest
  | c :: rest => c == quote || occursFree quote rest

/-- A text in quotes: the same quote stands first and last. -/
def Quoted (text inner : List Char) : Prop :=
  ∃ quote, IsQuote quote ∧ text = quote :: (inner ++ [quote])

/-- One literal: in between, its quote occurs only escaped. -/
def Literal (text inner : List Char) : Prop :=
  ∃ quote, IsQuote quote ∧ text = quote :: (inner ++ [quote]) ∧ occursFree quote inner = false

/-- What should be sent of a text: of a literal what is in its quotes, and else the text as it is. -/
def Due (text sent : List Char) : Prop :=
  (∀ inner, Literal text inner → sent = inner) ∧ ((∀ inner, ¬ Literal text inner) → sent = text)

theorem Literal.quoted {text inner : List Char} (hliteral : Literal text inner) : Quoted text inner := by
  obtain ⟨quote, hquote, htext, -⟩ := hliteral
  exact ⟨quote, hquote, htext⟩

theorem Quoted.length {text inner : List Char} (hquoted : Quoted text inner) : text.length = inner.length + 2 := by
  obtain ⟨quote, -, rfl⟩ := hquoted
  rw [List.length_cons, List.length_append, List.length_singleton]

/-- The quotes of a text and what is between them are told by the text. -/
theorem Quoted.unique {text inner other : List Char} (hquoted : Quoted text inner) (hother : Quoted text other) :
    inner = other := by
  obtain ⟨quote, -, rfl⟩ := hquoted
  obtain ⟨quote', -, htext⟩ := hother
  exact (List.append_inj' (List.cons.inj htext).2 rfl).1

/-! ## What is taken off -/

theorem between?_eq_some_iff {quote : Char} {text inner : List Char} :
    between? quote text = some inner ↔ text = quote :: (inner ++ [quote]) := by
  constructor
  · intro hbetween
    cases text with
    | nil => cases hbetween
    | cons c rest =>
      rw [between?] at hbetween
      split at hbetween
      · next hquotes =>
        obtain ⟨rfl, hlast⟩ := hquotes
        obtain ⟨before, rfl⟩ := List.getLast?_eq_some_iff.1 hlast
        cases hbetween
        rw [List.dropLast_concat]
      · cases hbetween
  · rintro rfl
    have hquotes : quote = quote ∧ (inner ++ [quote]).getLast? = some quote := ⟨rfl, List.getLast?_concat⟩
    rw [between?, if_pos hquotes, List.dropLast_concat]

/-- A text without its first and last character if these are the same quote. -/
def unquoted (text : List Char) : List Char :=
  ((between? '"' text).or (between? '\'' text)).getD text

theorem unquoted_of_quoted {text inner : List Char} (hquoted : Quoted text inner) : unquoted text = inner := by
  obtain ⟨quote, rfl | rfl, htext⟩ := hquoted
  · rw [unquoted, between?_eq_some_iff.2 htext]
    rfl
  · have hnone : between? '"' text = none := by
      rw [Option.eq_none_iff_forall_ne_some]
      intro other hother
      rw [htext] at hother
      have hsame := between?_eq_some_iff.1 hother
      exact absurd (List.cons.inj hsame).1 (by decide)
    rw [unquoted, hnone, between?_eq_some_iff.2 htext]
    rfl

theorem unquoted_of_bare {text : List Char} (hbare : ∀ inner, ¬ Quoted text inner) : unquoted text = text := by
  have hnone : ∀ quote, IsQuote quote → between? quote text = none := by
    intro quote hquote
    rw [Option.eq_none_iff_forall_ne_some]
    intro inner hbetween
    exact hbare inner ⟨quote, hquote, between?_eq_some_iff.1 hbetween⟩
  rw [unquoted, hnone _ (.inl rfl), hnone _ (.inr rfl)]
  rfl

/-- What is sent is what should be, unless a text in quotes is no literal. -/
theorem due_unquoted_iff (text : List Char) :
    Due text (unquoted text) ↔ ∀ inner, Quoted text inner → Literal text inner := by
  constructor
  · rintro ⟨-, hother⟩ inner hquoted
    apply Classical.byContradiction
    intro hnot
    -- Otherwise the text would have to be left as it is, but it has lost its two quotes.
    have hsame : unquoted text = text := by
      apply hother
      intro inner' hliteral
      exact hnot (hquoted.unique hliteral.quoted ▸ hliteral)
    have hlength := hquoted.length
    rw [unquoted_of_quoted hquoted] at hsame
    rw [← hsame] at hlength
    omega
  · intro hliterals
    refine ⟨fun inner hliteral => unquoted_of_quoted hliteral.quoted, ?_⟩
    intro hnone
    exact unquoted_of_bare fun inner hquoted => hnone inner (hliterals inner hquoted)

/-! ## What is sent -/

/-- For every expression, whatever a session has done before: an evaluation in a frame that is known asks the server for one
thing, and in another frame for nothing. What is sent is the inside of a text in quotes, and any other text as it is, each
time without the blanks around the expression. For a literal this is what should be sent, and so it is for every text but
those that stand in quotes without being one literal: they lose the first quote of their first literal and the last one of
their last. -/
theorem outer_quotes_come_off (expression : String) :
    let text := Text.trimChars expression.toList
    ∃ sent : List Char,
      (∀ (s : Session) (m : Session.Move) (operation : Nat) (frame : Reference),
        m.begins? = some (operation, .evaluate frame expression) →
          asksOf (s.move m).2 = ((Assoc.find? frame s.state.frameThreads).map fun thread =>
            (operation, .evaluate thread (String.ofList sent))).toList) ∧
      (∀ inner, Quoted text inner → sent = inner) ∧
      ((∀ inner, ¬ Quoted text inner) → sent = text) ∧
      (Due text sent ↔ ∀ inner, Quoted text inner → Literal text inner) := by
  intro text
  refine ⟨unquoted text, ?_, fun inner => unquoted_of_quoted, unquoted_of_bare, due_unquoted_iff text⟩
  intro s m operation frame hbegins
  rw [asksOf_begins s hbegins (by simp), State.start]
  cases Assoc.find? frame s.state.frameThreads with
  | none => rfl
  | some thread => rfl

/-- Of two literals that are joined, the first loses its first quote and the second its last. -/
theorem joined_literals_lose_their_outer_quotes :
    let frame : Wire.Frame := { functionName := "f", scopes := [] }
    let frames : Wire.Event := { number := 1, payload := some (.listFrames [frame]) }
    let actions : List Session.Action := [.link .dial, .link (.opened 0 0), .link (.attach 0), .start 1 (.stackTrace 7),
      .link (.arrive (Wire.putAll 1000 [] [frames.encode]).1), .link .read, .collect 1]
    let s := (({ connection := {} } : Session).run actions).1
    let text := "\"a\" + \"b\"".toList
    Text.trimChars text = text ∧ (∀ inner, ¬ Literal text inner) ∧
      asksOf (s.move (.step (.start 2 (.evaluate 1 (String.ofList text))))).2 = [(2, .evaluate 7 "a\" + \"b")] := by
  intro frame frames actions s text
  refine ⟨by decide +kernel, ?_, by decide +kernel⟩
  rintro inner ⟨quote, -, htext, hfree⟩
  have hquoted : text = '"' :: ("a\" + \"b".toList ++ ['"']) := by decide +kernel
  rw [hquoted] at htext
  obtain ⟨rfl, hrest⟩ := List.cons.inj htext
  have hinner : "a\" + \"b".toList = inner := (List.append_inj' hrest rfl).1
  rw [← hinner] at hfree
  exact absurd hfree (by decide +kernel)

end DebugBridge.Debugger
