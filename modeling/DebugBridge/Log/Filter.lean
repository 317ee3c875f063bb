import DebugBridge.Settings
import DebugBridge.Text.Blank
import DebugBridge.Text.Split
import DebugBridge.Text.Word

/-!
# Log filters

A filter is a list of directives. A directive sets how much is logged, for everything or for the targets whose names
begin in a certain way; the directive with the longest such beginning decides, and of equal ones the last. The
filter in force joins the configured directives with those of the environment.
-/

namespace DebugBridge.Log

/-! ## Levels -/

/-- How grave a log record is, the gravest first. -/
inductive Level where
  | error
  | warn
  | info
  | debug
  | trace
  deriving DecidableEq, Repr

namespace Level

def all : List Level := [error, warn, info, debug, trace]

/-- A level's name in a log line. -/
def name : Level → String
  | error => "ERROR"
  | warn => "WARN"
  | info => "INFO"
  | debug => "DEBUG"
  | trace => "TRACE"

/-- Levels are numbered from 1, the gravest. -/
def rank : Level → Nat
  | error => 1
  | warn => 2
  | info => 3
  | debug => 4
  | trace => 5

end Level

/-- How much is logged: records up to a level, or none. -/
abbrev Threshold := Option Level

def Threshold.admits (threshold : Threshold) (level : Level) : Bool :=
  match threshold with
  | some most => level.rank ≤ most.rank
  | none => false

/-- An ASCII letter in lower case. -/
def lower (text : List Char) : List Char :=
  text.map Char.toLower

/-- The thresholds by number. -/
def thresholds : List Threshold :=
  none :: Level.all.map some

/-- A threshold by its number or by its name, in any case. An empty text is the gravest level's. -/
def Threshold.parse? (text : List Char) : Option Threshold :=
  match Decimal.parseLength text with
  | .ok number => (thresholds[number]?).or (named text)
  | .error _ => named text
where
  named (text : List Char) : Option Threshold :=
    let word := lower text
    if word = [] then some (some .error)
    else if word = "off".toList then some none
    else (Level.all.find? fun level => word = lower level.name.toList).map some

/-! ## Directives -/

/-- What a directive is about. -/
inductive Selector where
  | everything
  /-- Targets whose names begin so. -/
  | target (start : List Char)
  /-- What happens inside a span; nothing outside one. -/
  | span
  deriving DecidableEq, Repr

structure Directive where
  selector : Selector
  threshold : Threshold
  deriving DecidableEq, Repr

namespace Directive

/-- A directive's first character is part of a word, or one of these, or opens a span. -/
def opens (c : Char) : Bool :=
  c == '-' || c == ':' || c == '_' || Text.isWordChar c

/-- The threshold after an equals sign; without one, everything. -/
def thresholdAfter? (text : List Char) : Option Threshold :=
  if text = [] then some (some .trace) else Threshold.parse? text

/-- A span's selector up to its closing bracket: a name, and fields in braces. -/
def afterSpan? : List Char → Option (List Char)
  | [] => none
  | ']' :: rest => some rest
  | '\x7b' :: rest => fields? false rest
  | _ :: rest => afterSpan? rest
where
  /-- The fields between braces, none of them empty. -/
  fields? (named : Bool) : List Char → Option (List Char)
    | '\x7d' :: rest => if named then (match rest with | ']' :: rest => some rest | _ => none) else none
    | ',' :: rest => if named then fields? false rest else none
    | _ :: rest => fields? true rest
    | [] => none

/-- A directive: a threshold, a target's beginning, or both with an equals sign between them. Without a threshold all of
the target is logged. A word that is no threshold is a target. Blanks before the directive are not part of it but
count as places of it: its parts are cut that many characters too early. -/
def parse? (text : List Char) : Option Directive :=
  let seen := Text.trimChars text
  /- The threshold behind a span, of which `rest` is what follows in the trimmed text. -/
  let spanned (rest : List Char) : Option Directive :=
    match rest with
    | [] => some ⟨.span, some .trace⟩
    | '=' :: rest => do return ⟨.span, ← thresholdAfter? (text.drop (seen.length - rest.length))⟩
    | _ => none
  match seen with
  | [] => none
  | c :: rest =>
    if c = '[' then (afterSpan? rest).bind spanned
    else if !opens c then none
    else
      let before := seen.takeWhile fun c => c != '=' && c != '['
      match seen.drop before.length with
      | [] =>
        match Threshold.parse? text with
        | some threshold => some ⟨.everything, threshold⟩
        | none => some ⟨.target text, some .trace⟩
      | '=' :: _ => do
        return ⟨.target (text.take before.length), ← thresholdAfter? (text.drop (before.length + 1))⟩
      | _ :: rest => (afterSpan? rest).bind spanned

/-- How closely a directive speaks about a target, if it does. -/
def closeness? (directive : Directive) (target : List Char) : Option Nat :=
  match directive.selector with
  | .everything => some 0
  | .target start => if start.isPrefixOf target then some (start.length + 1) else none
  | .span => none

end Directive

/-! ## Filters -/

/-- Directives in the order in which they are given. -/
abbrev Filter := List Directive

namespace Filter

/-- The directives between commas; one that is invalid makes the whole text so. -/
def parse? (text : String) : Option Filter :=
  ((Text.split ',' text.toList).filter (!·.isEmpty)).mapM Directive.parse?

/-- The closest directive on a target; of equally close ones the last. -/
def closest? (target : List Char) : Filter → Option (Nat × Threshold)
  | [] => none
  | directive :: rest =>
    match directive.closeness? target, closest? target rest with
    | some near, some (nearest, threshold) =>
      if nearest < near then some (near, directive.threshold) else some (nearest, threshold)
    | some near, none => some (near, directive.threshold)
    | none, other => other

/-- How much of a target is logged. -/
def threshold (filter : Filter) (target : String) : Threshold :=
  match filter.closest? target.toList with
  | some (_, threshold) => threshold
  | none => none

def admits (filter : Filter) (target : String) (level : Level) : Bool :=
  (filter.threshold target).admits level

end Filter

/-! ## The filter in force -/

/-- The plain names of levels, with their other names. -/
def plainNames : List (String × String) := [
  ("trace", "trace"), ("debug", "debug"), ("info", "info"), ("warn", "warn"), ("warning", "warn"),
  ("error", "error"), ("off", "off"), ("none", "off")]

/-- The normal form of a configured level: a plain name in any case is spelled in one way, no level is the default
one, and directives stay as they are but for the blanks around them. -/
def normalLevel (level : String) : String :=
  let trimmed := Text.trim level
  if trimmed.isEmpty then "info"
  else (plainNames.lookup (String.ofList (lower trimmed.toList))).getD trimmed

/-- The filter that logs everything down to `info`. -/
def infoFilter : Filter :=
  [⟨.everything, some .info⟩]

/-- The filter of a configured level alone. -/
def levelFilter (level : String) : Filter :=
  (Filter.parse? (normalLevel level)).getD infoFilter

/-- The filter in force: the environment's directives after the configured ones, or alone where the configured
ones are invalid; where the environment gives none, or invalid ones, the configured ones alone. -/
def filter (level : String) (environment : Option String) : Filter :=
  match (environment.map Text.trim).filter (!·.isEmpty) with
  | some directives =>
    ((Filter.parse? (normalLevel level ++ "," ++ directives)).or (Filter.parse? directives)).getD
      (levelFilter level)
  | none => levelFilter level

end DebugBridge.Log

namespace DebugBridge.LogSettings

/-- Asks for `debug` records whatever the level was. -/
def verbose (settings : LogSettings) : LogSettings :=
  { settings with level := "debug" }

end DebugBridge.LogSettings
