import DebugBridge.Toml.Scalar

/-!
# TOML documents

A document is lines of keys with values, under headers that name tables. Its value is an object whose members
stand in the order in which the document opens them; a table that is named by a header after tables inside it
were moves behind what was opened in between.

A table is defined once: `Origin` tells how it came about and so what may still be added to it.
-/

namespace DebugBridge.Toml

/-! ## Tables -/

/-- How a table came about. -/
inductive Origin where
  /-- It has a header of its own. -/
  | header
  /-- A header named a table inside it. -/
  | implied
  /-- A dotted key went through it. -/
  | dotted
  deriving DecidableEq, Repr

/-- What a key stands for. -/
inductive Node where
  | leaf (value : Json)
  | table (origin : Origin) (entries : List (String × Node))
  /-- A list of tables under one header, of which only the last is open. -/
  | tables (elements : List (List (String × Node)))

/-- The keys of a table in order. -/
abbrev Entries := List (String × Node)

/-- Puts a node in the place of a key's, or at the end. -/
def Entries.put (name : String) (node : Node) : Entries → Entries
  | [] => [(name, node)]
  | (other, old) :: rest =>
    if other = name then (name, node) :: rest else (other, old) :: Entries.put name node rest

/-- The node of a key. -/
def Entries.get? (entries : Entries) (name : String) : Option Node :=
  entries.lookup name

/-- Changes the table at the end of a path, making tables of the given origin on the way. A value cannot be gone
through; of a list of tables the last one is; a dotted key cannot go through a table that has a header. `change`
also gets the origin of the table it changes. -/
def descend (made : Origin) (change : Origin → Entries → Option Entries) :
    Origin → List String → Entries → Option Entries
  | origin, [], entries => change origin entries
  | _, name :: path, entries =>
    match entries.get? name with
    | none => do
      let inner ← descend made change made path []
      return entries ++ [(name, .table made inner)]
    | some (.leaf _) => none
    | some (.table origin inner) =>
      if made = .dotted ∧ origin = .header then none
      else do
        let inner ← descend made change origin path inner
        return entries.put name (.table origin inner)
    | some (.tables elements) => do
      let last ← elements.getLast?
      let inner ← descend made change .header path last
      return entries.put name (.tables (elements.dropLast ++ [inner]))

/-- Adds a key that is not there yet. -/
def addNew (name : String) (node : Node) (entries : Entries) : Option Entries :=
  if (entries.get? name).isSome then none else some (entries ++ [(name, node)])

/-- A value with its key, a path and a last name. -/
structure KeyValue where
  path : List String
  name : String
  value : Json

/-- Adds a value to a table. With a dotted key the table it goes into must have come about by dotted keys. -/
def addValue (entries : Entries) (kv : KeyValue) : Option Entries :=
  descend .dotted
    (fun origin entries => if kv.path ≠ [] ∧ origin ≠ .dotted then none else addNew kv.name (.leaf kv.value) entries)
    .header kv.path entries

def addValues (entries : Entries) (values : List KeyValue) : Option Entries :=
  values.foldlM addValue entries

/-- Adds a table with a header: it may take over what was implied of it. -/
def addTable (path : List String) (name : String) (values : List KeyValue) (root : Entries) : Option Entries :=
  descend .implied
    (fun _ parent =>
      match parent.get? name with
      | none => do return parent ++ [(name, .table .header (← addValues [] values))]
      | some (.table .implied inner) => do
        let others := parent.filter (·.1 ≠ name)
        return others ++ [(name, .table .header (← addValues inner values))]
      | some _ => none)
    .header path root

/-- Adds a table to a list of tables. -/
def addElement (path : List String) (name : String) (values : List KeyValue) (root : Entries) : Option Entries :=
  descend .implied
    (fun _ parent =>
      match parent.get? name with
      | none => do return parent ++ [(name, .tables [← addValues [] values])]
      | some (.tables elements) => do return parent.put name (.tables (elements ++ [← addValues [] values]))
      | some _ => none)
    .header path root

mutual

/-- A node as a value. -/
def Node.toJson : Node → Json
  | .leaf value => value
  | .table _ entries => .object (membersOf entries)
  | .tables elements => .array (objectsOf elements)

def membersOf : List (String × Node) → List (String × Json)
  | [] => []
  | (name, node) :: rest => (name, node.toJson) :: membersOf rest

def objectsOf : List (List (String × Node)) → List Json
  | [] => []
  | entries :: rest => .object (membersOf entries) :: objectsOf rest

end

/-! ## Values -/

/-- How deep arrays and tables may nest inside one value, and how long a dotted key may be. -/
def maxDepth : Nat := 79

/-- A comment up to its line end. -/
def skipComment (text : List Char) : List Char :=
  match text with
  | '#' :: rest => rest.dropWhile isPrintable
  | _ => text

/-- Spaces, line ends and comments. -/
def skipFiller : Nat → List Char → List Char
  | 0, text => text
  | most + 1, text =>
    let text := skipComment (skipSpaces text)
    match newline? text with
    | some rest => skipFiller most rest
    | none => text

def isBareKeyChar (c : Char) : Bool :=
  c.isAlphanum || c = '_' || c = '-'

/-- One name of a key. -/
def keyName (text : List Char) : Option (String × List Char) :=
  match text with
  | '"' :: _ | '\'' :: _ => singleString text
  | _ =>
    match text.takeWhile isBareKeyChar with
    | [] => none
    | name => some (String.ofList name, text.dropWhile isBareKeyChar)

/-- A key: names with points between them, at most `most`. -/
def key : Nat → Parser (List String)
  | 0, _ => none
  | most + 1, text => do
    let (name, rest) ← keyName (skipSpaces text)
    match skipSpaces rest with
    | '.' :: rest => do
      let (names, rest) ← key most rest
      return (name :: names, rest)
    | rest => return ([name], rest)

/-- A key with its value. -/
def keyValue (value : Parser Json) (text : List Char) : Option (KeyValue × List Char) := do
  let (names, rest) ← key maxDepth text
  match rest with
  | '=' :: rest => do
    let (json, rest) ← value (skipSpaces rest)
    return ({ path := names.dropLast, name := names.getLast?.getD "", value := json }, rest)
  | _ => none

/-- The items of an array, after its bracket, at most `most`. -/
def arrayItems (value : Parser Json) : Nat → List Json → Parser Json
  | 0, _, _ => none
  | most + 1, done, text =>
    match skipFiller text.length text with
    | ']' :: rest => some (.array done.reverse, rest)
    | text =>
      match value text with
      | none => none
      | some (item, rest) =>
        match skipFiller rest.length rest with
        | ',' :: rest => arrayItems value most (item :: done) rest
        | ']' :: rest => some (.array (item :: done).reverse, rest)
        | _ => none

/-- The keys of a table in braces, with commas between them, at most `most`. -/
def inlineValues (value : Parser Json) : Nat → List KeyValue → Parser (List KeyValue)
  | 0, _, _ => none
  | most + 1, done, text =>
    match keyValue value text with
    | none => none
    | some (kv, rest) =>
      match skipSpaces rest with
      | ',' :: rest => inlineValues value most (kv :: done) rest
      | '\x7d' :: rest => some ((kv :: done).reverse, rest)
      | _ => none

/-- A table in braces, after the first. -/
def inlineTable (value : Parser Json) (text : List Char) : Option (Json × List Char) :=
  match skipSpaces text with
  | '\x7d' :: rest => some (.object [], rest)
  | text => do
    let (values, rest) ← inlineValues value (text.length + 1) [] text
    let entries ← addValues [] values
    return (.object (membersOf entries), rest)

/-- A value with at most so many containers around its innermost parts. -/
def value : Nat → Parser Json
  | 0, text => scalar text
  | depth + 1, text =>
    match text with
    | '[' :: rest => arrayItems (value depth) (rest.length + 1) [] rest
    | '\x7b' :: rest => inlineTable (value depth) rest
    | _ => scalar text

/-! ## Lines -/

/-- The end of a line: spaces, a comment, and a line end or the end of the text. -/
def lineEnd (text : List Char) : Option (List Char) :=
  match skipComment (skipSpaces text) with
  | [] => some []
  | rest => newline? rest

/-- The line of a header, after its brackets, which `closing` ends: path and name. -/
def headerLine (closing text : List Char) : Option ((List String × String) × List Char) := do
  let (names, rest) ← key maxDepth text
  let rest ← if closing.isPrefixOf rest then some (rest.drop closing.length) else none
  let rest ← lineEnd rest
  return ((names.dropLast, names.getLast?.getD ""), rest)

/-- The lines of a table up to the next header. -/
def body : Nat → List KeyValue → Parser (List KeyValue)
  | 0, _, _ => none
  | most + 1, done, text =>
    match skipFiller text.length text with
    | [] => some (done.reverse, [])
    | '[' :: rest => some (done.reverse, '[' :: rest)
    | text =>
      match keyValue (value maxDepth) text with
      | none => none
      | some (kv, rest) =>
        match lineEnd rest with
        | none => none
        | some rest => body most (kv :: done) rest

/-- The tables with headers, added to what came before. -/
def sections : Nat → Entries → List Char → Option Entries
  | 0, _, _ => none
  | _ + 1, root, [] => some root
  | most + 1, root, '[' :: '[' :: rest => do
    let ((path, name), rest) ← headerLine [']', ']'] rest
    let (values, rest) ← body (rest.length + 1) [] rest
    let root ← addElement path name values root
    sections most root rest
  | most + 1, root, '[' :: rest => do
    let ((path, name), rest) ← headerLine [']'] rest
    let (values, rest) ← body (rest.length + 1) [] rest
    let root ← addTable path name values root
    sections most root rest
  | _ + 1, _, _ => none

/-- The value of a document; none when it breaks a rule of the language. A byte order mark in front is skipped. -/
def parse (text : String) : Option Json := do
  let text := match text.toList with
    | '\ufeff' :: rest => rest
    | chars => chars
  let (values, rest) ← body (text.length + 1) [] text
  let root ← addValues [] values
  let root ← sections (rest.length + 1) root rest
  return .object (membersOf root)

end DebugBridge.Toml
