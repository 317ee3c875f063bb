import DebugBridge.Settings
import DebugBridge.Proofs.Json.Records
import DebugBridge.Proofs.Toml.Notations
import DebugBridge.Proofs.Toml.Values
import Mathlib

/-!
# What settings a document gives

Which keys a document may have, with which values, is a table: `known`. Loading takes exactly the documents that keep to it, and
the settings say what is given for each key and the default where nothing is. That a document has no name twice, no null and
no integer of more than 64 bits is known of every document, so the only premise is that its sections are tables.
-/

namespace DebugBridge.Settings

open Schema

/-! ## What may be set -/

/-- The kind of value that a key takes. -/
inductive Kind where
  | text
  | truth
  /-- An integer that is not below zero, nor above a bound if there is one. -/
  | number (most : Option Nat)
  deriving DecidableEq, Repr

/-- Whether a value is of the kind. -/
def Kind.takes : Kind → Json → Bool
  | text, .string _ => true
  | truth, .bool _ => true
  | number most, .int n => 0 ≤ n && most.all fun (bound : Nat) => n ≤ bound
  | _, _ => false

/-- The keys of the section on the log. -/
def logKeys : List (String × Kind) :=
  [("level", .text), ("json", .truth), ("stderr", .truth), ("file", .text)]

/-- The keys of the section on the debug server. -/
def serverKeys : List (String × Kind) :=
  [("host", .text), ("port", .number (some 65535)), ("connect_attempts", .number (some 4294967295)),
    ("retry_delay_ms", .number none)]

/-- The sections with their keys. -/
def known : List (String × List (String × Kind)) :=
  [("logging", logKeys), ("debug_server", serverKeys)]

/-- The keys of a section are known, and every value is of its key's kind. -/
def Fits (keys : List (String × Kind)) (entry : Json) : Prop :=
  ∀ key value, entry.get? key = some value → ∃ kind, keys.lookup key = some kind ∧ kind.takes value

/-- The sections of the document are known, and so is what is in them. -/
def Declared (document : Json) : Prop :=
  ∀ title entry, document.get? title = some entry → ∃ keys, known.lookup title = some keys ∧ Fits keys entry

/-- Where the document has the sections, they are tables. -/
def Sectioned (document : Json) : Prop :=
  ∀ title ∈ known.map (·.1), ∀ entry, document.get? title = some entry → ∃ members, entry = .object members

/-- What the document gives for a key of a section. -/
def given? (document : Json) (title key : String) : Option Json :=
  (document.get? title).bind (·.get? key)

/-- The settings are what is given for the keys, and where nothing is given they are the defaults. -/
structure Reflects (given : String → String → Option Json) (settings : Settings) : Prop where
  level : .string settings.log.level = (given "logging" "level").getD (.string "info")
  json : .bool settings.log.json = (given "logging" "json").getD (.bool false)
  stderr : .bool settings.log.stderr = (given "logging" "stderr").getD (.bool true)
  file : settings.log.file.map .string = given "logging" "file"
  host : .string settings.server.host = (given "debug_server" "host").getD (.string "localhost")
  port : .int settings.server.port.toNat = (given "debug_server" "port").getD (.int 7300)
  connectAttempts :
    .int settings.server.connectAttempts.toNat = (given "debug_server" "connect_attempts").getD (.int 5)
  retryDelayMs :
    .int settings.server.retryDelayMs.toNat = (given "debug_server" "retry_delay_ms").getD (.int 1000)

/-! ## The records -/

theorem logRecord_plain : Plain logRecord where
  closed := rfl
  allowed := by simp [logRecord, Field.of]
  steady := by simp [logRecord, steady_of]

theorem serverRecord_plain : Plain serverRecord where
  closed := rfl
  allowed := by simp [serverRecord, Field.of]
  steady := by simp [serverRecord, steady_of]

theorem record_plain : Plain record where
  closed := rfl
  allowed := by simp [record, Field.of]
  steady := by simp [record, steady_of]

theorem logRecord_parts :
    Portion logRecord "level" string (·.level) ∧ Portion logRecord "json" Schema.bool (·.json) ∧
      Portion logRecord "stderr" Schema.bool (·.stderr) ∧ Portion logRecord "file" (optional path) (·.file) := by
  simp [Portion, logRecord, minds_own, minds_other]

theorem serverRecord_parts :
    Portion serverRecord "host" string (·.host) ∧ Portion serverRecord "port" uint16 (·.port) ∧
      Portion serverRecord "connect_attempts" uint32 (·.connectAttempts) ∧
        Portion serverRecord "retry_delay_ms" uint64 (·.retryDelayMs) := by
  simp [Portion, serverRecord, minds_own, minds_other]

theorem record_parts :
    Portion record "logging" logRecord.read (·.log) ∧ Portion record "debug_server" serverRecord.read (·.server) := by
  simp [Portion, record, minds_own, minds_other]

/-! ## Which values are accepted -/

section

variable {json : Json}

theorem text_accepts {expected : String} :
    (∃ written, Schema.text expected tomlFormat json = .ok written) ↔ Kind.text.takes json := by
  cases json <;> simp [text_eq_ok, Kind.takes]

theorem truth_accepts : (∃ value, Schema.bool tomlFormat json = .ok value) ↔ Kind.truth.takes json := by
  cases json <;> simp [bool_eq_ok, Kind.takes]

/-- A path is a text, and a document has no nulls. -/
theorem file_accepts (hproper : Toml.Proper json) :
    (∃ file, optional path tomlFormat json = .ok file) ↔ Kind.text.takes json := by
  rw [← text_accepts]
  simp only [optional_eq_ok hproper.ne_null]
  constructor
  · rintro ⟨_, written, hread, -⟩
    exact ⟨written, hread⟩
  · rintro ⟨written, hread⟩
    exact ⟨_, written, hread, rfl⟩

theorem takes_number {most : Option Nat} :
    (Kind.number most).takes json ↔ ∃ n : Nat, json = .int n ∧ ∀ bound ∈ most, n ≤ bound := by
  cases json with
  | int m =>
    simp only [Kind.takes, Bool.and_eq_true, decide_eq_true_eq, Option.all_eq_true, Json.int.injEq]
    constructor
    · rintro ⟨hlow, hmost⟩
      refine ⟨m.toNat, (Int.toNat_of_nonneg hlow).symm, fun bound hbound => ?_⟩
      have := hmost bound hbound
      omega
    · rintro ⟨n, rfl, hmost⟩
      exact ⟨by omega, fun bound hbound => by have := hmost bound hbound; omega⟩
  | _ => simp [Kind.takes]

theorem number_accepts {α : Type} (expected : String) (most : Nat) {make : Int → α} :
    (∃ a, (integer expected 0 most tomlFormat json).map make = .ok a) ↔ (Kind.number (some most)).takes json := by
  rw [natural_accepts, takes_number]
  simp

/-- A document's integers do not come near the bound of 64 bits. -/
theorem delay_accepts (hproper : Toml.Proper json) :
    (∃ delay, uint64 tomlFormat json = .ok delay) ↔ (Kind.number none).takes json := by
  rw [takes_number]
  refine (natural_accepts "u64" 18446744073709551615).trans (exists_congr fun n => ?_)
  refine ⟨fun h => ⟨h.1, by simp⟩, ?_⟩
  rintro ⟨rfl, -⟩
  have := hproper.int_range
  exact ⟨rfl, by omega⟩

end

section

variable {members : List (String × Json)}

theorem logRecord_table (hproper : ∀ member ∈ members, Toml.Proper member.2) :
    Tabulates logRecord tomlFormat members logKeys fun kind json => kind.takes json :=
  .cons ⟨rfl, fun _ _ => (accepts_of {}).trans text_accepts⟩ <|
    .cons ⟨rfl, fun _ _ => (accepts_of {}).trans truth_accepts⟩ <|
    .cons ⟨rfl, fun _ _ => (accepts_of {}).trans truth_accepts⟩ <|
    .cons ⟨rfl, fun _ hmem => (accepts_of {}).trans (file_accepts (hproper _ hmem))⟩ .nil

theorem serverRecord_table (hproper : ∀ member ∈ members, Toml.Proper member.2) :
    Tabulates serverRecord tomlFormat members serverKeys fun kind json => kind.takes json :=
  .cons ⟨rfl, fun _ _ => (accepts_of {}).trans text_accepts⟩ <|
    .cons ⟨rfl, fun _ _ => (accepts_of {}).trans (number_accepts "u16" 65535)⟩ <|
    .cons ⟨rfl, fun _ _ => (accepts_of {}).trans (number_accepts "u32" 4294967295)⟩ <|
    .cons ⟨rfl, fun _ hmem => (accepts_of {}).trans (delay_accepts (hproper _ hmem))⟩ .nil

/-- A section is a table with distinct keys. -/
theorem section_of_mem (hproper : Toml.Proper (.object members)) (hsectioned : Sectioned (.object members))
    {title : String} (htitle : title ∈ known.map (·.1)) {entry : Json} (hmem : (title, entry) ∈ members) :
    ∃ inner, entry = .object inner ∧ Toml.Proper (.object inner) := by
  have hfound : members.lookup title = some entry := (Assoc.lookup_eq_some_iff hproper.of_object.1).2 hmem
  obtain ⟨inner, rfl⟩ := hsectioned title htitle entry hfound
  exact ⟨inner, rfl, hproper.of_object.2 _ hmem⟩

theorem record_table (hproper : Toml.Proper (.object members)) (hsectioned : Sectioned (.object members)) :
    Tabulates record tomlFormat members known Fits := by
  refine .cons ⟨rfl, fun entry hmem => ?logging⟩ <| .cons ⟨rfl, fun entry hmem => ?server⟩ .nil
  case logging =>
    obtain ⟨inner, rfl, hinner⟩ := section_of_mem hproper hsectioned (by decide) hmem
    have htable := logRecord_table hinner.of_object.2
    exact (accepts_of {}).trans (logRecord_plain.read_ok_iff hinner.of_object.1 htable)
  case server =>
    obtain ⟨inner, rfl, hinner⟩ := section_of_mem hproper hsectioned (by decide) hmem
    have htable := serverRecord_table hinner.of_object.2
    exact (accepts_of {}).trans (serverRecord_plain.read_ok_iff hinner.of_object.1 htable)

theorem read_ok_iff_declared (hproper : Toml.Proper (.object members)) (hsectioned : Sectioned (.object members)) :
    (∃ settings, record.read tomlFormat (.object members) = .ok settings) ↔ Declared (.object members) :=
  record_plain.read_ok_iff hproper.of_object.1 (record_table hproper hsectioned)

/-! ## What is read -/

variable {settings : Settings}

/-- What a key of a section gives is what the part of the settings is, and without it the part is the default. -/
theorem given_part {σ β : Type} {inner : Record σ} {part : Settings → σ} {get : σ → β} {title key : String}
    {reader : Reader β} (hproper : Toml.Proper (.object members)) (hsectioned : Sectioned (.object members))
    (htitle : title ∈ known.map (·.1)) (hsection : Portion record title inner.read part)
    (hstart : part {} = inner.start) (hplain : Plain inner) (hpart : Portion inner key reader get)
    (hread : record.read tomlFormat (.object members) = .ok settings) :
    (given? (.object members) title key).elim (get (part settings) = get inner.start) fun json =>
      reader tomlFormat json = .ok (get (part settings)) := by
  have hfound := hsection.read record_plain hproper.of_object.1 hread
  rw [given?, Json.get?]
  cases hlookup : members.lookup title with
  | none =>
    rw [hlookup] at hfound
    exact congrArg get (hfound.trans hstart)
  | some entry =>
    have hmem := (Assoc.lookup_eq_some_iff hproper.of_object.1).1 hlookup
    obtain ⟨own, rfl, hown⟩ := section_of_mem hproper hsectioned htitle hmem
    rw [hlookup] at hfound
    exact hpart.read hplain hown.of_object.1 hfound

/-- A value that is read as what it says is the value, and a default stands for one that is not there. -/
theorem eq_getD {β : Type} {reader : Reader β} (write : β → Json) {given : Option Json} {start b : β}
    (hreader : ∀ {json}, reader tomlFormat json = .ok b → json = write b)
    (hgiven : given.elim (b = start) fun json => reader tomlFormat json = .ok b) :
    write b = given.getD (write start) := by
  cases given with
  | none => exact congrArg write hgiven
  | some json => exact (hreader hgiven).symm

/-- A path is what the document says, if it says anything. -/
theorem eq_given {given : Option Json} {file : Option String} (hproper : ∀ json, given = some json → Toml.Proper json)
    (hgiven : given.elim (file = none) fun json => optional path tomlFormat json = .ok file) :
    file.map .string = given := by
  cases given with
  | none => exact congrArg _ hgiven
  | some json =>
    obtain ⟨written, hread, rfl⟩ := (optional_eq_ok (hproper json rfl).ne_null).1 hgiven
    rw [text_eq_ok.1 hread, Option.map_some]

theorem given_proper (hproper : Toml.Proper (.object members)) {title key : String} :
    ∀ json, given? (.object members) title key = some json → Toml.Proper json := by
  intro json hgiven
  obtain ⟨entry, hentry, hvalue⟩ := Option.bind_eq_some_iff.1 hgiven
  exact (hproper.get? hentry).get? hvalue

theorem reflects_of_read (hproper : Toml.Proper (.object members)) (hsectioned : Sectioned (.object members))
    (hread : record.read tomlFormat (.object members) = .ok settings) : Reflects (given? (.object members)) settings := by
  obtain ⟨hlog, hserver⟩ := record_parts
  obtain ⟨hlevel, hjson, hstderr, hfile⟩ := logRecord_parts
  obtain ⟨hhost, hport, hattempts, hdelay⟩ := serverRecord_parts
  have ofLog {β : Type} {key : String} {reader : Reader β} {get : LogSettings → β} (hpart : Portion logRecord key reader get) :=
    given_part hproper hsectioned (by decide) hlog rfl logRecord_plain hpart hread
  have ofServer {β : Type} {key : String} {reader : Reader β} {get : ServerSettings → β}
      (hpart : Portion serverRecord key reader get) :=
    given_part hproper hsectioned (by decide) hserver rfl serverRecord_plain hpart hread
  exact {
    level := eq_getD .string text_eq_ok.1 (ofLog hlevel)
    json := eq_getD .bool bool_eq_ok.1 (ofLog hjson)
    stderr := eq_getD .bool bool_eq_ok.1 (ofLog hstderr)
    file := eq_given (given_proper hproper) (ofLog hfile)
    host := eq_getD .string text_eq_ok.1 (ofServer hhost)
    port := eq_getD (fun n : UInt16 => .int n.toNat) uint16_eq_ok.1 (ofServer hport)
    connectAttempts := eq_getD (fun n : UInt32 => .int n.toNat) uint32_eq_ok.1 (ofServer hattempts)
    retryDelayMs := eq_getD (fun n : UInt64 => .int n.toNat) uint64_eq_ok.1 (ofServer hdelay) }

end

/-- What is given and the defaults determine the settings. -/
theorem Reflects.unique {given : String → String → Option Json} {settings others : Settings}
    (hreflects : Reflects given settings) (hothers : Reflects given others) : settings = others := by
  obtain ⟨⟨level, json, stderr, file⟩, host, port, attempts, delay⟩ := settings
  obtain ⟨⟨level', json', stderr', file'⟩, host', port', attempts', delay'⟩ := others
  have hlevel : level = level' := Json.string.inj (hreflects.level.trans hothers.level.symm)
  have hjson : json = json' := Json.bool.inj (hreflects.json.trans hothers.json.symm)
  have hstderr : stderr = stderr' := Json.bool.inj (hreflects.stderr.trans hothers.stderr.symm)
  have hfile : file = file' :=
    Option.map_injective (fun _ _ => Json.string.inj) (hreflects.file.trans hothers.file.symm)
  have hhost : host = host' := Json.string.inj (hreflects.host.trans hothers.host.symm)
  have hport : port = port' :=
    UInt16.toNat_inj.1 (Int.ofNat.inj (Json.int.inj (hreflects.port.trans hothers.port.symm)))
  have hattempts : attempts = attempts' :=
    UInt32.toNat_inj.1 (Int.ofNat.inj (Json.int.inj (hreflects.connectAttempts.trans hothers.connectAttempts.symm)))
  have hdelay : delay = delay' :=
    UInt64.toNat_inj.1 (Int.ofNat.inj (Json.int.inj (hreflects.retryDelayMs.trans hothers.retryDelayMs.symm)))
  rw [hlevel, hjson, hstderr, hfile, hhost, hport, hattempts, hdelay]

/-! ## Loading -/

theorem ofText_eq_ok {text : String} {document : Json} (hparse : Toml.parse text = some document) {settings : Settings} :
    ofText text = .ok settings ↔ record.read tomlFormat document = .ok settings := by
  rw [ofText, hparse]
  cases hread : record.read tomlFormat document with
  | error fault => simp [hread, Except.mapError]
  | ok read => simp [hread, Except.mapError]

/-- Loading gives the settings that the document declares, and nothing when it declares anything else. -/
theorem ofText_iff {text : String} {document : Json} (hparse : Toml.parse text = some document)
    (hsectioned : Sectioned document) (settings : Settings) :
    ofText text = .ok settings ↔ Declared document ∧ Reflects (given? document) settings := by
  obtain ⟨members, rfl, hproper⟩ := Toml.parse_proper hparse
  rw [ofText_eq_ok hparse]
  constructor
  · intro hread
    exact ⟨(read_ok_iff_declared hproper hsectioned).1 ⟨_, hread⟩, reflects_of_read hproper hsectioned hread⟩
  · rintro ⟨hdeclared, hreflects⟩
    -- Something is read, and it can be no other settings.
    obtain ⟨read, hread⟩ := (read_ok_iff_declared hproper hsectioned).2 hdeclared
    rwa [hreflects.unique (reflects_of_read hproper hsectioned hread)]

/-! ## Order and notation -/

/-- The same entry but for the order of its keys. -/
def SameKeys (entry other : Json) : Prop :=
  entry = other ∨ ∃ members moved, entry = .object members ∧ other = .object moved ∧ members.Perm moved

/-- The same document but for the order of its sections and of the keys in each. -/
def Reordered (document other : Json) : Prop :=
  ∃ members middle moved, document = .object members ∧ other = .object moved ∧
    List.Forall₂ (fun entry turned => entry.1 = turned.1 ∧ SameKeys entry.2 turned.2) members middle ∧
    middle.Perm moved

theorem SameKeys.get? {entry other : Json} (hsame : SameKeys entry other) (hproper : Toml.Proper entry) (key : String) :
    entry.get? key = other.get? key := by
  obtain rfl | ⟨members, moved, rfl, rfl, hperm⟩ := hsame
  · rfl
  · exact Assoc.lookup_perm hproper.of_object.1 hperm key

section

variable {document other : Json}

/-- Under every title the two documents have the same entry, or none. -/
theorem Reordered.get? (hreordered : Reordered document other) (hproper : Toml.Proper other) (title : String) :
    Option.Rel SameKeys (document.get? title) (other.get? title) := by
  obtain ⟨members, middle, moved, rfl, rfl, hentries, hperm⟩ := hreordered
  have hsame : middle.lookup title = moved.lookup title :=
    (Assoc.lookup_perm hproper.of_object.1 hperm.symm title).symm
  rw [Json.get?, Json.get?, ← hsame]
  clear hproper hperm hsame
  induction hentries with
  | nil => exact .none
  | @cons entry turned rest middle hentry hrest ih =>
    obtain ⟨name, value⟩ := entry
    obtain ⟨name', value'⟩ := turned
    obtain ⟨rfl, hkeys⟩ := hentry
    rw [List.lookup_cons, List.lookup_cons]
    cases title == name with
    | true => exact .some hkeys
    | false => exact ih

theorem Reordered.sectioned (hreordered : Reordered document other) (hproper : Toml.Proper other)
    (hsectioned : Sectioned document) : Sectioned other := by
  intro title htitle entry hentry
  have hsame := hreordered.get? hproper title
  rw [hentry] at hsame
  cases hfound : document.get? title with
  | none =>
    rw [hfound] at hsame
    cases hsame
  | some found =>
    obtain ⟨members, rfl⟩ := hsectioned title htitle found hfound
    rw [hfound] at hsame
    cases hsame with
    | some hkeys =>
      obtain rfl | ⟨_, moved, -, rfl, -⟩ := hkeys
      · exact ⟨_, rfl⟩
      · exact ⟨_, rfl⟩

/-- What is found in the sections does not depend on the order. -/
theorem Reordered.finds (hreordered : Reordered document other) (hproper : Toml.Proper document)
    (hother : Toml.Proper other) (title : String) :
    (document.get? title).map Json.get? = (other.get? title).map Json.get? := by
  have hsame := hreordered.get? hother title
  cases hfound : document.get? title with
  | none =>
    rw [hfound] at hsame
    generalize other.get? title = found at hsame ⊢
    cases hsame
    rfl
  | some entry =>
    rw [hfound] at hsame
    generalize other.get? title = found at hsame ⊢
    cases hsame with
    | some hkeys => exact congrArg some (funext (hkeys.get? (hproper.get? hfound)))

end

theorem declared_iff_finds {document : Json} :
    Declared document ↔ ∀ title find, (document.get? title).map Json.get? = some find →
      ∃ keys, known.lookup title = some keys ∧
        ∀ key value, find key = some value → ∃ kind, keys.lookup key = some kind ∧ kind.takes value := by
  simp only [Option.map_eq_some_iff]
  constructor
  · rintro hdeclared title _ ⟨entry, hentry, rfl⟩
    exact hdeclared title entry hentry
  · intro hfinds title entry hentry
    exact hfinds title _ ⟨entry, hentry, rfl⟩

theorem given?_eq_finds (document : Json) (title key : String) :
    given? document title key = ((document.get? title).map Json.get?).bind (· key) := by
  rw [given?, Option.bind_map]
  rfl

/-- The order of sections and keys does not matter. -/
theorem ofText_reordered {text other : String} {document moved : Json} (hparse : Toml.parse text = some document)
    (hreparse : Toml.parse other = some moved) (hreordered : Reordered document moved) (hsectioned : Sectioned document)
    (settings : Settings) : ofText other = .ok settings ↔ ofText text = .ok settings := by
  obtain ⟨_, -, hproper⟩ := Toml.parse_proper hparse
  obtain ⟨_, -, hmoved⟩ := Toml.parse_proper hreparse
  have hfinds := hreordered.finds hproper hmoved
  have hgiven : given? document = given? moved := by
    funext title key
    rw [given?_eq_finds, given?_eq_finds, hfinds]
  rw [ofText_iff hreparse (hreordered.sectioned hmoved hsectioned), ofText_iff hparse hsectioned, hgiven,
    declared_iff_finds, declared_iff_finds]
  simp only [hfinds]

/-- Nor does it matter how tables are written. -/
theorem ofText_rewritten {text other : String} {document : Json} (hparse : Toml.parse text = some document)
    (hsectioned : Sectioned document) {tables others : List Toml.Table} (hwrites : Toml.Writes text tables)
    (hrewrites : Toml.Writes other others) (hnames : (tables.map (·.name)).Nodup)
    (hcontents : (tables.map Toml.Table.content).Perm (others.map Toml.Table.content)) (settings : Settings) :
    ofText other = .ok settings ↔ ofText text = .ok settings := by
  obtain ⟨members, rfl, -⟩ := Toml.parse_proper hparse
  obtain ⟨moved, hreparse, hperm⟩ := Toml.parse_perm hwrites hrewrites hnames hcontents hparse
  have hreordered : Reordered (.object members) (.object moved) :=
    ⟨members, members, moved, rfl, rfl, List.forall₂_same.2 fun _ _ => ⟨rfl, .inl rfl⟩, hperm⟩
  exact ofText_reordered hparse hreparse hreordered hsectioned settings

/-- A document whose sections are tables gives settings exactly when everything in it is declared, and then those that it gives,
with the defaults for the rest. Neither the order of sections and keys nor the way in which tables are written matters. -/
theorem settings_are_as_declared {text : String} {document : Json} (hparse : Toml.parse text = some document)
    (hsectioned : Sectioned document) :
    ((∃ settings, ofText text = .ok settings) ↔ Declared document) ∧
      (∀ settings, ofText text = .ok settings → Reflects (given? document) settings) ∧
      (∀ other moved, Toml.parse other = some moved → Reordered document moved →
        ∀ settings, ofText other = .ok settings ↔ ofText text = .ok settings) ∧
      ∀ other tables others, Toml.Writes text tables → Toml.Writes other others → (tables.map (·.name)).Nodup →
        (tables.map Toml.Table.content).Perm (others.map Toml.Table.content) →
          ∀ settings, ofText other = .ok settings ↔ ofText text = .ok settings := by
  refine ⟨?accepted, ?read, ?reordered, ?rewritten⟩
  case accepted =>
    obtain ⟨members, rfl, hproper⟩ := Toml.parse_proper hparse
    simp only [ofText_eq_ok hparse]
    exact read_ok_iff_declared hproper hsectioned
  case read => exact fun settings hread => ((ofText_iff hparse hsectioned settings).1 hread).2
  case reordered =>
    intro other moved hreparse hreordered
    exact ofText_reordered hparse hreparse hreordered hsectioned
  case rewritten =>
    intro other tables others hwrites hrewrites hnames hcontents
    exact ofText_rewritten hparse hsectioned hwrites hrewrites hnames hcontents

/-- One document in two orders and three notations: a table in braces before one with a header, and the same tables with the
dotted one first. -/
theorem two_sections_as_declared :
    ∃ settings, ofText "debug_server = \x7b port = 7301 \x7d\n[logging]\nlevel = 'warn'\n" = .ok settings ∧
      ofText "logging.level = \"warn\"\n[debug_server]\nport = 7_301 # both\n" = .ok settings ∧
        settings = { log := { level := "warn" }, server := { port := 7301 } } := by
  let server : List Toml.KeyValue := [⟨[], "port", .int 7301⟩]
  let log : List Toml.KeyValue := [⟨[], "level", .string "warn"⟩]
  let document : Json :=
    .object [("debug_server", .object [("port", .int 7301)]), ("logging", .object [("level", .string "warn")])]
  have hparse : Toml.parse "debug_server = \x7b port = 7301 \x7d\n[logging]\nlevel = 'warn'\n" = some document := by cbv
  have hentries {title : String} {entry : Json} (hentry : document.get? title = some entry) :
      (title = "debug_server" ∧ entry = .object [("port", .int 7301)]) ∨
        (title = "logging" ∧ entry = .object [("level", .string "warn")]) := by
    have hmem := (Assoc.lookup_eq_some_iff (by decide)).1 hentry
    simpa using hmem
  have hsectioned : Sectioned document := by
    intro title _ entry hentry
    obtain ⟨-, rfl⟩ | ⟨-, rfl⟩ := hentries hentry
    · exact ⟨_, rfl⟩
    · exact ⟨_, rfl⟩
  have hdeclared : Declared document := by
    intro title entry hentry
    obtain ⟨rfl, rfl⟩ | ⟨rfl, rfl⟩ := hentries hentry
    · refine ⟨serverKeys, rfl, fun key value hvalue => ?_⟩
      have hmem := (Assoc.lookup_eq_some_iff (by decide)).1 hvalue
      obtain ⟨rfl, rfl⟩ : key = "port" ∧ value = .int 7301 := by simpa using hmem
      exact ⟨_, rfl, by decide⟩
    · refine ⟨logKeys, rfl, fun key value hvalue => ?_⟩
      have hmem := (Assoc.lookup_eq_some_iff (by decide)).1 hvalue
      obtain ⟨rfl, rfl⟩ : key = "level" ∧ value = .string "warn" := by simpa using hmem
      exact ⟨_, rfl, by decide⟩
  have hwrites : Toml.Writes "debug_server = \x7b port = 7301 \x7d\n[logging]\nlevel = 'warn'\n"
      [⟨.braces, "debug_server", server⟩, ⟨.header, "logging", log⟩] :=
    ⟨[⟨.braces, "debug_server", server⟩], [⟨.header, "logging", log⟩], _, rfl, .cons rfl .nil, by simp, by cbv⟩
  have hrewrites : Toml.Writes "logging.level = \"warn\"\n[debug_server]\nport = 7_301 # both\n"
      [⟨.dotted, "logging", log⟩, ⟨.header, "debug_server", server⟩] :=
    ⟨[⟨.dotted, "logging", log⟩], [⟨.header, "debug_server", server⟩], _, rfl, .cons rfl .nil, by simp, by cbv⟩
  obtain ⟨haccepted, hread, -, hrewritten⟩ := settings_are_as_declared hparse hsectioned
  obtain ⟨settings, hsettings⟩ := haccepted.2 hdeclared
  refine ⟨settings, hsettings, ?_, ?_⟩
  · exact (hrewritten _ _ _ hwrites hrewrites (by decide) (List.Perm.swap _ _ _) settings).2 hsettings
  · have hdefaults : Reflects (given? document) { log := { level := "warn" }, server := { port := 7301 } } := by
      constructor <;> rfl
    exact (hread settings hsettings).unique hdefaults

end DebugBridge.Settings
