import DebugBridge.Proofs.Json.Numbers
import DebugBridge.Proofs.Json.Strings

/-!
# JSON values read back

A value without floats is written and read back as itself, up to the order of its members: those of an object are read in
the order of their names. The reader is told how deep arrays and objects may nest, and the proof is by induction on that;
what is inside a container is read by whatever reads one depth less.
-/

namespace DebugBridge.Json

open Decimal (digits)

/-! ## Kinds of values -/

/-- The values without floats in which arrays and objects nest at most so deep. -/
def Plain : Nat → Json → Prop
  | _, .null | _, .bool _ | _, .int _ | _, .string _ => True
  | _, .float _ => False
  | 0, .array _ | 0, .object _ => False
  | depth + 1, .array items => ∀ item ∈ items, Plain depth item
  | depth + 1, .object members => ∀ member ∈ members, Plain depth member.2

mutual

/-- The integers in a value. -/
def integers : Json → List Int
  | int n => [n]
  | array items => itemsIntegers items
  | object members => membersIntegers members
  | null | bool _ | float _ | string _ => []

def itemsIntegers : List Json → List Int
  | [] => []
  | item :: rest => integers item ++ itemsIntegers rest

def membersIntegers : List (String × Json) → List Int
  | [] => []
  | (_, value) :: rest => integers value ++ membersIntegers rest

end

mutual

/-- The value with the members of every object in the order of their names; of two for a name the later one stays. -/
def sorted : Json → Json
  | array items => array (sortedItems items)
  | object members => ofMembers (sortedMembers members)
  | null => null
  | bool value => bool value
  | int n => int n
  | float bits => float bits
  | string text => string text

def sortedItems : List Json → List Json
  | [] => []
  | item :: rest => sorted item :: sortedItems rest

def sortedMembers : List (String × Json) → List (String × Json)
  | [] => []
  | (name, value) :: rest => (name, sorted value) :: sortedMembers rest

end

mutual

/-- The values whose objects have their members in the order of their names, each name once. -/
def Ordered : Json → Prop
  | array items => OrderedItems items
  | object members => Assoc.Sorted members ∧ OrderedMembers members
  | null | bool _ | int _ | float _ | string _ => True

def OrderedItems : List Json → Prop
  | [] => True
  | item :: rest => Ordered item ∧ OrderedItems rest

def OrderedMembers : List (String × Json) → Prop
  | [] => True
  | (_, value) :: rest => Ordered value ∧ OrderedMembers rest

end

/-! ## Members in order -/

/-- What comes after all other names is put at the end. -/
theorem insert_last {name : String} {value : Json} {members : List (String × Json)}
    (hlast : ∀ member ∈ members, member.1 < name) : Assoc.insert name value members = members ++ [(name, value)] := by
  induction members with
  | nil => rfl
  | cons first rest ih =>
    obtain ⟨other, old⟩ := first
    have hother : other < name := hlast (other, old) List.mem_cons_self
    have hnot : ¬ name < other := Std.not_lt.2 (Std.le_of_lt hother)
    have hne : name ≠ other := by
      rintro rfl
      exact Std.lt_irrefl hother
    rw [Assoc.insert, if_neg hnot, if_neg hne, ih fun member hmem => hlast member (List.mem_cons_of_mem _ hmem)]
    rfl

theorem foldl_insert_sorted {members done : List (String × Json)} (hsorted : Assoc.Sorted (done ++ members)) :
    members.foldl (fun sorted (name, value) => Assoc.insert name value sorted) done = done ++ members := by
  induction members generalizing done with
  | nil => rw [List.foldl_nil, List.append_nil]
  | cons first rest ih =>
    obtain ⟨name, value⟩ := first
    have hlast : ∀ member ∈ done, member.1 < name := fun member hmem =>
      (List.pairwise_append.1 hsorted).2.2 member hmem (name, value) List.mem_cons_self
    have hwhole : done ++ (name, value) :: rest = done ++ [(name, value)] ++ rest := by simp
    rw [List.foldl_cons]
    dsimp only
    rw [insert_last hlast, hwhole]
    exact ih (hwhole ▸ hsorted)

/-- Members in the order of their names stay as they are. -/
theorem ofMembers_of_sorted {members : List (String × Json)} (hsorted : Assoc.Sorted members) :
    ofMembers members = object members := by
  rw [ofMembers, foldl_insert_sorted (by simpa using hsorted), List.nil_append]

mutual

/-- A value in order is its own. -/
theorem sorted_of_ordered : ∀ {json : Json}, Ordered json → sorted json = json
  | null, _ | bool _, _ | int _, _ | float _, _ | string _, _ => by rw [sorted]
  | array items, hordered => by
    rw [Ordered] at hordered
    rw [sorted, sortedItems_of_ordered hordered]
  | object members, hordered => by
    rw [Ordered] at hordered
    rw [sorted, sortedMembers_of_ordered hordered.2, ofMembers_of_sorted hordered.1]

theorem sortedItems_of_ordered : ∀ {items : List Json}, OrderedItems items → sortedItems items = items
  | [], _ => by rw [sortedItems]
  | item :: rest, hordered => by
    rw [OrderedItems] at hordered
    rw [sortedItems, sorted_of_ordered hordered.1, sortedItems_of_ordered hordered.2]

theorem sortedMembers_of_ordered :
    ∀ {members : List (String × Json)}, OrderedMembers members → sortedMembers members = members
  | [], _ => by rw [sortedMembers]
  | (name, value) :: rest, hordered => by
    rw [OrderedMembers] at hordered
    rw [sortedMembers, sorted_of_ordered hordered.1, sortedMembers_of_ordered hordered.2]

end

theorem sortedItems_eq_map (items : List Json) : sortedItems items = items.map sorted := by
  induction items with
  | nil => rfl
  | cons item rest ih => rw [sortedItems, ih, List.map_cons]

/-! ## Values -/

/-- Whether a byte can be the first of a value: it is no blank, and closes no array. -/
def Begins (byte : UInt8) : Prop :=
  isBlankByte byte = false ∧ byte ≠ 0x5D

instance (byte : UInt8) : Decidable (Begins byte) :=
  inferInstanceAs (Decidable (_ ∧ _))

theorem skipBlanks_cons {byte : UInt8} (hbyte : isBlankByte byte = false) (rest : Bytes) :
    skipBlanks (byte :: rest) = byte :: rest :=
  List.dropWhile_cons_of_neg (by simp [hbyte])

theorem ofNat_digit : ∀ n < 58, 48 ≤ n → let byte := UInt8.ofNat n
    Begins byte ∧ isDigitByte byte = true ∧ byte ≠ 0x6E ∧ byte ≠ 0x74 ∧ byte ≠ 0x66 ∧ byte ≠ 0x2D := by
  decide

/-- The bytes of a number begin with a digit. -/
theorem digitBytes_cons (n : Nat) : ∃ first more, digitBytes (digits n) = first :: more ∧
    Begins first ∧ isDigitByte first = true ∧ first ≠ 0x6E ∧ first ≠ 0x74 ∧ first ≠ 0x66 ∧ first ≠ 0x2D := by
  cases hdigits : digits n with
  | nil => exact absurd hdigits (Decimal.digits_ne_nil n)
  | cons c more =>
    obtain ⟨hlow, hhigh⟩ := Decimal.toNat_of_isDecimal (Decimal.digits_isDecimal n c (hdigits ▸ List.mem_cons_self))
    exact ⟨_, digitBytes more, rfl, ofNat_digit c.toNat hhigh hlow⟩

theorem encode_cons {depth : Nat} {json : Json} (hplain : Plain depth json) :
    ∃ first rest, encode json = first :: rest ∧ Begins first := by
  cases json with
  | null | array items | object members => exact ⟨_, _, by rw [encode], by decide⟩
  | string text => exact ⟨_, _, by rw [encode, encodeString], by decide⟩
  | bool value => cases value <;> exact ⟨_, _, by rw [encode], by decide⟩
  | float bits => cases depth <;> cases hplain
  | int n =>
    rw [encode]
    rcases encodeInt_cases n with ⟨-, heq⟩ | ⟨-, heq⟩
    · obtain ⟨first, more, hcons, hbegins, -⟩ := digitBytes_cons n.toNat
      exact ⟨first, more, heq.trans hcons, hbegins⟩
    · exact ⟨_, _, heq, by decide⟩

/-- Integers are read back. -/
theorem valueAt_encodeInt (array object : Bytes → Read Json) {n : Int} (hn : Is64Bit n) {rest : Bytes}
    (hrest : EndsNumber rest) : valueAt array object (encodeInt n ++ rest) = .ok (.int n, rest) := by
  obtain ⟨hlow, hhigh⟩ := hn
  rcases encodeInt_cases n with ⟨hpos, heq⟩ | ⟨hneg, heq⟩
  · -- The first digit leads to the branch for numbers.
    have hread := @number_digits false n.toNat _ (by unfold maxSignificand; omega) hrest
    obtain ⟨first, more, hcons, -, hdigit, hn, ht, hf, hminus⟩ := digitBytes_cons n.toNat
    rw [heq, hcons, List.cons_append, valueAt, if_neg hn, if_neg ht, if_neg hf, if_neg hminus, if_pos hdigit,
      ← List.cons_append, ← hcons, hread, Int.toNat_of_nonneg hpos]
    rfl
  · -- The minus does, and the magnitude is not 0, which would be read as a float.
    have hread := @number_digits true n.natAbs _ (by unfold maxSignificand; omega) hrest
    have hmagnitude : ¬ (n.natAbs = 0 ∨ 9223372036854775808 < n.natAbs) := by omega
    rw [if_neg hmagnitude, show -(n.natAbs : Int) = n by omega] at hread
    rw [heq, List.cons_append, valueAt, if_neg (by decide), if_neg (by decide), if_neg (by decide), if_pos rfl, hread]
    rfl

section

variable {read : Bytes → Read Json}

/-- A value is read back in order, whatever follows that does not go on with a number. -/
def ReadsBack (read : Bytes → Read Json) (json : Json) : Prop :=
  ∀ rest, EndsNumber rest → read (encode json ++ rest) = .ok (sorted json, rest)

theorem endsNumber_cons {byte : UInt8}
    (hbyte : digitValue? byte = none ∧ byte ≠ 0x2E ∧ byte ≠ 0x65 ∧ byte ≠ 0x45) (rest : Bytes) :
    EndsNumber (byte :: rest) := by
  intro other hother
  obtain rfl : byte = other := by simpa using hother
  exact hbyte

/-- What is written of a list after its first element: each one behind a comma. -/
def later {α : Type} (write : α → Bytes) (list : List α) : Bytes :=
  list.flatMap fun a => 0x2C :: write a

theorem later_cons {α : Type} (write : α → Bytes) (a : α) (list : List α) :
    later write (a :: list) = 0x2C :: (write a ++ later write list) :=
  List.flatMap_cons

theorem length_le_later {α : Type} (write : α → Bytes) (list : List α) : list.length ≤ (later write list).length := by
  induction list with
  | nil => exact Nat.le_refl _
  | cons a list ih =>
    rw [later_cons, List.length_cons, List.length_cons, List.length_append]
    omega

/-- No number goes on where a list goes on or ends. -/
theorem endsNumber_later {α : Type} (write : α → Bytes) (list : List α) {close : UInt8}
    (hclose : close = 0x5D ∨ close = 0x7D) (rest : Bytes) : EndsNumber (later write list ++ close :: rest) := by
  cases list with
  | nil => rcases hclose with rfl | rfl <;> exact endsNumber_cons (by decide) rest
  | cons a list => exact endsNumber_cons (by decide) _

theorem encodeItems_cons (item : Json) (more : List Json) :
    encodeItems (item :: more) = encode item ++ later encode more := by
  induction more generalizing item with
  | nil => simp [encodeItems, later]
  | cons next more ih =>
    rw [later_cons, ← ih, encodeItems]
    exact List.cons_ne_nil _ _

theorem itemsAfter_later {depth most : Nat} {items : List Json} (hplain : ∀ item ∈ items, Plain depth item)
    (hread : ∀ item ∈ items, ReadsBack read item) (hmost : items.length < most) (done : List Json) (rest : Bytes) :
    itemsAfter read most done (later encode items ++ 0x5D :: rest)
      = .ok (.array (done.reverse ++ items.map sorted), rest) := by
  induction items generalizing most done with
  | nil =>
    obtain ⟨most, rfl⟩ : ∃ less, most = less + 1 := ⟨most - 1, by omega⟩
    have hskip : skipBlanks (0x5D :: rest) = 0x5D :: rest := skipBlanks_cons (by decide) rest
    rw [later, List.flatMap_nil, List.nil_append, itemsAfter, hskip]
    simp
  | cons item items ih =>
    obtain ⟨most, rfl⟩ : ∃ less, most = less + 1 := ⟨most - 1, by omega⟩
    obtain ⟨first, more, hcons, hblank, hclose⟩ := encode_cons (hplain item List.mem_cons_self)
    have hitem := hread item List.mem_cons_self _ (endsNumber_later encode items (.inl rfl) rest)
    have hlater := ih (fun item hmem => hplain item (List.mem_cons_of_mem _ hmem))
      (fun item hmem => hread item (List.mem_cons_of_mem _ hmem)) (Nat.lt_of_succ_lt_succ hmost) (sorted item :: done)
    have hbytes : later encode (item :: items) ++ 0x5D :: rest
        = 0x2C :: (encode item ++ (later encode items ++ 0x5D :: rest)) := by
      rw [later_cons, List.cons_append, List.append_assoc]
    rw [hcons, List.cons_append] at hitem
    rw [hbytes, itemsAfter, skipBlanks_cons (by decide), hcons, List.cons_append]
    dsimp only
    rw [if_neg (by decide), if_neg (by decide), skipBlanks_cons hblank]
    dsimp only
    rw [if_neg hclose, hitem]
    simpa using hlater

/-- An array is read back if its items are. -/
theorem items_encodeItems {depth : Nat} {list : List Json} (hplain : ∀ item ∈ list, Plain depth item)
    (hread : ∀ item ∈ list, ReadsBack read item) (rest : Bytes) :
    items read (encodeItems list ++ 0x5D :: rest) = .ok (.array (list.map sorted), rest) := by
  cases list with
  | nil =>
    rw [encodeItems, List.nil_append, items, skipBlanks_cons (by decide)]
    rfl
  | cons item more =>
    obtain ⟨first, tail, hcons, hblank, hclose⟩ := encode_cons (hplain item List.mem_cons_self)
    have hitem := hread item List.mem_cons_self _ (endsNumber_later encode more (.inl rfl) rest)
    have hlength : more.length < (later encode more ++ 0x5D :: rest).length + 1 := by
      have hle := length_le_later encode more
      rw [List.length_append]
      omega
    have hlater := itemsAfter_later (fun item hmem => hplain item (List.mem_cons_of_mem _ hmem))
      (fun item hmem => hread item (List.mem_cons_of_mem _ hmem)) hlength [sorted item] rest
    rw [encodeItems_cons, List.append_assoc, items, hcons, List.cons_append, skipBlanks_cons hblank]
    rw [hcons, List.cons_append] at hitem
    dsimp only
    rw [if_neg hclose, hitem]
    exact hlater

/-- A member of an object. -/
def encodeMember (entry : String × Json) : Bytes :=
  encodeString entry.1 ++ 0x3A :: encode entry.2

theorem encodeMembers_cons (entry : String × Json) (more : List (String × Json)) :
    encodeMembers (entry :: more) = encodeMember entry ++ later encodeMember more := by
  induction more generalizing entry with
  | nil => simp [encodeMembers, encodeMember, later]
  | cons next more ih =>
    rw [later_cons, ← ih, encodeMembers, encodeMember]
    exact List.cons_ne_nil _ _

/-- A member is read back after the quote that its name begins with. -/
theorem member_encodeMember {entry : String × Json} (hread : ReadsBack read entry.2) {rest : Bytes}
    (hrest : EndsNumber rest) :
    encodeMember entry ++ rest = 0x22 :: ((encodeMember entry).tail ++ rest) ∧
      member read ((encodeMember entry).tail ++ rest) = .ok ((entry.1, sorted entry.2), rest) := by
  obtain ⟨name, value⟩ := entry
  have hname := stringAfterQuote_encodeString name (0x3A :: (encode value ++ rest))
  have htail : (encodeMember (name, value)).tail ++ rest
      = (encodeString name).tail ++ 0x3A :: (encode value ++ rest) := by
    simp [encodeMember, encodeString]
  refine ⟨by simp [encodeMember, encodeString], ?_⟩
  rw [htail, member, hname]
  dsimp only [bind, Except.bind]
  rw [skipBlanks_cons (by decide)]
  dsimp only
  rw [if_neg (by decide), hread rest hrest]
  rfl

theorem membersAfter_later {most : Nat} {list : List (String × Json)}
    (hread : ∀ entry ∈ list, ReadsBack read entry.2) (hmost : list.length < most) (done : List (String × Json))
    (rest : Bytes) :
    membersAfter read most done (later encodeMember list ++ 0x7D :: rest)
      = .ok (ofMembers (done.reverse ++ sortedMembers list), rest) := by
  induction list generalizing most done with
  | nil =>
    obtain ⟨most, rfl⟩ : ∃ less, most = less + 1 := ⟨most - 1, by omega⟩
    have hskip : skipBlanks (0x7D :: rest) = 0x7D :: rest := skipBlanks_cons (by decide) rest
    rw [later, List.flatMap_nil, List.nil_append, membersAfter, hskip]
    simp [sortedMembers]
  | cons entry list ih =>
    obtain ⟨most, rfl⟩ : ∃ less, most = less + 1 := ⟨most - 1, by omega⟩
    have hends := endsNumber_later encodeMember list (.inr rfl) rest
    obtain ⟨hquote, hentry⟩ := member_encodeMember (hread entry List.mem_cons_self) hends
    have hlater := ih (fun entry hmem => hread entry (List.mem_cons_of_mem _ hmem)) (Nat.lt_of_succ_lt_succ hmost)
      ((entry.1, sorted entry.2) :: done)
    have hbytes : later encodeMember (entry :: list) ++ 0x7D :: rest
        = 0x2C :: (encodeMember entry ++ (later encodeMember list ++ 0x7D :: rest)) := by
      rw [later_cons, List.cons_append, List.append_assoc]
    rw [hbytes, hquote, membersAfter, skipBlanks_cons (by decide)]
    dsimp only
    rw [if_neg (by decide), if_neg (by decide), skipBlanks_cons (by decide)]
    dsimp only
    rw [if_neg (by decide), if_neg (by decide), hentry]
    simpa [sortedMembers] using hlater

/-- An object is read back if its members are. -/
theorem members_encodeMembers {list : List (String × Json)} (hread : ∀ entry ∈ list, ReadsBack read entry.2)
    (rest : Bytes) :
    members read (encodeMembers list ++ 0x7D :: rest) = .ok (ofMembers (sortedMembers list), rest) := by
  cases list with
  | nil =>
    rw [encodeMembers, List.nil_append, members, skipBlanks_cons (by decide)]
    rfl
  | cons entry more =>
    have hends := endsNumber_later encodeMember more (.inr rfl) rest
    obtain ⟨hquote, hentry⟩ := member_encodeMember (hread entry List.mem_cons_self) hends
    have hlength : more.length < (later encodeMember more ++ 0x7D :: rest).length + 1 := by
      have hle := length_le_later encodeMember more
      rw [List.length_append]
      omega
    have hlater := membersAfter_later (fun entry hmem => hread entry (List.mem_cons_of_mem _ hmem)) hlength
      [(entry.1, sorted entry.2)] rest
    rw [encodeMembers_cons, List.append_assoc, hquote, members, skipBlanks_cons (by decide)]
    dsimp only
    rw [if_neg (by decide), if_neg (by decide), hentry]
    exact hlater

end

theorem mem_itemsIntegers {items : List Json} {item : Json} (hmem : item ∈ items) {n : Int} (hn : n ∈ integers item) :
    n ∈ itemsIntegers items := by
  induction items with
  | nil => cases hmem
  | cons first rest ih =>
    rw [itemsIntegers, List.mem_append]
    rcases List.mem_cons.1 hmem with rfl | hrest
    · exact .inl hn
    · exact .inr (ih hrest)

theorem mem_membersIntegers {members : List (String × Json)} {entry : String × Json} (hmem : entry ∈ members) {n : Int}
    (hn : n ∈ integers entry.2) : n ∈ membersIntegers members := by
  induction members with
  | nil => cases hmem
  | cons first rest ih =>
    obtain ⟨name, value⟩ := first
    rw [membersIntegers, List.mem_append]
    rcases List.mem_cons.1 hmem with rfl | hrest
    · exact .inl hn
    · exact .inr (ih hrest)

/-- A value is read back, whatever reads what is inside arrays and objects, if these are. -/
theorem valueAt_encode {array object : Bytes → Read Json} {json : Json} {depth : Nat} (hplain : Plain depth json)
    (hintegers : ∀ n ∈ integers json, Is64Bit n)
    (harray : ∀ list, json = .array list → ∀ rest, array (encodeItems list ++ 0x5D :: rest) = .ok (sorted json, rest))
    (hobject : ∀ list, json = .object list → ∀ rest,
      object (encodeMembers list ++ 0x7D :: rest) = .ok (sorted json, rest))
    {rest : Bytes} (hrest : EndsNumber rest) :
    valueAt array object (skipBlanks (encode json ++ rest)) = .ok (sorted json, rest) := by
  have hskip : skipBlanks (encode json ++ rest) = encode json ++ rest := by
    obtain ⟨first, more, hcons, hblank, -⟩ := encode_cons hplain
    rw [hcons]
    exact skipBlanks_cons hblank _
  rw [hskip]
  cases json with
  | null => rw [encode, sorted]; rfl
  | bool value => cases value <;> rw [encode, sorted] <;> rfl
  | float bits => cases depth <;> cases hplain
  | int n =>
    rw [encode, sorted]
    exact valueAt_encodeInt array object (hintegers n (by simp [integers])) hrest
  | string text =>
    have hread := stringAfterQuote_encodeString text rest
    rw [encode, sorted]
    rw [encodeString, List.tail_cons] at hread
    rw [encodeString, List.cons_append, valueAt]
    exact congrArg (Except.map _) hread
  | array list =>
    rw [encode, List.cons_append, List.append_assoc, valueAt]
    exact harray list rfl rest
  | object list =>
    rw [encode, List.cons_append, List.append_assoc, valueAt]
    exact hobject list rfl rest

/-- A plain value is read back in order, if its integers have 64 bits and nothing follows that goes on with a number. -/
theorem value_encode {depth : Nat} {json : Json} (hplain : Plain depth json) (hintegers : ∀ n ∈ integers json, Is64Bit n) :
    ReadsBack (value depth) json := by
  induction depth generalizing json with
  | zero =>
    -- There is no container at this depth.
    intro rest hrest
    rw [value]
    refine valueAt_encode hplain hintegers ?_ ?_ hrest
    · rintro list rfl
      cases hplain
    · rintro list rfl
      cases hplain
  | succ depth ih =>
    intro rest hrest
    rw [value]
    refine valueAt_encode hplain hintegers ?_ ?_ hrest
    · rintro list rfl rest
      have hitems : ∀ item ∈ list, Plain depth item := hplain
      rw [items_encodeItems hitems fun item hmem => ih (hitems item hmem) fun n hn =>
        hintegers n (by rw [integers]; exact mem_itemsIntegers hmem hn), sorted, sortedItems_eq_map]
    · rintro list rfl rest
      have hmembers : ∀ entry ∈ list, Plain depth entry.2 := hplain
      rw [members_encodeMembers fun entry hmem => ih (hmembers entry hmem) fun n hn =>
        hintegers n (by rw [integers]; exact mem_membersIntegers hmem hn), sorted]

/-- The bytes of a plain value are read as this value, in order. -/
theorem parse_encode {json : Json} (hplain : Plain maxDepth json) (hintegers : ∀ n ∈ integers json, Is64Bit n) :
    parse (encode json) = .ok (sorted json) := by
  have hread := value_encode hplain hintegers [] (by simp [EndsNumber])
  rw [List.append_nil] at hread
  rw [parse, hread]
  rfl

end DebugBridge.Json
