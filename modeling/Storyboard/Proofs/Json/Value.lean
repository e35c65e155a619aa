import Storyboard.Proofs.Json.Scalar

/-!
# Values of JSON

The reader takes the text of every value that a document can hold: its integers fit into 64 bits,
its other numbers are finite, the keys of each object differ, and it is not nested too deep. It
gives the value back, with its numbers as they are rounded; with rounding to the nearest these are
the same numbers, so that different values have different texts.

## Main definitions

* `Json.Storable`: the values whose texts are read.
* `Json.reread`: the value that comes back.

## Main statements

* `Json.parseWith?_compact`: the compact text of a storable value is read as the value that comes
  back.
* `Json.compact_injective`: different values are written differently.
-/

namespace Storyboard

namespace Json

/-- The rounding takes the numeral of every finite number. -/
def Rounding.Accepts (round : Rounding) : Prop :=
  ∀ negative m q canonical, (round (floatNumeral negative m q canonical)).isFinite

theorem accepts_nearest : Rounding.Accepts Numeral.nearest := by
  intro negative m q canonical
  rw [nearest_floatNumeral]
  rfl

theorem accepts_quick : Rounding.Accepts Numeral.quick :=
  fun _ _ _ canonical => isFinite_quick_floatNumeral canonical

end Json

/-- The number that the text of a number is read as. -/
def JsonNumber.reread (round : Json.Rounding) : JsonNumber → JsonNumber
  | .float (.finite negative m q canonical) =>
    .float (round (Json.floatNumeral negative m q canonical))
  | n => n

/-- The number is an integer of 64 bits or finite. -/
def JsonNumber.Storable : JsonNumber → Prop
  | .int n => -9223372036854775808 ≤ n ∧ n ≤ 18446744073709551615
  | .float x => x.isFinite

namespace Json

/-- The value can be stored with at most `depth` arrays and objects around each other. -/
inductive Storable : Nat → Json → Prop where
  | null {depth : Nat} : Storable depth .null
  | bool {depth : Nat} (b : Bool) : Storable depth (.bool b)
  | number {depth : Nat} {n : JsonNumber} (h : n.Storable) : Storable depth (.number n)
  | string {depth : Nat} (s : String) : Storable depth (.string s)
  | array {depth : Nat} {items : List Json} (h : ∀ item ∈ items, Storable depth item) :
      Storable (depth + 1) (.array items)
  | object {depth : Nat} {members : List (String × Json)}
      (distinct : (members.map Prod.fst).Nodup) (h : ∀ m ∈ members, Storable depth m.2) :
      Storable (depth + 1) (.object members)

/-- The value with its numbers as they are read from their texts. -/
def reread (round : Rounding) : Json → Json
  | .null => .null
  | .bool b => .bool b
  | .number n => .number (n.reread round)
  | .string s => .string s
  | .array items => .array (items.map fun item => reread round item)
  | .object members => .object (members.map fun m => (m.1, reread round m.2))
decreasing_by
  · rename_i mem
    have := List.sizeOf_lt_of_mem mem
    simp only [Json.array.sizeOf_spec]
    omega
  · rename_i mem
    have := List.sizeOf_lt_of_mem mem
    cases m
    simp only [Json.object.sizeOf_spec, Prod.mk.sizeOf_spec] at *
    omega

variable {round : Rounding} {depth : Nat} {value : Json} {rest : List Char}

/-! ## The start of a value -/

/-- A character that a value may start with. -/
def startsValue (c : Char) : Bool :=
  c = '-' || c.isDigit || c = '"' || c = 'n' || c = 't' || c = 'f' || c = '[' || c = '\x7b'

theorem isSpace_of_startsValue {c : Char} (start : startsValue c) : isSpace c = false := by
  by_contra space
  simp only [isSpace, Bool.not_eq_false, Bool.or_eq_true, decide_eq_true_eq] at space
  rcases space with ((rfl | rfl) | rfl) | rfl <;> revert start <;> decide

theorem skipSpace_start {c : Char} {cs : List Char} (start : startsValue c) :
    skipSpace (c :: cs) = c :: cs :=
  dropWhile_of_stops (stops_cons.2 (isSpace_of_startsValue start))

/-- Only a sign or a digit starts a number. -/
theorem front_of_readNumber {cs : List Char} {result : JsonNumber × List Char}
    (read : readNumber round cs = some result) : ∃ c ∈ cs.head?, c = '-' ∨ c.isDigit := by
  cases cs with
  | nil => simp [readNumber, readUnsigned] at read
  | cons c cs =>
    refine ⟨c, rfl, ?_⟩
    by_contra other
    rw [not_or] at other
    simp [readNumber, readUnsigned, other.1, other.2] at read

theorem readNumber_numberChars {n : JsonNumber} (accepts : round.Accepts) (h : n.Storable)
    (stop : Stops continuesNumber rest) :
    readNumber round (numberChars n ++ rest) = some (n.reread round, rest) := by
  cases n with
  | int n => exact readNumber_int h.1 h.2 stop
  | float x =>
    obtain ⟨⟩ | ⟨⟩ | ⟨negative, m, q, canonical⟩ := x
    · cases h
    · cases h
    · have read := @readNumber_numeralChars round _ _
        (isMarked_numeralOf (Binary.shortest .even negative m q canonical)).1 stop
      simp only [numberChars, floatChars, floatNumeral, read, ofNumeral?, JsonNumber.reread]
      rw [← floatNumeral, if_pos (accepts negative m q canonical), Option.map_some]

theorem front_numberChars {n : JsonNumber} (h : n.Storable) :
    ∃ c cs, numberChars n = c :: cs ∧ (c = '-' ∨ c.isDigit) := by
  have read := readNumber_numberChars accepts_nearest h (stops_nil (p := continuesNumber))
  rw [List.append_nil] at read
  obtain ⟨c, front, kind⟩ := front_of_readNumber read
  cases cs : numberChars n with
  | nil => simp [cs] at front
  | cons d ds =>
    obtain rfl : d = c := by simpa [cs] using front
    exact ⟨d, ds, rfl, kind⟩

theorem front_chars (h : Storable depth value) :
    ∃ c cs, chars value = c :: cs ∧ startsValue c := by
  cases h with
  | null => exact ⟨'n', _, rfl, rfl⟩
  | bool b => cases b <;> exact ⟨_, _, rfl, rfl⟩
  | number h =>
    obtain ⟨c, cs, front, kind⟩ := front_numberChars h
    refine ⟨c, cs, by simpa [chars] using front, ?_⟩
    rcases kind with rfl | digit
    · rfl
    · simp [startsValue, digit]
  | string s => exact ⟨'"', _, by rw [chars, stringChars], rfl⟩
  | array => exact ⟨'[', _, by rw [chars], rfl⟩
  | object => exact ⟨'\x7b', _, by rw [chars], rfl⟩

/-! ## Values without parts -/

theorem readValue_scalar {c : Char} {cs : List Char} (start : startsValue c)
    (noBracket : c ≠ '[') (noBrace : c ≠ '\x7b') :
    readValue round depth (c :: cs) = readScalar round (c :: cs) := by
  cases depth <;> simp [readValue, skipSpace_start start, noBracket, noBrace]

theorem readScalar_number {n : JsonNumber} (accepts : round.Accepts) (h : n.Storable)
    (stop : Stops continuesNumber rest) :
    readScalar round (numberChars n ++ rest) = some (.number (n.reread round), rest) := by
  obtain ⟨c, cs, front, kind⟩ := front_numberChars h
  have read := readNumber_numberChars accepts h stop
  rw [front, List.cons_append] at read ⊢
  have other : ∀ d : Char, d ≠ '-' → d.isDigit = false → c ≠ d := by
    rintro d sign digit rfl
    rcases kind with rfl | kind
    · exact sign rfl
    · simp [kind] at digit
  rw [readScalar.eq_def]
  split
  · exact absurd (List.cons.inj ‹_›).1 (other 'n' (by decide) rfl)
  · exact absurd (List.cons.inj ‹_›).1 (other 't' (by decide) rfl)
  · exact absurd (List.cons.inj ‹_›).1 (other 'f' (by decide) rfl)
  · exact absurd (List.cons.inj ‹_›).1 (other '"' (by decide) rfl)
  · simp [read]

/-! ## Arrays and objects -/

/-- The text of `value` is read as `result`, whatever follows it. -/
def ReadAs (item : Reader Json) (value result : Json) : Prop :=
  ∀ rest, Stops continuesNumber rest → item (chars value ++ rest) = some (result, rest)

variable {item : Reader Json} {back : Json → Json} {fuel : Nat}

theorem readItems_itemChars {items : List Json} (some : items ≠ []) (enough : items.length ≤ fuel)
    (read : ∀ v ∈ items, ReadAs item v (back v)) :
    readItems item fuel (itemChars items ++ ']' :: rest) = .some (items.map back, rest) := by
  induction items generalizing fuel with
  | nil => exact absurd rfl some
  | cons first more ih =>
    obtain ⟨fuel, rfl⟩ : ∃ n, fuel = n + 1 := ⟨fuel - 1, by simp at enough; omega⟩
    have one := read first (by simp)
    cases more with
    | nil =>
      have bracket : skipSpace (']' :: rest) = ']' :: rest := rfl
      simp [itemChars, readItems, one (']' :: rest) (stops_cons.2 rfl), bracket]
    | cons next more =>
      have tail := ih (by simp) (by simpa using enough) fun v hv =>
        read v (List.mem_cons_of_mem _ hv)
      have comma : ∀ cs, skipSpace (',' :: cs) = ',' :: cs := fun _ => rfl
      simp only [itemChars, List.append_assoc, List.cons_append, readItems,
        one (',' :: (itemChars (next :: more) ++ ']' :: rest)) (stops_cons.2 rfl), comma,
        Option.bind_eq_bind, Option.bind_some, tail, Option.pure_def, List.map_cons]

/-- A member up to what follows it. -/
theorem readString_stringChars (s : String) (tail : List Char) :
    ∃ cs, stringChars s ++ tail = '"' :: cs ∧ readString cs = some (s.toList, tail) := by
  refine ⟨s.toList.flatMap escapeChar ++ '"' :: tail, by simp [stringChars], ?_⟩
  exact readString_escape _ _

theorem readMembers_memberChars {members : List (String × Json)}
    (some : members ≠ []) (enough : members.length ≤ fuel)
    (read : ∀ m ∈ members, ReadAs item m.2 (back m.2)) :
    readMembers item fuel (memberChars members ++ '\x7d' :: rest) =
      .some (members.map (Prod.map id back), rest) := by
  induction members generalizing fuel with
  | nil => exact absurd rfl some
  | cons first more ih =>
    obtain ⟨fuel, rfl⟩ : ∃ n, fuel = n + 1 := ⟨fuel - 1, by simp at enough; omega⟩
    obtain ⟨key, value⟩ := first
    have one : ReadAs item value (back value) := read (key, value) (by simp)
    have quote : ∀ cs, skipSpace ('"' :: cs) = '"' :: cs := fun _ => rfl
    have colon : ∀ cs, skipSpace (':' :: cs) = ':' :: cs := fun _ => rfl
    cases more with
    | nil =>
      have brace : skipSpace ('\x7d' :: rest) = '\x7d' :: rest := rfl
      obtain ⟨cs, front, name⟩ :=
        readString_stringChars key (':' :: (chars value ++ '\x7d' :: rest))
      simp only [memberChars, List.append_assoc, List.cons_append, readMembers, front, quote, name,
        Option.bind_eq_bind, Option.bind_some, colon, one ('\x7d' :: rest) (stops_cons.2 rfl), brace,
        Option.pure_def, String.ofList_toList, List.map_cons, List.map_nil, Prod.map_apply, id]
    | cons next more =>
      have tail := ih (by simp) (by simpa using enough) fun m hm =>
        read m (List.mem_cons_of_mem _ hm)
      have comma : ∀ cs, skipSpace (',' :: cs) = ',' :: cs := fun _ => rfl
      obtain ⟨cs, front, name⟩ := readString_stringChars key
        (':' :: (chars value ++ ',' :: (memberChars (next :: more) ++ '\x7d' :: rest)))
      simp only [memberChars, List.append_assoc, List.cons_append, readMembers, front, quote, name,
        Option.bind_eq_bind, Option.bind_some, colon,
        one (',' :: (memberChars (next :: more) ++ '\x7d' :: rest)) (stops_cons.2 rfl), comma, tail,
        Option.pure_def, String.ofList_toList, List.map_cons, Prod.map_apply, id]

theorem front_itemChars {first : Json} (more : List Json) (h : Storable depth first) :
    ∃ c cs, itemChars (first :: more) = c :: cs ∧ startsValue c := by
  obtain ⟨c, cs, front, start⟩ := front_chars h
  cases more with
  | nil => exact ⟨c, cs, by rw [itemChars, front], start⟩
  | cons => exact ⟨c, _, by rw [itemChars, front, List.cons_append], start⟩

theorem front_memberChars (first : String × Json) (more : List (String × Json)) :
    ∃ cs, memberChars (first :: more) = '"' :: cs := by
  cases more <;> exact ⟨_, by rw [memberChars, stringChars, List.cons_append]⟩

theorem length_le_itemChars {items : List Json} (h : ∀ v ∈ items, Storable depth v) :
    items.length ≤ (itemChars items).length := by
  induction items with
  | nil => simp
  | cons first more ih =>
    obtain ⟨c, cs, front, -⟩ := front_chars (h first (by simp))
    cases more with
    | nil => simp [itemChars, front]
    | cons next more =>
      have := ih fun v hv => h v (List.mem_cons_of_mem _ hv)
      simp only [itemChars, front, List.length_cons, List.length_append] at this ⊢
      omega

theorem length_le_memberChars (members : List (String × Json)) :
    members.length ≤ (memberChars members).length := by
  induction members with
  | nil => simp
  | cons first more ih =>
    cases more with
    | nil =>
      simp only [memberChars, List.length_cons, List.length_append, List.length_nil]
      omega
    | cons next more =>
      simp only [memberChars, List.length_cons, List.length_append] at ih ⊢
      omega

/-- Members with different keys all stay. -/
theorem ofMembers_of_nodup {members : List (String × Json)}
    (distinct : (members.map Prod.fst).Nodup) : ofMembers members = .object members := by
  have all : lastOfEach members = members := by
    induction members with
    | nil => rfl
    | cons first more ih =>
      obtain ⟨key, value⟩ := first
      obtain ⟨new, tail⟩ := List.nodup_cons.1 distinct
      have unique : more.any (·.1 = key) = false := by
        simp only [List.any_eq_false, decide_eq_true_eq]
        intro m hm same
        exact new (List.mem_map.2 ⟨m, hm, same⟩)
      simp [lastOfEach, unique, ih tail]
  rw [ofMembers, all]

theorem readAs_number {n : JsonNumber} (accepts : round.Accepts) (h : n.Storable) :
    ReadAs (readValue round depth) (.number n) (.number (n.reread round)) := by
  intro rest stop
  obtain ⟨c, cs, front, kind⟩ := front_numberChars h
  have start : startsValue c ∧ c ≠ '[' ∧ c ≠ '\x7b' := by
    rcases kind with rfl | digit
    · decide
    · refine ⟨by simp [startsValue, digit], ?_, ?_⟩ <;> rintro rfl <;> revert digit <;> decide
  rw [chars, front, List.cons_append, readValue_scalar start.1 start.2.1 start.2.2,
    ← List.cons_append, ← front]
  exact readScalar_number accepts h stop

theorem readAs_array {items : List Json} (h : ∀ v ∈ items, Storable depth v)
    (read : ∀ v ∈ items, ReadAs (readValue round depth) v (back v)) :
    ReadAs (readValue round (depth + 1)) (.array items) (.array (items.map back)) := by
  intro rest _
  have bracket : ∀ cs, skipSpace ('[' :: cs) = '[' :: cs := fun _ => rfl
  rw [chars, List.cons_append, List.append_assoc, List.singleton_append, readValue, bracket]
  cases items with
  | nil => rfl
  | cons first more =>
    have enough := length_le_itemChars h
    have all : readItems (readValue round depth) (itemChars (first :: more) ++ ']' :: rest).length
        (itemChars (first :: more) ++ ']' :: rest) = some ((first :: more).map back, rest) :=
      readItems_itemChars (by simp) (by rw [List.length_append]; omega) read
    obtain ⟨c, cs, front, start⟩ := front_itemChars more (h first (by simp))
    rw [front, List.cons_append] at all ⊢
    simp only [skipSpace_start start]
    split
    · have : c = ']' := by simp_all
      subst this
      exact absurd start (by decide)
    · rw [all]
      rfl

theorem readAs_object {members : List (String × Json)} (distinct : (members.map Prod.fst).Nodup)
    (read : ∀ m ∈ members, ReadAs (readValue round depth) m.2 (back m.2)) :
    ReadAs (readValue round (depth + 1)) (.object members)
      (.object (members.map (Prod.map id back))) := by
  intro rest _
  have brace : ∀ cs, skipSpace ('\x7b' :: cs) = '\x7b' :: cs := fun _ => rfl
  rw [chars, List.cons_append, List.append_assoc, List.singleton_append, readValue, brace]
  cases members with
  | nil => rfl
  | cons first more =>
    have enough := length_le_memberChars (first :: more)
    have all : readMembers (readValue round depth)
        (memberChars (first :: more) ++ '\x7d' :: rest).length
        (memberChars (first :: more) ++ '\x7d' :: rest) =
          some ((first :: more).map (Prod.map id back), rest) :=
      readMembers_memberChars (by simp) (by rw [List.length_append]; omega) read
    obtain ⟨cs, front⟩ := front_memberChars first more
    rw [front, List.cons_append] at all ⊢
    have keys : (((first :: more).map (Prod.map id back)).map Prod.fst).Nodup := by
      rwa [List.map_map]
    rw [← ofMembers_of_nodup keys]
    change (readMembers _ _ _).map _ = _
    rw [all]
    rfl

/-- The text of a storable value is read as the value that comes back, whatever follows it. -/
theorem readValue_chars (accepts : round.Accepts) (h : Storable depth value) :
    ReadAs (readValue round depth) value (value.reread round) := by
  induction h with
  | null =>
    rw [reread]
    exact fun rest _ => readValue_scalar rfl (by decide) (by decide)
  | bool b =>
    intro rest _
    rw [reread]
    cases b <;> exact readValue_scalar rfl (by decide) (by decide)
  | number h =>
    rw [reread]
    exact readAs_number accepts h
  | string s =>
    intro rest _
    obtain ⟨cs, front, read⟩ := readString_stringChars s rest
    rw [chars, front, readValue_scalar rfl (by decide) (by decide)]
    simp [readScalar, read, reread]
  | array h ih =>
    rw [reread]
    exact readAs_array h ih
  | object distinct h ih =>
    rw [reread]
    exact readAs_object distinct ih

/-- The compact text of a storable value is read as the value that comes back. -/
theorem parseWith?_compact (accepts : round.Accepts) (h : Storable maxDepth value) :
    parseWith? round (compact value) = some (value.reread round) := by
  have read := readValue_chars accepts h [] stops_nil
  rw [List.append_nil] at read
  rw [parseWith?, compact, String.toList_ofList, read]
  rfl

/-- Rounding to the nearest gives every value back. -/
theorem reread_nearest (h : Storable depth value) : value.reread Numeral.nearest = value := by
  induction h with
  | null => rw [reread]
  | bool => rw [reread]
  | @number _ n h =>
    obtain n | ⟨⟩ | ⟨⟩ | ⟨negative, m, q, canonical⟩ := n
    · rw [reread]
      rfl
    · cases h
    · cases h
    · rw [reread, JsonNumber.reread, nearest_floatNumeral]
  | string => rw [reread]
  | array h ih => rw [reread, List.map_congr_left ih, List.map_id']
  | object distinct h ih =>
    rw [reread, List.map_congr_left fun m mem => congrArg (m.1, ·) (ih m mem), List.map_id']

/-- Different values are written differently. -/
theorem compact_injective {value' : Json} (h : Storable maxDepth value)
    (h' : Storable maxDepth value') (same : compact value = compact value') : value = value' := by
  have read := parseWith?_compact accepts_nearest h
  rw [same, parseWith?_compact accepts_nearest h', reread_nearest h, reread_nearest h'] at read
  exact (Option.some.inj read).symm

end Json

end Storyboard
