import Courier.Proofs.JsonScalars

/-!
# JSON texts are read back

A value that is written, in either layout, is read back from its bytes.  Its numbers must be
integers that fit 64 bits, because all others are rounded, and it must not nest deeper than the
reader goes.

* `Layout` — what stands between the parts of a value; `compact` and `pretty` are two of them.
* `Layout.readsValue` — **a value is read back** from any layout, whatever follows but a number.
* `parse_compactText`, `parse_prettyText` — whole texts.
-/

namespace Courier.Json

open Result (ok_bind)
open Text.Utf8 (encode encodeChar)

/-! ## Layouts -/

/-- What stands between the parts of a value: a gap before each part of a level, and one behind the
colon of a member. -/
structure Layout where
  gap : Nat → List Char
  behindColon : List Char
  isGap_gap : ∀ level, IsGap (gap level)
  isGap_behindColon : IsGap behindColon

namespace Layout

variable (l : Layout)

mutual

/-- The text of a value in a layout, at a level of nesting. -/
def text (level : Nat) : Value → List Char
  | .array (v :: rest) =>
    '[' :: l.gap (level + 1) ++ text (level + 1) v ++ moreItems level rest
  | .object ((k, v) :: rest) =>
    '\x7b' :: l.gap (level + 1) ++ stringText k ++ ':' :: l.behindColon ++ text (level + 1) v
      ++ moreMembers level rest
  | v => v.compact

/-- Further items and the closing bracket. -/
def moreItems (level : Nat) : List Value → List Char
  | [] => l.gap level ++ [']']
  | v :: rest => ',' :: l.gap (level + 1) ++ text (level + 1) v ++ moreItems level rest

/-- Further members and the closing brace. -/
def moreMembers (level : Nat) : List (String × Value) → List Char
  | [] => l.gap level ++ ['\x7d']
  | (k, v) :: rest =>
    ',' :: l.gap (level + 1) ++ stringText k ++ ':' :: l.behindColon ++ text (level + 1) v
      ++ moreMembers level rest

end

/-- Nothing between the parts. -/
def dense : Layout := ⟨fun _ => [], [], fun _ => nofun, nofun⟩

/-- A line for each part of a level, and a blank behind each colon. -/
def lines : Layout where
  gap := Value.newLine
  behindColon := [' ']
  isGap_gap := by
    intro level c hc
    rcases List.mem_cons.1 hc with rfl | hblank
    · simp
    · rw [List.eq_of_mem_replicate hblank]
      simp
  isGap_behindColon := by simp [IsGap]

mutual

/-- Without gaps a text is compact. -/
theorem text_dense : ∀ (level : Nat) (v : Value), dense.text level v = v.compact
  | _, .null | _, .bool _ | _, .number _ | _, .string _ | _, .array [] | _, .object [] => rfl
  | level, .array (v :: rest) => by
    rw [text, text_dense (level + 1) v, moreItems_dense level rest]
    rfl
  | level, .object ((k, v) :: rest) => by
    rw [text, text_dense (level + 1) v, moreMembers_dense level rest]
    simp [dense, Value.compact, Value.compactMembers]

theorem moreItems_dense : ∀ (level : Nat) (items : List Value),
    dense.moreItems level items = Value.compactMoreItems items
  | _, [] => rfl
  | level, v :: rest => by
    rw [moreItems, text_dense (level + 1) v, moreItems_dense level rest]
    rfl

theorem moreMembers_dense : ∀ (level : Nat) (members : List (String × Value)),
    dense.moreMembers level members = Value.compactMoreMembers members
  | _, [] => rfl
  | level, (k, v) :: rest => by
    rw [moreMembers, text_dense (level + 1) v, moreMembers_dense level rest]
    simp [dense, Value.compactMoreMembers]

end

mutual

/-- With a line for each part a text is pretty. -/
theorem text_lines : ∀ (level : Nat) (v : Value), lines.text level v = v.prettyAt level
  | _, .null | _, .bool _ | _, .number _ | _, .string _ | _, .array [] | _, .object [] => rfl
  | level, .array (v :: rest) => by
    rw [text, text_lines (level + 1) v, moreItems_lines level rest]
    rfl
  | level, .object ((k, v) :: rest) => by
    rw [text, text_lines (level + 1) v, moreMembers_lines level rest]
    simp [lines, Value.prettyAt]

theorem moreItems_lines : ∀ (level : Nat) (items : List Value),
    lines.moreItems level items = Value.prettyMoreItems level items
  | _, [] => rfl
  | level, v :: rest => by
    rw [moreItems, text_lines (level + 1) v, moreItems_lines level rest]
    rfl

theorem moreMembers_lines : ∀ (level : Nat) (members : List (String × Value)),
    lines.moreMembers level members = Value.prettyMoreMembers level members
  | _, [] => rfl
  | level, (k, v) :: rest => by
    rw [moreMembers, text_lines (level + 1) v, moreMembers_lines level rest]
    simp [lines, Value.prettyMoreMembers]

end

end Layout

/-! ## Values that are read back -/

namespace Value

mutual

/-- Whether a value and all values within it have a property. -/
def Throughout (holds : Value → Prop) : Value → Prop
  | .array items => holds (.array items) ∧ ThroughoutItems holds items
  | .object members => holds (.object members) ∧ ThroughoutMembers holds members
  | v => holds v

/-- `Throughout` for each of several values. -/
def ThroughoutItems (holds : Value → Prop) : List Value → Prop
  | [] => True
  | v :: rest => Throughout holds v ∧ ThroughoutItems holds rest

/-- `Throughout` for the value of each member. -/
def ThroughoutMembers (holds : Value → Prop) : List (String × Value) → Prop
  | [] => True
  | (_, v) :: rest => Throughout holds v ∧ ThroughoutMembers holds rest

end

mutual

/-- How deep arrays and objects nest in a value. -/
def nesting : Value → Nat
  | .array items => nestingOfItems items + 1
  | .object members => nestingOfMembers members + 1
  | _ => 0

/-- How deep the deepest of several values nests. -/
def nestingOfItems : List Value → Nat
  | [] => 0
  | v :: rest => max (nesting v) (nestingOfItems rest)

/-- How deep the deepest of several members nests. -/
def nestingOfMembers : List (String × Value) → Nat
  | [] => 0
  | (_, v) :: rest => max (nesting v) (nestingOfMembers rest)

end

theorem Throughout.self {holds : Value → Prop} {v : Value} (h : v.Throughout holds) : holds v := by
  cases v with
  | array items => exact h.1
  | object members => exact h.1
  | _ => exact h

/-- What is read back of a value as it was: a number that is an integer of 64 bits, signed or
unsigned, and the members of an object if they are a table. -/
def IsKept : Value → Prop
  | .number (.integer n) => FitsWord n
  | .number (.real _) => False
  | .object members => Entries.Increasing members
  | _ => True

end Value

/-! ## Reading values -/

namespace Layout

variable (l : Layout)

/-- A value is read from its text, whatever gap is before it and whatever but a number goes on
behind it.  Two steps a byte are enough. -/
def ReadsValue (v : Value) : Prop :=
  ∀ ⦃level fuel depth : Nat⦄ ⦃gap : List Char⦄ ⦃rest : List UInt8⦄, IsGap gap → EndsNumber rest →
    v.nesting < depth → 2 * (encode (l.text level v)).length ≤ fuel →
    Takes (value fuel depth) (gap ++ l.text level v) v rest

/-- Further items are read up to the closing bracket. -/
def ReadsMoreItems (items : List Value) : Prop :=
  ∀ ⦃level fuel depth : Nat⦄ ⦃rest : List UInt8⦄, Value.nestingOfItems items < depth →
    2 * (encode (l.moreItems level items)).length ≤ fuel →
    Takes (Json.moreItems fuel depth) (l.moreItems level items) items rest

/-- Further members are read up to the closing brace, and put behind those before them. -/
def ReadsMoreMembers (members : List (String × Value)) : Prop :=
  ∀ ⦃level fuel depth : Nat⦄ ⦃seen : List (String × Value)⦄ ⦃rest : List UInt8⦄,
    Entries.Increasing (seen ++ members) → Value.nestingOfMembers members < depth →
    2 * (encode (l.moreMembers level members)).length ≤ fuel →
    Takes (Json.moreMembers fuel depth seen) (l.moreMembers level members) (seen ++ members) rest

variable {l : Layout}

/-- The reader of a value looks at the first byte behind the gap. -/
theorem takes_value {v : Value} {gap cs : List Char} {b : UInt8} {bs rest : List UInt8}
    {fuel depth : Nat} (hgap : IsGap gap) (hbytes : encode cs = b :: bs) (hb : isSpace b = false)
    (hfuel : 2 * (encode cs).length ≤ fuel)
    (hread : ∀ k, 2 * bs.length < k → fuel = k + 1 → ∀ p, ∃ q,
      value (k + 1) depth ⟨b :: (bs ++ rest), p⟩ = .ok (v, ⟨rest, q⟩)) :
    Takes (value fuel depth) (gap ++ cs) v rest := by
  rw [hbytes, List.length_cons] at hfuel
  obtain ⟨k, rfl⟩ : ∃ k, fuel = k + 1 := ⟨fuel - 1, by omega⟩
  intro p
  obtain ⟨q, hq⟩ := skipSpace_gap hgap hb (bs ++ rest) p
  obtain ⟨q', hq'⟩ := hread k (by omega) rfl q
  refine ⟨q', ?_⟩
  rw [Text.Utf8.encode_append, hbytes, List.append_assoc, List.cons_append]
  rw [value, skipSpace_cons hb] at hq'
  rw [value, hq]
  exact hq'

theorem readsValue_null : l.ReadsValue .null := by
  intro level fuel depth gap rest hgap hrest hdepth hfuel
  refine takes_value hgap (show _ = 110 :: [117, 108, 108] from rfl) rfl hfuel fun k _ _ p => ?_
  obtain ⟨q, hq⟩ := literal_append [117, 108, 108] rest (p.after 110)
  refine ⟨q, ?_⟩
  rw [value, skipSpace_cons rfl]
  simp only [Cursor.head?, List.head?_cons, Cursor.next, hq, ok_bind]

theorem readsValue_bool (b : Bool) : l.ReadsValue (.bool b) := by
  intro level fuel depth gap rest hgap hrest hdepth hfuel
  cases b with
  | true =>
    refine takes_value hgap (show _ = 116 :: [114, 117, 101] from rfl) rfl hfuel fun k _ _ p => ?_
    obtain ⟨q, hq⟩ := literal_append [114, 117, 101] rest (p.after 116)
    refine ⟨q, ?_⟩
    rw [value, skipSpace_cons rfl]
    simp only [Cursor.head?, List.head?_cons, Cursor.next, hq, ok_bind]
  | false =>
    refine takes_value hgap (show _ = 102 :: [97, 108, 115, 101] from rfl) rfl hfuel ?_
    intro k _ _ p
    obtain ⟨q, hq⟩ := literal_append [97, 108, 115, 101] rest (p.after 102)
    refine ⟨q, ?_⟩
    rw [value, skipSpace_cons rfl]
    simp only [Cursor.head?, List.head?_cons, Cursor.next, hq, ok_bind]

theorem readsValue_string (s : String) : l.ReadsValue (.string s) := by
  intro level fuel depth gap rest hgap hrest hdepth hfuel
  obtain ⟨bs, hbs⟩ : ∃ bs, encode (stringText s) = 34 :: bs := ⟨_, rfl⟩
  refine takes_value hgap hbs rfl hfuel fun k _ _ p => ?_
  obtain ⟨q, hq⟩ := takes_string s rest p
  refine ⟨q, ?_⟩
  rw [hbs, List.cons_append] at hq
  rw [value, skipSpace_cons rfl]
  simp only [Cursor.head?, List.head?_cons, hq, ok_bind]

/-- A value that begins with a digit is a number. -/
theorem value_digit {b : UInt8} (hb : isDigit b = true) (fuel depth : Nat) (rest : List UInt8)
    (p : Position) :
    value (fuel + 1) depth ⟨b :: rest, p⟩ =
      (do let (n, c) ← unsignedNumber false ⟨b :: rest, p⟩; .ok (.number n, c)) := by
  have hn : b ≠ 110 := ne_of_isDigit hb rfl
  have ht : b ≠ 116 := ne_of_isDigit hb rfl
  have hf : b ≠ 102 := ne_of_isDigit hb rfl
  have hminus : b ≠ 45 := ne_of_isDigit hb rfl
  have hquote : b ≠ 34 := ne_of_isDigit hb rfl
  have hbracket : b ≠ 91 := ne_of_isDigit hb rfl
  have hbrace : b ≠ 123 := ne_of_isDigit hb rfl
  rw [value, skipSpace_cons (isSpace_of_isDigit hb)]
  simp only [Cursor.head?, List.head?_cons, if_pos hb]

theorem readsValue_integer {n : Int} (h : FitsWord n) : l.ReadsValue (.number (.integer n)) := by
  obtain ⟨hlow, hhigh⟩ := h
  intro level fuel depth gap rest hgap hrest hdepth hfuel
  have htext : l.text level (.number (.integer n)) = Text.signedDigits n := rfl
  rw [htext] at hfuel ⊢
  by_cases hn : n < 0
  · have hsigned : Text.signedDigits n = '-' :: Text.digits n.natAbs := if_pos hn
    rw [hsigned] at hfuel ⊢
    refine takes_value hgap (show _ = 45 :: encode (Text.digits n.natAbs) from rfl) rfl hfuel
      fun k _ _ p => ?_
    obtain ⟨q, hq⟩ := unsignedNumber_digits true n.natAbs
      (fun _ => ⟨by omega, by omega⟩) (by simp only [Text.maxU64]; omega) hrest (p.after 45)
    refine ⟨q, ?_⟩
    rw [if_pos rfl, show -(n.natAbs : Int) = n by omega] at hq
    rw [value, skipSpace_cons rfl]
    simp only [Cursor.head?, List.head?_cons, Cursor.next, hq, ok_bind]
  · have hunsigned : Text.signedDigits n = Text.digits n.natAbs := if_neg hn
    rw [hunsigned] at hfuel ⊢
    obtain ⟨c, ds, hhead⟩ := List.exists_cons_of_ne_nil (Text.digits_ne_nil n.natAbs)
    obtain ⟨b, hbytes, hdigit, -⟩ := encodeChar_of_isDigit
      (Text.isDigit_of_mem_digits (n := n.natAbs) (hhead ▸ List.mem_cons_self))
    have hcons : encode (Text.digits n.natAbs) = b :: encode ds := by
      rw [hhead, Text.Utf8.encode_cons, hbytes, List.singleton_append]
    refine takes_value hgap hcons (isSpace_of_isDigit hdigit) hfuel fun k _ _ p => ?_
    obtain ⟨q, hq⟩ := unsignedNumber_digits false n.natAbs
      nofun (by simp only [Text.maxU64]; omega) hrest p
    refine ⟨q, ?_⟩
    rw [hcons, if_neg (by decide), show (n.natAbs : Int) = n by omega] at hq
    rw [value_digit hdigit, ← List.cons_append, hq]
    rfl

/-- A text begins with a byte that is neither a blank nor a closing bracket. -/
theorem exists_encode_text (level : Nat) {v : Value} (h : v.IsKept) :
    ∃ b bs, encode (l.text level v) = b :: bs ∧ isSpace b = false ∧ b ≠ 93 := by
  cases v with
  | null => exact ⟨110, _, rfl, rfl, by decide⟩
  | bool b =>
    cases b with
    | false => exact ⟨102, _, rfl, rfl, by decide⟩
    | true => exact ⟨116, _, rfl, rfl, by decide⟩
  | number n =>
    cases n with
    | real x => exact h.elim
    | integer n =>
      have htext : l.text level (.number (.integer n)) = Text.signedDigits n := rfl
      rw [htext, Text.signedDigits]
      split
      · exact ⟨45, _, rfl, rfl, by decide⟩
      · obtain ⟨c, ds, hhead⟩ := List.exists_cons_of_ne_nil (Text.digits_ne_nil n.natAbs)
        obtain ⟨b, hbytes, hdigit, -⟩ := encodeChar_of_isDigit
          (Text.isDigit_of_mem_digits (n := n.natAbs) (hhead ▸ List.mem_cons_self))
        rw [hhead, Text.Utf8.encode_cons, hbytes]
        exact ⟨b, _, rfl, isSpace_of_isDigit hdigit, ne_of_isDigit hdigit rfl⟩
  | string s => exact ⟨34, _, rfl, rfl, by decide⟩
  | array items =>
    cases items with
    | nil => exact ⟨91, _, rfl, rfl, by decide⟩
    | cons v rest => exact ⟨91, _, rfl, rfl, by decide⟩
  | object members =>
    cases members with
    | nil => exact ⟨123, _, rfl, rfl, by decide⟩
    | cons m rest => exact ⟨123, _, rfl, rfl, by decide⟩

theorem endsNumber_moreItems (level : Nat) (items : List Value) (rest : List UInt8) :
    EndsNumber (encode (l.moreItems level items) ++ rest) := by
  cases items with
  | nil =>
    rw [moreItems, Text.Utf8.encode_append, List.append_assoc]
    exact endsNumber_gap (l.isGap_gap level) (endsNumber_of_mem (b := 93) (by decide) rest)
  | cons v items => exact endsNumber_of_mem (b := 44) (by decide) _

theorem endsNumber_moreMembers (level : Nat) (members : List (String × Value)) (rest : List UInt8) :
    EndsNumber (encode (l.moreMembers level members) ++ rest) := by
  cases members with
  | nil =>
    rw [moreMembers, Text.Utf8.encode_append, List.append_assoc]
    exact endsNumber_gap (l.isGap_gap level) (endsNumber_of_mem (b := 125) (by decide) rest)
  | cons m members => exact endsNumber_of_mem (b := 44) (by decide) _

/-! ### Arrays -/


/-- An item and those behind it. -/
theorem takes_items {v : Value} {items : List Value} (hv : l.ReadsValue v)
    (hitems : l.ReadsMoreItems items) (level fuel : Nat) {depth : Nat}
    (hdepth : Value.nestingOfItems (v :: items) < depth)
    (hfirst : 2 * (encode (l.text (level + 1) v)).length ≤ fuel)
    (hmore : 2 * (encode (l.moreItems level items)).length ≤ fuel) (rest : List UInt8) :
    Takes (fun c => do
        let (v, c) ← value fuel depth c
        let (vs, c) ← Json.moreItems fuel depth c
        .ok (v :: vs, c))
      (l.text (level + 1) v ++ l.moreItems level items) (v :: items) rest := by
  rw [Value.nestingOfItems, Nat.max_lt] at hdepth
  have hread : Takes (value fuel depth) (l.text (level + 1) v) v
      (encode (l.moreItems level items) ++ rest) :=
    hv (show IsGap [] from nofun) (endsNumber_moreItems level items rest) hdepth.1 hfirst
  exact hread.bind (fun v c => do
    let (vs, c) ← Json.moreItems fuel depth c
    .ok (v :: vs, c)) ((hitems hdepth.2 hmore).map (v :: ·))

theorem readsMoreItems_nil : l.ReadsMoreItems [] := by
  intro level fuel depth rest hdepth hfuel p
  have hbytes : encode (l.moreItems level []) = encode (l.gap level) ++ [93] := by
    rw [moreItems, Text.Utf8.encode_append]
    rfl
  rw [hbytes, List.length_append, List.length_singleton] at hfuel
  obtain ⟨k, rfl⟩ : ∃ k, fuel = k + 1 := ⟨fuel - 1, by omega⟩
  obtain ⟨q, hq⟩ := skipSpace_gap (l.isGap_gap level) (show isSpace 93 = false from rfl) rest p
  refine ⟨q.after 93, ?_⟩
  rw [hbytes, List.append_assoc, List.singleton_append, Json.moreItems, hq]
  rfl

theorem readsMoreItems_cons {v : Value} {items : List Value} (hkept : v.IsKept)
    (hv : l.ReadsValue v) (hitems : l.ReadsMoreItems items) : l.ReadsMoreItems (v :: items) := by
  intro level fuel depth rest hdepth hfuel p
  have hbytes : encode (l.moreItems level (v :: items)) =
      44 :: (encode (l.gap (level + 1)) ++
        encode (l.text (level + 1) v ++ l.moreItems level items)) := by
    rw [moreItems, List.cons_append, List.cons_append, Text.Utf8.encode_cons, List.append_assoc,
      Text.Utf8.encode_append]
    rfl
  obtain ⟨b, bs, hhead, hspace, hclose⟩ := exists_encode_text (level + 1) hkept
  rw [hbytes, List.length_cons, List.length_append, Text.Utf8.encode_append,
    List.length_append] at hfuel
  obtain ⟨k, rfl⟩ : ∃ k, fuel = k + 1 := ⟨fuel - 1, by omega⟩
  obtain ⟨q, hq⟩ := skipSpace_gap (l.isGap_gap (level + 1)) hspace
    (bs ++ encode (l.moreItems level items) ++ rest) (p.after 44)
  obtain ⟨q', hq'⟩ := takes_items hv hitems level k hdepth (by omega) (by omega) rest q
  refine ⟨q', ?_⟩
  rw [Text.Utf8.encode_append, hhead] at hq'
  rw [hbytes, Text.Utf8.encode_append, hhead, Json.moreItems, List.cons_append, skipSpace_cons rfl]
  simp only [List.append_assoc, List.cons_append] at hq hq' ⊢
  simp only [Cursor.head?, List.head?_cons, Cursor.next, hq]
  exact hq'

/-- An array without items. -/
theorem readsValue_array_nil : l.ReadsValue (.array []) := by
  intro level fuel depth gap rest hgap hrest hdepth hfuel
  refine takes_value hgap (show _ = 91 :: [93] from rfl) rfl hfuel fun k hk _ p => ?_
  obtain ⟨k, rfl⟩ : ∃ j, k = j + 1 := ⟨k - 1, by omega⟩
  have hdeep : ¬depth ≤ 1 := Nat.not_le.2 hdepth
  have hitems : firstItem (k + 1) (depth - 1) ⟨93 :: rest, p.after 91⟩ =
      .ok ([], ⟨rest, (p.after 91).after 93⟩) := by
    rw [firstItem, skipSpace_cons rfl]
    rfl
  refine ⟨(p.after 91).after 93, ?_⟩
  rw [value, skipSpace_cons rfl]
  simp only [Cursor.head?, List.head?_cons, if_neg hdeep, Cursor.next, List.singleton_append,
    hitems, ok_bind]

/-- **An array is read** if its first item is and those behind it are. -/
theorem readsValue_array_cons {v : Value} {items : List Value} (hkept : v.IsKept)
    (hv : l.ReadsValue v) (hitems : l.ReadsMoreItems items) :
    l.ReadsValue (.array (v :: items)) := by
  intro level fuel depth gap rest hgap hrest hdepth hfuel
  obtain ⟨b, bs, hhead, hspace, hclose⟩ := exists_encode_text (level + 1) hkept
  have hbytes : encode (l.text level (.array (v :: items))) =
      91 :: (encode (l.gap (level + 1)) ++
        encode (l.text (level + 1) v ++ l.moreItems level items)) := by
    rw [text, List.cons_append, List.cons_append, Text.Utf8.encode_cons, List.append_assoc,
      Text.Utf8.encode_append]
    rfl
  refine takes_value hgap hbytes rfl hfuel fun k hk _ p => ?_
  rw [List.length_append, Text.Utf8.encode_append, List.length_append] at hk
  obtain ⟨k, rfl⟩ : ∃ j, k = j + 1 := ⟨k - 1, by omega⟩
  rw [Value.nesting] at hdepth
  have hdeep : ¬depth ≤ 1 := by omega
  obtain ⟨q, hq⟩ := skipSpace_gap (l.isGap_gap (level + 1)) hspace
    (bs ++ encode (l.moreItems level items) ++ rest) (p.after 91)
  obtain ⟨q', hq'⟩ := takes_items hv hitems level k (show _ < depth - 1 by omega)
    (by omega) (by omega) rest q
  refine ⟨q', ?_⟩
  rw [Text.Utf8.encode_append, hhead] at hq' ⊢
  rw [value, skipSpace_cons rfl]
  simp only [List.append_assoc, List.cons_append] at hq hq' ⊢
  simp only [Cursor.head?, List.head?_cons, if_neg hdeep, firstItem, Cursor.next, hq]
  rw [hq']
  rfl

/-! ### Objects -/

/-- The member read first is put behind those seen. -/
theorem insert_of_increasing {seen members : List (String × Value)} {k : String} {v : Value}
    (h : Entries.Increasing (seen ++ (k, v) :: members)) :
    Entries.insert k v seen = seen ++ [(k, v)] := by
  induction seen with
  | nil => rfl
  | cons m seen ih =>
    obtain ⟨other, old⟩ := m
    rw [List.cons_append] at h
    obtain ⟨hbefore, hrest⟩ := List.pairwise_cons.1 h
    have hlt : other < k := hbefore (k, v) (by simp)
    have hback : ¬k < other := fun hgt => String.lt_irrefl k (String.lt_trans hgt hlt)
    have hne : k ≠ other := by
      rintro rfl
      exact String.lt_irrefl k hlt
    rw [Entries.insert, if_neg hback, if_neg hne, ih hrest]
    rfl

/-- A member and those behind it. -/
theorem takes_members {k : String} {v : Value} {seen members : List (String × Value)}
    (hv : l.ReadsValue v) (hmembers : l.ReadsMoreMembers members) (level fuel : Nat)
    {depth : Nat} (add : String → Value → List (String × Value)) (hadd : add k v = seen ++ [(k, v)])
    (hincreasing : Entries.Increasing (seen ++ (k, v) :: members))
    (hdepth : Value.nestingOfMembers ((k, v) :: members) < depth)
    (hfirst : 2 * (encode (l.text (level + 1) v)).length ≤ fuel)
    (hmore : 2 * (encode (l.moreMembers level members)).length ≤ fuel) (rest : List UInt8) :
    Takes (fun c => do
        let (k, c) ← stringBody c.next
        let c ← colon c
        let (v, c) ← value fuel depth c
        Json.moreMembers fuel depth (add k v) c)
      (stringText k ++ ':' :: l.behindColon ++ l.text (level + 1) v ++ l.moreMembers level members)
      (seen ++ (k, v) :: members) rest := by
  rw [Value.nestingOfMembers, Nat.max_lt] at hdepth
  have hvalue : Takes (value fuel depth) (l.behindColon ++ l.text (level + 1) v) v
      (encode (l.moreMembers level members) ++ rest) :=
    hv l.isGap_behindColon (endsNumber_moreMembers level members rest) hdepth.1 hfirst
  have hmore : Takes (Json.moreMembers fuel depth (add k v)) (l.moreMembers level members)
      (seen ++ (k, v) :: members) rest := by
    rw [hadd]
    rw [List.append_cons seen (k, v) members] at hincreasing ⊢
    exact hmembers hincreasing hdepth.2 hmore
  intro p
  obtain ⟨q, hq⟩ := takes_string k (58 :: (encode (l.behindColon ++ l.text (level + 1) v) ++
    (encode (l.moreMembers level members) ++ rest))) p
  obtain ⟨q', hq'⟩ := hvalue (q.after 58)
  obtain ⟨q'', hq''⟩ := hmore q'
  have hcolon : ∀ cs, encode (':' :: cs) = 58 :: encode cs := fun cs => rfl
  refine ⟨q'', ?_⟩
  simp only [List.append_assoc, List.cons_append, Text.Utf8.encode_append, hcolon] at hq hq' ⊢
  rw [hq, ok_bind]
  simp only [colon, skipSpace_cons (show isSpace 58 = false from rfl), Cursor.head?,
    List.head?_cons, Cursor.next, ok_bind]
  rw [hq', ok_bind]
  exact hq''

theorem readsMoreMembers_nil : l.ReadsMoreMembers [] := by
  intro level fuel depth seen rest hincreasing hdepth hfuel p
  have hbytes : encode (l.moreMembers level []) = encode (l.gap level) ++ [125] := by
    rw [moreMembers, Text.Utf8.encode_append]
    rfl
  rw [hbytes, List.length_append, List.length_singleton] at hfuel
  obtain ⟨k, rfl⟩ : ∃ k, fuel = k + 1 := ⟨fuel - 1, by omega⟩
  obtain ⟨q, hq⟩ := skipSpace_gap (l.isGap_gap level) (show isSpace 125 = false from rfl) rest p
  refine ⟨q.after 125, ?_⟩
  rw [hbytes, List.append_assoc, List.singleton_append, Json.moreMembers, hq, List.append_nil]
  rfl

/-- The text of members begins with a quote and has the text of the first value within it. -/
theorem exists_encode_members (level : Nat) (k : String) (v : Value)
    (members : List (String × Value)) :
    ∃ bs, encode (stringText k ++ ':' :: l.behindColon ++ l.text (level + 1) v ++
        l.moreMembers level members) = 34 :: bs ∧
      (encode (l.text (level + 1) v)).length + (encode (l.moreMembers level members)).length ≤
        bs.length := by
  obtain ⟨bs, hbs⟩ : ∃ bs, encode (stringText k ++ ':' :: l.behindColon ++ l.text (level + 1) v ++
      l.moreMembers level members) = 34 :: bs := ⟨_, rfl⟩
  have hcolon : ∀ cs, encode (':' :: cs) = 58 :: encode cs := fun cs => rfl
  have hlength := congrArg List.length hbs
  simp only [Text.Utf8.encode_append, List.append_assoc, List.cons_append, hcolon,
    List.length_append, List.length_cons] at hlength
  exact ⟨bs, hbs, by omega⟩

theorem readsMoreMembers_cons {k : String} {v : Value} {members : List (String × Value)}
    (hv : l.ReadsValue v) (hmembers : l.ReadsMoreMembers members) :
    l.ReadsMoreMembers ((k, v) :: members) := by
  intro level fuel depth seen rest hincreasing hdepth hfuel p
  obtain ⟨bs, hquote, hlength⟩ := exists_encode_members (l := l) level k v members
  have hbytes : encode (l.moreMembers level ((k, v) :: members)) =
      44 :: (encode (l.gap (level + 1)) ++ 34 :: bs) := by
    rw [moreMembers, ← hquote]
    simp only [List.append_assoc, List.cons_append, Text.Utf8.encode_append, Text.Utf8.encode_cons]
    rfl
  rw [hbytes, List.length_cons, List.length_append, List.length_cons] at hfuel
  obtain ⟨j, rfl⟩ : ∃ j, fuel = j + 1 := ⟨fuel - 1, by omega⟩
  obtain ⟨q, hq⟩ := skipSpace_gap (l.isGap_gap (level + 1)) (show isSpace 34 = false from rfl)
    (bs ++ rest) (p.after 44)
  obtain ⟨q', hq'⟩ := takes_members hv hmembers level j (fun k v => Entries.insert k v seen)
    (insert_of_increasing hincreasing) hincreasing hdepth (by omega) (by omega) rest q
  refine ⟨q', ?_⟩
  rw [hquote, List.cons_append] at hq'
  rw [hbytes, Json.moreMembers, List.cons_append, skipSpace_cons rfl, List.append_assoc,
    List.cons_append]
  simp only [Cursor.head?, List.head?_cons, Cursor.next, hq]
  exact hq'

/-- An object without members. -/
theorem readsValue_object_nil : l.ReadsValue (.object []) := by
  intro level fuel depth gap rest hgap hrest hdepth hfuel
  refine takes_value hgap (show _ = 123 :: [125] from rfl) rfl hfuel fun k hk _ p => ?_
  obtain ⟨k, rfl⟩ : ∃ j, k = j + 1 := ⟨k - 1, by omega⟩
  have hdeep : ¬depth ≤ 1 := Nat.not_le.2 hdepth
  have hmembers : firstMember (k + 1) (depth - 1) ⟨125 :: rest, p.after 123⟩ =
      .ok ([], ⟨rest, (p.after 123).after 125⟩) := by
    rw [firstMember, skipSpace_cons rfl]
    rfl
  refine ⟨(p.after 123).after 125, ?_⟩
  rw [value, skipSpace_cons rfl]
  simp only [Cursor.head?, List.head?_cons, if_neg hdeep, Cursor.next, List.singleton_append,
    hmembers, ok_bind]

/-- **An object is read** if its first member is and those behind it are. -/
theorem readsValue_object_cons {k : String} {v : Value} {members : List (String × Value)}
    (hincreasing : Entries.Increasing ((k, v) :: members)) (hv : l.ReadsValue v)
    (hmembers : l.ReadsMoreMembers members) : l.ReadsValue (.object ((k, v) :: members)) := by
  intro level fuel depth gap rest hgap hrest hdepth hfuel
  obtain ⟨bs, hquote, hlength⟩ := exists_encode_members (l := l) level k v members
  have hbytes : encode (l.text level (.object ((k, v) :: members))) =
      123 :: (encode (l.gap (level + 1)) ++ 34 :: bs) := by
    rw [text, ← hquote]
    simp only [List.append_assoc, List.cons_append, Text.Utf8.encode_append, Text.Utf8.encode_cons]
    rfl
  refine takes_value hgap hbytes rfl hfuel fun k' hk _ p => ?_
  rw [List.length_append, List.length_cons] at hk
  obtain ⟨j, rfl⟩ : ∃ j, k' = j + 1 := ⟨k' - 1, by omega⟩
  rw [Value.nesting] at hdepth
  have hdeep : ¬depth ≤ 1 := by omega
  obtain ⟨q, hq⟩ := skipSpace_gap (l.isGap_gap (level + 1)) (show isSpace 34 = false from rfl)
    (bs ++ rest) (p.after 123)
  obtain ⟨q', hq'⟩ := takes_members hv hmembers level j (fun k v => [(k, v)])
    (show _ = [] ++ [(k, v)] from rfl) hincreasing (show _ < depth - 1 by omega) (by omega)
    (by omega) rest q
  rw [hquote, List.cons_append] at hq'
  have hread : firstMember (j + 1) (depth - 1)
      ⟨encode (l.gap (level + 1)) ++ 34 :: (bs ++ rest), p.after 123⟩ =
      .ok ((k, v) :: members, ⟨rest, q'⟩) := by
    rw [firstMember, hq]
    exact hq'
  refine ⟨q', ?_⟩
  rw [value, skipSpace_cons rfl, List.append_assoc, List.cons_append]
  simp only [Cursor.head?, List.head?_cons, if_neg hdeep, Cursor.next, hread, ok_bind]

/-! ### All values -/

/-- **A value is read back** from its text in any layout. -/
theorem readsValue {v : Value} (h : v.Throughout Value.IsKept) :
    l.ReadsValue v := by
  refine Value.rec
    (motive_1 := fun v => v.Throughout Value.IsKept → l.ReadsValue v)
    (motive_2 := fun items => Value.ThroughoutItems Value.IsKept items →
      l.ReadsMoreItems items ∧ l.ReadsValue (.array items))
    (motive_3 := fun members => Value.ThroughoutMembers Value.IsKept members →
      l.ReadsMoreMembers members ∧ (Entries.Increasing members → l.ReadsValue (.object members)))
    (motive_4 := fun m => m.2.Throughout Value.IsKept → l.ReadsValue m.2)
    ?null ?bool ?number ?string ?array ?object ?noItem ?item ?noMember ?member ?pair v h
  case null => exact fun _ => readsValue_null
  case bool => exact fun b _ => readsValue_bool b
  case number =>
    intro n hn
    cases n with
    | integer n => exact readsValue_integer hn
    | real x => exact hn.elim
  case string => exact fun s _ => readsValue_string s
  case array => exact fun items ih hitems => (ih hitems.2).2
  case object => exact fun members ih hmembers => (ih hmembers.2).2 hmembers.1
  case noItem => exact fun _ => ⟨readsMoreItems_nil, readsValue_array_nil⟩
  case item =>
    intro v items hv hitems hthroughout
    have hkept : v.IsKept := hthroughout.1.self
    obtain ⟨hmore, -⟩ := hitems hthroughout.2
    exact ⟨readsMoreItems_cons hkept (hv hthroughout.1) hmore,
      readsValue_array_cons hkept (hv hthroughout.1) hmore⟩
  case noMember => exact fun _ => ⟨readsMoreMembers_nil, fun _ => readsValue_object_nil⟩
  case member =>
    rintro ⟨k, v⟩ members hv hmembers hthroughout
    obtain ⟨hmore, -⟩ := hmembers hthroughout.2
    exact ⟨readsMoreMembers_cons (hv hthroughout.1) hmore,
      fun hincreasing => readsValue_object_cons hincreasing (hv hthroughout.1) hmore⟩
  case pair => exact fun k v ih => ih

end Layout

/-! ## Whole texts -/

/-- A value in a layout is the whole of its text. -/
theorem parseBytes_text (l : Layout) {v : Value} (h : v.Throughout Value.IsKept)
    (hnesting : v.nesting < depthLimit) : parseBytes (encode (l.text 0 v)) = .ok v := by
  have hread : Takes (value (2 * (encode (l.text 0 v)).length + 2) depthLimit) (l.text 0 v) v [] :=
    Layout.readsValue h (show IsGap [] from nofun) endsNumber_nil hnesting (Nat.le_add_right _ _)
  obtain ⟨q, hq⟩ := hread .start
  rw [List.append_nil] at hq
  rw [parseBytes, Cursor.ofBytes, hq]
  rfl

/-- **A compact text is read back**, if its numbers are integers that fit 64 bits and it does not
nest too deep. -/
theorem parse_compactText {v : Value} (h : v.Throughout Value.IsKept)
    (hnesting : v.nesting < depthLimit) : parse v.compactText = .ok v := by
  rw [parse, Text.Utf8.bytesOf, Value.compactText, String.toList_ofList, ← Layout.text_dense 0 v]
  exact parseBytes_text .dense h hnesting

/-- **A text over several lines is read back** as well. -/
theorem parse_prettyText {v : Value} (h : v.Throughout Value.IsKept)
    (hnesting : v.nesting < depthLimit) : parse v.prettyText = .ok v := by
  rw [parse, Text.Utf8.bytesOf, Value.prettyText, String.toList_ofList, Value.pretty,
    ← Layout.text_lines 0 v]
  exact parseBytes_text .lines h hnesting

end Courier.Json
