import Courier.Proofs.JsonPassages
import Courier.Proofs.JsonTexts

/-!
# What is read as JSON

A value that is read nests less deep than the limit, each of its objects is a table, and the bytes
that it was read from are a text.  Hence a value without floating-point numbers that was read once
is read back from whatever it is printed as.

* `Value.Fits` — what is known of a value that was read.
* `readsValues` — **all readers of values**, by induction on their steps.
* `fits_of_parseBytes` — **whole texts**.
* `Value.parse_prettyText_of_parseBytes` — what was read is read back.
-/

namespace Courier.Json

open Result (bind_eq_ok_iff)
open Text.Utf8 (IsText)
open Cursor (TextTo)

/-! ## Values that fit -/

namespace Value

/-- Whether the members of an object are a table. -/
def IsOrdered : Value → Prop
  | .object members => Entries.Increasing members
  | _ => True

/-- Whether a value nests less deep than a depth, and all objects within it are tables. -/
structure Fits (depth : Nat) (v : Value) : Prop where
  nesting : v.nesting < depth
  ordered : v.Throughout IsOrdered

theorem throughoutItems_iff {holds : Value → Prop} {items : List Value} :
    ThroughoutItems holds items ↔ ∀ v ∈ items, v.Throughout holds := by
  induction items with
  | nil => exact iff_of_true trivial (List.forall_mem_nil _)
  | cons v items ih => rw [ThroughoutItems, ih, List.forall_mem_cons]

theorem throughoutMembers_iff {holds : Value → Prop} {members : List (String × Value)} :
    ThroughoutMembers holds members ↔ ∀ m ∈ members, m.2.Throughout holds := by
  induction members with
  | nil => exact iff_of_true trivial (List.forall_mem_nil _)
  | cons m members ih => rw [ThroughoutMembers, ih, List.forall_mem_cons]

theorem nestingOfItems_lt {depth : Nat} (hdepth : 0 < depth) {items : List Value}
    (h : ∀ v ∈ items, v.nesting < depth) : nestingOfItems items < depth := by
  induction items with
  | nil => exact hdepth
  | cons v items ih =>
    obtain ⟨hv, hitems⟩ := List.forall_mem_cons.1 h
    exact Nat.max_lt.2 ⟨hv, ih hitems⟩

theorem nestingOfMembers_lt {depth : Nat} (hdepth : 0 < depth) {members : List (String × Value)}
    (h : ∀ m ∈ members, m.2.nesting < depth) : nestingOfMembers members < depth := by
  induction members with
  | nil => exact hdepth
  | cons m members ih =>
    obtain ⟨hm, hmembers⟩ := List.forall_mem_cons.1 h
    exact Nat.max_lt.2 ⟨hm, ih hmembers⟩

theorem Fits.null {depth : Nat} (h : 0 < depth) : Fits depth .null := ⟨h, trivial⟩

theorem Fits.bool {depth : Nat} (h : 0 < depth) (b : Bool) : Fits depth (.bool b) := ⟨h, trivial⟩

theorem Fits.number {depth : Nat} (h : 0 < depth) (n : Number) : Fits depth (.number n) :=
  ⟨h, trivial⟩

theorem Fits.string {depth : Nat} (h : 0 < depth) (s : String) : Fits depth (.string s) :=
  ⟨h, trivial⟩

theorem Fits.array {depth : Nat} (hdepth : 1 < depth) {items : List Value}
    (h : ∀ v ∈ items, v.Fits (depth - 1)) : Fits depth (.array items) where
  nesting := by
    have hitems := nestingOfItems_lt (by omega) fun v hv => (h v hv).nesting
    rw [Value.nesting]
    omega
  ordered := ⟨trivial, throughoutItems_iff.2 fun v hv => (h v hv).ordered⟩

theorem Fits.object {depth : Nat} (hdepth : 1 < depth) {members : List (String × Value)}
    (hincreasing : Entries.Increasing members) (h : ∀ m ∈ members, m.2.Fits (depth - 1)) :
    Fits depth (.object members) where
  nesting := by
    have hmembers := nestingOfMembers_lt (by omega) fun m hm => (h m hm).nesting
    rw [Value.nesting]
    omega
  ordered := ⟨hincreasing, throughoutMembers_iff.2 fun m hm => (h m hm).ordered⟩

/-- Whether members are a table of values that fit. -/
structure MembersFit (depth : Nat) (members : List (String × Value)) : Prop where
  increasing : Entries.Increasing members
  fits : ∀ m ∈ members, m.2.Fits depth

theorem MembersFit.insert {depth : Nat} {members : List (String × Value)}
    (h : MembersFit depth members) (k : String) {v : Value} (hv : v.Fits depth) :
    MembersFit depth (Entries.insert k v members) where
  increasing := h.increasing.insert k v
  fits m hm := by
    rcases Entries.mem_insert hm with rfl | hm
    · exact hv
    · exact h.fits m hm

end Value

/-! ## Reading values -/

open Value (Fits MembersFit)

/-- What the five readers of values give within so many steps. -/
structure ReadsValues (fuel : Nat) : Prop where
  value : ∀ {depth : Nat}, 0 < depth → ∀ c, Yields (Fits depth) c (value fuel depth c)
  firstItem : ∀ {depth : Nat}, 0 < depth →
    ∀ c, Yields (fun vs => ∀ v ∈ vs, v.Fits depth) c (firstItem fuel depth c)
  moreItems : ∀ {depth : Nat}, 0 < depth →
    ∀ c, Yields (fun vs => ∀ v ∈ vs, v.Fits depth) c (moreItems fuel depth c)
  firstMember : ∀ {depth : Nat}, 0 < depth →
    ∀ c, Yields (MembersFit depth) c (firstMember fuel depth c)
  moreMembers : ∀ {depth : Nat}, 0 < depth → ∀ {seen : List (String × Value)},
    MembersFit depth seen → ∀ c, Yields (MembersFit depth) c (moreMembers fuel depth seen c)

theorem readsValues_zero : ReadsValues 0 where
  value _ c := by
    rw [Json.value]
    exact yields_error _ _
  firstItem _ c := by
    rw [Json.firstItem]
    exact yields_error _ _
  moreItems _ c := by
    rw [Json.moreItems]
    exact yields_error _ _
  firstMember _ c := by
    rw [Json.firstMember]
    exact yields_error _ _
  moreMembers _ _ _ c := by
    rw [Json.moreMembers]
    exact yields_error _ _

variable {fuel depth : Nat}

theorem ReadsValues.yields_value (ih : ReadsValues fuel) (hdepth : 0 < depth) (c : Cursor) :
    Yields (Fits depth) c (Json.value (fuel + 1) depth c) := by
  have hliteral : ∀ {ws : List UInt8}, ws.all (·.toNat < 0x80) = true → ∀ {v : Value},
      Fits depth v → ∀ c, Yields (Fits depth) c (do let c ← literal ws c; .ok (v, c)) :=
    fun hws v hv c =>
      .bind_cursor (fun _ => textTo_literal hws) fun c => yields_ok hv (.refl c)
  rw [Json.value]
  simp only
  -- by what the value begins with: no octet, the three words, a minus, a quote, a bracket, a brace,
  -- a digit
  split
  · exact yields_error _ _
  · rename_i h
    exact (hliteral (by decide) (.null hdepth) _).after (textTo_next_skipSpace h (by decide))
  · rename_i h
    exact (hliteral (by decide) (.bool hdepth true) _).after (textTo_next_skipSpace h (by decide))
  · rename_i h
    exact (hliteral (by decide) (.bool hdepth false) _).after
      (textTo_next_skipSpace h (by decide))
  · rename_i h
    refine Yields.after ?_ (textTo_next_skipSpace h (by decide))
    exact (passesText_unsignedNumber true _).bind fun n c _ =>
      yields_ok (.number hdepth n) (.refl c)
  · rename_i h
    refine Yields.after ?_ (textTo_next_skipSpace h (by decide))
    exact (passesText_stringBody _).bind fun s c _ => yields_ok (.string hdepth s) (.refl c)
  · rename_i h
    split
    · exact yields_error _ _
    · rename_i hdeep
      refine Yields.after ?_ (textTo_next_skipSpace h (by decide))
      exact (ih.firstItem (by omega) _).bind fun items c hitems =>
        yields_ok (.array (by omega) hitems) (.refl c)
  · rename_i h
    split
    · exact yields_error _ _
    · rename_i hdeep
      refine Yields.after ?_ (textTo_next_skipSpace h (by decide))
      exact (ih.firstMember (by omega) _).bind fun members c hmembers =>
        yields_ok (.object (by omega) hmembers.increasing hmembers.fits) (.refl c)
  · split
    · refine Yields.after ?_ (textTo_skipSpace c)
      exact (passesText_unsignedNumber false _).bind fun n c _ =>
        yields_ok (.number hdepth n) (.refl c)
    · exact yields_error _ _

/-- An item and those behind it. -/
theorem ReadsValues.yields_items (ih : ReadsValues fuel) (hdepth : 0 < depth) (c : Cursor) :
    Yields (fun vs => ∀ v ∈ vs, Value.Fits depth v) c (do
      let (v, c) ← Json.value fuel depth c
      let (vs, c) ← Json.moreItems fuel depth c
      .ok (v :: vs, c)) :=
  (ih.value hdepth c).bind fun _ c hv => (ih.moreItems hdepth c).bind fun _ c hvs =>
    yields_ok (List.forall_mem_cons.2 ⟨hv, hvs⟩) (.refl c)

theorem ReadsValues.yields_firstItem (ih : ReadsValues fuel) (hdepth : 0 < depth) (c : Cursor) :
    Yields (fun vs => ∀ v ∈ vs, v.Fits depth) c (Json.firstItem (fuel + 1) depth c) := by
  rw [Json.firstItem]
  simp only
  split
  · exact yields_error _ _
  · rename_i h
    exact yields_ok (List.forall_mem_nil _) (textTo_next_skipSpace h (by decide))
  · exact (ih.yields_items hdepth _).after (textTo_skipSpace c)

theorem ReadsValues.yields_moreItems (ih : ReadsValues fuel) (hdepth : 0 < depth) (c : Cursor) :
    Yields (fun vs => ∀ v ∈ vs, v.Fits depth) c (Json.moreItems (fuel + 1) depth c) := by
  rw [Json.moreItems]
  simp only
  split
  · exact yields_error _ _
  · rename_i h
    exact yields_ok (List.forall_mem_nil _) (textTo_next_skipSpace h (by decide))
  · rename_i h
    have hcomma := (textTo_next_skipSpace h (by decide)).trans (textTo_skipSpace _)
    split
    · exact yields_error _ _
    · exact yields_error _ _
    · exact (ih.yields_items hdepth _).after hcomma
  · exact yields_error _ _

/-- A member and those behind it. -/
theorem ReadsValues.yields_members (ih : ReadsValues fuel) (hdepth : 0 < depth)
    {add : String → Value → List (String × Value)}
    (hadd : ∀ k v, Value.Fits depth v → MembersFit depth (add k v)) (c : Cursor) :
    Yields (MembersFit depth) c (do
      let (k, c) ← stringBody c
      let c ← colon c
      let (v, c) ← Json.value fuel depth c
      Json.moreMembers fuel depth (add k v) c) :=
  (passesText_stringBody c).bind fun k _ _ => .bind_cursor (fun _ => textTo_colon) fun c =>
    (ih.value hdepth c).bind fun v c hv => ih.moreMembers hdepth (hadd k v hv) c

theorem ReadsValues.yields_firstMember (ih : ReadsValues fuel) (hdepth : 0 < depth) (c : Cursor) :
    Yields (MembersFit depth) c (Json.firstMember (fuel + 1) depth c) := by
  have hempty : MembersFit depth [] := ⟨List.Pairwise.nil, List.forall_mem_nil _⟩
  rw [Json.firstMember]
  simp only
  split
  · exact yields_error _ _
  · rename_i h
    exact yields_ok hempty (textTo_next_skipSpace h (by decide))
  · rename_i h
    exact (ih.yields_members hdepth (fun k _ hv => hempty.insert k hv) _).after
      (textTo_next_skipSpace h (by decide))
  · exact yields_error _ _

theorem ReadsValues.yields_moreMembers (ih : ReadsValues fuel) (hdepth : 0 < depth)
    {seen : List (String × Value)} (hseen : MembersFit depth seen) (c : Cursor) :
    Yields (MembersFit depth) c (Json.moreMembers (fuel + 1) depth seen c) := by
  rw [Json.moreMembers]
  simp only
  split
  · exact yields_error _ _
  · rename_i h
    exact yields_ok hseen (textTo_next_skipSpace h (by decide))
  · rename_i h
    have hcomma := (textTo_next_skipSpace h (by decide)).trans (textTo_skipSpace _)
    split
    · exact yields_error _ _
    · exact yields_error _ _
    · rename_i hquote
      exact (ih.yields_members hdepth (fun k _ hv => hseen.insert k hv) _).after
        (hcomma.trans (.next hquote (by decide)))
    · exact yields_error _ _
  · exact yields_error _ _

/-- **The five readers** pass over texts and give what fits, within any number of steps. -/
theorem readsValues (fuel : Nat) : ReadsValues fuel := by
  induction fuel with
  | zero => exact readsValues_zero
  | succ fuel ih =>
    exact ⟨ih.yields_value, ih.yields_firstItem, ih.yields_moreItems, ih.yields_firstMember,
      ih.yields_moreMembers⟩

/-! ## Whole texts -/

/-- Behind a value there are only blanks. -/
theorem isText_of_finish {c : Cursor} (h : finish c = .ok ()) : IsText c.rest := by
  obtain ⟨used, hused, htext⟩ := textTo_skipSpace c
  unfold finish at h
  simp only at h
  split at h
  · rename_i hend
    rw [Cursor.head?, List.head?_eq_none_iff] at hend
    rwa [hused, hend, List.append_nil]
  · cases h

/-- **What is read as JSON is a text**, and the value nests less deep than the limit and has tables
for objects. -/
theorem fits_of_parseBytes {bs : List UInt8} {v : Value} (h : parseBytes bs = .ok v) :
    IsText bs ∧ v.Fits depthLimit := by
  obtain ⟨⟨v', c⟩, hvalue, h⟩ := bind_eq_ok_iff.1 h
  obtain ⟨⟨⟩, hfinish, hv⟩ := bind_eq_ok_iff.1 h
  cases hv
  obtain ⟨⟨used, hused, htext⟩, hfits⟩ :=
    (readsValues (2 * bs.length + 2)).value (by decide) (.ofBytes bs) _ _ hvalue
  have hbytes : bs = used ++ c.rest := hused
  exact ⟨hbytes ▸ htext.append (isText_of_finish hfinish), hfits⟩

/-! ## Reading back -/

namespace Value

/-- What follows from two properties of each value holds throughout if they do. -/
theorem Throughout.and_imp {p q r : Value → Prop} (himp : ∀ v, p v → q v → r v) {v : Value}
    (hp : v.Throughout p) (hq : v.Throughout q) : v.Throughout r := by
  refine Value.rec
    (motive_1 := fun v => v.Throughout p → v.Throughout q → v.Throughout r)
    (motive_2 := fun items => ThroughoutItems p items → ThroughoutItems q items →
      ThroughoutItems r items)
    (motive_3 := fun members => ThroughoutMembers p members → ThroughoutMembers q members →
      ThroughoutMembers r members)
    (motive_4 := fun m => m.2.Throughout p → m.2.Throughout q → m.2.Throughout r)
    ?null ?bool ?number ?string ?array ?object ?noItem ?item ?noMember ?member ?pair v hp hq
  case null => exact himp .null
  case bool => exact fun b => himp (.bool b)
  case number => exact fun n => himp (.number n)
  case string => exact fun s => himp (.string s)
  case array => exact fun items ih hp hq => ⟨himp _ hp.1 hq.1, ih hp.2 hq.2⟩
  case object => exact fun members ih hp hq => ⟨himp _ hp.1 hq.1, ih hp.2 hq.2⟩
  case noItem => exact fun _ _ => trivial
  case item => exact fun v items hv hitems hp hq => ⟨hv hp.1 hq.1, hitems hp.2 hq.2⟩
  case noMember => exact fun _ _ => trivial
  case member => exact fun m members hm hmembers hp hq => ⟨hm hp.1 hq.1, hmembers hp.2 hq.2⟩
  case pair => exact fun k v ih => ih

/-- Whether a value, if it is a number, is an integer of 64 bits, signed or unsigned. -/
def IsWord : Value → Prop
  | .number n => ∃ i, n = .integer i ∧ FitsWord i
  | _ => True

theorem isKept_of_isOrdered {v : Value} (hordered : v.IsOrdered) (hword : v.IsWord) :
    v.IsKept := by
  cases v with
  | number n =>
    obtain ⟨i, rfl, hi⟩ := hword
    exact hi
  | object members => exact hordered
  | _ => trivial

/-- **A value that was read** is read back from its text, if its numbers are integers of 64 bits. -/
theorem parse_prettyText_of_parseBytes {bs : List UInt8} {v : Value} (h : parseBytes bs = .ok v)
    (hwords : v.Throughout IsWord) : parse v.prettyText = .ok v := by
  obtain ⟨-, hfits⟩ := fits_of_parseBytes h
  exact parse_prettyText (hfits.ordered.and_imp (fun _ => isKept_of_isOrdered) hwords)
    hfits.nesting

end Value

end Courier.Json
