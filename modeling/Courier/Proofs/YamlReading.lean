import Courier.Proofs.YamlDocuments
import Courier.Yaml.Reader

/-!
# Printed records are read

A reader that meets the items of a value takes them all and gives what was written.

* `readsAs_text`, `readsAs_number` — **scalars are read back**.
* `readsAs_optionalText_null`, `readsAs_optionalText_text` — so are absence and a text, and they
  stay apart.
* `readsAs_record` — **a record is read back** if each of its fields is.
* `whole_ofText_print` — the same for a whole text.
-/

namespace Courier.Yaml

open Result (ok_bind)

/-! ## Numbers and null -/

theorem exists_digits_cons (n : Nat) :
    ∃ c cs, Text.digits n = c :: cs ∧ isWordChar c = true := by
  obtain ⟨c, cs, hcs⟩ := List.exists_cons_of_ne_nil (Text.digits_ne_nil n)
  exact ⟨c, cs, hcs, isWordChar_of_mem_digits (n := n) (by rw [hcs]; exact List.mem_cons_self)⟩

/-- The digits of a number have no sign in front. -/
theorem dropSign_digits (n : Nat) : dropSign (Text.digits n) = Text.digits n := by
  obtain ⟨c, cs, hcs, hc⟩ := exists_digits_cons n
  have hsign : isSign c = false := by
    rw [isSign, beq_false_of_ne (ne_of_isWordChar hc (by decide)),
      beq_false_of_ne (ne_of_isWordChar hc (by decide))]
    rfl
  rw [hcs, dropSign, hsign, if_neg Bool.false_ne_true]

theorem dropPlus_digits (n : Nat) : dropPlus (Text.digits n) = Text.digits n := by
  obtain ⟨c, cs, hcs, hc⟩ := exists_digits_cons n
  rw [hcs, dropPlus, if_neg (ne_of_isWordChar hc (by decide))]

/-- The digits of a number announce no other base. -/
theorem marked?_digits (n : Nat) : marked? (Text.digits n) = none := by
  have hdigits : ∀ c ∈ Text.digits n, Text.isDigit c = true := fun _ => Text.isDigit_of_mem_digits
  generalize Text.digits n = cs at hdigits
  unfold marked?
  split
  · exact absurd (hdigits 'x' (by simp)) (by decide)
  · exact absurd (hdigits 'o' (by simp)) (by decide)
  · exact absurd (hdigits 'b' (by simp)) (by decide)
  · rfl

/-- The digits of a number have no zero in front. -/
theorem isPaddedDigits_digits (n : Nat) : isPaddedDigits (Text.digits n) = false := by
  by_cases hn : n = 0
  · subst hn
    rfl
  · have hhead := Text.head?_digits_ne hn
    rw [isPaddedDigits, dropSign_digits]
    split
    · rename_i heq
      rw [heq] at hhead
      exact absurd rfl hhead
    · rfl

/-- The digits of a number are read back as an unsigned number. -/
theorem unsigned?_digits {limit n : Nat} (h : n ≤ limit) :
    unsigned? limit (Text.digits n) = some n := by
  rw [unsigned?, dropPlus_digits, marked?_digits, Option.bind_none, isPaddedDigits_digits]
  simp only
  rw [if_neg Bool.false_ne_true, digitsIn?, if_neg (Text.digits_ne_nil n), Text.digitsFrom_digits h]

namespace Tree

/-! ## Items -/

/-- Items that begin with the items of some pieces, and what is left behind these. -/
def Shows (items : List Item) (pieces : List Piece) (rest : List Item) : Prop :=
  ∃ front, items = front ++ rest ∧ front.map (·.kind) = pieces.map Piece.item

theorem shows_cons_iff {items : List Item} {p : Piece} {pieces : List Piece} {rest : List Item} :
    Shows items (p :: pieces) rest ↔
      ∃ item more, items = item :: more ∧ item.kind = p.item ∧ Shows more pieces rest := by
  constructor
  · rintro ⟨front, rfl, hfront⟩
    obtain ⟨item, more, rfl, hitem, hmore⟩ := List.map_eq_cons_iff.1 hfront
    exact ⟨item, more ++ rest, rfl, hitem, more, rfl, hmore⟩
  · rintro ⟨item, more, rfl, hitem, front, rfl, hfront⟩
    exact ⟨item :: front, rfl, by rw [List.map_cons, List.map_cons, hitem, hfront]⟩

theorem shows_nil_iff {items rest : List Item} : Shows items [] rest ↔ items = rest := by
  constructor
  · rintro ⟨front, rfl, hfront⟩
    rw [List.map_eq_nil_iff.1 hfront, List.nil_append]
  · rintro rfl
    exact ⟨[], rfl, rfl⟩

theorem shows_append_iff {items : List Item} {pieces pieces' : List Piece} {rest : List Item} :
    Shows items (pieces ++ pieces') rest ↔
      ∃ mid, Shows items pieces mid ∧ Shows mid pieces' rest := by
  induction pieces generalizing items with
  | nil => simp [shows_nil_iff]
  | cons p pieces ih =>
    rw [List.cons_append, shows_cons_iff]
    constructor
    · rintro ⟨item, more, rfl, hitem, hmore⟩
      obtain ⟨mid, hmid, hrest⟩ := ih.1 hmore
      exact ⟨mid, shows_cons_iff.2 ⟨item, more, rfl, hitem, hmid⟩, hrest⟩
    · rintro ⟨mid, hmid, hrest⟩
      obtain ⟨item, more, rfl, hitem, hmore⟩ := shows_cons_iff.1 hmid
      exact ⟨item, more, rfl, hitem, ih.2 ⟨mid, hmore, hrest⟩⟩

/-- A reader takes the items of some pieces and gives a value. -/
def ReadsAs {α : Type} (read : List Item → Read α) (pieces : List Piece) (a : α) : Prop :=
  ∀ items rest, Shows items pieces rest → read items = .ok (a, rest)

/-! ## Scalars -/

variable (t : Tree) (path : List String) (expected : String)

/-- A node that is a scalar is read by itself. -/
theorem readsAs_atTarget {α : Type} {read : Item → Except Error α} {style : Style}
    {cs : List Char} {a : α}
    (h : ∀ m, read ⟨.scalar none style cs, m⟩ = .ok a) :
    ReadsAs (t.atTarget read) [.scalar style cs] a := by
  intro items rest hitems
  obtain ⟨⟨kind, m⟩, more, rfl, hkind, hmore⟩ := shows_cons_iff.1 hitems
  obtain rfl := shows_nil_iff.1 hmore
  obtain rfl : kind = .scalar none style cs := hkind
  show (read ⟨.scalar none style cs, m⟩).map (·, more) = _
  rw [h]
  rfl

/-- Any scalar is read as text. -/
theorem readsAs_text (s : String) (style : Style) :
    ReadsAs (t.text path expected) [.scalar style s.toList] s := by
  refine readsAs_atTarget t fun m => ?_
  show Except.ok (String.ofList s.toList) = _
  rw [String.ofList_toList]

/-- Null is read as the absence of text. -/
theorem readsAs_optionalText_null :
    ReadsAs (t.optionalText path expected) Value.null.pieces none :=
  readsAs_atTarget t fun _ => rfl

/-- Text is not read as its absence. -/
theorem isAbsent_styleOf (cs : List Char) : isAbsent none (styleOf cs) cs = .ok false := by
  obtain ⟨hstyle, -⟩ | ⟨hstyle, htext, -⟩ | ⟨hstyle, -⟩ | hstyle := styleOf_cases cs
  · rw [hstyle]
    rfl
  · have hpresent : (cs.isEmpty || isNullWord cs) = false := by
      rw [Bool.eq_false_iff]
      intro habsent
      rw [Bool.or_eq_true, List.isEmpty_iff] at habsent
      rw [Scalar.ofPlain, if_pos habsent] at htext
      cases htext
    rw [hstyle, isAbsent, if_neg (by simp)]
    simp only [hpresent]
  · rw [hstyle]
    rfl
  · rw [hstyle]
    rfl

theorem readsAs_optionalText_text (s : String) :
    ReadsAs (t.optionalText path expected) (Value.text s).pieces (some s) := by
  refine readsAs_atTarget t fun m => ?_
  simp only [isAbsent_styleOf, ok_bind]
  show Except.ok (some (String.ofList s.toList)) = _
  rw [String.ofList_toList]

/-- A number is read back if it is within the limit. -/
theorem readsAs_number {limit n : Nat} (hn : n ≤ limit) (hlimit : limit ≤ Text.maxU64) :
    ReadsAs (t.number path limit expected) (Value.number n).pieces n := by
  refine readsAs_atTarget t fun m => ?_
  rw [numberAt]
  simp only [unsigned?_digits (Nat.le_trans hn hlimit), true_or, if_true, if_pos hn]

/-! ## Records -/

variable {t path expected} {α : Type}

/-- The fields of a record are read one by one, from a value to another; `set` are the names that
were read before. -/
inductive Sets (fields : Fields α) (path : List String) :
    List String → α → List (String × Value) → α → Prop where
  | nil (set : List String) (a : α) : Sets fields path set a [] a
  | cons {set : List String} {name : String} {v : Value} {a b c : α} {rest : List (String × Value)}
    (hnew : name ∉ set)
    (hfield : ∀ items behind, Shows items v.pieces behind →
      fields.field? name path a items = some (.ok (b, behind)))
    (hrest : Sets fields path (name :: set) b rest c) :
    Sets fields path set a ((name, v) :: rest) c

theorem length_le_fieldPieces (vs : List (String × Value)) :
    vs.length ≤ (Value.fieldPieces vs).length := by
  induction vs with
  | nil => exact Nat.zero_le _
  | cons f vs ih =>
    obtain ⟨name, v⟩ := f
    simp only [Value.fieldPieces, List.length_cons, List.length_append]
    omega

/-- The entries of a map are read if each of its fields is. -/
theorem entries_of_sets {fields : Fields α} {set : List String} {a b : α}
    {vs : List (String × Value)} (h : Sets fields path set a vs b) {items rest : List Item}
    (hitems : Shows items (Value.fieldPieces vs ++ [.mapEnd]) rest) {fuel : Nat}
    (hfuel : vs.length < fuel) : t.entries fields path fuel set a items = .ok (b, rest) := by
  induction h generalizing items fuel with
  | nil set a =>
    obtain ⟨item, more, rfl, hitem, hmore⟩ := shows_cons_iff.1 hitems
    obtain rfl := shows_nil_iff.1 hmore
    obtain ⟨fuel, rfl⟩ := Nat.exists_eq_add_one_of_ne_zero (Nat.ne_of_gt hfuel)
    rw [entries, hitem]
    rfl
  | @cons set name v a b c vs hnew hfield hrest ih =>
    obtain ⟨fuel, rfl⟩ := Nat.exists_eq_add_one_of_ne_zero (Nat.ne_of_gt (Nat.zero_lt_of_lt hfuel))
    rw [Value.fieldPieces, List.cons_append, List.append_assoc] at hitems
    obtain ⟨item, more, rfl, hitem, hmore⟩ := shows_cons_iff.1 hitems
    obtain ⟨behind, hvalue, hbehind⟩ := shows_append_iff.1 hmore
    have hname : t.text path "field identifier" (item :: more) = .ok (name, more) :=
      readsAs_text t path _ name .plain _ _
        (shows_cons_iff.2 ⟨item, more, rfl, hitem, shows_nil_iff.2 rfl⟩)
    have hread := ih hbehind (Nat.lt_of_succ_lt_succ hfuel)
    rw [entries, hitem, hname]
    simp only [Piece.item, ok_bind, hfield more behind hvalue, if_neg hnew]
    exact hread

/-- **A record is read back** if each of its fields is. -/
theorem readsAs_record {fields : Fields α} {vs : List (String × Value)} {a : α}
    (h : Sets fields path [] fields.initial vs a) :
    ReadsAs (t.record fields path) (Value.record vs).pieces a := by
  intro items rest hitems
  obtain ⟨item, more, rfl, hitem, hmore⟩ := shows_cons_iff.1 hitems
  obtain ⟨front, hfront, hkinds⟩ := hmore
  have hlength : vs.length < more.length + 1 := by
    have hpieces := congrArg List.length hkinds
    simp only [List.length_map, List.length_append, List.length_singleton] at hpieces
    have hfields := length_le_fieldPieces vs
    rw [hfront, List.length_append]
    omega
  have hread : t.entries fields path (more.length + 1) [] fields.initial more = .ok (a, rest) :=
    entries_of_sets h ⟨front, hfront, hkinds⟩ hlength
  rw [record]
  simp only [hitem, Piece.item, hread]
  rfl

/-- **A printed record is read back** as a whole text if each of its fields is. -/
theorem whole_ofText_print {name : String} {v : Value} {vs : List (String × Value)}
    (hnamed : Value.AreNamed ((name, v) :: vs)) {fields : Tree → Fields α} {a : α}
    (h : ∀ t, Sets (fields t) [] [] (fields t).initial ((name, v) :: vs) a) :
    (ofText (print ((name, v) :: vs))).whole (fields (ofText (print ((name, v) :: vs)))) =
      .ok a := by
  obtain ⟨items, htree, hitems⟩ := ofText_print hnamed
  rw [htree]
  have hshows : Shows items (Value.record ((name, v) :: vs)).pieces [] :=
    ⟨items, (List.append_nil items).symm, hitems⟩
  have hread := readsAs_record (t := ⟨items, none, [], false⟩) (h ⟨items, none, [], false⟩)
    items [] hshows
  obtain ⟨item, more, rfl, -, -⟩ := shows_cons_iff.1 hshows
  rw [whole, if_neg (by simp [isVoid])]
  simp only [hread]
  rfl

end Tree

end Courier.Yaml
