import Courier.Table

/-!
# Tables and their entries

A table is known by what its names answer.  So a table of entries does not show in which order they
arrived, and of several entries of one name it shows the last one.

* `Table.mem_iff_find?` — the entries are what the names answer.
* `Table.ext_find?` — tables that answer alike are the same.
* `Table.mem_ofList_iff`, `Table.ofList_eq_of_perm` — a table of entries has them all, and does not
  show their order.
-/

namespace Courier

variable {α : Type}

theorem Entries.Increasing.mem_iff_find? {entries : List (String × α)}
    (h : Entries.Increasing entries) (e : String × α) :
    e ∈ entries ↔ Entries.find? e.1 entries = some e.2 := by
  induction entries with
  | nil => simp [find?]
  | cons first rest ih =>
    obtain ⟨other, old⟩ := first
    obtain ⟨hfirst, hrest⟩ := List.pairwise_cons.1 h
    obtain ⟨name, value⟩ := e
    by_cases hname : name = other
    · subst hname
      have hlater : (name, value) ∉ rest := fun he => String.lt_irrefl name (hfirst _ he)
      simp [find?, hlater, eq_comm]
    · simp [find?, hname, ih hrest]

/-- Entries in order are distinct, and so are their names. -/
theorem Entries.Increasing.nodup {entries : List (String × α)} (h : Entries.Increasing entries) :
    entries.Nodup := by
  refine List.Pairwise.imp ?_ h
  rintro a b hlt rfl
  exact String.lt_irrefl _ hlt

theorem Entries.Increasing.nodup_names {entries : List (String × α)}
    (h : Entries.Increasing entries) : (entries.map Prod.fst).Nodup := by
  refine List.pairwise_map.2 (List.Pairwise.imp ?_ h)
  intro a b hlt heq
  exact String.lt_irrefl a.1 (heq ▸ hlt)

namespace Table

variable {t t' : Table α}

/-! ## What names answer -/

/-- The entries of a table are what its names answer. -/
theorem mem_iff_find? (t : Table α) (e : String × α) : e ∈ t ↔ t.find? e.1 = some e.2 :=
  t.increasing.mem_iff_find? e

/-- The one value of a name. -/
theorem mem_iff_of_find? {name : String} {value : α} (h : t.find? name = some value) (v : α) :
    (name, v) ∈ t ↔ v = value := by
  rw [mem_iff_find?, h, Option.some.injEq, eq_comm]

/-- Tables that have the same entries are the same. -/
theorem eq_of_mem_iff (hmem : ∀ e, e ∈ t ↔ e ∈ t') : t = t' := by
  have hperm : t.entries.Perm t'.entries :=
    (List.perm_ext_iff_of_nodup t.increasing.nodup t'.increasing.nodup).2 hmem
  exact Table.ext (hperm.eq_of_pairwise
    (fun a b _ _ hab hba => absurd (String.lt_trans hab hba) (String.lt_irrefl _))
    t.increasing t'.increasing)

/-- Tables that answer alike are the same. -/
theorem ext_find? (hfind : ∀ key, t.find? key = t'.find? key) : t = t' := by
  refine eq_of_mem_iff fun e => ?_
  rw [mem_iff_find?, mem_iff_find?, hfind]

/-! ## Tables of entries -/

theorem find?_foldl_insert (key : String) (entries : List (String × α)) (t : Table α) :
    (entries.foldl (fun table e => table.insert e.1 e.2) t).find? key =
      (entries.reverse.lookup key).or (t.find? key) := by
  induction entries generalizing t with
  | nil => rfl
  | cons e entries ih =>
    rw [List.foldl_cons, ih, find?_insert, List.reverse_cons, List.lookup_append, Option.or_assoc]
    by_cases hkey : key = e.1
    · rw [if_pos hkey, hkey, List.lookup_cons_self, Option.some_or]
    · rw [if_neg hkey, List.lookup_cons, beq_eq_false_iff_ne.2 hkey, List.lookup_nil,
        Option.none_or]

/-- In a table of entries, the last entry of a name stands. -/
theorem find?_ofList (key : String) (entries : List (String × α)) :
    (ofList entries).find? key = entries.reverse.lookup key := by
  rw [ofList, find?_foldl_insert, find?_empty, Option.or_none]

/-- If no name comes twice, a table of entries has all of them and no others. -/
theorem mem_ofList_iff {entries : List (String × α)} (h : (entries.map Prod.fst).Nodup)
    (e : String × α) : e ∈ ofList entries ↔ e ∈ entries := by
  rw [mem_iff_find?, find?_ofList, List.lookup_eq_some_iff]
  constructor
  · rintro ⟨front, rest, hsplit, -⟩
    rw [← List.mem_reverse, hsplit]
    simp
  · intro he
    obtain ⟨front, rest, hsplit⟩ := List.append_of_mem (List.mem_reverse.2 he)
    refine ⟨front, rest, hsplit, ?_⟩
    intro p hp
    have hnodup : ((front ++ e :: rest).map Prod.fst).Nodup := by
      rw [← hsplit, List.map_reverse]
      exact (List.reverse_perm _).nodup_iff.2 h
    rw [List.map_append, List.nodup_append] at hnodup
    simpa using (hnodup.2.2 p.1 (List.mem_map_of_mem hp) e.1 (by simp)).symm

/-- The order in which entries arrive leaves no trace in their table. -/
theorem ofList_eq_of_perm {entries entries' : List (String × α)}
    (h : (entries.map Prod.fst).Nodup) (hperm : entries.Perm entries') :
    ofList entries = ofList entries' := by
  have h' : (entries'.map Prod.fst).Nodup := (hperm.map Prod.fst).nodup_iff.1 h
  refine eq_of_mem_iff fun e => ?_
  rw [mem_ofList_iff h, mem_ofList_iff h', hperm.mem_iff]

/-- A table is the table of its entries. -/
theorem ofList_entries (t : Table α) : ofList t.entries = t :=
  eq_of_mem_iff (mem_ofList_iff t.increasing.nodup_names)

end Table

end Courier
