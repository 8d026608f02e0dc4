/-!
# Tables ordered by name

A table is a list of entries with the proof that their names increase strictly, so that two tables
with the same entries are equal and the order in which entries arrive leaves no trace.  Names are
compared by code point, which is also the order of their UTF-8 bytes.
-/

namespace Courier

/-! ## Entries -/

namespace Entries

variable {α : Type}

/-- Puts a value under a name; an earlier value of the name is replaced. -/
def insert (name : String) (value : α) : List (String × α) → List (String × α)
  | [] => [(name, value)]
  | (other, old) :: rest =>
    if name < other then (name, value) :: (other, old) :: rest
    else if name = other then (name, value) :: rest
    else (other, old) :: insert name value rest

/-- The value under a name. -/
def find? (name : String) : List (String × α) → Option α
  | [] => none
  | (other, value) :: rest => if name = other then some value else find? name rest

/-- Whether names increase strictly. -/
def Increasing (entries : List (String × α)) : Prop := entries.Pairwise fun a b => a.1 < b.1

instance (entries : List (String × α)) : Decidable (Increasing entries) :=
  inferInstanceAs (Decidable (entries.Pairwise _))

theorem find?_insert_self (name : String) (value : α) (entries : List (String × α)) :
    find? name (insert name value entries) = some value := by
  induction entries with
  | nil => simp [insert, find?]
  | cons e rest ih =>
    obtain ⟨other, old⟩ := e
    by_cases h : name < other
    · simp [insert, find?, h]
    · by_cases he : name = other
      · simp [insert, find?, he]
      · simp [insert, find?, h, he, ih]

theorem find?_insert_of_ne {name key : String} (value : α) (entries : List (String × α))
    (hne : key ≠ name) : find? key (insert name value entries) = find? key entries := by
  induction entries with
  | nil => simp [insert, find?, hne]
  | cons e rest ih =>
    obtain ⟨other, old⟩ := e
    by_cases h : name < other
    · simp [insert, find?, h, hne]
    · by_cases he : name = other
      · subst he; simp [insert, find?, hne]
      · simp [insert, find?, h, he, ih]

/-- The entries after setting one are those before and the new one. -/
theorem mem_insert {name : String} {value : α} {entries : List (String × α)} {e : String × α}
    (h : e ∈ insert name value entries) : e = (name, value) ∨ e ∈ entries := by
  induction entries with
  | nil => simpa [insert] using h
  | cons first rest ih =>
    obtain ⟨other, old⟩ := first
    rw [insert] at h
    split at h
    · simpa using h
    · split at h
      · rcases List.mem_cons.1 h with h | h
        · exact Or.inl h
        · exact Or.inr (List.mem_cons_of_mem _ h)
      · rcases List.mem_cons.1 h with h | h
        · exact Or.inr (by simp [h])
        · rcases ih h with h | h
          · exact Or.inl h
          · exact Or.inr (List.mem_cons_of_mem _ h)

/-- Setting an entry keeps entries in order. -/
theorem Increasing.insert {entries : List (String × α)} (h : Increasing entries) (name : String)
    (value : α) : Increasing (insert name value entries) := by
  induction entries with
  | nil => simp [Entries.insert, Increasing]
  | cons first rest ih =>
    obtain ⟨other, old⟩ := first
    obtain ⟨hfirst, hrest⟩ := List.pairwise_cons.1 h
    rw [Entries.insert]
    split
    · rename_i hlt
      refine List.pairwise_cons.2 ⟨?_, h⟩
      intro e he
      rcases List.mem_cons.1 he with rfl | he
      · exact hlt
      · exact String.lt_trans hlt (hfirst e he)
    · rename_i hge
      split
      · rename_i heq
        subst heq
        exact List.pairwise_cons.2 ⟨hfirst, hrest⟩
      · rename_i hne
        refine List.pairwise_cons.2 ⟨?_, ih hrest⟩
        intro e he
        rcases mem_insert he with rfl | he
        · have hle : other ≤ name := String.not_lt.1 hge
          exact String.not_le.1 fun hle' => hne (String.le_antisymm hle' hle)
        · exact hfirst e he

end Entries

/-! ## Tables -/

/-- Entries in increasing order of names. -/
@[ext]
structure Table (α : Type) where
  entries : List (String × α)
  increasing : Entries.Increasing entries
  deriving DecidableEq

namespace Table

variable {α : Type}

/-- The table without entries. -/
def empty : Table α := ⟨[], .nil⟩

instance : EmptyCollection (Table α) := ⟨empty⟩

instance : Membership (String × α) (Table α) := ⟨fun t e => e ∈ t.entries⟩

/-- Puts a value under a name; an earlier value of the name is replaced. -/
def insert (t : Table α) (name : String) (value : α) : Table α :=
  ⟨Entries.insert name value t.entries, t.increasing.insert name value⟩

/-- The value under a name. -/
def find? (t : Table α) (name : String) : Option α := Entries.find? name t.entries

/-- The names of a table. -/
def names (t : Table α) : List String := t.entries.map Prod.fst

/-- Whether a table has no entries. -/
def isEmpty (t : Table α) : Bool := t.entries.isEmpty

/-- The entries for which `p` holds. -/
def filter (t : Table α) (p : String × α → Bool) : Table α :=
  ⟨t.entries.filter p, t.increasing.filter p⟩

/-- The table of some entries, the last one of a name standing. -/
def ofList (entries : List (String × α)) : Table α :=
  entries.foldl (fun t e => t.insert e.1 e.2) ∅

@[simp] theorem entries_empty : (∅ : Table α).entries = [] := rfl

@[simp] theorem mem_mk {entries : List (String × α)} {h : Entries.Increasing entries}
    {e : String × α} : e ∈ (⟨entries, h⟩ : Table α) ↔ e ∈ entries := Iff.rfl

@[simp] theorem not_mem_empty (e : String × α) : e ∉ (∅ : Table α) := List.not_mem_nil

@[simp] theorem isEmpty_iff {t : Table α} : t.isEmpty ↔ t = ∅ := by
  rw [isEmpty, List.isEmpty_iff, Table.ext_iff, entries_empty]

@[simp] theorem find?_empty (name : String) : (∅ : Table α).find? name = none := rfl

/-- A table answers what was put last under a name. -/
theorem find?_insert (t : Table α) (name key : String) (value : α) :
    (t.insert name value).find? key = if key = name then some value else t.find? key := by
  by_cases h : key = name
  · rw [if_pos h, h]
    exact Entries.find?_insert_self name value t.entries
  · rw [if_neg h]
    exact Entries.find?_insert_of_ne value t.entries h

theorem mem_insert {t : Table α} {name : String} {value : α} {e : String × α}
    (h : e ∈ t.insert name value) : e = (name, value) ∨ e ∈ t := Entries.mem_insert h

end Table

end Courier
