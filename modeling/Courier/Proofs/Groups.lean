import Courier.CommandLine.Options
import Courier.Proofs.Result
import Mathlib.Data.List.Forall2
import Mathlib.Data.List.Perm.Basic
import Mathlib.Data.List.TakeWhile

/-!
# Option groups

A list of options is one group after another, each a flag with its value if it takes one.  Where a
group ends is seen from its flag alone, so that a value may look like a flag.  The configuration
file is found by a scan that knows nothing of groups; it finds the value of a group nevertheless,
because no value of another flag that is accepted looks like the flag of the file.

* `readGroups_eq_ok_iff` — an accepted list is a list of groups, each of which can be read.
* `valueBehind?_of_reads` — the scan finds the first configuration file that a group names.
* `Reordered` — groups in another order, those of one slot in the same.
* `filter_eq_of_reordered` — **what is read of a slot** does not depend on the order of slots.
-/

namespace Courier.CommandLine

open Result (bind_eq_ok_iff map_eq_ok_iff ok_bind)

/-! ## Flags -/

/-- The text of a flag that takes a value. -/
def ValueFlag.text : ValueFlag → String
  | .param => "--param"
  | .header => "--header"
  | .apiVersion => "--api-version"
  | .config => configFlag

theorem valueFlag?_text (flag : ValueFlag) : valueFlag? flag.text = some flag := by
  cases flag <;> decide

theorem eq_text_of_valueFlag? {argument : String} {flag : ValueFlag}
    (h : valueFlag? argument = some flag) : argument = flag.text := by
  unfold valueFlag? at h
  repeat' split at h
  all_goals cases h
  all_goals assumption

/-! ## Groups as they are written -/

/-- A group as it is written: a flag, with its value if it takes one. -/
inductive WrittenGroup where
  | valued (flag : ValueFlag) (value : String)
  | noAuth
  | noRetry
  deriving DecidableEq

namespace WrittenGroup

/-- The arguments of a group. -/
def arguments : WrittenGroup → List String
  | .valued flag value => [flag.text, value]
  | .noAuth => ["--no-auth"]
  | .noRetry => ["--no-retry"]

/-- What a group says, or what is wrong with it. -/
def read : WrittenGroup → Except Misuse Group
  | .valued flag value => readGroup flag value
  | .noAuth => .ok .noAuth
  | .noRetry => .ok .noRetry

end WrittenGroup

theorem exists_written_of_bareFlag? {argument : String} {group : Group}
    (h : bareFlag? argument = some group) :
    ∃ w : WrittenGroup, w.arguments = [argument] ∧ w.read = .ok group := by
  unfold bareFlag? at h
  split at h
  · rename_i hflag
    cases h
    exact ⟨.noAuth, by rw [hflag]; rfl, rfl⟩
  · split at h
    · rename_i hflag
      cases h
      exact ⟨.noRetry, by rw [hflag]; rfl, rfl⟩
    · cases h

/-! ## Reading lists of groups -/

/-- What a list of groups says, one by one. -/
abbrev Reads (ws : List WrittenGroup) (groups : List Group) : Prop :=
  List.Forall₂ (fun w group => w.read = .ok group) ws groups

/-- A flag that stands alone is read, and then the others. -/
theorem readGroups_cons_of_bareFlag? {argument : String} {group : Group}
    (hvalued : valueFlag? argument = none) (hbare : bareFlag? argument = some group)
    (rest : List String) :
    readGroups (argument :: rest) = readGroups rest >>= fun groups => .ok (group :: groups) := by
  rw [readGroups]
  simp only [hvalued, hbare]
  cases readGroups rest <;> rfl

/-- The first group is read, and then the others. -/
theorem readGroups_append (w : WrittenGroup) (rest : List String) :
    readGroups (w.arguments ++ rest) =
      w.read >>= fun group => readGroups rest >>= fun groups => .ok (group :: groups) := by
  cases w with
  | valued flag value =>
    rw [WrittenGroup.arguments, List.cons_append, List.cons_append, List.nil_append, readGroups]
    simp only [valueFlag?_text]
    rfl
  | noAuth => exact readGroups_cons_of_bareFlag? (by decide) (by simp [bareFlag?]) rest
  | noRetry => exact readGroups_cons_of_bareFlag? (by decide) (by simp [bareFlag?]) rest

/-- A list of groups is read group by group. -/
theorem readGroups_flatMap_eq_ok_iff {ws : List WrittenGroup} {groups : List Group} :
    readGroups (ws.flatMap WrittenGroup.arguments) = .ok groups ↔ Reads ws groups := by
  induction ws generalizing groups with
  | nil => simp [readGroups, Reads, eq_comm]
  | cons w ws ih =>
    rw [List.flatMap_cons, readGroups_append, Reads, List.forall₂_cons_left_iff]
    constructor
    · intro h
      obtain ⟨group, hfirst, h⟩ := bind_eq_ok_iff.1 h
      obtain ⟨rest, hrest, h⟩ := bind_eq_ok_iff.1 h
      exact ⟨group, rest, hfirst, ih.1 hrest, (Except.ok.inj h).symm⟩
    · rintro ⟨group, rest, hfirst, hrest, rfl⟩
      rw [hfirst, ok_bind, ih.2 hrest, ok_bind]

/-- **An accepted list** is a list of groups, each of which can be read. -/
theorem readGroups_eq_ok_iff {options : List String} {groups : List Group} :
    readGroups options = .ok groups ↔
      ∃ ws : List WrittenGroup, options = ws.flatMap WrittenGroup.arguments ∧ Reads ws groups := by
  constructor
  · intro h
    suffices hwritten : ∃ ws : List WrittenGroup, options = ws.flatMap WrittenGroup.arguments by
      obtain ⟨ws, rfl⟩ := hwritten
      exact ⟨ws, rfl, readGroups_flatMap_eq_ok_iff.1 h⟩
    induction options using readGroups.induct generalizing groups with
    | case1 => exact ⟨[], rfl⟩
    | case2 argument flag hflag =>
      simp [readGroups, hflag] at h
    | case3 argument flag hflag value rest ih =>
      rw [readGroups] at h
      simp only [hflag] at h
      obtain ⟨group, -, h⟩ := bind_eq_ok_iff.1 h
      obtain ⟨later, hlater, -⟩ := bind_eq_ok_iff.1 h
      obtain ⟨ws, rfl⟩ := ih hlater
      exact ⟨.valued flag value :: ws, by rw [eq_text_of_valueFlag? hflag]; rfl⟩
    | case4 argument rest hflag group hbare ih =>
      rw [readGroups] at h
      simp only [hflag, hbare] at h
      obtain ⟨later, hlater, -⟩ := map_eq_ok_iff.1 h
      obtain ⟨ws, rfl⟩ := ih hlater
      obtain ⟨w, harguments, -⟩ := exists_written_of_bareFlag? hbare
      exact ⟨w :: ws, by rw [List.flatMap_cons, harguments, List.singleton_append]⟩
    | case5 argument rest hflag hbare =>
      simp [readGroups, hflag, hbare] at h
  · rintro ⟨ws, rfl, hreads⟩
    exact readGroups_flatMap_eq_ok_iff.2 hreads

/-! ## Slots -/

/-- **A pair is split** at its first equals sign, in front of which there must be something. -/
theorem splitPair?_eq_some_iff {cs key value : List Char} :
    splitPair? cs = some (key, value) ↔ key ≠ [] ∧ '=' ∉ key ∧ cs = key ++ '=' :: value := by
  constructor
  · intro h
    unfold splitPair? at h
    split at h
    · rename_i behind hbehind
      simp only at h
      split at h
      · cases h
      · rename_i hkey
        cases h
        refine ⟨hkey, ?_, ?_⟩
        · intro hmem
          simpa using List.mem_takeWhile_imp hmem
        · rw [← hbehind, List.takeWhile_append_dropWhile]
    · cases h
  · rintro ⟨hkey, hsign, rfl⟩
    have hall : ∀ c ∈ key, (c != '=') = true := fun c hc =>
      bne_iff_ne.2 fun heq => hsign (heq ▸ hc)
    rw [splitPair?, List.dropWhile_append_of_pos hall, List.takeWhile_append_of_pos hall]
    simp [hkey]

theorem readPair_eq_ok_iff {text key value : String} :
    readPair text = .ok (key, value) ↔
      key.toList ≠ [] ∧ '=' ∉ key.toList ∧ text.toList = key.toList ++ '=' :: value.toList := by
  rw [← splitPair?_eq_some_iff, readPair]
  cases splitPair? text.toList with
  | none => exact ⟨nofun, nofun⟩
  | some p =>
    obtain ⟨k, v⟩ := p
    simp only [Except.ok.injEq, Prod.mk.injEq, Option.some.injEq]
    constructor
    · rintro ⟨rfl, rfl⟩
      exact ⟨String.toList_ofList.symm, String.toList_ofList.symm⟩
    · rintro ⟨rfl, rfl⟩
      exact ⟨String.ofList_toList, String.ofList_toList⟩

/-- What stands in front of the first equals sign. -/
def keyOf (text : String) : String := String.ofList (text.toList.takeWhile (· != '='))

/-- A pair has its key in front of an equals sign. -/
theorem readPair_key {text : String} {p : String × String} (h : readPair text = .ok p) :
    p.1 = keyOf text ∧ '=' ∈ text.toList := by
  unfold readPair splitPair? at h
  split at h
  · rename_i key value hsplit
    cases h
    split at hsplit
    · rename_i behind hbehind
      simp only at hsplit
      split at hsplit
      · cases hsplit
      · cases hsplit
        exact ⟨rfl, List.dropWhile_subset _ (hbehind ▸ List.mem_cons_self)⟩
    · cases hsplit
  · cases h

/-- What a group is about: its flag and, for parameters and headers, its key. -/
inductive Slot where
  | param (key : String)
  | header (key : String)
  | apiVersion
  | config
  | noAuth
  | noRetry
  deriving DecidableEq

/-- The slot of a group as it is written. -/
def WrittenGroup.slot : WrittenGroup → Slot
  | .valued .param value => .param (keyOf value)
  | .valued .header value => .header (keyOf value)
  | .valued .apiVersion _ => .apiVersion
  | .valued .config _ => .config
  | .noAuth => .noAuth
  | .noRetry => .noRetry

/-- The slot of a group that has been read. -/
def Group.slot : Group → Slot
  | .param key _ => .param key
  | .header key _ => .header key
  | .apiVersion _ => .apiVersion
  | .config _ => .config
  | .noAuth => .noAuth
  | .noRetry => .noRetry

/-- Reading keeps the slot. -/
theorem slot_of_read {w : WrittenGroup} {group : Group} (h : w.read = .ok group) :
    group.slot = w.slot := by
  cases w with
  | valued flag value =>
    rw [WrittenGroup.read] at h
    cases flag with
    | param =>
      obtain ⟨p, hp, rfl⟩ := map_eq_ok_iff.1 h
      exact congrArg Slot.param (readPair_key hp).1
    | header =>
      obtain ⟨p, hp, rfl⟩ := map_eq_ok_iff.1 h
      exact congrArg Slot.header (readPair_key hp).1
    | apiVersion =>
      rw [readGroup] at h
      split at h
      · cases h
        rfl
      · cases h
    | config =>
      cases h
      rfl
  | noAuth =>
    cases h
    rfl
  | noRetry =>
    cases h
    rfl

/-! ## The configuration file -/

/-- The configuration file that a group names. -/
def Group.config? : Group → Option String
  | .config path => some path
  | _ => none

theorem Group.config?_eq_none_iff {g : Group} : g.config? = none ↔ g.slot ≠ .config := by
  cases g <;> simp [Group.config?, Group.slot]

/-- No accepted value of another flag looks like the flag of the file: parameters and headers have
an equals sign, and versions have digits. -/
theorem ne_configFlag_of_readGroup {flag : ValueFlag} {value : String} {group : Group}
    (h : readGroup flag value = .ok group) (hflag : flag ≠ .config) : value ≠ configFlag := by
  have hpair : ∀ p, readPair value = .ok p → value ≠ configFlag := by
    rintro p hp rfl
    exact absurd (readPair_key hp).2 (by decide)
  cases flag with
  | param =>
    obtain ⟨p, hp, -⟩ := map_eq_ok_iff.1 h
    exact hpair p hp
  | header =>
    obtain ⟨p, hp, -⟩ := map_eq_ok_iff.1 h
    exact hpair p hp
  | apiVersion =>
    have hnumeral : Text.numeral32 configFlag.toList = .error .invalidDigit := by decide
    rintro rfl
    simp [readGroup, hnumeral] at h
  | config => exact absurd rfl hflag

theorem valueBehind?_cons_of_ne {argument flag : String} (h : argument ≠ flag)
    (rest : List String) : valueBehind? flag (argument :: rest) = valueBehind? flag rest := by
  rw [valueBehind?, if_neg h]

/-- **The scan for the configuration file** finds the first one that a group names. -/
theorem valueBehind?_of_reads {ws : List WrittenGroup} {groups : List Group}
    (h : Reads ws groups) :
    valueBehind? configFlag (ws.flatMap WrittenGroup.arguments) =
      (groups.filterMap Group.config?).head? := by
  induction h with
  | nil => rfl
  | @cons w group ws groups hread _ ih =>
    rw [List.flatMap_cons]
    cases w with
    | valued flag value =>
      by_cases hflag : flag = .config
      · subst hflag
        cases hread
        rfl
      · have htext : flag.text ≠ configFlag := by
          cases flag with
          | config => exact absurd rfl hflag
          | _ => decide
        have hslot : group.slot ≠ .config := by
          rw [slot_of_read hread]
          cases flag with
          | config => exact absurd rfl hflag
          | _ => nofun
        rw [WrittenGroup.arguments, List.cons_append, List.cons_append, List.nil_append,
          valueBehind?_cons_of_ne htext,
          valueBehind?_cons_of_ne (ne_configFlag_of_readGroup hread hflag), ih,
          List.filterMap_cons_none (Group.config?_eq_none_iff.2 hslot)]
    | noAuth =>
      cases hread
      rw [WrittenGroup.arguments, List.singleton_append, valueBehind?_cons_of_ne (by decide), ih]
      rfl
    | noRetry =>
      cases hread
      rw [WrittenGroup.arguments, List.singleton_append, valueBehind?_cons_of_ne (by decide), ih]
      rfl

/-! ## Other orders -/

/-- Groups in another order, in which groups of one slot follow one another as before. -/
structure Reordered (ws ws' : List WrittenGroup) : Prop where
  perm : ws.Perm ws'
  order : ∀ slot, ws.filter (·.slot = slot) = ws'.filter (·.slot = slot)

/-- Two neighbours of different slots may change places. -/
theorem Reordered.swap {w w' : WrittenGroup} (h : w.slot ≠ w'.slot)
    (front rest : List WrittenGroup) :
    Reordered (front ++ w :: w' :: rest) (front ++ w' :: w :: rest) where
  perm := (List.Perm.swap w' w rest).append_left front
  order slot := by
    rw [List.filter_append, List.filter_append, List.filter_cons, List.filter_cons,
      List.filter_cons, List.filter_cons]
    by_cases hw : w.slot = slot
    · have hw' : w'.slot ≠ slot := fun heq => h (hw.trans heq.symm)
      simp [hw, hw']
    · simp [hw]

theorem Reordered.trans {ws ws' ws'' : List WrittenGroup} (h : Reordered ws ws')
    (h' : Reordered ws' ws'') : Reordered ws ws'' :=
  ⟨h.perm.trans h'.perm, fun slot => (h.order slot).trans (h'.order slot)⟩

/-- Groups that can be read can be read in any order. -/
theorem exists_reads_of_perm {ws ws' : List WrittenGroup} (hperm : ws.Perm ws')
    {groups : List Group} (h : Reads ws groups) : ∃ groups', Reads ws' groups' := by
  obtain ⟨groups', hreads, -⟩ := List.perm_comp_forall₂ hperm.symm h
  exact ⟨groups', hreads⟩

theorem Reads.filter {ws : List WrittenGroup} {groups : List Group} (h : Reads ws groups)
    (slot : Slot) : Reads (ws.filter (·.slot = slot)) (groups.filter (·.slot = slot)) := by
  refine List.rel_filter ?_ h
  intro w group hread
  show decide (w.slot = slot) = true ↔ decide (group.slot = slot) = true
  rw [slot_of_read hread]

theorem Reads.unique {ws : List WrittenGroup} {groups groups' : List Group} (h : Reads ws groups)
    (h' : Reads ws groups') : groups = groups' := by
  refine List.right_unique_forall₂' ?_ h h'
  intro w group group' hread hread'
  exact Except.ok.inj (hread.symm.trans hread')

/-- **What is read of a slot** is the same in another order. -/
theorem filter_eq_of_reordered {ws ws' : List WrittenGroup} (h : Reordered ws ws')
    {groups groups' : List Group} (hreads : Reads ws groups) (hreads' : Reads ws' groups')
    (slot : Slot) : groups.filter (·.slot = slot) = groups'.filter (·.slot = slot) := by
  have hfilter := hreads.filter slot
  rw [h.order slot] at hfilter
  exact hfilter.unique (hreads'.filter slot)

end Courier.CommandLine
