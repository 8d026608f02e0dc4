import Courier.Proofs.Numerals
import Courier.Proofs.Offenders

/-!
# Values that cannot break a header

A header value is bytes without controls other than the tab.  The compact text of a JSON value
escapes the controls of C0 within strings, but not U+007F, and has none of its own; so a value with
parts can break a header only through that one character, and a string through every control.

* `Http.isValue_iff` — a header value, told of its characters.
* `Json.Value.texts` — the strings and names in a value, at any depth.
* `Json.Value.isValue_compactText_iff` — **which compact texts are header values**.
* `Plan.header_cannot_be_broken` — **which values are refused**, and that no plan has a header that
  could be taken for two.
-/

namespace Courier

open Text.Utf8 (bytesOf encode encodeChar byte)

/-! ## Characters of a header value -/

namespace Http

/-- A character that breaks a header: a control of C0 other than the tab, or U+007F. -/
def Breaks (c : Char) : Prop := c.toNat < 0x20 ∧ c ≠ '\t' ∨ c = '\x7f'

instance : DecidablePred Breaks := fun c =>
  inferInstanceAs (Decidable (c.toNat < 0x20 ∧ c ≠ '\t' ∨ c = '\x7f'))

theorem isValueByte_iff {b : UInt8} :
    isValueByte b = true ↔ (0x20 ≤ b ∨ b = 0x09) ∧ b ≠ 0x7F := by
  have htab : (0x09 : UInt8) ≠ 0x7F := by decide
  by_cases hb : b = 0x09
  · subst hb
    exact iff_of_true rfl ⟨Or.inr rfl, htab⟩
  · simp [isValueByte, hb]

/-- The bytes of a character can stand in a header unless the character breaks it. -/
theorem all_isValueByte_encodeChar (c : Char) :
    (encodeChar c).all isValueByte = true ↔ ¬Breaks c := by
  by_cases hone : c.toNat < 0x80
  · have hbyte : (byte c.toNat).toNat = c.toNat := Text.Utf8.toNat_byte (by omega)
    have htab : c = '\t' ↔ c.toNat = 9 := Char.toNat_inj.symm
    have hdelete : c = '\x7f' ↔ c.toNat = 0x7F := Char.toNat_inj.symm
    rw [Text.Utf8.encodeChar_of_lt hone, List.all_cons, List.all_nil, Bool.and_true]
    simp only [isValueByte_iff, Breaks, ne_eq, htab, hdelete, UInt8.le_iff_toNat_le,
      ← UInt8.toNat_inj, hbyte]
    show (0x20 ≤ _ ∨ _ = 9) ∧ ¬_ = 0x7F ↔ _
    omega
  · have hhigh : ¬Breaks c := by
      rintro (⟨hlow, -⟩ | rfl)
      · omega
      · exact hone (by decide)
    refine iff_of_true (List.all_eq_true.2 fun b hb => ?_) hhigh
    have hb : 0x80 ≤ b.toNat := by
      rcases Text.Utf8.mem_encodeChar hb with ⟨-, hlow⟩ | hb
      · exact absurd hlow hone
      · exact hb
    simp only [isValueByte_iff, ne_eq, UInt8.le_iff_toNat_le, ← UInt8.toNat_inj]
    show (0x20 ≤ _ ∨ _ = 9) ∧ ¬_ = 0x7F
    omega

/-- **A header value** has no character that breaks a header. -/
theorem isValue_iff {s : String} : isValue s = true ↔ ∀ c ∈ s.toList, ¬Breaks c := by
  simp only [isValue, bytesOf, encode, List.all_flatMap, List.all_eq_true (l := s.toList),
    all_isValueByte_encodeChar]

end Http

/-! ## Compact texts -/

namespace Json

open Http (Breaks)

/-- What numbers are written with: digits, a point, a power of ten and signs. -/
def isNumberChar (c : Char) : Bool :=
  Text.isDigit c || c == '.' || c == 'e' || c == '+' || c == '-'

theorem isNumberChar_of_isDigit {c : Char} (h : Text.isDigit c = true) : isNumberChar c = true := by
  simp [isNumberChar, h]

theorem not_breaks_of_isNumberChar {c : Char} (h : isNumberChar c = true) : ¬Breaks c := by
  simp only [isNumberChar, Bool.or_eq_true, beq_iff_eq] at h
  rcases h with (((hdigit | rfl) | rfl) | rfl) | rfl
  · obtain ⟨hlow, hhigh⟩ := Text.isDigit_iff.1 hdigit
    rintro (⟨hcontrol, -⟩ | rfl)
    · omega
    · exact absurd hhigh (by decide)
  all_goals decide

theorem signedDigits_chars (n : Int) : ∀ c ∈ Text.signedDigits n, isNumberChar c = true := by
  intro c hc
  unfold Text.signedDigits at hc
  split at hc
  · rcases List.mem_cons.1 hc with rfl | hc
    · rfl
    · exact isNumberChar_of_isDigit (Text.isDigit_of_mem_digits hc)
  · exact isNumberChar_of_isDigit (Text.isDigit_of_mem_digits hc)

/-- The shortest digits of a number are digits. -/
theorem isDigit_of_mem_shortest {x : Binary64} {c : Char} (h : c ∈ x.digits.list) :
    Text.isDigit c = true := by
  unfold Binary64.digits at h
  exact Text.isDigit_of_mem_digits
    (List.mem_reverse.1 ((List.dropWhile_sublist _).mem (List.mem_reverse.1 h)))

theorem positional_chars {d : Binary64.Digits} (h : ∀ c ∈ d.list, isNumberChar c = true) :
    ∀ c ∈ d.positional, isNumberChar c = true := by
  have hzeros : ∀ k, ∀ c ∈ List.replicate k '0', isNumberChar c = true := by
    intro k c hc
    rw [List.eq_of_mem_replicate hc]
    rfl
  unfold Binary64.Digits.positional
  split
  · simp only [List.forall_mem_append, List.forall_mem_cons]
    exact ⟨⟨⟨rfl, rfl, List.forall_mem_nil _⟩, hzeros _⟩, h⟩
  · simp only
    split
    · simp only [List.forall_mem_append, List.forall_mem_cons]
      exact ⟨⟨h, hzeros _⟩, rfl, rfl, List.forall_mem_nil _⟩
    · simp only [List.forall_mem_append, List.forall_mem_cons]
      exact ⟨fun c hc => h c (List.mem_of_mem_take hc), rfl,
        fun c hc => h c (List.mem_of_mem_drop hc)⟩

theorem scientific_chars {d : Binary64.Digits} (h : ∀ c ∈ d.list, isNumberChar c = true) :
    ∀ c ∈ d.scientific, isNumberChar c = true := by
  unfold Binary64.Digits.scientific
  simp only [List.forall_mem_append, List.forall_mem_cons]
  refine ⟨⟨fun c hc => h c (List.mem_of_mem_take hc), ?_⟩, rfl, ?_⟩
  · split
    · exact List.forall_mem_nil _
    · exact List.forall_mem_cons.2 ⟨rfl, fun c hc => h c (List.mem_of_mem_drop hc)⟩
  · split
    · exact signedDigits_chars _
    · exact List.forall_mem_cons.2 ⟨rfl, signedDigits_chars _⟩

/-- **The text of a number** has no character that breaks a header. -/
theorem not_breaks_of_mem_text (n : Number) : ∀ c ∈ n.text, ¬Breaks c := by
  suffices h : ∀ c ∈ n.text, isNumberChar c = true from
    fun c hc => not_breaks_of_isNumberChar (h c hc)
  cases n with
  | integer n => exact signedDigits_chars n
  | real x =>
    have hdigits : ∀ c ∈ x.digits.list, isNumberChar c = true :=
      fun c hc => isNumberChar_of_isDigit (isDigit_of_mem_shortest hc)
    have hmagnitude : ∀ c ∈ (if x.isZero then ['0', '.', '0']
        else if -5 < x.digits.point ∧ x.digits.point ≤ 16 then x.digits.positional
        else x.digits.scientific), isNumberChar c = true := by
      split
      · exact List.all_eq_true.1 rfl
      · split
        · exact positional_chars hdigits
        · exact scientific_chars hdigits
    show ∀ c ∈ x.withSign _, isNumberChar c = true
    unfold Binary64.withSign
    split
    · exact List.forall_mem_cons.2 ⟨rfl, hmagnitude⟩
    · exact hmagnitude

/-! ### Strings -/

/-- Of all characters only U+007F stands in a string as one that breaks a header: the controls of
C0 are escaped. -/
theorem forall_escapeChar_iff (c : Char) : (∀ d ∈ escapeChar c, ¬Breaks d) ↔ c ≠ '\x7f' := by
  have hhex : ∀ n, n < 16 → ¬Breaks (Nat.digitChar n) := by decide
  have hescape : ∀ b, ¬Breaks b → ∀ d ∈ ['\\', b], ¬Breaks d := fun b hb =>
    List.forall_mem_cons.2 ⟨by decide, List.forall_mem_singleton.2 hb⟩
  unfold escapeChar
  split
  · exact iff_of_true (hescape '"' (by decide)) (by decide)
  · exact iff_of_true (hescape '\\' (by decide)) (by decide)
  · exact iff_of_true (hescape 'n' (by decide)) (by decide)
  · exact iff_of_true (hescape 'r' (by decide)) (by decide)
  · exact iff_of_true (hescape 't' (by decide)) (by decide)
  · exact iff_of_true (hescape 'b' (by decide)) (by decide)
  · exact iff_of_true (hescape 'f' (by decide)) (by decide)
  · split
    · rename_i hlow
      have hne : c ≠ '\x7f' := by
        rintro rfl
        exact absurd hlow (by decide)
      refine iff_of_true ?_ hne
      simp only [List.forall_mem_cons]
      exact ⟨by decide, by decide, by decide, by decide, hhex _ (by omega), hhex _ (by omega),
        List.forall_mem_nil _⟩
    · rename_i hlow
      simp [Breaks, hlow]

theorem forall_stringText_iff (s : String) :
    (∀ c ∈ stringText s, ¬Breaks c) ↔ '\x7f' ∉ s.toList := by
  have hquote : ¬Breaks '"' := by decide
  have hbody : (∀ d ∈ s.toList.flatMap escapeChar, ¬Breaks d) ↔ '\x7f' ∉ s.toList := by
    simp only [List.forall_mem_flatMap, forall_escapeChar_iff]
    exact ⟨fun h hmem => h _ hmem rfl, fun h c hc heq => h (heq ▸ hc)⟩
  simp only [stringText, List.forall_mem_append, List.forall_mem_cons, hbody]
  exact ⟨fun h => h.1.2, fun h => ⟨⟨hquote, h⟩, hquote, List.forall_mem_nil _⟩⟩

/-! ### Values -/

namespace Value

mutual

/-- The texts in a value: its strings and the names of its members, at any depth. -/
def texts : Value → List String
  | .string s => [s]
  | .array items => textsOfItems items
  | .object members => textsOfMembers members
  | _ => []

/-- The texts in several values. -/
def textsOfItems : List Value → List String
  | [] => []
  | v :: rest => texts v ++ textsOfItems rest

/-- The names of several members and the texts in their values. -/
def textsOfMembers : List (String × Value) → List String
  | [] => []
  | (k, v) :: rest => k :: (texts v ++ textsOfMembers rest)

end

/-- Characters of which none breaks a header. -/
def Clean (cs : List Char) : Prop := ∀ c ∈ cs, ¬Breaks c

/-- Texts of which none has the character U+007F. -/
def NoDelete (ss : List String) : Prop := ∀ s ∈ ss, '\x7f' ∉ s.toList

theorem clean_append_iff {cs ds : List Char} : Clean (cs ++ ds) ↔ Clean cs ∧ Clean ds :=
  List.forall_mem_append

theorem clean_cons_iff {c : Char} {cs : List Char} (h : ¬Breaks c) : Clean (c :: cs) ↔ Clean cs :=
  List.forall_mem_cons.trans (and_iff_right h)

theorem noDelete_append_iff {ss ts : List String} :
    NoDelete (ss ++ ts) ↔ NoDelete ss ∧ NoDelete ts :=
  List.forall_mem_append

theorem noDelete_cons_iff {s : String} {ss : List String} :
    NoDelete (s :: ss) ↔ '\x7f' ∉ s.toList ∧ NoDelete ss :=
  List.forall_mem_cons

theorem clean_of_all {cs : List Char} (h : (cs.all fun c => !decide (Breaks c)) = true) :
    Clean cs := by
  simpa [Clean] using h

mutual

/-- The compact text of a value breaks a header only through its texts. -/
theorem clean_compact : ∀ v : Value, Clean v.compact ↔ NoDelete v.texts
  | .null => iff_of_true (clean_of_all rfl) (List.forall_mem_nil _)
  | .bool true => iff_of_true (clean_of_all rfl) (List.forall_mem_nil _)
  | .bool false => iff_of_true (clean_of_all rfl) (List.forall_mem_nil _)
  | .number n => iff_of_true (not_breaks_of_mem_text n) (List.forall_mem_nil _)
  | .string s => by
    rw [compact, texts, NoDelete, List.forall_mem_singleton]
    exact forall_stringText_iff s
  | .array items => by
    rw [compact, clean_cons_iff (by decide), texts, clean_compactItems items]
  | .object members => by
    rw [compact, clean_cons_iff (by decide), texts, clean_compactMembers members]

theorem clean_compactItems : ∀ items : List Value,
    Clean (compactItems items) ↔ NoDelete (textsOfItems items)
  | [] => iff_of_true (clean_of_all rfl) (List.forall_mem_nil _)
  | v :: rest => by
    rw [compactItems, textsOfItems, clean_append_iff, noDelete_append_iff, clean_compact v,
      clean_compactMoreItems rest]

theorem clean_compactMoreItems : ∀ items : List Value,
    Clean (compactMoreItems items) ↔ NoDelete (textsOfItems items)
  | [] => iff_of_true (clean_of_all rfl) (List.forall_mem_nil _)
  | v :: rest => by
    rw [compactMoreItems, textsOfItems, List.cons_append, clean_cons_iff (by decide),
      clean_append_iff, noDelete_append_iff, clean_compact v, clean_compactMoreItems rest]

theorem clean_compactMembers : ∀ members : List (String × Value),
    Clean (compactMembers members) ↔ NoDelete (textsOfMembers members)
  | [] => iff_of_true (clean_of_all rfl) (List.forall_mem_nil _)
  | (k, v) :: rest => by
    rw [compactMembers, textsOfMembers, List.append_assoc, List.cons_append, clean_append_iff,
      clean_cons_iff (by decide), clean_append_iff, noDelete_cons_iff, noDelete_append_iff,
      clean_compact v, clean_compactMoreMembers rest]
    exact and_congr_left' (forall_stringText_iff k)

theorem clean_compactMoreMembers : ∀ members : List (String × Value),
    Clean (compactMoreMembers members) ↔ NoDelete (textsOfMembers members)
  | [] => iff_of_true (clean_of_all rfl) (List.forall_mem_nil _)
  | (k, v) :: rest => by
    rw [compactMoreMembers, textsOfMembers, List.cons_append, List.cons_append,
      clean_cons_iff (by decide), List.append_assoc, List.cons_append, clean_append_iff,
      clean_cons_iff (by decide), clean_append_iff, noDelete_cons_iff, noDelete_append_iff,
      clean_compact v, clean_compactMoreMembers rest]
    exact and_congr_left' (forall_stringText_iff k)

end

/-- **A compact text is a header value** unless U+007F stands in a string or in the name of a
member. -/
theorem isValue_compactText_iff (v : Value) :
    Http.isValue v.compactText = true ↔ ∀ s ∈ v.texts, '\x7f' ∉ s.toList := by
  rw [Http.isValue_iff, compactText, String.toList_ofList]
  exact clean_compact v

end Value

end Json

namespace Plan

open Result (ok_bind bind_eq_ok_iff)

/-! ## One header -/

/-- The JSON values that no header can have: a string with a character that breaks a header, and an
array or object with U+007F in one of its texts. -/
inductive Unsendable : Json.Value → Prop where
  | string {s : String} {c : Char} (hc : c ∈ s.toList) (hbreaks : Http.Breaks c) :
      Unsendable (.string s)
  | array {items : List Json.Value} {s : String} (hs : s ∈ (Json.Value.array items).texts)
      (hdelete : '\x7f' ∈ s.toList) : Unsendable (.array items)
  | object {members : List (String × Json.Value)} {s : String}
      (hs : s ∈ (Json.Value.object members).texts) (hdelete : '\x7f' ∈ s.toList) :
      Unsendable (.object members)

/-- **The text of a value is a header value** unless the value is unsendable. -/
theorem isValue_render?_iff (v : Json.Value) :
    (∀ text ∈ render? v, Http.isValue text = true) ↔ ¬Unsendable v := by
  have hcompact := v.isValue_compactText_iff
  cases v with
  | null =>
    refine iff_of_true (by simp [render?]) ?_
    intro hv
    cases hv
  | bool b =>
    refine iff_of_true (by simpa [render?] using hcompact.2 (List.forall_mem_nil _)) ?_
    intro hv
    cases hv
  | number n =>
    refine iff_of_true (by simpa [render?] using hcompact.2 (List.forall_mem_nil _)) ?_
    intro hv
    cases hv
  | string s =>
    simp only [render?, Option.mem_some_iff, forall_eq', Http.isValue_iff]
    constructor
    · intro h hv
      cases hv with
      | string hc hbreaks => exact h _ hc hbreaks
    · exact fun h c hc hbreaks => h (.string hc hbreaks)
  | array items =>
    simp only [render?, Option.mem_some_iff, forall_eq', hcompact]
    constructor
    · intro h hv
      cases hv with
      | array hs hdelete => exact h _ hs hdelete
    · exact fun h s hs hdelete => h (.array hs hdelete)
  | object members =>
    simp only [render?, Option.mem_some_iff, forall_eq', hcompact]
    constructor
    · intro h hv
      cases hv with
      | object hs hdelete => exact h _ hs hdelete
    · exact fun h s hs hdelete => h (.object hs hdelete)

/-- **One own header** is refused if its value is unsendable, and merged otherwise. -/
theorem mergeHeaders_singleton {c : Config} (hc : c.Sendable) (hasBody : Bool) (version : UInt32)
    {name : String} (hname : Http.isName name = true) (v : Json.Value) {requestId : String}
    (hid : Http.isValue requestId = true) :
    (¬Unsendable v ∧ ∃ headers,
        mergeHeaders c hasBody version (.ofList [(name, v)]) none requestId = .ok headers) ∨
      Unsendable v ∧ mergeHeaders c hasBody version (.ofList [(name, v)]) none requestId =
        .error (headerError name Config.badHeaderValue) := by
  obtain ⟨defaults, hdefaults⟩ := exists_defaultHeaders hc hasBody hid
  have hmerge : mergeHeaders c hasBody version (.ofList [(name, v)]) none requestId =
      (ownHeaders [] [(name, v)] defaults >>= fun headers =>
        putHeader headers c.versionHeader (Text.decimal version.toNat) >>= fun headers =>
          .ok headers) := by
    rw [mergeHeaders_eq, hdefaults]
    rfl
  rw [hmerge]
  by_cases hv : Unsendable v
  · have hbad : ¬∀ text ∈ render? v, Http.isValue text = true :=
      fun h => (isValue_render?_iff v).1 h hv
    simp only [not_forall, Bool.not_eq_true] at hbad
    obtain ⟨text, htext, hbad⟩ := hbad
    rw [ownHeaders_of_badValue hname List.lookup_nil htext hbad]
    exact Or.inr ⟨hv, rfl⟩
  · obtain ⟨headers, hset⟩ :=
      (exists_putOptional_iff defaults hname).2 ((isValue_render?_iff v).2 hv)
    obtain ⟨versioned, hversioned⟩ := exists_putVersion headers hc version
    rw [ownHeaders_cons_of_new hname List.lookup_nil, hset, ok_bind, ownHeaders_nil, ok_bind,
      hversioned]
    exact Or.inl ⟨hv, versioned, rfl⟩

/-! ## All headers of a plan -/

/-- Whether headers can be taken for no others: no value has a byte below 0x20 other than the tab,
nor 0x7F, and each name is a token of one character at least, without capitals. -/
structure Unbreakable (headers : Http.Headers) : Prop where
  value : ∀ e ∈ headers, ∀ b ∈ bytesOf e.2, (0x20 ≤ b ∨ b = 0x09) ∧ b ≠ 0x7F
  name_ne : ∀ e ∈ headers, e.1 ≠ ""
  token : ∀ e ∈ headers, ∀ c ∈ e.1.toList, Http.isTokenChar c = true ∧ ¬('A' ≤ c ∧ c ≤ 'Z')

/-- A character that is small already is no capital. -/
theorem not_capital_of_smallLetter {c : Char} (h : Text.smallLetter c = c) :
    ¬('A' ≤ c ∧ c ≤ 'Z') := by
  intro hcapital
  obtain ⟨i, hi, rfl⟩ := Text.exists_of_capital hcapital
  revert i
  decide

theorem smallLetter_of_lower {name : String} (h : Http.lower name = name) :
    ∀ c ∈ name.toList, Text.smallLetter c = c := by
  have hmap : name.toList.map Text.smallLetter = name.toList.map id := by
    rw [List.map_id, ← String.toList_ofList (l := name.toList.map Text.smallLetter)]
    exact congrArg String.toList h
  exact List.map_inj_left.1 hmap

/-- Whether all values are header values. -/
def AllValues (headers : Http.Headers) : Prop := ∀ e ∈ headers, Http.isValue e.2 = true

theorem keptBySetting_allValues : KeptBySetting AllValues := by
  intro headers name value h _ hvalue e he
  rcases Table.mem_insert he with rfl | he
  · exact hvalue
  · exact h e he

/-- **Merged headers are unbreakable.** -/
theorem unbreakable_mergeHeaders {c : Config} {hasBody : Bool} {version : UInt32}
    {own : Table Json.Value} {credential : Option Credential} {requestId : String}
    {headers : Http.Headers}
    (h : mergeHeaders c hasBody version own credential requestId = .ok headers) :
    Unbreakable headers := by
  have hproper := proper_mergeHeaders h
  have hvalues : AllValues headers :=
    keptBySetting_allValues.mergeHeaders h (List.forall_mem_nil _)
  refine ⟨?_, ?_, ?_⟩
  · intro e he b hb
    exact Http.isValueByte_iff.1 (List.all_eq_true.1 (hvalues e he) b hb)
  · intro e he hempty
    have hname := hproper.isName e he
    rw [hempty] at hname
    exact absurd hname (by decide)
  · intro e he c hc
    have hname := hproper.isName e he
    simp only [Http.isName, Bool.and_eq_true, List.all_eq_true] at hname
    have hsmall := smallLetter_of_lower (hproper.lower e he) c hc
    exact ⟨hname.1.2 c hc, not_capital_of_smallLetter hsmall⟩

/-- **No header can be broken.**  Let a request have one header of its own, under any name and with
any JSON value, and no credential.  Under a valid configuration the header is refused, and blamed,
if and only if its value is unsendable; it is merged in all other cases, and so are `null`, truth
values and numbers.  Whatever a request is and whatever its configuration, the headers of its plan
are unbreakable. -/
theorem header_cannot_be_broken {ρ : Type} [Request ρ] {c : Config} (hvalid : c.validate = .ok ())
    {name : String} (hname : Http.isName name = true) (hasBody : Bool) (version : UInt32)
    {requestId : String} (hid : Http.isValue requestId = true) :
    (∀ v, mergeHeaders c hasBody version (.ofList [(name, v)]) none requestId =
        .error (headerError name Config.badHeaderValue) ↔ Unsendable v) ∧
      (∀ v, (∃ headers,
        mergeHeaders c hasBody version (.ofList [(name, v)]) none requestId = .ok headers) ↔
          ¬Unsendable v) ∧
      (∀ b n, ∀ v ∈ [Json.Value.null, .bool b, .number n], ∃ headers,
        mergeHeaders c hasBody version (.ofList [(name, v)]) none requestId = .ok headers) ∧
      (∀ (c : Config) (r : ρ) credential id p, Plan.of c r credential id = .ok p →
        Unbreakable p.headers) ∧
      ∀ (t : Transport) (r : ρ) s id p, t.prepare r s id = .ok p → Unbreakable p.headers := by
  have hc := (Config.validate_eq_ok_iff.1 hvalid).2
  have hmerged : ∀ v, (∃ headers,
      mergeHeaders c hasBody version (.ofList [(name, v)]) none requestId = .ok headers) ↔
        ¬Unsendable v := by
    intro v
    rcases mergeHeaders_singleton hc hasBody version hname v hid with ⟨hv, hok⟩ | ⟨hv, herror⟩
    · exact iff_of_true hok hv
    · exact iff_of_false (by rw [herror]; rintro ⟨headers, ⟨⟩⟩) (not_not.2 hv)
  have hof : ∀ (c : Config) (r : ρ) credential id p, Plan.of c r credential id = .ok p →
      Unbreakable p.headers :=
    fun c r credential id p hp => unbreakable_mergeHeaders (headersOf_of_ok hp)
  refine ⟨?_, hmerged, ?_, hof, ?_⟩
  · intro v
    rcases mergeHeaders_singleton hc hasBody version hname v hid with ⟨hv, headers, hok⟩ | h
    · exact iff_of_false (by rw [hok]; nofun) hv
    · exact iff_of_true h.2 h.1
  · intro b n v hv
    refine (hmerged v).2 ?_
    simp only [List.mem_cons, List.not_mem_nil, or_false] at hv
    rcases hv with rfl | rfl | rfl
    all_goals nofun
  · intro t r s id p hp
    cases Transport.prepare_eq_iff.1 hp with
    | planned hpath hresolves hmerge => exact unbreakable_mergeHeaders hmerge

/-- A value that is not sendable for what stands deep within it. -/
def deepDelete : Json.Value :=
  .array [.bool true, .object [("a\r\n", .array [.object [("b\x7f", .null)]])]]

/-- A value with line ends, zeros and a tab deep within it. -/
def deepControls : Json.Value :=
  .array [.number (.integer (-1)), .object [("a\r\n", .array [.string "x: y\r\n\x00\t"])]]

/-- U+007F in a name within is refused, line ends within are sent escaped, and a tab may stand in a
string, which a line end may not. -/
theorem header_cannot_be_broken_by_deepTexts :
    (Config.new "http://127.0.0.1:18080").validate = .ok () ∧ Http.isName "X-Label" = true ∧
      Http.isValue "id-1" = true ∧
      mergeHeaders (.new "http://127.0.0.1:18080") false 3 (.ofList [("X-Label", deepDelete)])
        none "id-1" = .error (headerError "X-Label" Config.badHeaderValue) ∧
      mergeHeaders (.new "http://127.0.0.1:18080") false 3 (.ofList [("X-Label", .string "a\nb")])
        none "id-1" = .error (headerError "X-Label" Config.badHeaderValue) ∧
      (∃ headers, mergeHeaders (.new "http://127.0.0.1:18080") false 3
        (.ofList [("X-Label", deepControls)]) none "id-1" = .ok headers) ∧
      (∃ headers, mergeHeaders (.new "http://127.0.0.1:18080") false 3
        (.ofList [("X-Label", .string "a\tb")]) none "id-1" = .ok headers) ∧
      ∃ p, Plan.of (.new "http://127.0.0.1:18080") insistentRequest (some ⟨"s-1", "token"⟩)
        "id-1" = .ok p ∧ Unbreakable p.headers := by
  obtain ⟨⟨⟩, hvalid⟩ :=
    Result.exists_of_isOk (x := (Config.new "http://127.0.0.1:18080").validate) (by decide +kernel)
  obtain ⟨p, hp⟩ := Result.exists_of_isOk (x := Plan.of (.new "http://127.0.0.1:18080")
    insistentRequest (some ⟨"s-1", "token"⟩) "id-1") (by decide +kernel)
  have hname : Http.isName "X-Label" = true := by decide
  have hid : Http.isValue "id-1" = true := by decide
  obtain ⟨hrefused, hmerged, -, hof, -⟩ :=
    header_cannot_be_broken (ρ := Descriptor) hvalid hname false 3 hid
  refine ⟨hvalid, hname, hid, ?_, ?_, ?_, ?_, p, hp, hof _ _ _ _ _ hp⟩
  · have htexts : deepDelete.texts = ["a\r\n", "b\x7f"] := rfl
    rw [hrefused]
    exact .array (s := "b\x7f") (htexts ▸ by simp) (by decide)
  · rw [hrefused]
    exact .string (c := '\n') (by decide) (by decide)
  · exact (hmerged _).2 ((isValue_render?_iff _).1 ((Option.all_eq_true _ _).1 (by decide +kernel)))
  · exact (hmerged _).2 ((isValue_render?_iff _).1 ((Option.all_eq_true _ _).1 (by decide +kernel)))

end Plan

end Courier
