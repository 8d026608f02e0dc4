import Mathlib.Data.List.TakeWhile
import Courier.Proofs.DomainEnd
import Courier.Proofs.Result

/-!
# What an authority depends on

In a URL of the web the authority goes up to the first slash, question mark or hash.  What stands
behind has no part in it, and an authority that goes on up to a control or blank is none.

* `Url.readAuthority_eq` — reading is reading the user and then the server.
* `Url.readAuthority_append` — **only the authority counts**, whatever follows it.
* `Url.readAuthority_of_edge` — a control or blank at the end of an authority is never accepted.
-/

namespace Courier.Url

open Result (bind_eq_ok_iff map_eq_ok_iff)

variable {scheme : List Char}

/-! ## Texts without an end of authority -/

/-- A text in which no authority ends. -/
def Unended (cs : List Char) : Prop := ∀ c ∈ cs, endsAuthority true c = false

/-- A text that is empty or begins with the end of an authority. -/
def EndsFirst (rest : List Char) : Prop := ∀ c, rest.head? = some c → endsAuthority true c = true

theorem EndsFirst.nil : EndsFirst [] := nofun

theorem EndsFirst.cons {c : Char} (h : endsAuthority true c = true) (cs : List Char) :
    EndsFirst (c :: cs) := by
  rintro _ ⟨⟩
  exact h

theorem EndsFirst.of_slash {cs : List Char} (h : cs.head? = some '/') : EndsFirst cs := by
  intro c hc
  rw [h] at hc
  obtain rfl := Option.some.inj hc
  decide

/-- The characters that end an authority. -/
theorem eq_of_endsAuthority {c : Char} (h : endsAuthority true c = true) :
    c = '/' ∨ c = '?' ∨ c = '#' ∨ c = '\\' := by
  simpa [endsAuthority, or_assoc] using h

theorem isDigit_of_endsAuthority {c : Char} (h : endsAuthority true c = true) :
    Text.isDigit c = false := by
  rcases eq_of_endsAuthority h with rfl | rfl | rfl | rfl
  all_goals decide

/-- Characters that end an authority are none of those that divide it. -/
theorem ne_of_endsAuthority {c d : Char} (h : endsAuthority true c = true)
    (hd : endsAuthority true d = false) : c ≠ d := by
  rintro rfl
  rw [h] at hd
  cases hd

theorem EndsFirst.head?_ne {rest : List Char} (h : EndsFirst rest) {d : Char}
    (hd : endsAuthority true d = false) : rest.head? ≠ some d := fun heq =>
  ne_of_endsAuthority (h d heq) hd rfl

theorem takeWhile_append_of_unended {authority rest : List Char} (h : Unended authority)
    (hrest : EndsFirst rest) :
    (authority ++ rest).takeWhile (fun c => !endsAuthority true c) = authority := by
  have hall : ∀ c ∈ authority, (!endsAuthority true c) = true := by
    intro c hc
    rw [h c hc]
    rfl
  rw [List.takeWhile_append_of_pos hall]
  cases rest with
  | nil => simp
  | cons c cs => simp [hrest c rfl]

theorem dropWhile_append_of_unended {authority rest : List Char} (h : Unended authority)
    (hrest : EndsFirst rest) :
    (authority ++ rest).dropWhile (fun c => !endsAuthority true c) = rest := by
  have hall : ∀ c ∈ authority, (!endsAuthority true c) = true := by
    intro c hc
    rw [h c hc]
    rfl
  rw [List.dropWhile_append_of_pos hall]
  cases rest with
  | nil => simp
  | cons c cs => simp [hrest c rfl]

/-! ## The user -/

/-- The name and password of an authority, escaped, and its server. -/
def userAndServer (authority : List Char) : (List Char × List Char) × List Char :=
  match Text.splitAtLast? '@' authority with
  | none => (([], []), authority)
  | some (user, server) =>
    ((escape inUserSet (user.takeWhile (· != ':')),
      escape inUserSet ((user.dropWhile (· != ':')).drop 1)), server)

/-- The user is read up to the end of the authority; an `@` alone in front of more is refused. -/
theorem readUser_append {authority rest : List Char} (h : Unended authority)
    (hrest : EndsFirst rest) :
    readUser true (authority ++ rest) =
      if Text.splitAtLast? '@' authority = some ([], []) ∧ rest ≠ [] then .error .emptyHost
      else .ok ((userAndServer authority).1, (userAndServer authority).2 ++ rest) := by
  unfold readUser userAndServer
  simp only [takeWhile_append_of_unended h hrest, dropWhile_append_of_unended h hrest]
  cases Text.splitAtLast? '@' authority with
  | none => simp
  | some p =>
    obtain ⟨user, server⟩ := p
    simp only [Option.some.injEq, Prod.mk.injEq, and_assoc]

/-! ## The server -/

/-- The port behind a host, if there is one. -/
def readPortIfAny (scheme : List Char) :
    List Char → Except Fault (Option Nat × List Char)
  | ':' :: digits => readPort scheme digits
  | rest => .ok (none, rest)

theorem readPortIfAny_of_ne {cs : List Char} (h : cs.head? ≠ some ':') :
    readPortIfAny scheme cs = .ok (none, cs) := by
  unfold readPortIfAny
  split
  · exact absurd rfl h
  · rfl

/-- The host and port of a URL of the web, for a user. -/
def readServer (scheme : List Char) (user : List Char × List Char) (cs : List Char) :
    Except Fault (Authority × List Char) :=
  if hostLength true false cs = 0 then .error .emptyHost
  else
    readHost (cs.take (hostLength true false cs)) >>= fun host =>
      readPortIfAny scheme (cs.drop (hostLength true false cs)) >>= fun port =>
        .ok (⟨user.1, user.2, host, port.1⟩, port.2)

/-- A host that has been read is not empty. -/
theorem readHost_ne_empty (cs : List Char) : readHost cs ≠ .ok (.domain []) := by
  intro h
  unfold readHost at h
  split at h
  · split at h
    · obtain ⟨pieces, -, hhost⟩ := map_eq_ok_iff.1 h
      cases hhost
    · cases h
  · split at h
    · cases h
    · cases h
    · rename_i name hempty _
      split at h
      · obtain ⟨n, -, hhost⟩ := map_eq_ok_iff.1 h
        cases hhost
      · cases h
        exact hempty rfl

/-- Reading an authority is reading the user and then the server. -/
theorem readAuthority_eq (h : schemeKind scheme = .special) (cs : List Char) :
    readAuthority scheme cs =
      readUser true cs >>= fun p => readServer scheme p.1 p.2 := by
  have hspecial : (schemeKind scheme == SchemeKind.special) = true := by simp [h]
  unfold readAuthority
  simp only [hspecial, true_and, if_true]
  congr 1
  funext p
  unfold readServer
  split
  · rfl
  · cases hhost : readHost (p.2.take (hostLength true false p.2)) with
    | error f => rfl
    | ok host =>
      have hnamed : host ≠ .domain [] := by
        rintro rfl
        exact readHost_ne_empty _ hhost
      show (if host = .domain [] ∧ _ then _ else _) = (readPortIfAny scheme _ >>= _)
      simp only [hnamed, false_and, if_false]
      generalize p.2.drop (hostLength true false p.2) = behind
      split
      · rfl
      · rename_i hnone
        have hhead : behind.head? ≠ some ':' := by
          intro hhead
          obtain ⟨digits, hdigits⟩ := List.head?_eq_some_iff.1 hhead
          exact hnone digits hdigits
        rw [readPortIfAny_of_ne hhead]

/-! ### The end of a host -/

/-- A host ends at a colon or with the authority. -/
theorem drop_hostLength {cs : List Char} (h : Unended cs) (inBrackets : Bool) :
    cs.drop (hostLength true inBrackets cs) = [] ∨
      ∃ digits, cs.drop (hostLength true inBrackets cs) = ':' :: digits := by
  induction cs generalizing inBrackets with
  | nil => exact Or.inl rfl
  | cons c rest ih =>
    obtain ⟨hc, hrest⟩ := List.forall_mem_cons.1 h
    rw [hostLength]
    split
    · rename_i hend
      rcases hend with ⟨rfl, -⟩ | hend
      · exact Or.inr ⟨rest, rfl⟩
      · rw [hc] at hend
        cases hend
    · exact ih hrest _

theorem hostLength_le (inBrackets : Bool) (cs : List Char) :
    hostLength true inBrackets cs ≤ cs.length := by
  induction cs generalizing inBrackets with
  | nil => simp [hostLength]
  | cons c rest ih =>
    rw [hostLength, List.length_cons]
    split
    · omega
    · exact Nat.succ_le_succ (ih _)

/-- What follows an authority has no part in where its host ends. -/
theorem hostLength_append {rest : List Char} (hrest : EndsFirst rest) (inBrackets : Bool)
    (cs : List Char) : hostLength true inBrackets (cs ++ rest) = hostLength true inBrackets cs := by
  induction cs generalizing inBrackets with
  | nil =>
    cases rest with
    | nil => rfl
    | cons c more => simp [hostLength, hrest c rfl]
  | cons c cs ih => simp only [List.cons_append, hostLength, ih]

/-! ### Ports -/

/-- The digits of a port are read up to the end of the authority. -/
theorem portDigits_append {digits rest : List Char} (h : Unended digits) (hrest : EndsFirst rest)
    (n : Nat) :
    portDigits n (digits ++ rest) = (portDigits n digits).map fun p => (p.1, rest) := by
  induction digits generalizing n with
  | nil =>
    cases rest with
    | nil => rfl
    | cons c more =>
      have hc := hrest c rfl
      simp [portDigits, hc, isDigit_of_endsAuthority hc, Except.map]
  | cons c digits ih =>
    obtain ⟨hc, hdigits⟩ := List.forall_mem_cons.1 h
    simp only [List.cons_append, portDigits, hc]
    split
    · split
      · exact ih hdigits _
      · rfl
    · rfl

theorem readPort_append {digits rest : List Char} (h : Unended digits) (hrest : EndsFirst rest) :
    readPort scheme (digits ++ rest) = (readPort scheme digits).map fun p => (p.1, rest) := by
  have hwritten : (digits ++ rest).head?.any Text.isDigit = digits.head?.any Text.isDigit := by
    cases digits with
    | cons c digits => rfl
    | nil =>
      cases rest with
      | nil => rfl
      | cons c more => simp [isDigit_of_endsAuthority (hrest c rfl)]
  unfold readPort
  rw [portDigits_append h hrest, hwritten]
  cases portDigits 0 digits with
  | error f => rfl
  | ok p => rfl

/-- The port is read up to the end of the authority. -/
theorem readPortIfAny_append {cs rest : List Char} (h : Unended cs)
    (hcs : cs = [] ∨ ∃ digits, cs = ':' :: digits) (hrest : EndsFirst rest) :
    readPortIfAny scheme (cs ++ rest) = (readPortIfAny scheme cs).map fun p => (p.1, rest) := by
  rcases hcs with rfl | ⟨digits, rfl⟩
  · rw [List.nil_append, readPortIfAny_of_ne (hrest.head?_ne (by decide))]
    rfl
  · obtain ⟨-, hdigits⟩ := List.forall_mem_cons.1 h
    exact readPort_append hdigits hrest

theorem readServer_append (user : List Char × List Char) {server rest : List Char}
    (h : Unended server) (hrest : EndsFirst rest) :
    readServer scheme user (server ++ rest) =
      (readServer scheme user server).map fun p => (p.1, rest) := by
  have hle := hostLength_le false server
  have hbehind : Unended (server.drop (hostLength true false server)) := fun c hc =>
    h c (List.mem_of_mem_drop hc)
  unfold readServer
  rw [hostLength_append hrest, List.take_append_of_le_length hle,
    List.drop_append_of_le_length hle,
    readPortIfAny_append hbehind (drop_hostLength h false) hrest]
  split
  · rfl
  · cases readHost (server.take (hostLength true false server)) with
    | error f => rfl
    | ok host =>
      cases readPortIfAny scheme (server.drop (hostLength true false server)) with
      | error f => rfl
      | ok port => rfl

/-! ## The authority -/

theorem mem_of_splitAtLast? {sep : Char} {cs before behind : List Char}
    (h : Text.splitAtLast? sep cs = some (before, behind)) : ∀ c ∈ behind, c ∈ cs := by
  induction cs generalizing before with
  | nil => cases h
  | cons d rest ih =>
    intro c hc
    rw [Text.splitAtLast?] at h
    split at h
    · rename_i hrest
      cases h
      exact List.mem_cons_of_mem d (ih hrest c hc)
    · split at h
      · cases h
        exact List.mem_cons_of_mem d hc
      · cases h

theorem Unended.server {authority : List Char} (h : Unended authority) :
    Unended (userAndServer authority).2 := by
  unfold userAndServer
  split
  · exact h
  · rename_i user server hsplit
    intro c hc
    exact h c (mem_of_splitAtLast? hsplit c hc)

/-- An authority is a user and a server; an `@` alone has no server. -/
theorem readAuthority_append_eq (h : schemeKind scheme = .special) {authority rest : List Char}
    (hauthority : Unended authority) (hrest : EndsFirst rest) :
    readAuthority scheme (authority ++ rest) =
      (readServer scheme (userAndServer authority).1 (userAndServer authority).2).map
        fun p => (p.1, rest) := by
  rw [← readServer_append _ hauthority.server hrest, readAuthority_eq h,
    readUser_append hauthority hrest]
  split
  · rename_i halone
    have hserver : (userAndServer authority).2 = [] := by simp [userAndServer, halone.1]
    have hempty : hostLength true false rest = 0 := hostLength_append hrest false []
    simp [hserver, readServer, hempty]
    rfl
  · rfl

/-- **Only the authority counts.**  Reading an authority does not depend on what follows it. -/
theorem readAuthority_append (h : schemeKind scheme = .special) {authority rest : List Char}
    (hauthority : Unended authority) (hrest : EndsFirst rest) :
    readAuthority scheme (authority ++ rest) =
      (readAuthority scheme authority).map fun p => (p.1, rest) := by
  have hself := readAuthority_append_eq h hauthority EndsFirst.nil
  rw [List.append_nil] at hself
  rw [readAuthority_append_eq h hauthority hrest, hself]
  cases readServer scheme (userAndServer authority).1 (userAndServer authority).2 with
  | error f => rfl
  | ok p => rfl

/-- Every text is an authority and what begins with its end. -/
theorem exists_unended (cs : List Char) :
    ∃ authority rest, cs = authority ++ rest ∧ Unended authority ∧ EndsFirst rest := by
  refine ⟨cs.takeWhile fun c => !endsAuthority true c, cs.dropWhile fun c => !endsAuthority true c,
    List.takeWhile_append_dropWhile.symm, ?_, ?_⟩
  · intro c hc
    simpa using List.mem_takeWhile_imp hc
  · intro c hc
    have hfirst := List.head?_dropWhile_not (fun c => !endsAuthority true c) cs
    rw [hc] at hfirst
    simpa using hfirst

theorem EndsFirst.append {front : List Char} (h : EndsFirst front) {tail : List Char}
    (htail : EndsFirst tail) : EndsFirst (front ++ tail) := by
  cases front with
  | nil => exact htail
  | cons c cs => exact EndsFirst.cons (h c rfl) _

/-- What follows may be exchanged for anything else that an authority ends with. -/
theorem readAuthority_exchange (h : schemeKind scheme = .special) {text tail behind : List Char}
    {a : Authority} (htail : EndsFirst tail)
    (hread : readAuthority scheme (text ++ tail) = .ok (a, behind)) :
    ∃ rest, behind = rest ++ tail ∧ EndsFirst rest ∧ rest <:+ text ∧
      ∀ tail', EndsFirst tail' →
        readAuthority scheme (text ++ tail') = .ok (a, rest ++ tail') := by
  obtain ⟨authority, rest, rfl, hauthority, hrest⟩ := exists_unended text
  rw [List.append_assoc, readAuthority_append h hauthority (hrest.append htail)] at hread
  obtain ⟨p, hp, hpair⟩ := map_eq_ok_iff.1 hread
  obtain ⟨rfl, rfl⟩ := Prod.mk.inj hpair
  refine ⟨rest, rfl, hrest, List.suffix_append authority rest, ?_⟩
  intro tail' htail'
  rw [List.append_assoc, readAuthority_append h hauthority (hrest.append htail'), hp]
  rfl

/-! ## Controls and blanks at the end -/

theorem ne_of_edge {c d : Char} (hc : c.toNat ≤ 0x20) (hd : 0x20 < d.toNat) : c ≠ d := by
  rintro rfl
  omega

theorem endsAuthority_of_edge {c : Char} (hc : c.toNat ≤ 0x20) : endsAuthority true c = false := by
  cases hends : endsAuthority true c with
  | false => rfl
  | true =>
    rcases eq_of_endsAuthority hends with rfl | rfl | rfl | rfl
    all_goals exact absurd hc (by decide)

theorem Unended.append_singleton {cs : List Char} (h : Unended cs) {c : Char}
    (hc : endsAuthority true c = false) : Unended (cs ++ [c]) := by
  intro d hd
  rcases List.mem_append.1 hd with hd | hd
  · exact h d hd
  · rw [List.mem_singleton.1 hd, hc]

theorem splitAtLast?_append_singleton {sep c : Char} (h : c ≠ sep) (cs : List Char) :
    Text.splitAtLast? sep (cs ++ [c]) =
      (Text.splitAtLast? sep cs).map fun p => (p.1, p.2 ++ [c]) := by
  induction cs with
  | nil => simp [Text.splitAtLast?, h]
  | cons d rest ih =>
    rw [List.cons_append, Text.splitAtLast?, Text.splitAtLast?, ih]
    cases Text.splitAtLast? sep rest with
    | some p => rfl
    | none =>
      by_cases hd : d = sep
      · simp [hd]
      · simp [hd]

theorem userAndServer_append_singleton {c : Char} (h : c ≠ '@') (authority : List Char) :
    (userAndServer (authority ++ [c])).2 = (userAndServer authority).2 ++ [c] := by
  unfold userAndServer
  rw [splitAtLast?_append_singleton h]
  cases Text.splitAtLast? '@' authority with
  | none => rfl
  | some p => rfl

/-- A host that ends in a control or blank is none. -/
theorem readHost_of_edge {c : Char} (hc : c.toNat ≤ 0x20) (cs : List Char) (host : Host) :
    readHost (cs ++ [c]) ≠ .ok host := by
  intro h
  unfold readHost at h
  split at h
  · rename_i inner hinner
    have hlast : ('[' :: inner).getLast? = some c := by rw [← hinner, List.getLast?_concat]
    split at h
    · rename_i hclosed
      have hbracket : ']' = c := by simpa [List.getLast?_cons, hclosed] using hlast
      exact ne_of_edge hc (by decide) hbracket.symm
    · cases h
  · rw [domain?_of_edge hc] at h
    cases h

/-- A port that ends in a control or blank is none. -/
theorem portDigits_of_edge {c : Char} (hc : c.toNat ≤ 0x20) {digits : List Char}
    (h : Unended digits) (n : Nat) (result : Nat × List Char) :
    portDigits n (digits ++ [c]) ≠ .ok result := by
  have hdigit : Text.isDigit c = false := by
    have hlow : ¬ '0' ≤ c := by
      intro hlow
      have : 48 ≤ c.toNat := hlow
      omega
    simp [Text.isDigit, hlow]
  induction digits generalizing n with
  | nil => simp [portDigits, hdigit, endsAuthority_of_edge hc]
  | cons d digits ih =>
    obtain ⟨hd, hdigits⟩ := List.forall_mem_cons.1 h
    simp only [List.cons_append, portDigits, hd]
    split
    · split
      · exact ih hdigits _
      · nofun
    · nofun

theorem readServer_of_edge {c : Char} (hc : c.toNat ≤ 0x20) {server : List Char}
    (h : Unended server) (user : List Char × List Char) (result : Authority × List Char) :
    readServer scheme user (server ++ [c]) ≠ .ok result := by
  intro hread
  have hunended := h.append_singleton (endsAuthority_of_edge hc)
  unfold readServer at hread
  split at hread
  · cases hread
  · obtain ⟨host, hhost, hread⟩ := bind_eq_ok_iff.1 hread
    obtain ⟨port, hport, -⟩ := bind_eq_ok_iff.1 hread
    rcases drop_hostLength hunended false with hnone | ⟨digits, hdigits⟩
    · -- the host goes up to the end
      rw [List.take_of_length_le (List.drop_eq_nil_iff.1 hnone)] at hhost
      exact readHost_of_edge hc server host hhost
    · -- the port goes up to the end
      have hlast := congrArg List.getLast?
        (List.take_append_drop (hostLength true false (server ++ [c])) (server ++ [c]))
      rw [hdigits, List.getLast?_append, List.getLast?_cons, List.getLast?_concat,
        Option.some_or] at hlast
      have hend : digits.getLast? = some c := by
        cases hdigit : digits.getLast? with
        | none =>
          rw [hdigit] at hlast
          exact absurd (Option.some.inj hlast).symm (ne_of_edge hc (by decide))
        | some d =>
          rw [hdigit] at hlast
          exact hlast
      obtain ⟨front, rfl⟩ := List.getLast?_eq_some_iff.1 hend
      rw [hdigits] at hport
      obtain ⟨p, hp, -⟩ := bind_eq_ok_iff.1 hport
      have hfront : Unended front := by
        intro d hd
        have hmem : d ∈ (server ++ [c]).drop (hostLength true false (server ++ [c])) := by
          rw [hdigits]
          simp [hd]
        exact hunended d (List.mem_of_mem_drop hmem)
      exact portDigits_of_edge hc hfront 0 p hp

/-- **An authority that ends in a control or blank is none.** -/
theorem readAuthority_of_edge (h : schemeKind scheme = .special) {c : Char} (hc : c.toNat ≤ 0x20)
    {authority rest : List Char} (hauthority : Unended authority) (hrest : EndsFirst rest)
    (result : Authority × List Char) :
    readAuthority scheme (authority ++ [c] ++ rest) ≠ .ok result := by
  intro hread
  have hunended := hauthority.append_singleton (endsAuthority_of_edge hc)
  rw [readAuthority_append_eq h hunended hrest,
    userAndServer_append_singleton (ne_of_edge hc (by decide))] at hread
  obtain ⟨p, hp, -⟩ := map_eq_ok_iff.1 hread
  exact readServer_of_edge hc hauthority.server _ p hp

end Courier.Url
