import Courier.Proofs.Numerals
import Courier.Proofs.Options

/-!
# Refused command lines

Every list of arguments falls into pieces: groups of a flag and its value if it takes one, unknown
arguments, and a flag at the end whose value is missing.  The first piece that is malformed decides
what is reported, wherever it stands, and nothing else is looked at: neither the environment nor a
file nor the network.

* `readGroups_eq_error_iff` — options are refused for **the first malformed piece**.
* `readRequest_eq_error_iff` — the ways in which a command line is refused.
* `endsByStages_run` — **an accepted command line** ends well exactly if all its stages do.
* `refused_without_effect` — **a refused command line has no effect**, an accepted one only what
  its dispatch sends.
-/

namespace Courier.CommandLine

open Result (bind_eq_ok_iff bind_eq_error_iff map_eq_ok_iff)

/-! ## Pieces of a command line -/

/-- A piece of any list of arguments. -/
inductive Piece where
  | group (w : WrittenGroup)
  /-- A flag at the end whose value is missing. -/
  | cutOff (flag : ValueFlag)
  | unknown (argument : String)

/-- The arguments of a piece. -/
def Piece.arguments : Piece → List String
  | .group w => w.arguments
  | .cutOff flag => [flag.text]
  | .unknown argument => [argument]

/-- The group of an argument that stands alone. -/
def bareGroup? (argument : String) : Option WrittenGroup :=
  if argument = "--no-auth" then some .noAuth
  else if argument = "--no-retry" then some .noRetry
  else none

/-- The pieces of a list of arguments. -/
def pieces : List String → List Piece
  | [] => []
  | argument :: rest =>
    match valueFlag? argument with
    | some flag =>
      match rest with
      | [] => [.cutOff flag]
      | value :: rest => .group (.valued flag value) :: pieces rest
    | none =>
      match bareGroup? argument with
      | some w => .group w :: pieces rest
      | none => .unknown argument :: pieces rest

/-- A flag that stands alone has one argument. -/
theorem arguments_of_bareGroup? {argument : String} {w : WrittenGroup}
    (h : bareGroup? argument = some w) : w.arguments = [argument] := by
  unfold bareGroup? at h
  split at h
  · rename_i hflag
    cases h
    rw [hflag]
    rfl
  · split at h
    · rename_i hflag
      cases h
      rw [hflag]
      rfl
    · cases h

theorem bareFlag?_eq_none {argument : String} (h : bareGroup? argument = none) :
    bareFlag? argument = none := by
  unfold bareGroup? at h
  split at h
  · cases h
  · rename_i hauth
    split at h
    · cases h
    · rename_i hretry
      rw [bareFlag?, if_neg hauth, if_neg hretry]

/-- The pieces are the whole list. -/
theorem flatMap_pieces (arguments : List String) :
    (pieces arguments).flatMap Piece.arguments = arguments := by
  induction arguments using pieces.induct with
  | case1 => rfl
  | case2 argument flag hflag =>
    simp only [pieces, hflag]
    rw [eq_text_of_valueFlag? hflag]
    rfl
  | case3 argument flag hflag value rest ih =>
    simp only [pieces, hflag]
    rw [List.flatMap_cons, ih, eq_text_of_valueFlag? hflag]
    rfl
  | case4 argument rest hflag w hbare ih =>
    simp only [pieces, hflag, hbare]
    rw [List.flatMap_cons, ih, Piece.arguments, arguments_of_bareGroup? hbare]
    rfl
  | case5 argument rest hflag hbare ih =>
    simp only [pieces, hflag, hbare]
    rw [List.flatMap_cons, ih]
    rfl

/-! ## Malformed pieces -/

/-- A text with a key, which is not empty, in front of its first equals sign. -/
def IsPair (text : String) : Prop :=
  ∃ key value : List Char, key ≠ [] ∧ '=' ∉ key ∧ text.toList = key ++ '=' :: value

/-- A text that is a number of 32 bits. -/
def IsVersion (text : String) : Prop :=
  ∃ n, Text.IsNumeral text.toList n ∧ n ≤ Text.maxU32

/-- What is wrong with a piece. -/
inductive Piece.Malformed : Piece → Misuse → Prop
  | notParam {value : String} (h : ¬IsPair value) :
      Malformed (.group (.valued .param value)) (.notPair value)
  | notHeader {value : String} (h : ¬IsPair value) :
      Malformed (.group (.valued .header value)) (.notPair value)
  | notVersion {value : String} {cause : Text.NumeralError} (h : ¬IsVersion value)
      (hcause : Text.numeral32 value.toList = .error cause) :
      Malformed (.group (.valued .apiVersion value)) (.notVersion value cause)
  | missingValue (flag : ValueFlag) : Malformed (.cutOff flag) (.missingValue flag.text)
  | unknown (argument : String) : Malformed (.unknown argument) (.unknownOption argument)

/-- What is wrong with the first of some pieces that is malformed. -/
inductive FirstMalformed : List Piece → Misuse → Prop
  | here {p : Piece} {m : Misuse} (h : p.Malformed m) (rest : List Piece) :
      FirstMalformed (p :: rest) m
  | later {p : Piece} {rest : List Piece} {m : Misuse} (hp : ∀ m', ¬p.Malformed m')
      (h : FirstMalformed rest m) : FirstMalformed (p :: rest) m

theorem not_firstMalformed_nil {m : Misuse} : ¬FirstMalformed [] m := nofun

theorem firstMalformed_cons_iff {p : Piece} {rest : List Piece} {m : Misuse} :
    FirstMalformed (p :: rest) m ↔
      p.Malformed m ∨ (∀ m', ¬p.Malformed m') ∧ FirstMalformed rest m := by
  constructor
  · intro h
    cases h with
    | here h => exact Or.inl h
    | later hp h => exact Or.inr ⟨hp, h⟩
  · rintro (h | ⟨hp, h⟩)
    · exact .here h rest
    · exact .later hp h

/-- If some piece is malformed, there is a first one. -/
theorem exists_firstMalformed_iff {ps : List Piece} :
    (∃ m, FirstMalformed ps m) ↔ ∃ p ∈ ps, ∃ m, p.Malformed m := by
  induction ps with
  | nil => simp [not_firstMalformed_nil]
  | cons p ps ih =>
    simp only [firstMalformed_cons_iff, List.exists_mem_cons_iff, ← ih, exists_or]
    by_cases hp : ∃ m, p.Malformed m
    · exact iff_of_true (Or.inl hp) (Or.inl hp)
    · rw [not_exists] at hp
      simp [hp]

/-! ## Reading pieces -/

theorem readPair_eq_error_iff {text : String} {m : Misuse} :
    readPair text = .error m ↔ ¬IsPair text ∧ m = .notPair text := by
  have hpair : IsPair text ↔ ∃ p, readPair text = .ok p := by
    constructor
    · rintro ⟨key, value, hne, hsign, htext⟩
      exact ⟨(String.ofList key, String.ofList value),
        readPair_eq_ok_iff.2 (by simpa only [String.toList_ofList] using ⟨hne, hsign, htext⟩)⟩
    · rintro ⟨⟨key, value⟩, h⟩
      exact ⟨key.toList, value.toList, readPair_eq_ok_iff.1 h⟩
  rw [hpair]
  unfold readPair
  cases splitPair? text.toList with
  | none => simp [eq_comm]
  | some p => simp

/-- A version is refused if it is no number of 32 bits. -/
theorem not_isVersion_of_error {value : String} {cause : Text.NumeralError}
    (h : Text.numeral32 value.toList = .error cause) : ¬IsVersion value := by
  rintro ⟨n, hn⟩
  rw [Text.numeral32, Text.numeral_eq_ok_iff.2 hn] at h
  cases h

/-- What a piece says, or what is wrong with it. -/
def Piece.read : Piece → Except Misuse Group
  | .group w => w.read
  | .cutOff flag => .error (.missingValue flag.text)
  | .unknown argument => .error (.unknownOption argument)

/-- The value of a flag is refused if it is not of the form that the flag asks for. -/
theorem readGroup_eq_error_iff {flag : ValueFlag} {value : String} {m : Misuse} :
    readGroup flag value = .error m ↔ (Piece.group (.valued flag value)).Malformed m := by
  have hpair : ∀ {f : String × String → Group},
      (readPair value).map f = .error m ↔ ¬IsPair value ∧ m = .notPair value := by
    intro f
    rw [← readPair_eq_error_iff]
    cases readPair value <;> simp [Except.map]
  cases flag with
  | param =>
    rw [readGroup, hpair]
    constructor
    · rintro ⟨h, rfl⟩
      exact .notParam h
    · intro h
      cases h with
      | notParam h => exact ⟨h, rfl⟩
  | header =>
    rw [readGroup, hpair]
    constructor
    · rintro ⟨h, rfl⟩
      exact .notHeader h
    · intro h
      cases h with
      | notHeader h => exact ⟨h, rfl⟩
  | apiVersion =>
    rw [readGroup]
    constructor
    · intro h
      split at h
      · cases h
      · rename_i cause hcause
        cases h
        exact .notVersion (not_isVersion_of_error hcause) hcause
    · intro h
      cases h with
      | notVersion h hcause => rw [hcause]
  | config => constructor <;> intro h <;> cases h

/-- A piece is refused exactly if it is malformed. -/
theorem Piece.read_eq_error_iff {p : Piece} {m : Misuse} :
    p.read = .error m ↔ p.Malformed m := by
  cases p with
  | group w =>
    cases w with
    | valued flag value => exact readGroup_eq_error_iff
    | noAuth => constructor <;> intro h <;> cases h
    | noRetry => constructor <;> intro h <;> cases h
  | cutOff flag =>
    constructor
    · intro h
      cases h
      exact .missingValue flag
    · intro h
      cases h
      rfl
  | unknown argument =>
    constructor
    · intro h
      cases h
      exact .unknown argument
    · intro h
      cases h
      rfl

/-- The first piece is read, and then the others. -/
theorem error_cons_iff {p : Piece} {ps : List Piece} {m : Misuse}
    {rest : Except Misuse (List Group)} (ih : rest = .error m ↔ FirstMalformed ps m) :
    (p.read >>= fun group => rest >>= fun groups => .ok (group :: groups)) = .error m ↔
      FirstMalformed (p :: ps) m := by
  rw [bind_eq_error_iff, firstMalformed_cons_iff, Piece.read_eq_error_iff]
  refine or_congr Iff.rfl ?_
  cases hread : p.read with
  | error m' =>
    have hp := Piece.read_eq_error_iff.1 hread
    refine iff_of_false ?_ fun h => h.1 m' hp
    rintro ⟨_, hok, -⟩
    cases hok
  | ok group =>
    have hp : ∀ m', ¬p.Malformed m' := fun m' hm => by
      rw [Piece.read_eq_error_iff.2 hm] at hread
      cases hread
    rw [and_iff_right hp, ← ih]
    cases rest with
    | error m' => simp [bind, Except.bind]
    | ok groups => simp [bind, Except.bind]

/-- **Options are refused** for the first malformed piece. -/
theorem readGroups_eq_error_iff {options : List String} {m : Misuse} :
    readGroups options = .error m ↔ FirstMalformed (pieces options) m := by
  induction options using pieces.induct with
  | case1 =>
    refine iff_of_false ?_ not_firstMalformed_nil
    intro h
    cases h
  | case2 argument flag hflag =>
    rw [readGroups, pieces]
    simp only [hflag]
    rw [firstMalformed_cons_iff, eq_text_of_valueFlag? hflag]
    constructor
    · intro h
      cases h
      exact Or.inl (.missingValue flag)
    · rintro (h | ⟨-, h⟩)
      · cases h
        rfl
      · exact absurd h not_firstMalformed_nil
  | case3 argument flag hflag value rest ih =>
    rw [readGroups, pieces]
    simp only [hflag]
    exact error_cons_iff (p := .group (.valued flag value)) ih
  | case4 argument rest hflag w hbare ih =>
    rw [pieces]
    simp only [hflag, hbare]
    rw [← List.singleton_append, ← arguments_of_bareGroup? hbare, readGroups_append]
    exact error_cons_iff (p := .group w) ih
  | case5 argument rest hflag hbare ih =>
    rw [readGroups, pieces]
    simp only [hflag, hbare, bareFlag?_eq_none hbare]
    rw [firstMalformed_cons_iff]
    constructor
    · intro h
      cases h
      exact Or.inl (.unknown argument)
    · rintro (h | ⟨hp, -⟩)
      · cases h
        rfl
      · exact absurd (Piece.Malformed.unknown argument) (hp _)

/-! ## Refused command lines -/

/-- Why the arguments of a request are refused. -/
inductive Refused : List String → Failure → Prop
  | tooFew {arguments : List String} (h : arguments.length < 2) :
      Refused arguments (.misuse .tooFew)
  | method {token : String} (h : ∀ m : Http.Method, m.token ≠ token) (path : String)
      (options : List String) :
      Refused (token :: path :: options) (.error (.unsupportedMethod token))
  | options (m : Http.Method) (path : String) {options : List String} {misuse : Misuse}
      (h : FirstMalformed (pieces options) misuse) :
      Refused (m.token :: path :: options) (.misuse misuse)

theorem ofToken?_eq_none_iff {token : String} :
    Http.Method.ofToken? token = none ↔ ∀ m : Http.Method, m.token ≠ token := by
  rw [Http.Method.ofToken?, List.find?_eq_none]
  constructor
  · intro h m
    simpa using h m (by cases m <;> decide)
  · intro h m _
    simpa using h m

theorem token_of_ofToken? {token : String} {m : Http.Method}
    (h : Http.Method.ofToken? token = some m) : m.token = token := by
  simpa using List.find?_some h

/-- **The ways in which a command line is refused.** -/
theorem readRequest_eq_error_iff {arguments : List String} {f : Failure} :
    readRequest arguments = .error f ↔ Refused arguments f := by
  constructor
  · intro h
    unfold readRequest at h
    split at h
    · rename_i token path options
      split at h
      · rename_i hmethod
        cases h
        exact .method (ofToken?_eq_none_iff.1 hmethod) path options
      · rename_i m hmethod
        split at h
        · rename_i misuse hmisuse
          cases h
          rw [← token_of_ofToken? hmethod]
          exact .options m path (readGroups_eq_error_iff.1 hmisuse)
        · cases h
    · rename_i hshort
      cases h
      refine .tooFew (Nat.lt_of_not_le fun hlong => ?_)
      rcases arguments with _ | ⟨token, _ | ⟨path, options⟩⟩
      · simp at hlong
      · simp at hlong
      · exact hshort token path options rfl
  · intro h
    cases h with
    | tooFew h =>
      unfold readRequest
      split
      · rw [List.length_cons, List.length_cons] at h
        omega
      · rfl
    | method h path options => simp only [readRequest, ofToken?_eq_none_iff.2 h]
    | options m path h =>
      simp only [readRequest, Http.Method.ofToken?_token, readGroups_eq_error_iff.2 h]

/-- A refused command line ends at once, and the network is left as it is. -/
theorem run_of_refused {arguments : List String} {f : Failure} (h : Refused arguments f)
    (s : Scene) : run s ("request" :: arguments) = ⟨1, "", f.report, s.network⟩ := by
  show runRequest s arguments = _
  rw [runRequest, readRequest_eq_error_iff.2 h]
  rfl

/-! ## Accepted command lines -/

/-- All stages behind an accepted command line succeed: the configuration is loaded, the transport
is built, and the dispatch has a response. -/
def Succeeds (s : Scene) (options : List String) (d : Descriptor) : Prop :=
  ∃ c t response, loadConfig s options = .ok c ∧ Transport.new c = .ok t ∧
    ((t.withProvider .environment).dispatch d ⟨s.environment, []⟩ s.requestId s.network).result =
      .ok response

/-- The dispatch behind an accepted command line gets past its preparation. -/
def IsPrepared (s : Scene) (options : List String) (d : Descriptor) : Prop :=
  ∃ c t p, loadConfig s options = .ok c ∧ Transport.new c = .ok t ∧
    (t.withProvider .environment).prepare d ⟨s.environment, []⟩ s.requestId = .ok p

/-- How an accepted command line ends: well if all stages succeed, and otherwise without output; it
sends nothing unless the request is prepared. -/
structure EndsByStages (s : Scene) (options : List String) (d : Descriptor) (o : Outcome) :
    Prop where
  exitCode_iff : o.exitCode = 0 ↔ Succeeds s options d
  failed : ¬Succeeds s options d → o.exitCode = 1 ∧ o.stdout = ""
  unsent : ¬IsPrepared s options d → o.network = s.network

theorem openTransport_eq_ok_iff {s : Scene} {options : List String} {t : Transport} :
    openTransport s options = .ok t ↔
      ∃ c t', loadConfig s options = .ok c ∧ Transport.new c = .ok t' ∧
        t'.withProvider .environment = t := by
  rw [openTransport, bind_eq_ok_iff]
  refine exists_congr fun c => ?_
  rw [exists_and_left]
  refine and_congr_right fun _ => ?_
  cases Transport.new c with
  | error e => simp
  | ok t' => simp

/-- With the transport at hand, all depends on the dispatch. -/
theorem succeeds_iff {s : Scene} {options : List String} {d : Descriptor} {c : Config}
    {t : Transport} (hc : loadConfig s options = .ok c) (ht : Transport.new c = .ok t) :
    Succeeds s options d ↔ ∃ response, ((t.withProvider .environment).dispatch d
      ⟨s.environment, []⟩ s.requestId s.network).result = .ok response := by
  constructor
  · rintro ⟨c', t', response, hc', ht', hresponse⟩
    obtain rfl : c = c' := Except.ok.inj (hc.symm.trans hc')
    obtain rfl : t = t' := Except.ok.inj (ht.symm.trans ht')
    exact ⟨response, hresponse⟩
  · rintro ⟨response, hresponse⟩
    exact ⟨c, t, response, hc, ht, hresponse⟩

/-- **An accepted command line** ends as its stages do. -/
theorem endsByStages_run {arguments : List String} {d : Descriptor}
    (h : readRequest arguments = .ok d) (s : Scene) :
    EndsByStages s (arguments.drop 2) d (run s ("request" :: arguments)) := by
  show EndsByStages s (arguments.drop 2) d (runRequest s arguments)
  rw [runRequest, h]
  cases hopen : openTransport s (arguments.drop 2) with
  | error f =>
    have hnone : ∀ c t, loadConfig s (arguments.drop 2) = .ok c → Transport.new c ≠ .ok t := by
      intro c t hc ht
      rw [openTransport_eq_ok_iff.2 ⟨c, t, hc, ht, rfl⟩] at hopen
      cases hopen
    have hstages : ¬Succeeds s (arguments.drop 2) d := by
      rintro ⟨c, t, -, hc, ht, -⟩
      exact hnone c t hc ht
    exact ⟨iff_of_false UInt32.zero_ne_one.symm hstages, fun _ => ⟨rfl, rfl⟩, fun _ => rfl⟩
  | ok t =>
    obtain ⟨c, t', hc, ht', rfl⟩ := openTransport_eq_ok_iff.1 hopen
    simp only
    refine ⟨?_, ?_, ?_⟩
    · rw [succeeds_iff hc ht']
      cases ((t'.withProvider .environment).dispatch d ⟨s.environment, []⟩ s.requestId
          s.network).result with
      | error e =>
        refine iff_of_false UInt32.zero_ne_one.symm ?_
        rintro ⟨response, hresponse⟩
        cases hresponse
      | ok response => exact iff_of_true rfl ⟨response, rfl⟩
    · rw [succeeds_iff hc ht']
      cases ((t'.withProvider .environment).dispatch d ⟨s.environment, []⟩ s.requestId
          s.network).result with
      | error e => exact fun _ => ⟨rfl, rfl⟩
      | ok response => exact fun h => absurd ⟨response, rfl⟩ h
    · intro hprepared
      cases hplan : (t'.withProvider .environment).prepare d ⟨s.environment, []⟩ s.requestId with
      | ok p => exact absurd ⟨c, t', p, hc, ht', hplan⟩ hprepared
      | error e => rw [Transport.dispatch_of_prepare_error hplan]; rfl

/-- **A refused command line has no effect.**  The arguments of a request are refused if there are
fewer than two of them, if the first one is no verb, or if any piece behind the second one is
malformed, wherever it stands.  Then the first malformed piece decides, and whatever the scene is,
the program ends at once with code 1: nothing is printed but the message and the network is left as
it is.  Arguments that are not refused describe a request, and the outcome is that of the stages
behind it. -/
theorem refused_without_effect (arguments : List String) :
    ((∃ f, Refused arguments f) ↔
      arguments.length < 2 ∨
        ∃ token path options, arguments = token :: path :: options ∧
          ((∀ m : Http.Method, m.token ≠ token) ∨ ∃ p ∈ pieces options, ∃ m, p.Malformed m)) ∧
      (∀ options, (pieces options).flatMap Piece.arguments = options) ∧
      (∀ f, Refused arguments f →
        ∀ s, run s ("request" :: arguments) = ⟨1, "", f.report, s.network⟩) ∧
      ((∀ f, ¬Refused arguments f) →
        ∃ d, readRequest arguments = .ok d ∧
          ∀ s, EndsByStages s (arguments.drop 2) d (run s ("request" :: arguments))) := by
  refine ⟨⟨?_, ?_⟩, flatMap_pieces, fun f hf s => run_of_refused hf s, ?_⟩
  · rintro ⟨f, hf⟩
    cases hf with
    | tooFew h => exact Or.inl h
    | method h path options => exact Or.inr ⟨_, path, options, rfl, Or.inl h⟩
    | options m path h =>
      exact Or.inr ⟨_, path, _, rfl, Or.inr (exists_firstMalformed_iff.1 ⟨_, h⟩)⟩
  · rintro (h | ⟨token, path, options, rfl, h | h⟩)
    · exact ⟨_, .tooFew h⟩
    · exact ⟨_, .method h path options⟩
    · obtain ⟨misuse, hmisuse⟩ := exists_firstMalformed_iff.2 h
      by_cases htoken : ∃ m : Http.Method, m.token = token
      · obtain ⟨m, rfl⟩ := htoken
        exact ⟨_, .options m path hmisuse⟩
      · exact ⟨_, .method (not_exists.1 htoken) path options⟩
  · intro h
    cases hread : readRequest arguments with
    | error f => exact absurd (readRequest_eq_error_iff.1 hread) (h f)
    | ok d => exact ⟨d, rfl, fun s => endsByStages_run hread s⟩

/-- Options of which the last is cut off, behind a value that looks like a flag, and which name a
file. -/
def cutOffOptions : List String :=
  ["--config", "--config", "--param", "a==b", "--no-auth", "--api-version"]

/-- The flag at the end decides, whatever the file holds. -/
theorem refused_without_effect_of_cutOffOptions :
    Refused ("POST" :: "/users" :: cutOffOptions) (.misuse (.missingValue "--api-version")) ∧
      (run localScene ("request" :: "POST" :: "/users" :: cutOffOptions)) =
        ⟨1, "", "Error: --api-version needs a value\n", localScene.network⟩ := by
  have hread : readGroups cutOffOptions = .error (.missingValue "--api-version") := by
    rfl
  have hrefused : Refused ("POST" :: "/users" :: cutOffOptions)
      (.misuse (.missingValue "--api-version")) :=
    .options .post "/users" (readGroups_eq_error_iff.1 hread)
  obtain ⟨-, -, hrun, -⟩ := refused_without_effect ("POST" :: "/users" :: cutOffOptions)
  refine ⟨hrefused, (hrun _ hrefused localScene).trans ?_⟩
  congr 1

end Courier.CommandLine
