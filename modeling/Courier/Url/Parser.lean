import Courier.Url.Basic

/-!
# Reading URLs

Blanks and controls around a URL and all tabs and line ends are dropped first.  A URL of the web may
have any number of slashes, of either kind, in front of its host.  In a path, segments of one or two
dots are resolved at once, also when they are escaped.

`Url.parse` reads a whole URL; `Url.join` reads one that may leave out what it shares with a base.
-/

namespace Courier.Url

/-! ## Preparation -/

/-- Controls and the blank. -/
def isEdge (c : Char) : Bool := c.toNat ≤ 0x20

/-- Drops controls and blanks at both ends and tabs and line ends everywhere. -/
def clean (cs : List Char) : List Char :=
  ((cs.dropWhile isEdge).reverse.dropWhile isEdge).reverse.filter fun c =>
    !(c == '\t' || c == '\n' || c == '\r')

/-- A letter of ASCII. -/
def isLetter (c : Char) : Bool := ('a' ≤ c && c ≤ 'z') || ('A' ≤ c && c ≤ 'Z')

/-- Characters of a scheme. -/
def isSchemeChar (c : Char) : Bool :=
  isLetter c || Text.isDigit c || c == '+' || c == '-' || c == '.'

/-- The scheme in front of a colon, in lower case, and the rest. -/
def scheme? (cs : List Char) : Option (List Char × List Char) :=
  if cs.head?.any isLetter then
    match cs.dropWhile isSchemeChar with
    | ':' :: rest => some ((cs.takeWhile isSchemeChar).map Text.smallLetter, rest)
    | _ => none
  else none

/-- A slash of either kind. -/
def isSlash (c : Char) : Bool := c == '/' || c == '\\'

/-- Whether an authority ends at a character. -/
def endsAuthority (special : Bool) (c : Char) : Bool :=
  c == '/' || c == '?' || c == '#' || (special && c == '\\')

/-! ## Names and passwords -/

/-- The name and password in front of the last `@` of an authority, escaped, and what is left. -/
def readUser (special : Bool) (cs : List Char) :
    Except Fault ((List Char × List Char) × List Char) :=
  let authority := cs.takeWhile fun c => !endsAuthority special c
  let rest := cs.dropWhile fun c => !endsAuthority special c
  match Text.splitAtLast? '@' authority with
  | none => .ok (([], []), cs)
  | some (user, host) =>
    if user = [] ∧ host = [] ∧ rest ≠ [] then .error .emptyHost
    else
      let name := user.takeWhile (· != ':')
      let password := (user.dropWhile (· != ':')).drop 1
      .ok ((escape inUserSet name, escape inUserSet password), host ++ rest)

/-! ## Hosts and ports -/

/-- The host in a special URL. -/
def readHost (cs : List Char) : Except Fault Host :=
  match cs with
  | '[' :: inner =>
    if inner.getLast? = some ']' then (address6 inner.dropLast).map .address6
    else .error .invalidAddress6
  | cs =>
    match domain? (unescape cs) with
    | none => .error .invalidDomain
    | some [] => .error .emptyHost
    | some name =>
      if endsInNumber name then (address4 name).map .address4 else .ok (.domain name)

/-- Characters that no host may hold. -/
def isForbiddenInHost (c : Char) : Bool :=
  c == '\x00' || c == '\t' || c == '\n' || c == '\r' || c == ' ' || c == '#' || c == '/' || c == ':'
    || c == '<' || c == '>' || c == '?' || c == '@' || c == '[' || c == '\\' || c == ']'
    || c == '^' || c == '|'

/-- The host in any other URL. -/
def readOpaqueHost (cs : List Char) : Except Fault Host :=
  match cs with
  | '[' :: inner =>
    if inner.getLast? = some ']' then (address6 inner.dropLast).map .address6
    else .error .invalidAddress6
  | cs =>
    if cs.any isForbiddenInHost then .error .forbiddenHostChar
    else .ok (.domain (escape isUnsafe cs))

/-- The text of a host: a colon ends it unless it stands within brackets. -/
def hostLength (special : Bool) : Bool → List Char → Nat
  | _, [] => 0
  | inBrackets, c :: cs =>
    if (c = ':' ∧ !inBrackets) ∨ endsAuthority special c then 0
    else
      let inBrackets := if c = '[' then true else if c = ']' then false else inBrackets
      hostLength special inBrackets cs + 1

/-- The digits of a port. -/
def portDigits : Nat → List Char → Except Fault (Nat × List Char)
  | n, [] => .ok (n, [])
  | n, c :: cs =>
    if Text.isDigit c then
      let n := n * 10 + (c.toNat - 48)
      if n ≤ 65535 then portDigits n cs else .error .invalidPort
    else if endsAuthority true c then .ok (n, c :: cs)
    else .error .invalidPort

/-- A port behind its colon; nothing is read as no port, and so is the port that the scheme
implies. -/
def readPort (scheme : List Char) (cs : List Char) : Except Fault (Option Nat × List Char) := do
  let (n, rest) ← portDigits 0 cs
  let written := cs.head?.any Text.isDigit
  .ok (if written ∧ impliedPort? scheme ≠ some n then some n else none, rest)

/-- The authority and what is left. -/
def readAuthority (scheme : List Char) (cs : List Char) : Except Fault (Authority × List Char) := do
  let special := schemeKind scheme == .special
  let ((username, password), cs) ← readUser special cs
  let n := hostLength special false cs
  let rest := cs.drop n
  if special ∧ n = 0 then .error .emptyHost
  else
    let host ← if special then readHost (cs.take n) else readOpaqueHost (cs.take n)
    if host = .domain [] ∧ rest.head? = some ':' then .error .emptyHost
    else
      let (port, rest) ←
        match rest with
        | ':' :: digits => readPort scheme digits
        | rest => .ok (none, rest)
      if host = .domain [] ∧ (username ≠ [] ∨ password ≠ []) then .error .emptyHost
      else .ok (⟨username, password, host, port⟩, rest)

/-! ## Paths -/

/-- A segment that stands for the directory itself. -/
def isSingleDot (s : List Char) : Bool :=
  let s := String.ofList s
  s == "." || s == "%2e" || s == "%2E"

/-- A segment that stands for the directory above. -/
def isDoubleDot (s : List Char) : Bool :=
  let s := String.ofList s
  s == ".." || s == "%2e%2e" || s == "%2e%2E" || s == "%2E%2e" || s == "%2E%2E" || s == "%2e."
    || s == "%2E." || s == ".%2e" || s == ".%2E"

/-- The name of a drive, which no `..` passes. -/
def isDrive : List Char → Bool
  | [a, b] => isLetter a && (b == ':' || b == '|')
  | _ => false

/-- The directory above. -/
def dropSegment (dir : List (List Char)) : List (List Char) :=
  match dir.getLast? with
  | some s => if isDrive s then dir else dir.dropLast
  | none => dir

/-- Segments behind a directory, with dots resolved.  Dots at the end leave an empty segment. -/
def resolveFrom (dir : List (List Char)) : List (List Char) → List (List Char)
  | [] => dir
  | s :: rest =>
    let close (dir : List (List Char)) := if rest = [] then dir ++ [[]] else dir
    if isDoubleDot s then resolveFrom (close (dropSegment dir)) rest
    else if isSingleDot s then resolveFrom (close dir) rest
    else resolveFrom (dir ++ [s]) rest

/-- The segments of a path's text behind a directory. -/
def readSegments (special : Bool) (dir : List (List Char)) (cs : List Char) : List (List Char) :=
  let raw := Text.splitAtAll (fun c => c == '/' || (special && c == '\\')) cs
  resolveFrom dir (raw.map (escape inPathSet))

/-- Whether a path goes on at a character. -/
def isPathChar (c : Char) : Bool := c != '?' && c != '#'

/-- Drops a slash in front. -/
def dropSlash (special : Bool) (cs : List Char) : List Char :=
  match cs with
  | c :: rest => if c = '/' ∨ (special ∧ c = '\\') then rest else cs
  | [] => []

/-- The path behind an authority. -/
def readPath (special : Bool) (cs : List Char) : Path :=
  if cs = [] ∧ !special then .segments []
  else .segments (readSegments special [] (dropSlash special cs))

/-! ## Queries and fragments -/

/-- A URL whose query and fragment are the rest of a text. -/
def withTail (u : Url) (special : Bool) (cs : List Char) : Url :=
  let fragment (cs : List Char) : Option (List Char) :=
    match cs with
    | '#' :: f => some (escape inFragmentSet f)
    | _ => none
  match cs with
  | '?' :: rest =>
    let q := rest.takeWhile (· != '#')
    { u with
      query := some (escape (inQuerySet special) q)
      fragment := fragment (rest.dropWhile (· != '#')) }
  | cs => { u with query := none, fragment := fragment cs }

/-- A URL whose path, query and fragment are the rest of a text behind a directory. -/
def withPathFrom (u : Url) (special : Bool) (dir : List (List Char)) (cs : List Char) : Url :=
  let path := cs.takeWhile isPathChar
  withTail { u with path := .segments (readSegments special dir path) } special
    (cs.dropWhile isPathChar)

/-! ## Whole URLs -/

/-- What follows two slashes. -/
def readAfterSlashes (scheme : List Char) (cs : List Char) : Except Fault Url := do
  let special := schemeKind scheme == .special
  let (authority, rest) ← readAuthority scheme cs
  let path := readPath special (rest.takeWhile isPathChar)
  .ok (withTail ⟨scheme, some authority, path, none, none⟩ special (rest.dropWhile isPathChar))

/-- A URL without an authority. -/
def readPlain (scheme : List Char) (cs : List Char) : Url :=
  let text := cs.takeWhile isPathChar
  let path : Path :=
    match text with
    | '/' :: rest => .segments (readSegments false [] rest)
    | text => .opaqueText (escape isUnsafe text)
  withTail ⟨scheme, none, path, none, none⟩ false (cs.dropWhile isPathChar)

/-- The path of a file; the name of a drive in front is written with a colon. -/
def readFilePath (cs : List Char) : Path :=
  match readPath true cs with
  | .segments (s :: rest) => .segments ((if isDrive s then s.take 1 ++ [':'] else s) :: rest)
  | path => path

/-- A file URL; its host, if it has one, must be a host. -/
def readFile (cs : List Char) : Except Fault Url := do
  let nowhere : Host := .domain []
  let path (rest : List Char) (host : Host) : Url :=
    let text := rest.takeWhile isPathChar
    withTail ⟨"file".toList, some ⟨[], [], host, none⟩, readFilePath text, none, none⟩ true
      (rest.dropWhile isPathChar)
  match cs with
  | a :: b :: rest =>
    if isSlash a ∧ isSlash b then
      let n := (rest.takeWhile fun c => !endsAuthority true c).length
      let name := rest.take n
      if name = [] ∨ isDrive name then .ok (path rest nowhere)
      else
        let host ← readHost name
        .ok (path (rest.drop n) (if host = .domain "localhost".toList then nowhere else host))
    else .ok (path cs nowhere)
  | cs => .ok (path cs nowhere)

/-- A URL behind its scheme. -/
def readWithScheme (scheme : List Char) (rest : List Char) : Except Fault Url :=
  match schemeKind scheme with
  | .file => readFile rest
  | .special => readAfterSlashes scheme (rest.dropWhile isSlash)
  | .other =>
    match rest with
    | '/' :: '/' :: rest => readAfterSlashes scheme rest
    | rest => .ok (readPlain scheme rest)

/-- A URL. -/
def parse (cs : List Char) : Except Fault Url :=
  match scheme? (clean cs) with
  | some (scheme, rest) => readWithScheme scheme rest
  | none => .error .noBase

/-- The segments of the directory of a path. -/
def Path.directory : Path → List (List Char)
  | .segments parts => parts.dropLast
  | .opaqueText _ => []

/-- What a text without a scheme means beside a base of the web. -/
def readRelative (base : Url) (cs : List Char) : Except Fault Url :=
  match cs with
  | [] => .ok { base with fragment := none }
  | '?' :: _ => .ok (withTail base true cs)
  | '#' :: _ => .ok { withTail base true cs with query := base.query }
  | a :: rest =>
    if isSlash a then
      match rest with
      | b :: more =>
        if isSlash b then
          if a = '/' ∧ b = '/' then readAfterSlashes base.scheme more
          else readAfterSlashes base.scheme (cs.dropWhile isSlash)
        else .ok (withPathFrom base true [] rest)
      | [] => .ok (withPathFrom base true [] rest)
    else .ok (withPathFrom base true base.path.directory cs)

/-- A URL that may leave out what it shares with a base of the web. -/
def join (base : Url) (cs : List Char) : Except Fault Url :=
  let cs := clean cs
  match scheme? cs with
  | some (scheme, rest) =>
    if scheme = base.scheme ∧ !(rest.head?.any isSlash && (rest.drop 1).head?.any isSlash) then
      readRelative base rest
    else readWithScheme scheme rest
  | none => readRelative base cs

end Courier.Url
