import Courier.Yaml.Scalar

/-!
# YAML text of records

A record is written as a block, one field a line, and a record within it is indented by two more
blanks.  Text is written plain where plain text reads back as the same text, otherwise between
quotes; text with line feeds is written as a literal block if its blanks allow that.
-/

namespace Courier.Yaml

/-- What a record's fields hold. -/
inductive Value where
  | null
  | number (n : Nat)
  | text (s : String)
  | record (fields : List (String × Value))
  deriving Repr, Inhabited

/-! ## The shape of a text -/

/-- Characters that stand for themselves outside double quotes. -/
def isPrintable (c : Char) : Bool :=
  let n := c.toNat
  n == 0x0A || (0x20 ≤ n && n ≤ 0x7E)
    || (0xA0 ≤ n && n != 0xFEFF && n != 0xFFFE && n != 0xFFFF)

/-- Whether some character of a class directly precedes one of another class. -/
def hasPair (p q : Char → Bool) : List Char → Bool
  | a :: b :: rest => (p a && q b) || hasPair p q (b :: rest)
  | _ => false

/-- A blank that is not a tab. -/
def isSpace (c : Char) : Bool := c == ' '

/-- Characters that begin something else than a plain scalar. -/
def isIndicator (c : Char) : Bool :=
  isFlowIndicator c || c == '#' || c == '&' || c == '*' || c == '!' || c == '|' || c == '>'
    || c == '\'' || c == '"' || c == '%' || c == '@' || c == '\x60'

/-- Whether a colon ends a word behind the first character, or a `#` begins one. -/
def hasInnerIndicator : List Char → Bool
  | [] => false
  | a :: rest =>
    (match rest with
      | ':' :: more => atWordEnd more
      | '#' :: _ => isGap a || isBreak a
      | _ => false)
      || hasInnerIndicator rest

/-- Whether something in a text would be taken for structure. -/
def readsAsStructure (cs : List Char) : Bool :=
  (match cs with
    | c :: rest =>
      isIndicator c || ((c == '?' || c == ':' || c == '-') && atWordEnd rest)
    | [] => false)
    || ['-', '-', '-'].isPrefixOf cs || ['.', '.', '.'].isPrefixOf cs || hasInnerIndicator cs

/-- Whether all characters are printable and no blank precedes a line end. -/
def isClean (cs : List Char) : Bool := cs.all isPrintable && !hasPair isSpace isBreak cs

/-- Whether blanks or line ends stand at either end. -/
def isPadded (cs : List Char) : Bool :=
  let edge (c : Char) : Bool := isSpace c || isBreak c
  cs.head?.any edge || cs.getLast?.any edge

/-- Whether a text may be written plain. -/
def allowsPlain (cs : List Char) : Bool :=
  isClean cs && !cs.any isBreak && !isPadded cs && !readsAsStructure cs

/-- Whether a text may be written between single quotes. -/
def allowsSingle (cs : List Char) : Bool := isClean cs && !hasPair isBreak isSpace cs

/-- Whether a text may be written as a literal block. -/
def allowsLiteral (cs : List Char) : Bool := isClean cs && !cs.getLast?.any isSpace

/-- The style of a text: literal for line feeds, quotes for what would read as another kind of
value, plain elsewhere, each only where the text allows it. -/
def styleOf (cs : List Char) : Style :=
  if '\n' ∈ cs then (if allowsLiteral cs then .literal else .double)
  else if (Scalar.ofPlain cs).isText ∧ !isPaddedDigits cs ∧ allowsPlain cs then .plain
  else if allowsSingle cs then .single
  else .double

/-! ## Writing text -/

/-- The blanks of an indentation. -/
def blanks (n : Nat) : List Char := List.replicate n ' '

/-- The text between single quotes; a line is indented if the one before it ended. -/
def singleBody (indent : Nat) : Bool → List Char → List Char
  | broke, [] => if broke then blanks indent else []
  | broke, c :: cs =>
    if isBreak c then c :: singleBody indent true cs
    else
      (if broke then blanks indent else [])
        ++ (if c = '\'' then ['\'', '\''] else [c])
        ++ singleBody indent false cs

/-- Uppercase hexadecimal digits, to a width. -/
def paddedHex (width n : Nat) : List Char :=
  let ds := (Text.hexDigits n).map Char.toUpper
  List.replicate (width - ds.length) '0' ++ ds

/-- How one character stands between double quotes. -/
def doubleChar (c : Char) : List Char :=
  match c with
  | '\x00' => ['\\', '0']
  | '\x07' => ['\\', 'a']
  | '\x08' => ['\\', 'b']
  | '\t' => ['\\', 't']
  | '\n' => ['\\', 'n']
  | '\x0b' => ['\\', 'v']
  | '\x0c' => ['\\', 'f']
  | '\r' => ['\\', 'r']
  | '\x1b' => ['\\', 'e']
  | '"' => ['\\', '"']
  | '\\' => ['\\', '\\']
  | '\x85' => ['\\', 'N']
  | '\u2028' => ['\\', 'L']
  | '\u2029' => ['\\', 'P']
  | c =>
    if isPrintable c then [c]
    else if c.toNat ≤ 0xFF then '\\' :: 'x' :: paddedHex 2 c.toNat
    else if c.toNat ≤ 0xFFFF then '\\' :: 'u' :: paddedHex 4 c.toNat
    else '\\' :: 'U' :: paddedHex 8 c.toNat

/-- The lines of a literal block. -/
def literalBody (indent : Nat) : Bool → List Char → List Char
  | _, [] => []
  | broke, c :: cs =>
    if isBreak c then c :: literalBody indent true cs
    else (if broke then blanks indent else []) ++ c :: literalBody indent false cs

/-- The number in a literal block's header, which is needed where the first line does not show the
indentation. -/
def indentHint (cs : List Char) : List Char :=
  if cs.head?.any (fun c => isSpace c || isBreak c) then ['2'] else []

/-- The sign in a literal block's header: line ends at the tail are none, one, or to be kept. -/
def chompingHint (cs : List Char) : List Char :=
  match cs.reverse with
  | [] => ['-']
  | c :: rest =>
    if !isBreak c then ['-']
    else
      match rest with
      | [] => ['+']
      | d :: _ => if isBreak d then ['+'] else []

/-- A text and the end of its line. -/
def textLine (indent : Nat) (cs : List Char) : List Char :=
  match styleOf cs with
  | .plain => cs ++ ['\n']
  | .single => '\'' :: singleBody indent false cs ++ ['\'', '\n']
  | .literal =>
    '|' :: indentHint cs ++ chompingHint cs ++ '\n' :: literalBody indent true cs
      ++ (if cs.getLast?.any isBreak then [] else ['\n'])
  | _ => '"' :: cs.flatMap doubleChar ++ ['"', '\n']

/-! ## Writing records -/

mutual

/-- What follows the colon of a field, up to the end of its last line. -/
def Value.tail (indent : Nat) : Value → List Char
  | .null => [' ', 'n', 'u', 'l', 'l', '\n']
  | .number n => ' ' :: Text.digits n ++ ['\n']
  | .text s => ' ' :: textLine (indent + 2) s.toList
  | .record [] => [' ', '\x7b', '\x7d', '\n']
  | .record (f :: fs) => '\n' :: Value.fieldLines (indent + 2) (f :: fs)

/-- The lines of a record's fields. -/
def Value.fieldLines (indent : Nat) : List (String × Value) → List Char
  | [] => []
  | (name, v) :: rest =>
    blanks indent ++ name.toList ++ ':' :: Value.tail indent v ++ Value.fieldLines indent rest

end

/-- The text of a record. -/
def print (fields : List (String × Value)) : List Char := Value.fieldLines 0 fields

end Courier.Yaml
