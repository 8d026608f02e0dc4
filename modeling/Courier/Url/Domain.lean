import Courier.Text.Utf8
import Courier.Unicode.NameMapping
import Courier.Url.Label
import Courier.Url.Punycode

/-!
# Domain names

A domain is compared in lower case, and characters that would be read as another part of a URL may
not occur in it.  One that is not all ASCII is mapped and normalized, and each of its labels is
written with ASCII characters behind a mark.
-/

namespace Courier.Url

open Courier.Unicode

/-- ASCII characters that a domain may not hold. -/
def isForbiddenInDomain (c : Char) : Bool :=
  c.toNat ≤ 0x20 || c.toNat == 0x7F || c == '%' || c == '#' || c == '/' || c == ':' || c == '<'
    || c == '>' || c == '?' || c == '@' || c == '[' || c == '\\' || c == ']' || c == '^'
    || c == '|'

/-- What the characters of a name become; nothing if no name may hold one of them. -/
def mapName? : List Char → Option (List Char)
  | [] => some []
  | c :: cs =>
    match mapForName? c, mapName? cs with
    | some mapped, some rest => some (mapped ++ rest)
    | _, _ => none

/-- Whether a text is what mapping and normalization give. -/
def isMapped (cs : List Char) : Bool := mapName? cs == some cs && normalize cs == cs

/-- The mark of a label that stands for another text. -/
def encodedMark : List Char := "xn--".toList

/-- A label: how it is written, and the text that it stands for. -/
structure Label where
  written : List Char
  text : List Char

/-- The label of a text that is mapped and normalized.  A text behind the mark must stand for one
that is not all ASCII. -/
def readLabel? (cs : List Char) : Option Label :=
  if encodedMark.isPrefixOf cs then
    if cs.all Punycode.isAscii then
      match Punycode.decode? (cs.drop encodedMark.length) with
      | none => none
      | some text =>
        if !text.all Punycode.isAscii && isMapped text && isLabel text then some ⟨cs, text⟩
        else none
    else none
  else if cs.all Punycode.isAscii then some ⟨cs, cs⟩
  else if isLabel cs then some ⟨encodedMark ++ Punycode.encode cs, cs⟩
  else none

/-- All labels, if each is one. -/
def readLabels? : List (List Char) → Option (List Label)
  | [] => some []
  | cs :: rest =>
    match readLabel? cs, readLabels? rest with
    | some label, some labels => some (label :: labels)
    | _, _ => none

/-- Labels with dots between them. -/
def joinLabels : List (List Char) → List Char
  | [] => []
  | [label] => label
  | label :: rest => label ++ '.' :: joinLabels rest

/-- The ASCII form of a domain that is mapped and normalized. -/
def writeDomain? (cs : List Char) : Option (List Char) :=
  if cs.any isForbiddenInDomain then none
  else
    match readLabels? (Text.splitAtAll (· == '.') cs) with
    | none => none
    | some labels =>
      if labels.any (·.text.any isDirecting) && !labels.all (hasOneDirection ·.text) then none
      else some (joinLabels (labels.map (·.written)))

/-- The ASCII form of a domain given as bytes. -/
def domain? (bs : List UInt8) : Option (List Char) :=
  match Text.Utf8.decode? bs with
  | none => none
  | some cs =>
    match mapName? cs with
    | none => none
    | some mapped => writeDomain? (normalize mapped)

end Courier.Url
