import Courier.Yaml.Event

/-!
# Nodes and links

A document whose aliases are resolved: in place of a name an alias holds the number of the event
that its anchor marks.  A name may be set again, and each setting takes as its number the count of
names that are set; an alias goes to the latest event under that number.
-/

namespace Courier.Yaml

/-- A piece of a document with its aliases resolved. -/
inductive ItemKind where
  | link (target : Nat)
  | scalar (tag : Option (List Char)) (style : Style) (text : List Char)
  | listStart
  | listEnd
  | mapStart
  | mapEnd
  deriving DecidableEq, Repr, Inhabited

/-- An item and where it starts. -/
structure Item where
  kind : ItemKind
  mark : Mark
  deriving DecidableEq, Repr, Inhabited

/-- The anchors seen so far: the number of each name, latest first, how many names there are, and
the event under each number, latest first. -/
structure Anchors where
  numbers : List (List Char × Nat)
  size : Nat
  events : List (Nat × Nat)

namespace Anchors

/-- Marks an event with a name. -/
def mark (a : Anchors) (name : List Char) (event : Nat) : Anchors :=
  ⟨(name, a.size) :: a.numbers,
    if (a.numbers.lookup name).isSome then a.size else a.size + 1,
    (a.size, event) :: a.events⟩

/-- Marks an event if it has a name. -/
def mark? (a : Anchors) (name : Option (List Char)) (event : Nat) : Anchors :=
  match name with
  | some name => a.mark name event
  | none => a

end Anchors

/-- The number that each alias stands for, up to the first alias of an unknown name; with the
anchors at the end. -/
def linkFrom : Nat → Anchors → List Event → List Item × Anchors × Option Fault
  | _, a, [] => ([], a, none)
  | n, a, e :: es =>
    let next (a : Anchors) (kind : ItemKind) :=
      let (items, last, fault) := linkFrom (n + 1) a es
      (⟨kind, e.mark⟩ :: items, last, fault)
    match e.kind with
    | .alias name =>
      match a.numbers.lookup name with
      | some number => next a (.link number)
      | none => ([], a, some (.plain .unknownAnchor e.mark))
    | .scalar anchor tag style text => next (a.mark? anchor n) (.scalar tag style text)
    | .listStart anchor => next (a.mark? anchor n) .listStart
    | .listEnd => next a .listEnd
    | .mapStart anchor => next (a.mark? anchor n) .mapStart
    | .mapEnd => next a .mapEnd

/-- The first document of a text with its links: the items, the fault behind them, the event under
each anchor number, and whether anything follows the document. -/
structure Tree where
  items : List Item
  fault : Option Fault
  targets : List (Nat × Nat)
  more : Bool
  deriving Repr

namespace Tree

/-- Resolves the aliases of a document. -/
def ofDocument (d : Document) : Tree :=
  let (items, anchors, fault) := linkFrom 0 ⟨[], 0, []⟩ d.events
  match fault with
  | some f => ⟨items, some f, anchors.events, false⟩
  | none => ⟨items, d.fault, anchors.events, d.more⟩

/-- The first document of a text. -/
def ofText (cs : List Char) : Tree := ofDocument (Document.ofText cs)

/-- The items from the event under an anchor number. -/
def follow (t : Tree) (number : Nat) : List Item :=
  t.items.drop ((t.targets.lookup number).getD t.items.length)

/-- Whether the text has no document. -/
def isVoid (t : Tree) : Bool := t.items.isEmpty && t.fault.isNone

end Tree

end Courier.Yaml
