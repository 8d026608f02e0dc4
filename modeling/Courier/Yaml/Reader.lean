import Courier.Yaml.Error
import Courier.Yaml.Node

/-!
# Reading values from a document

Each reader takes the items from some node on and gives the node's value and the items behind it.
An alias is read at its target.  The items may stop short of the end of a node; then the fault
behind them is the error, but only when a reader comes that far.
-/

namespace Courier.Yaml

/-- A reader's result: a value and the items behind it. -/
abbrev Read (α : Type) := Except Error (α × List Item)

namespace Tree

/-- The error where the items stop. -/
def cutShort (t : Tree) : Error :=
  match t.fault with
  | some f => .fault f
  | none => .ended

/-- Locates the misfit of a result. -/
def locate {α : Type} (place : Place) (r : Read α) : Read α := r.mapError (.locate place)

end Tree

/-- The standard tag of a kind of scalar. -/
def standardTag (kind : String) : List Char := ("tag:yaml.org,2002:" ++ kind).toList

/-- The meaning of a scalar by its tag and style. -/
def Scalar.ofTagged (tag : Option (List Char)) (style : Style) (cs : List Char) :
    Except Misfit Scalar :=
  let string : Scalar := .text (String.ofList cs)
  let refuse (expected : String) : Except Misfit Scalar :=
    .error (.wrongValue (.scalar string) expected)
  match tag with
  | none => .ok (if style = .plain then .ofPlain cs else string)
  | some tag =>
    if tag = standardTag "bool" then
      match boolWord? cs with
      | some b => .ok (.bool b)
      | none => refuse "a boolean"
    else if tag = standardTag "int" then
      match integer? cs with
      | some n => .ok n
      | none => refuse "an integer"
    else if tag = standardTag "float" then
      match real? cs with
      | some x => .ok x
      | none => refuse "a float"
    else if tag = standardTag "null" then
      if isNullWord cs then .ok .null else refuse "null"
    else if tag.head? = some '!' ∧ style = .plain then .ok (.ofPlain cs)
    else .ok string

/-- The misfit of a scalar. -/
def wrongScalar (tag : Option (List Char)) (style : Style) (cs : List Char) (expected : String) :
    Error :=
  match Scalar.ofTagged tag style cs with
  | .ok s => .misfit (.wrongType (.scalar s) expected) none
  | .error m => .misfit m none

/-- The misfit of a node that is not what was expected. -/
def wrongKind (kind : ItemKind) (expected : String) : Error :=
  match kind with
  | .scalar tag style cs => wrongScalar tag style cs expected
  | .listStart => .misfit (.wrongType .list expected) none
  | .mapStart => .misfit (.wrongType .map expected) none
  | _ => .ended

namespace Tree

/-- Reads a node that must be text; any scalar will do. -/
def textAt (path : List String) (expected : String) (item : Item) : Except Error String :=
  match item.kind with
  | .scalar _ _ cs => .ok (String.ofList cs)
  | kind => .error ((wrongKind kind expected).locate ⟨item.mark, path⟩)

/-- Reads a node by its first item, at the target if it is an alias. -/
def atTarget {α : Type} (t : Tree) (read : Item → Except Error α) (items : List Item) : Read α :=
  match items with
  | [] => .error t.cutShort
  | item :: rest =>
    match item.kind with
    | .link number =>
      match t.follow number with
      | target :: _ => (read target).map (·, rest)
      | [] => .error t.cutShort
    | _ => (read item).map (·, rest)

/-- Text. -/
def text (t : Tree) (path : List String) (expected : String) (items : List Item) : Read String :=
  t.atTarget (textAt path expected) items

/-- Whether a scalar stands for the absence of text.  The null tag on a plain scalar asks for one of
the spellings of null. -/
def isAbsent (tag : Option (List Char)) (style : Style) (cs : List Char) : Except Error Bool :=
  if style ≠ .plain then .ok false
  else
    match tag with
    | some tag =>
      if tag = standardTag "null" then
        if isNullWord cs then .ok true
        else .error (.misfit (.wrongValue (.scalar (.text (String.ofList cs))) "null") none)
      else .ok false
    | none => .ok (cs.isEmpty || isNullWord cs)

/-- Text or nothing. -/
def optionalText (t : Tree) (path : List String) (expected : String) (items : List Item) :
    Read (Option String) :=
  t.atTarget (fun item =>
    match item.kind with
    | .scalar tag style cs => do
      if (← isAbsent tag style cs) then .ok none
      else .ok (some (← textAt path expected item))
    | _ => (textAt path expected item).map some) items

/-- An unsigned number of 64 bits that is no greater than a limit. -/
def numberAt (path : List String) (limit : Nat) (expected : String) (item : Item) :
    Except Error Nat :=
  let refuse {α : Type} (e : Error) : Except Error α := .error (e.locate ⟨item.mark, path⟩)
  match item.kind with
  | .scalar tag style cs =>
    let counts := style = .plain ∨ (style = .literal ∧ tag = some (standardTag "int"))
    match if counts then unsigned? Text.maxU64 cs else none with
    | some n =>
      if n ≤ limit then .ok n
      else refuse (.misfit (.wrongValue (.scalar (.unsigned n)) expected) none)
    | none => refuse (wrongScalar tag style cs expected)
  | kind => refuse (wrongKind kind expected)

/-- A number. -/
def number (t : Tree) (path : List String) (limit : Nat) (expected : String) (items : List Item) :
    Read Nat :=
  t.atTarget (numberAt path limit expected) items

/-- Passes the rest of a node of which some collections are still open. -/
def skipOpen (t : Tree) : Nat → List Item → Except Error (List Item)
  | _, [] => .error t.cutShort
  | depth, item :: rest =>
    match item.kind with
    | .listStart => t.skipOpen (depth + 1) rest
    | .mapStart => t.skipOpen (depth + 1) rest
    | .listEnd => if depth ≤ 1 then .ok rest else t.skipOpen (depth - 1) rest
    | .mapEnd => if depth ≤ 1 then .ok rest else t.skipOpen (depth - 1) rest
    | _ => if depth = 0 then .ok rest else t.skipOpen depth rest

/-- Passes a node. -/
def skip (t : Tree) (items : List Item) : Except Error (List Item) := t.skipOpen 0 items

/-- How the fields of a map are read into a value: what to do with a named field, given the fields
that are already set.  `none` means that the name is not a field. -/
structure Fields (α : Type) where
  expected : String
  initial : α
  field? : String → List String → α → List Item → Option (Read α)

/-- Reads the entries of a map.  A field may be set once; other names are passed over. -/
def entries {α : Type} (t : Tree) (fields : Fields α) (path : List String) :
    Nat → List String → α → List Item → Except Error (α × List Item)
  | 0, _, _, _ => .error .ended
  | _, _, _, [] => .error t.cutShort
  | fuel + 1, set, value, item :: rest => do
    match item.kind with
    | .mapEnd => .ok (value, rest)
    | _ =>
      let (name, rest) ← t.text path "field identifier" (item :: rest)
      match fields.field? name path value rest with
      | none =>
        let rest ← t.skip rest
        t.entries fields path fuel set value rest
      | some read =>
        if name ∈ set then .error (.misfit (.duplicateField name) none)
        else
          let (value, rest) ← read
          t.entries fields path fuel (name :: set) value rest

/-- Reads a map into a value.  A plain scalar without text is a map without entries. -/
def record {α : Type} (t : Tree) (fields : Fields α) (path : List String) (items : List Item) :
    Except Error (α × List Item) := do
  let at' (item : Item) (rest : List Item) : Read α :=
    locate ⟨item.mark, path⟩ <|
      match item.kind with
      | .mapStart => t.entries fields path (rest.length + 1) [] fields.initial rest
      | .scalar tag style cs =>
        if style = .plain ∧ cs = [] then .ok (fields.initial, rest)
        else .error (wrongScalar tag style cs fields.expected)
      | kind => .error (wrongKind kind fields.expected)
  match items with
  | [] => .error t.cutShort
  | item :: rest =>
    match item.kind with
    | .link number =>
      match t.follow number with
      | target :: behind =>
        let (value, _) ← at' target behind
        .ok (value, rest)
      | [] => .error t.cutShort
    | _ => at' item rest

/-- Reads the only document of a text into a value.  A text without a document gives the initial
value. -/
def whole {α : Type} (t : Tree) (fields : Fields α) : Except Error α :=
  if t.isVoid then .ok fields.initial
  else do
    let (value, _) ← t.record fields [] t.items
    match t.fault with
    | some f => .error (.fault f)
    | none => if t.more then .error .manyDocuments else .ok value

end Tree

end Courier.Yaml
