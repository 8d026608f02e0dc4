import Courier.Json.Mismatch
import Courier.Json.Printer

/-!
# Verbs

The four verbs of the interface.  `POST` and `PUT` carry their parameters in the body, the other two
in the query.  Only the exact upper-case tokens are verbs.
-/

namespace Courier.Http

/-- The verb of a request. -/
inductive Method where
  | delete
  | get
  | post
  | put
  deriving DecidableEq, Repr

namespace Method

instance : Inhabited Method := ⟨.get⟩

/-- All verbs, in the order of their tokens. -/
def all : List Method := [.delete, .get, .post, .put]

/-- The token of a verb. -/
def token : Method → String
  | .delete => "DELETE"
  | .get => "GET"
  | .post => "POST"
  | .put => "PUT"

/-- The verb of a token. -/
def ofToken? (s : String) : Option Method := all.find? fun m => m.token == s

/-- Whether parameters travel in the body. -/
def hasBody : Method → Bool
  | .post => true
  | .put => true
  | _ => false

theorem ofToken?_token (m : Method) : ofToken? m.token = some m := by cases m <;> decide

/-! ## Verbs in JSON

A verb is written as a string, or as an object with the verb as its only name and `null` under it.
-/

/-- The verb of a name read at a place. -/
def named (name : String) (at' : Json.Position) : Except Json.Error Method :=
  match ofToken? name with
  | some m => .ok m
  | none => .error ⟨.unknownVariant name (all.map token), at'⟩

/-- A verb that is the name of an object's only member, behind the opening brace. -/
def fromObject (c : Json.Cursor) : Except Json.Error (Json.Step Method) := do
  let c := Json.skipSpace c
  let (m, c) ←
    match c.head? with
    | some 34 => do
      let (name, c) ← Json.stringBody c.next
      let m ← named name c.position
      pure (m, c)
    | some _ => Json.mismatch c "variant identifier"
    | none => c.failAhead .eofInValue
  let c := Json.skipSpace (← Json.null (← Json.colon c))
  match c.head? with
  | some 125 => .ok (m, c.next)
  | some _ => c.fail .expectedValue
  | none => c.fail .eofInObject

/-- A verb written in JSON. -/
def ofJson (text : String) : Except Json.Error Method := do
  let c := Json.skipSpace (.ofBytes (Text.Utf8.bytesOf text))
  let (m, c) ←
    match c.head? with
    | some 123 => fromObject c.next
    | some 34 => do
      let (name, c) ← Json.stringBody c.next
      let m ← named name c.position
      pure (m, c)
    | none => c.failAhead .eofInValue
    | some _ => c.failAhead .expectedValue
  Json.finish c
  .ok m

/-- The JSON text of a verb. -/
def jsonText (m : Method) : String := String.ofList (Json.stringText m.token)

end Method

end Courier.Http
