import RouteFlow.Entries

/-!
# JSON values

The one dynamic type of the library: documents, request bodies, variables and responses are `Json`.
Objects keep the order of their members. A number is a whole number or a double, and the two never
mix: `1` and `1.0` are different values.

* `Json.get?`: the member of an object, none for any other value.
* `Json.isTruthy`: the reading of a value as a condition.
-/

namespace RouteFlow

/-- A number of a JSON text: a whole number of 64 bits or a finite double. -/
inductive Json.Number where
  | whole (n : Int)
  | real (x : Float)
  deriving DecidableEq

/-- A JSON value. -/
inductive Json where
  | null
  | bool (b : Bool)
  | number (n : Json.Number)
  | string (s : String)
  | array (items : List Json)
  | object (members : List (String × Json))

namespace Json

instance : Inhabited Json := ⟨.null⟩

/-- The number of a natural number. -/
def nat (n : Nat) : Json := .number (.whole n)

/-- The text of an optional text, `null` for none. -/
def ofText? : Option String → Json
  | none => .null
  | some s => .string s

/-- The members of an object. -/
def members? : Json → Option (Entries Json)
  | .object ms => some ms
  | _ => none

/-- The items of an array. -/
def items? : Json → Option (List Json)
  | .array items => some items
  | _ => none

/-- The text of a string. -/
def text? : Json → Option String
  | .string s => some s
  | _ => none

/-- The member `k` of an object. -/
def get? (j : Json) (k : String) : Option Json :=
  j.members?.bind fun ms => Entries.get? ms k

@[simp] theorem get?_object (ms : Entries Json) (k : String) :
    (Json.object ms).get? k = Entries.get? ms k := rfl

/-- Whether a number differs from zero. -/
def Number.isNonzero : Number → Bool
  | .whole n => n != 0
  | .real x => !(x == 0)

/-- A value as a condition: `null`, `false`, zero, the empty string, the word `false` in any case,
and empty containers do not hold. -/
def isTruthy : Json → Bool
  | .null => false
  | .bool b => b
  | .number n => n.isNonzero
  | .string s => !(s.isEmpty || s.toList.map Char.toLower == "false".toList)
  | .array items => !items.isEmpty
  | .object ms => !ms.isEmpty

/-! ### Depth -/

mutual

/-- The number of containers around the innermost value. -/
def depth : Json → Nat
  | .array items => depthItems items + 1
  | .object ms => depthMembers ms + 1
  | _ => 0

/-- The greatest depth among items. -/
def depthItems : List Json → Nat
  | [] => 0
  | j :: rest => max j.depth (depthItems rest)

/-- The greatest depth among members. -/
def depthMembers : List (String × Json) → Nat
  | [] => 0
  | (_, j) :: rest => max j.depth (depthMembers rest)

end

end Json
end RouteFlow
