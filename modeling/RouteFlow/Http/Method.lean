import RouteFlow.Text.Blank

/-!
# HTTP methods

The methods that a route may have. A method is read in any letter case, with blanks on either side,
and written in upper case.

* `Method.ofText?_eq_some_iff`: what a text means as a method.
* `Method.ofText?_name`: what is written reads back.
-/

namespace RouteFlow.Http

/-- A method of a route. -/
inductive Method where
  | get
  | post
  | put
  | delete
  | patch
  | head
  | options
  deriving DecidableEq, Repr

namespace Method

/-- The method as it is written. -/
def name : Method → String
  | .get => "GET"
  | .post => "POST"
  | .put => "PUT"
  | .delete => "DELETE"
  | .patch => "PATCH"
  | .head => "HEAD"
  | .options => "OPTIONS"

/-- The methods, in their order. -/
def all : List Method := [.get, .post, .put, .delete, .patch, .head, .options]

/-- Reads a method. -/
def ofText? (s : String) : Option Method :=
  all.find? fun m => m.name == Text.upper (Text.trimmed s)

/-- The wording for a text that is no method. -/
def unsupported (s : String) : String := "unsupported HTTP method: " ++ s

/-- **What a word means as a method**: in upper case and without blanks around it, the word is the
name of the method. -/
theorem ofText?_eq_some_iff {word : String} {m : Method} :
    ofText? word = some m ↔ m.name = Text.upper (Text.trimmed word) := by
  unfold ofText?
  generalize Text.upper (Text.trimmed word) = name
  constructor
  · intro h
    have hname := List.find?_some h
    rwa [beq_iff_eq] at hname
  · rintro rfl
    -- no two methods have the same name
    cases m <;> decide +kernel

theorem ofText?_name (m : Method) : ofText? m.name = some m := by
  cases m <;> decide +kernel

end Method
end RouteFlow.Http
