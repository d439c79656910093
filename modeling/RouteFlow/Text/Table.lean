/-!
# Tables of characters written as text

A table tells something of characters by runs of code points in ascending order. In writing a run
is a word: one code point or the first and the last of the run, and after `>` the values that go
with it, joined by points, all of it in hexadecimal. In `41-5A` the run holds every code point from
the first to the last, in `100/12E` every second one.

* `Run.table`: the runs that a text lists.
* `Run.at?`: the run that holds a code point.
* `Run.valuesAt`: the values at a code point, where the first value grows along the run.
-/

namespace RouteFlow.Text

/-- Code points from a first to a last one in steps, and the values that go with them. -/
structure Run where
  first : Nat
  last : Nat
  step : Nat
  values : List Nat
  deriving DecidableEq, Repr

namespace Run

/-- The number that hexadecimal digits in upper case denote. -/
def hexadecimal (cs : List Char) : Nat :=
  cs.foldl (fun n c => n * 16 + if c ≤ '9' then c.toNat - 48 else c.toNat - 55) 0

/-- The run that a word stands for. -/
def ofWord (word : List Char) : Run :=
  let range := word.takeWhile (· != '>')
  let values :=
    match word.dropWhile (· != '>') with
    | _ :: digits => (digits.splitOn '.').map hexadecimal
    | [] => []
  let first := hexadecimal (range.takeWhile fun c => c != '-' && c != '/')
  match range.dropWhile fun c => c != '-' && c != '/' with
  | '/' :: last => ⟨first, hexadecimal last, 2, values⟩
  | _ :: last => ⟨first, hexadecimal last, 1, values⟩
  | [] => ⟨first, first, 1, values⟩

/-- The runs that a text lists, its words kept apart by blanks. -/
def table (text : String) : Array Run :=
  (((text.toList.splitOnP (· ≤ ' ')).filter (!·.isEmpty)).map ofWord).toArray

/-- Whether a run holds a code point. -/
def holds (r : Run) (n : Nat) : Bool := r.first ≤ n && n ≤ r.last && (n - r.first) % r.step == 0

/-- The run that holds a code point among those numbered from `lo` up to `hi`, found by halving. -/
def between? (runs : Array Run) (n lo hi : Nat) : Option Run :=
  if _ : lo < hi then
    let mid := (lo + hi) / 2
    match runs[mid]? with
    | none => none
    | some r =>
      if n < r.first then between? runs n lo mid
      else if r.last < n then between? runs n (mid + 1) hi
      else if r.holds n then some r
      else none
  else none
termination_by hi - lo

/-- The run that holds a code point. -/
def at? (runs : Array Run) (n : Nat) : Option Run := between? runs n 0 runs.size

/-- The values at a code point of a run: a value that stands alone is that of the first code point
and grows with it. -/
def valuesAt (r : Run) (n : Nat) : List Nat :=
  match r.values with
  | [value] => [value + (n - r.first)]
  | values => values

end Run
end RouteFlow.Text
