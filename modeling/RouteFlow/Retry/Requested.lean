import RouteFlow.Http.Date
import RouteFlow.Retry.Policy

/-!
# Waits that a server asks for

A server may say when to call again: in `Retry-After`, as seconds or as a date, or in a header of
its own. `Retry-After` comes first; when its value cannot be read or its date is past, the other
headers are tried in order. A header that gives a moment after the end of the clock is one that
cannot be dealt with.

How a text is read as a date is left open (`DateReader`); `requestedWait` reads HTTP dates.
-/

namespace RouteFlow.Retry

/-- The wait until a moment, none if it is past. -/
def waitUntil? (now moment : Nanos) : Option Nanos :=
  if now ≤ moment then some (moment - now) else none

/-- What a server says of the time to wait. -/
inductive Wish where
  | nothing
  /-- So long. -/
  | wait (time : Nanos)
  /-- Until a moment after the end of the clock. -/
  | beyondClock
  deriving DecidableEq

/-- The wish for a wait, if there is one. -/
def Wish.ofOption : Option Nanos → Wish
  | none => .nothing
  | some time => .wait time

/-- The moment of the date that a text gives. -/
abbrev DateReader := String → Option Nanos

section Dates

variable (dates : DateReader)

/-- The wait until the date that a text gives. -/
def dateWait? (now : Nanos) (value : String) : Option Nanos := (dates value).bind (waitUntil? now)

/-- What a value in a given form asks for. -/
def wish (now : Nanos) (value : String) : WaitForm → Wish
  | .seconds => .ofOption ((Text.word64? value.toList).map Nanos.ofSeconds)
  | .unixSeconds =>
    match Text.word64? value.toList with
    | none => .nothing
    | some n =>
      if n < Nanos.clockSeconds then .ofOption (waitUntil? now (Nanos.ofSeconds n))
      else .beyondClock
  | .date => .ofOption (dateWait? dates now value)

/-- The wait that a value of `Retry-After` asks for. -/
def retryAfter? (now : Nanos) (value : String) : Option Nanos :=
  match Text.word64? value.toList with
  | some n => some (Nanos.ofSeconds n)
  | none => dateWait? dates now value

/-- What a vendor header asks for. -/
def vendorWish (headers : Entries String) (now : Nanos) (h : WaitHeader) : Wish :=
  match Http.header? headers h.name with
  | none => .nothing
  | some value => wish dates now (Text.trimmed value) h.form

/-- What the first of the vendor headers asks for that asks for anything. -/
def firstWish (headers : Entries String) (now : Nanos) : List WaitHeader → Wish
  | [] => .nothing
  | h :: rest =>
    match vendorWish dates headers now h with
    | .nothing => firstWish headers now rest
    | w => w

/-- What headers ask for. -/
def requestedBy (headers : Entries String) (vendor : List WaitHeader) (now : Nanos) : Wish :=
  match (Http.header? headers "retry-after").bind fun v =>
      retryAfter? dates now (Text.trimmed v) with
  | some time => .wait time
  | none => firstWish dates headers now vendor

end Dates

/-- What headers ask for where dates are HTTP dates. -/
def requestedWait (headers : Entries String) (vendor : List WaitHeader) (now : Nanos) : Wish :=
  requestedBy Http.Date.moment? headers vendor now

end RouteFlow.Retry
