import RouteFlow.Url.Host
import RouteFlow.Url.Path

/-!
# Addresses

An address has a scheme, for most schemes an authority (user, host and port), a path, a query and
a fragment. Addresses of the web and files have a hierarchical path, whose dot segments are
resolved; an address without a slash after its scheme has a path that stays as it is written. Line
ends and tabs are no part of an address; of all places only the path of a file shows that they were
there (`Url.Path`).

* `Url.parse`: reads an absolute address.
* `Url.text`: writes one.
* `Url.withPairs`: adds pairs to the query.
-/

namespace RouteFlow

/-- An absolute address. -/
structure Url where
  scheme : String
  user : List Char
  password : List Char
  host? : Option Url.Host
  port? : Option Nat
  path : List Char
  query? : Option (List Char)
  fragment? : Option (List Char)
  deriving DecidableEq

namespace Url

/-! ### Schemes -/

/-- Takes a scheme in lower case off the front. -/
def scheme? (cs : List Char) : Option (String × List Char) :=
  let name := withoutBreaks (cs.takeWhile (· != ':'))
  match name, cs.dropWhile (· != ':') with
  | c :: _, _ :: rest =>
    if c.isAlpha && name.all fun c => c.isAlphanum || c == '+' || c == '-' || c == '.' then
      some (String.ofList (name.map Char.toLower), rest)
    else none
  | _, _ => none

/-! ### Authorities -/

/-- Splits the user info off an authority: up to the last `@`, none if there is no `@`. -/
def splitUser (authority : List Char) : Option (List Char) × List Char :=
  let host := (authority.reverse.takeWhile (· != '@')).reverse
  if host.length = authority.length then (none, authority)
  else (some (authority.take (authority.length - host.length - 1)), host)

/-- Splits host and port at the first colon outside brackets. -/
def splitPort (inBrackets : Bool) : List Char → List Char × Option (List Char)
  | [] => ([], none)
  | c :: rest =>
    if c = ':' ∧ !inBrackets then ([], some rest)
    else
      let inBrackets := if c = '[' then true else if c = ']' then false else inBrackets
      let (host, port?) := splitPort inBrackets rest
      (c :: host, port?)

/-- Reads a port: the port, and what stands between it and the slash that follows. A backslash ends
the port as a slash does, also where it is no slash. -/
def readPort (cs : List Char) : Except Fault (Option Nat × List Char) :=
  let digits := cs.takeWhile Text.isDecimal
  let after := cs.dropWhile Text.isDecimal
  if 65535 < Text.digitsValue digits || after.head?.any (· != '\\') then .error .badPort
  else .ok (if digits.isEmpty then none else some (Text.digitsValue digits), after)

/-- The text from the start of the rest that is part of an authority, and what follows. -/
def splitAuthority (k : Kind) (cs : List Char) : List Char × List Char :=
  let ends (c : Char) : Bool := k.isSlash c || endsPath c
  (cs.takeWhile (!ends ·), cs.dropWhile (!ends ·))

/-! ### Reading -/

/-- Adds query and fragment. -/
def withRest (u : Url) (k : Kind) (cs : List Char) : Url :=
  let cs := withoutBreaks cs
  let before := cs.takeWhile (· != '#')
  let fragment? :=
    match cs.dropWhile (· != '#') with
    | [] => none
    | _ :: rest => some (escape inFragment rest)
  let query? :=
    match before with
    | '?' :: rest => some (escape (if k.isSpecial then inSpecialQuery else inQuery) rest)
    | _ => none
  { u with query?, fragment? }

/-- The address `scheme` with nothing else. -/
def bare (scheme : String) : Url := ⟨scheme, [], [], none, none, [], none, none⟩

/-- The path after an authority. -/
def pathAfterHost (k : Kind) (cs : List Char) : Trail :=
  match cs with
  | [] => if k.isSpecial then resolve k [] else .root
  | c :: rest => if k.isSlash c then resolve k rest else resolve k (c :: rest)

/-- Cuts the path from the query and the fragment. -/
def splitPath (cs : List Char) : List Char × List Char :=
  (cs.takeWhile (!endsPath ·), cs.dropWhile (!endsPath ·))

/-- Reads what follows the two slashes after a scheme. -/
def readHierarchy (scheme : String) (k : Kind) (cs : List Char) : Except Fault Url := do
  let (authority, rest) := splitAuthority k cs
  let (user?, hostPort) := splitUser authority
  if user? == some [] && hostPort.isEmpty && !rest.isEmpty then .error .emptyHost
  else
    let userInfo := user?.getD []
    let user := userInfo.takeWhile (· != ':')
    let password := (userInfo.dropWhile (· != ':')).drop 1
    let (hostText, port?) := splitPort false hostPort
    if hostText.isEmpty && (k == .web || port?.isSome) then .error .emptyHost
    else do
      let host ← if k == .web then Host.parse hostText else Host.parseOpaque hostText
      let (port?, between) ← readPort (port?.getD [])
      if hostText.isEmpty && !(user.isEmpty && password.isEmpty) then .error .emptyHost
      else
        let (path, rest) := splitPath rest
        let u : Url :=
          { bare scheme with
            user := escape inUserInfo user
            password := escape inUserInfo password
            host? := some host
            port? := if port? = defaultPort? scheme then none else port?
            path := (pathAfterHost k (between ++ path)).text }
        .ok (u.withRest k rest)

/-- Reads the host of a file, which is left out when it is the machine itself. -/
def readFileHost (cs : List Char) : Except Fault Host := do
  if cs.isEmpty then .ok (.name "")
  else
    match ← Host.parse cs with
    | .name "localhost" => .ok (.name "")
    | host => .ok host

/-- The path of a file has a single slash in front. -/
def filePath (t : Trail) : List Char := '/' :: t.text.dropWhile (· == '/')

/-- The address of a file on a host; `cs` begins with the path, whose first slash is passed. -/
def fileAt (host : Host) (cs : List Char) : Url :=
  let (path, rest) := splitPath cs
  let t := resolve .file path
  let u : Url :=
    { bare "file" with host? := some (if t.onDrive then .name "" else host), path := filePath t }
  u.withRest .file rest

/-- The characters after the breaks and the slash in front, if there is one. -/
def slash? (cs : List Char) : Option (List Char) :=
  match cs.dropWhile isBreak with
  | c :: rest => if Kind.file.isSlash c then some rest else none
  | [] => none

/-- Reads a file address after its scheme. Behind two slashes stands a host or a drive letter; with
no host in between, the slash after them counts as part of the path. -/
def readFile (cs : List Char) : Except Fault Url :=
  match slash? cs with
  | none => .ok (fileAt (.name "") cs)
  | some once =>
    match slash? once with
    | none => .ok (fileAt (.name "") once)
    | some twice => do
      let (hostText, after) := splitAuthority .file twice
      let hostText := withoutBreaks hostText
      if isDrive hostText then .ok (fileAt (.name "") twice)
      else do
        let host ← readFileHost hostText
        .ok (fileAt host (if host = .name "" then after else (slash? after).getD after))

/-- Reads an address of another scheme after its scheme. -/
def readOther (scheme : String) (cs : List Char) : Except Fault Url :=
  let k := Kind.other
  match cs with
  | '/' :: '/' :: rest => readHierarchy scheme k rest
  | '/' :: rest =>
    let (path, rest) := splitPath rest
    .ok ({ bare scheme with path := (resolve k path).text }.withRest k rest)
  | _ =>
    let (path, rest) := splitPath cs
    .ok ({ bare scheme with path := escape isControl path }.withRest k rest)

/-- A text without the controls and spaces around it. -/
def trimmed (s : String) : List Char :=
  let isIdle (c : Char) : Bool := c.toNat ≤ 0x20
  ((s.toList.dropWhile isIdle).reverse.dropWhile isIdle).reverse

/-- Reads an absolute address. -/
def parse (s : String) : Except Fault Url :=
  match scheme? (trimmed s) with
  | none => .error .relative
  | some (scheme, rest) =>
    match kindOf scheme with
    | .web =>
      readHierarchy scheme .web ((withoutBreaks rest).dropWhile fun c => c == '/' || c == '\\')
    | .file => readFile rest
    | .other => readOther scheme (withoutBreaks rest)

/-! ### Writing -/

/-- The user info in front of a host. -/
def userText (u : Url) : List Char :=
  if u.user.isEmpty && u.password.isEmpty then []
  else u.user ++ (if u.password.isEmpty then [] else ':' :: u.password) ++ ['@']

/-- The text of an address. -/
def text (u : Url) : String :=
  let authority :=
    match u.host? with
    | some h =>
      ['/', '/'] ++ u.userText ++ h.text ++
        ((u.port?.map fun p => ':' :: Nat.toDigits 10 p).getD [])
    | none => if ['/', '/'].isPrefixOf u.path then ['/', '.'] else []
  String.ofList <|
    u.scheme.toList ++ [':'] ++ authority ++ u.path ++
    ((u.query?.map ('?' :: ·)).getD []) ++ ((u.fragment?.map ('#' :: ·)).getD [])

/-- The address with pairs added at the end of its query. -/
def withPairs (u : Url) (ps : List (String × String)) : Url :=
  let before := u.query?.getD []
  let joint := if before.isEmpty || ps.isEmpty then [] else ['&']
  { u with query? := some (before ++ joint ++ formPairs ps) }

end Url
end RouteFlow
