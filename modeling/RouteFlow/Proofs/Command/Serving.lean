import Mathlib.Data.List.TakeWhile
import RouteFlow.Command.Execute
import RouteFlow.Proofs.Files.Loading
import RouteFlow.Proofs.Json.ReadBack
import RouteFlow.Proofs.Service.Tables
import RouteFlow.Proofs.Url.Escape

/-!
# What is served and what is reached

The public path of a pipeline comes from the namespace that it declares and the way to its file, and
either may hold any characters. A request, on the other hand, can only write some of them as they
are and has to escape the others, and the server takes the path of a request as it was written. So
a pipeline whose path has a character that must be escaped is served, and described, but no request
for its path gets there (`reached_iff_nothing_escaped`).

Escapes have more characters than what they stand for, and none of them is a slash. Normal forms, by
which paths are compared, differ from paths in slashes only. Therefore it is the characters other
than slashes that are counted (`letters`).
-/

namespace RouteFlow

/-! ### Paths in requests -/

/-- The octets that are escaped in the path of a request: all but letters, digits, and the marks
that stand for themselves there. -/
def Url.inRequestPath (b : UInt8) : Bool :=
  !((0x30 ≤ b && b ≤ 0x39) || (0x41 ≤ b && b ≤ 0x5A) || (0x61 ≤ b && b ≤ 0x7A) ||
    isAmong "-._~!$&'()*+,;=:@/" b)

theorem Url.isEscapeSet_inRequestPath : IsEscapeSet inRequestPath where
  percent := by decide
  beyond b hb := by
    have hall : ∀ n < 256, 0x80 ≤ n → inRequestPath (UInt8.ofNat n) = true := by decide +kernel
    have h := hall b.toNat b.toNat_lt (UInt8.le_iff_toNat_le.mp hb)
    rwa [UInt8.ofNat_toNat] at h

namespace Service

/-- **A path as a request writes it.** -/
def requestPath (path : String) : String :=
  String.ofList (Url.escape Url.inRequestPath path.toList)

theorem toList_requestPath (path : String) :
    (requestPath path).toList = Url.escape Url.inRequestPath path.toList := String.toList_ofList

/-- What is written for a path is read as this path. -/
theorem unescape_requestPath (path : String) :
    Url.unescape (Text.octets (requestPath path)) = Text.octets path := by
  rw [requestPath, Url.unescape_escape Url.isEscapeSet_inRequestPath, String.ofList_toList]

/-- How many characters of a path are not slashes. -/
def letters (cs : List Char) : Nat := cs.countP (· != '/')

theorem letters_append (cs ds : List Char) : letters (cs ++ ds) = letters cs + letters ds :=
  List.countP_append

theorem letters_cons_le (c : Char) (cs : List Char) : letters (c :: cs) ≤ 1 + letters cs := by
  unfold letters
  rw [List.countP_cons]
  split <;> omega

theorem letters_cons_lt {c : Char} {cs ds : List Char} (h : letters cs < letters ds) :
    letters (c :: cs) < letters (c :: ds) := by
  unfold letters at h ⊢
  rw [List.countP_cons, List.countP_cons]
  omega

/-- The normal form of a path differs from it in slashes only. -/
theorem letters_normalPath (path : String) :
    letters (normalPath path).toList = letters path.toList := by
  have htrim : letters (Text.withoutTrailing '/' path).toList = letters path.toList := by
    have hslashes : letters (path.toList.reverse.takeWhile (· == '/')) = 0 := by
      refine List.countP_eq_zero.mpr fun c hc => ?_
      have hslash := List.mem_takeWhile_imp hc
      simpa using hslash
    have hsplit := congrArg letters
      (List.takeWhile_append_dropWhile (p := (· == '/')) (l := path.toList.reverse))
    rw [letters_append, hslashes, Nat.zero_add] at hsplit
    rw [Text.withoutTrailing, String.toList_ofList, letters, List.countP_reverse]
    rw [letters, letters, List.countP_reverse] at hsplit
    exact hsplit
  rw [← htrim, normalPath]
  split
  case isTrue hempty => rw [String.isEmpty_iff.mp hempty]; rfl
  case isFalse =>
    split
    case isTrue => rfl
    case isFalse =>
      rw [String.toList_append, letters_append]
      exact Nat.zero_add _

theorem letters_escapeOctet (b : UInt8) : letters (Url.escapeOctet b) = 3 := by
  have hdigit : ∀ n < 16, (Url.hexDigit n != '/') = true := by decide
  have hhigh := hdigit (b.toNat / 16) (by have := b.toNat_lt; omega)
  have hlow := hdigit (b.toNat % 16) (by omega)
  rw [Url.escapeOctet, letters, List.countP_cons, List.countP_cons, List.countP_cons,
    List.countP_nil, hhigh, hlow]
  rfl

/-- **Either nothing is escaped, or what is written has more characters**, slashes apart. -/
theorem escape_cases {set : UInt8 → Bool} (h : Url.IsEscapeSet set) (cs : List Char) :
    ((∀ b ∈ Text.octets (String.ofList cs), set b = false) ∧ Url.escape set cs = cs) ∨
      (∃ b ∈ Text.octets (String.ofList cs), set b = true) ∧
        letters cs < letters (Url.escape set cs) := by
  rw [Text.octets_ofList]
  induction cs with
  | nil => exact .inl ⟨nofun, Url.escape_nil set⟩
  | cons c cs ih =>
    rw [List.flatMap_cons, Url.escape_cons]
    rcases Url.written_char_cases h c with ⟨hplain, hc⟩ | ⟨b, hb, hset, before, after, hc⟩
    · rw [hc, List.singleton_append]
      rcases ih with ⟨hrest, heq⟩ | ⟨⟨b, hb, hset⟩, hlt⟩
      · rw [heq]
        refine .inl ⟨fun b hb => ?_, rfl⟩
        exact (List.mem_append.mp hb).elim (hplain b) (hrest b)
      · exact .inr ⟨⟨b, List.mem_append_right _ hb, hset⟩, letters_cons_lt hlt⟩
    · refine .inr ⟨⟨b, List.mem_append_left _ hb, hset⟩, ?_⟩
      -- the three characters of one escape outweigh the character that it belongs to
      have hle : letters cs ≤ letters (Url.escape set cs) := by
        rcases ih with ⟨-, heq⟩ | ⟨-, hlt⟩
        · rw [heq]
        · exact hlt.le
      have hcons := letters_cons_le c cs
      rw [hc, letters_append, letters_append, letters_append, letters_escapeOctet]
      omega

/-- **What is written for a path leads where the path leads** exactly if nothing in it is
escaped. -/
theorem normalPath_requestPath_iff (path : String) :
    normalPath path = normalPath (requestPath path) ↔
      ∀ b ∈ Text.octets path, Url.inRequestPath b = false := by
  have hcases := escape_cases Url.isEscapeSet_inRequestPath path.toList
  rw [String.ofList_toList] at hcases
  rcases hcases with ⟨hplain, heq⟩ | ⟨⟨b, hb, hset⟩, hlt⟩
  · refine iff_of_true ?_ hplain
    rw [requestPath, heq, String.ofList_toList]
  · refine iff_of_false (fun hpath => ?_) fun hplain => ?_
    · have hcount : letters path.toList = letters (requestPath path).toList := by
        rw [← letters_normalPath path, hpath, letters_normalPath]
      rw [toList_requestPath] at hcount
      omega
    · rw [hplain b hb] at hset
      exact Bool.false_ne_true hset

/-! ### Routes -/

/-- A public path has a slash behind its first one. -/
theorem exists_toList_route (p : Pipeline) :
    ∃ cs ds, p.route.toList = '/' :: (cs ++ '/' :: ds) := by
  refine ⟨p.declaration.namespacePath.toList, (Text.withoutLeading '/' p.name).toList, ?_⟩
  rw [Pipeline.route, Document.Declaration.route]
  simp

/-- A slash is written as it is. -/
theorem toList_requestPath_of {path : String} {cs ds : List Char}
    (h : path.toList = '/' :: (cs ++ '/' :: ds)) :
    (requestPath path).toList =
      '/' :: (Url.escape Url.inRequestPath cs ++ '/' :: Url.escape Url.inRequestPath ds) := by
  have hslash : (String.utf8EncodeChar '/').flatMap (Url.written Url.inRequestPath) = ['/'] := by
    decide +kernel
  rw [toList_requestPath, h, Url.escape_cons, Url.escape_append, Url.escape_cons, hslash]
  rfl

/-- The path of a page of the server has no slash behind its first one. -/
theorem page?_eq_none {path : String} {cs ds : List Char}
    (h : path.toList = '/' :: (cs ++ '/' :: ds)) (s : Server) (now : Int) :
    s.page? now path = none := by
  have hslash : '/' ∈ path.toList.tail := by
    rw [h]
    simp
  have hpages : ∀ page ∈ ["/healthz", "/openapi.json"], '/' ∉ page.toList.tail := by decide
  have hne : ∀ page ∈ ["/healthz", "/openapi.json"], path ≠ page := by
    rintro page hpage rfl
    exact hpages _ hpage hslash
  rw [Server.page?, if_neg (hne _ (by simp)), if_neg (hne _ (by simp))]

end Service

namespace Command

open Files (Disk)
open Service (Route Takes normalPath requestPath)

variable {d : Disk} {s : Serve} {startedAt : Int} {srv : Service.Server}

/-- **A server starts exactly if its package and its pipelines can be read**, and then it serves
these pipelines. -/
theorem server_eq_ok_iff :
    server d s startedAt = .ok srv ↔
      ∃ package ps, Release.Package.load d s.versionFile = .ok package ∧
        Files.bindAll d (.standard s.calls.settings) s.directory = .ok ps ∧
        .ofPipelines s.limits.settings s.app (.of s.app package startedAt) ps = srv := by
  simp only [server, Fallible.bind_eq_ok_iff, Fallible.mapError_eq_ok_iff, Except.ok.injEq,
    exists_and_left]

/-- **Which pipelines are reached.** Let a server have started. For each of its pipelines that no
later one with the same route replaces, and every request with the method that it declares:

* if the path of the request is the public path of the pipeline, then the request gets there;
* if it is this path as a request writes it, then it means the public path, it is not for a page of
  the server itself, and it gets there exactly if nothing in it is escaped. -/
theorem reached_iff_nothing_escaped (h : server d s startedAt = .ok srv) :
    ∃ ps, Files.bindAll d (.standard s.calls.settings) s.directory = .ok ps ∧
      ∀ before p after, ps = before ++ p :: after →
        (∀ q ∈ after, Route.ofPipeline q ≠ Route.ofPipeline p) →
        ∀ r : Service.Request, Http.Method.ofText? r.method = some p.declaration.method →
          (r.target.path = p.route →
            (∀ now, srv.page? now r.target.path = none) ∧ srv.pipeline? r = some p) ∧
          (r.target.path = requestPath p.route →
            Url.unescape (Text.octets r.target.path) = Text.octets p.route ∧
              (∀ now, srv.page? now r.target.path = none) ∧
              (srv.pipeline? r = some p ↔
                ∀ b ∈ Text.octets p.route, Url.inRequestPath b = false)) := by
  obtain ⟨package, ps, -, hps, hsrv⟩ := server_eq_ok_iff.mp h
  have hs : srv.routes = .ofPipelines ps := by
    rw [← hsrv]
    rfl
  refine ⟨ps, hps, fun before p after hsplit hlast r hm => ?_⟩
  -- the request gets to the pipeline exactly if the paths have the same normal form
  have hreached : srv.pipeline? r = some p ↔ normalPath p.route = normalPath r.target.path := by
    rw [Service.Server.pipeline?_eq_some_iff hs]
    constructor
    · intro hlatest
      exact hlatest.takes.path
    · intro hpath
      have htakes : Takes r.method r.target.path p :=
        ⟨Http.Method.ofText?_eq_some_iff.mp hm, hpath⟩
      refine ⟨before, after, hsplit, htakes, fun q hq hq' => hlast q hq ?_⟩
      rw [(Service.takes_iff hm).mp hq', (Service.takes_iff hm).mp htakes]
  obtain ⟨cs, ds, hroute⟩ := Service.exists_toList_route p
  constructor
  · intro hpath
    rw [hreached, hpath]
    exact ⟨fun now => Service.page?_eq_none hroute srv now, rfl⟩
  · intro hpath
    have hwritten := Service.toList_requestPath_of hroute
    rw [hreached, hpath]
    exact ⟨Service.unescape_requestPath p.route,
      fun now => Service.page?_eq_none hwritten srv now,
      Service.normalPath_requestPath_iff p.route⟩

/-! ### A shelf -/

/-- The text of a small document. -/
def noteText : String :=
  "\x7b\"declaration\":\x7b\"method\":\"get\",\"namespace\":\"ns\"\x7d," ++
    "\"a\":\x7b\"return\":\"ok\"\x7d\x7d"

/-- The value that stands there. -/
def noteJson : Json := .object [
  ("declaration", .object [("method", .string "get"), ("namespace", .string "ns")]),
  ("a", .object [("return", .string "ok")])]

def noteDeclaration : Document.Declaration := ⟨none, none, none, .get, none, none, "ns", none⟩

/-- What the text says. -/
def noteDocument (name : String) : Document :=
  ⟨name, some noteDeclaration, [⟨"a", some "return", none, [("return", .string "ok")]⟩]⟩

/-- Its pipeline. -/
def note (name : String) : Pipeline :=
  ⟨name, noteDeclaration, [⟨"a", "return", none, .reply (.string "ok")⟩], [("a", 0)]⟩

/-- A disk with the document in a file of the directory `/dsl`. -/
def shelf (file : String) : Disk where
  root := .directory [("dsl", .directory [(file, .file (Text.octets noteText))])]
  here := []

/-- The server of this directory. -/
def shelfServe : Serve := ⟨"/dsl", "", "shelf", "/.env", ⟨0, 1000⟩, ⟨1000, 1000, 1, false⟩⟩

def shelfServer (name : String) : Service.Server :=
  .ofPipelines shelfServe.limits.settings "shelf" (.of "shelf" .unknown 0) [note name]

/-- Names of files on the shelf, and the names of their pipelines. -/
def shelfNames : List (String × String) := [("a b.json", "a b"), ("c.json", "c")]

theorem plain_noteJson : Json.Plain 2 noteJson := by
  refine .object (by decide) (List.forall_mem_cons.mpr ⟨?_, List.forall_mem_singleton.mpr ?_⟩)
  · exact .object (by decide)
      (List.forall_mem_cons.mpr ⟨.string, List.forall_mem_singleton.mpr .string⟩)
  · exact .single .string

theorem ofText_noteText (name : String) :
    Document.ofText .json name noteText = .ok (noteDocument name, .json) := by
  have htext : noteText = noteJson.compact := by decide +kernel
  have hread : Json.ofText noteText = .ok noteJson :=
    (congrArg Json.ofText htext).trans (Json.ofText_compact plain_noteJson (by decide))
  have hdocument : Document.ofJson name noteJson = .ok (noteDocument name) := rfl
  rw [Document.ofText, Document.Format.readValue, hread]
  dsimp only [Except.map, Except.mapError, bind, Except.bind]
  rw [hdocument]

theorem shelf_files : ∀ names ∈ shelfNames,
    (shelf names.1).list "/dsl" = .ok ["/dsl/" ++ names.1] ∧
      (shelf names.1).readText ("/dsl/" ++ names.1) = .ok noteText ∧
      (shelf names.1).exists? "/.env" = false := by
  decide +kernel

theorem shelf_paths : ∀ names ∈ shelfNames,
    Files.isDocument ("/dsl/" ++ names.1) = true ∧
      Document.Format.ofExtension (Files.Path.extension? ("/dsl/" ++ names.1)) = .json ∧
      Files.Path.routePath? (Files.Path.components "/dsl") ("/dsl/" ++ names.1) = some names.2 := by
  decide +kernel

section Shelf

variable {file name : String}

theorem loadAll_shelf (h : (file, name) ∈ shelfNames) :
    Files.loadAll (shelf file) shelfServe.directory =
      .ok [⟨name, "/dsl/" ++ file, noteDocument name, .json⟩] := by
  obtain ⟨hlist, htext, -⟩ := shelf_files _ h
  obtain ⟨hdocument, hformat, hname⟩ := shelf_paths _ h
  have hload : Files.load (shelf file) (Files.Path.components "/dsl") ("/dsl/" ++ file) =
      .ok ⟨name, "/dsl/" ++ file, noteDocument name, .json⟩ :=
    Files.load_eq_ok_iff.mpr ⟨hname, rfl, noteText, htext, hformat.symm ▸ ofText_noteText name⟩
  have hfilter : ["/dsl/" ++ file].filter Files.isDocument = ["/dsl/" ++ file] :=
    List.filter_eq_self.mpr (List.forall_mem_singleton.mpr hdocument)
  have hdirectory : shelfServe.directory = "/dsl" := rfl
  rw [hdirectory, Files.loadAll, hlist]
  change Files.loadEach _ _ (["/dsl/" ++ file].filter Files.isDocument) = _
  rw [hfilter]
  exact Files.loadEach_eq_ok_iff.mpr (.cons hload .nil)

theorem bindAll_shelf (h : (file, name) ∈ shelfNames) :
    Files.bindAll (shelf file) (.standard shelfServe.calls.settings) shelfServe.directory =
      .ok [note name] :=
  Files.bindAll_eq_ok_iff.mpr ⟨_, loadAll_shelf h,
    .cons (Files.bindLoaded_eq_ok_iff.mpr ⟨rfl, rfl⟩) .nil⟩

theorem server_shelf (h : (file, name) ∈ shelfNames) :
    server (shelf file) shelfServe 0 = .ok (shelfServer name) := by
  obtain ⟨-, -, hversion⟩ := shelf_files _ h
  have hpackage : Release.Package.load (shelf file) shelfServe.versionFile = .ok .unknown := by
    rw [Release.Package.load, shelfServe, hversion]
    rfl
  exact server_eq_ok_iff.mpr ⟨.unknown, [note name], hpackage, bindAll_shelf h, rfl⟩

end Shelf

/-- A request for a path. -/
def fetch (path : String) : Service.Request := ⟨"get", ⟨path, ""⟩, []⟩

/-- Of two files on the shelf, the one with a plain name is reached and the other one is not. -/
theorem reached_iff_nothing_escaped_shelf :
    (server (shelf "c.json") shelfServe 0 = .ok (shelfServer "c") ∧
        (shelfServer "c").pipeline? (fetch "/ns/c") = some (note "c")) ∧
      server (shelf "a b.json") shelfServe 0 = .ok (shelfServer "a b") ∧
        (shelfServer "a b").pipeline? (fetch "/ns/a b") = some (note "a b") ∧
        (shelfServer "a b").pipeline? (fetch "/ns/a%20b") ≠ some (note "a b") := by
  have hget : Http.Method.ofText? "get" = some .get := by decide +kernel
  constructor
  · have hmem : ("c.json", "c") ∈ shelfNames := by decide
    have hpath : "/ns/c" = (note "c").route := by decide +kernel
    obtain ⟨ps, hps, hall⟩ := reached_iff_nothing_escaped (server_shelf hmem)
    obtain rfl : [note "c"] = ps := Except.ok.inj ((bindAll_shelf hmem).symm.trans hps)
    have hall := hall [] (note "c") [] rfl (List.forall_mem_nil _)
    have hplain := (hall (fetch "/ns/c") hget).1 hpath
    exact ⟨server_shelf hmem, hplain.2⟩
  · have hmem : ("a b.json", "a b") ∈ shelfNames := by decide
    have hpath : "/ns/a b" = (note "a b").route := by decide +kernel
    have hrequest : "/ns/a%20b" = requestPath (note "a b").route := by decide +kernel
    have hspace : 0x20 ∈ Text.octets (note "a b").route := by decide +kernel
    obtain ⟨ps, hps, hall⟩ := reached_iff_nothing_escaped (server_shelf hmem)
    obtain rfl : [note "a b"] = ps := Except.ok.inj ((bindAll_shelf hmem).symm.trans hps)
    have hall := hall [] (note "a b") [] rfl (List.forall_mem_nil _)
    have hplain := (hall (fetch "/ns/a b") hget).1 hpath
    have hwritten := (hall (fetch "/ns/a%20b") hget).2 hrequest
    refine ⟨server_shelf hmem, hplain.2, fun hreached => ?_⟩
    have hnone := hwritten.2.2.mp hreached 0x20 hspace
    revert hnone
    decide

/-- A pipeline is served at the path `/ns/a b`, and a request for this path is refused. -/
theorem served_path_refused :
    server (shelf "a b.json") shelfServe 0 = .ok (shelfServer "a b") ∧
      (shelfServer "a b").routes = .ofPipelines [note "a b"] ∧ (note "a b").route = "/ns/a b" ∧
      requestPath "/ns/a b" = "/ns/a%20b" ∧
      (shelfServer "a b").resolve (fetch "/ns/a%20b") = .error (.noPath "/ns/a%20b") := by
  have hroutes : (shelfServer "a b").routes = .ofPipelines [note "a b"] := rfl
  have hnone : ∀ p ∈ [note "a b"], ¬ Takes "get" "/ns/a%20b" p := by
    rintro p hp htakes
    obtain rfl := List.mem_singleton.mp hp
    have hpath := htakes.path
    revert hpath
    decide +kernel
  have hpath : ¬ (shelfServer "a b").routes.hasPath "/ns/a%20b" = true := by decide +kernel
  have hroute : (note "a b").route = "/ns/a b" := by decide +kernel
  have hwritten : requestPath "/ns/a b" = "/ns/a%20b" := by decide +kernel
  have hmem : ("a b.json", "a b") ∈ shelfNames := by decide
  refine ⟨server_shelf hmem, hroutes, hroute, hwritten, ?_⟩
  have hpipeline : (shelfServer "a b").pipeline? (fetch "/ns/a%20b") = none :=
    (Service.Server.pipeline?_eq_none_iff hroutes).mpr hnone
  unfold Service.Server.resolve
  rw [hpipeline]
  exact if_neg hpath

end Command
end RouteFlow
