import RouteFlow.Proofs.Text.Reading
import RouteFlow.Retry.Requested

/-!
# Whose wait counts

`Retry-After` is to win over the headers of vendors: where it can be read, the wait is what it asks
for, whatever the vendors' headers say. So it is with a number of seconds and with a date that is
not past (`Asks`).

A date in the past asks for no wait, though, and then the vendors' headers are listened to as if
`Retry-After` were not there. The same happens where the name stands more than once, in different
letters, and the first value cannot be read: the others are not looked at. Both are `Unheeded`.

How dates are read does not matter, as long as no number is one (`NoNumerals`). The reader of HTTP
dates is such a reader.

* `Http.Date.noNumerals` — no HTTP date is a number;
* `retryAfter?_eq_some_iff`, `retryAfter?_eq_none_iff` — what a value of `Retry-After` asks for;
* `retry_after_wins_iff` — `Retry-After` wins unless it goes unheeded and a vendor's header asks for
  something.
-/

namespace RouteFlow

/-! ### Dates and numbers

A date is no number, since there is a blank in each of its three forms. So which is tried first does
not matter. -/

/-- **A reader of dates** takes no number for a date. -/
def Retry.NoNumerals (dates : Retry.DateReader) : Prop :=
  ∀ value moment n, dates value = some moment → ¬ Text.Numeral value.toList n

namespace Http.Date

variable {cs : List Char} {d : Http.Date}

theorem blank_mem_of_has {start : Nat} {word : String} (h : has cs start word = true)
    (hword : ' ' ∈ word.toList) : ' ' ∈ cs := by
  have hstands : word.toList <+: cs.drop start := List.isPrefixOf_iff_prefix.mp h
  exact List.mem_of_mem_drop (hstands.subset hword)

theorem subset_of_cut? {piece before after : List Char}
    (h : Text.cut? piece cs = some (before, after)) : piece ⊆ cs := by
  induction cs generalizing before after with
  | nil =>
    rw [Text.cut?] at h
    split at h
    · next hpiece => simp [List.isEmpty_iff.mp hpiece]
    · exact absurd h nofun
  | cons c rest ih =>
    rw [Text.cut?] at h
    split at h
    · next hstands => exact (List.isPrefixOf_iff_prefix.mp hstands).subset
    · obtain ⟨⟨before', after'⟩, hcut, -⟩ := Option.map_eq_some_iff.mp h
      exact fun c' hc' => List.mem_cons_of_mem c (ih hcut hc')

theorem blank_mem_of_fixed? (h : fixed? cs = some d) : ' ' ∈ cs := by
  by_cases hblank : has cs 16 " " = true
  · exact blank_mem_of_has hblank (by decide)
  · simp [fixed?, hblank] at h

theorem blank_mem_of_spaced? (h : spaced? cs = some d) : ' ' ∈ cs := by
  by_cases hblank : has cs 10 " " = true
  · exact blank_mem_of_has hblank (by decide)
  · simp [spaced?, hblank] at h

theorem blank_mem_of_dashed? (h : dashed? cs = some d) : ' ' ∈ cs := by
  obtain ⟨⟨dayName, rest⟩, hcut, -⟩ := Option.bind_eq_some_iff.mp h
  exact subset_of_cut? hcut (by decide)

/-- **An HTTP date is no numeral.** -/
theorem noNumerals : Retry.NoNumerals moment? := by
  intro s moment n hs
  obtain ⟨d, h, -⟩ := Option.map_eq_some_iff.mp hs
  have hblank : ' ' ∈ Text.trim s.toList := by
    unfold parse? at h
    split at h
    · exact absurd h nofun
    · obtain ⟨h, -⟩ := Option.filter_eq_some_iff.mp h
      simp only [Option.orElse_eq_or, Option.or_eq_some_iff] at h
      rcases h with h | ⟨-, h | ⟨-, h⟩⟩
      · exact blank_mem_of_fixed? h
      · exact blank_mem_of_dashed? h
      · exact blank_mem_of_spaced? h
  obtain ⟨before, after, -, -, hs⟩ := Text.exists_blanks_trim s.toList
  intro hn
  have hmem : ' ' ∈ s.toList := by
    rw [hs]
    simp [hblank]
  rcases hn.forall_mem _ hmem with hplus | ⟨hdigit, -⟩
  · exact absurd hplus (by decide)
  · exact absurd hdigit (by decide)

end Http.Date

namespace Retry

variable {dates : DateReader} {headers : Entries String} {vendor : List WaitHeader} {now : Nanos}
variable {value : String}

/-! ### Values of `Retry-After` -/

/-- A value is a number of seconds that a word can hold. -/
def Seconds (value : String) (n : Nat) : Prop := Text.Numeral value.toList n ∧ n < UInt64.size

section Values

variable (dates)

/-- **A value of `Retry-After` can be read**: it is a number of seconds or a date. -/
inductive Readable (value : String) : Prop
  | seconds {n : Nat} (h : Seconds value n)
  | date {moment : Nanos} (h : dates value = some moment)

/-- **A value of `Retry-After` asks for a wait**: for so many seconds, or until a date that is not
past. -/
inductive Asks (now : Nanos) (value : String) : Nanos → Prop
  | seconds {n : Nat} (h : Seconds value n) : Asks now value (Nanos.ofSeconds n)
  | date {moment : Nanos} (h : dates value = some moment) (hnow : now ≤ moment) :
      Asks now value (moment - now)

/-- **A value of `Retry-After` is past**: it is a date, and an earlier one. -/
inductive Past (now : Nanos) (value : String) : Prop
  | date {moment : Nanos} (h : dates value = some moment) (hnow : moment < now)

end Values

theorem not_seconds_iff : Text.word64? value.toList = none ↔ ∀ n, ¬ Seconds value n := by
  simp only [Seconds, ← Text.word64?_eq_some_iff, Option.eq_none_iff_forall_ne_some, ne_eq]

theorem not_seconds_of_date (hdates : NoNumerals dates) {moment : Nanos}
    (h : dates value = some moment) : Text.word64? value.toList = none :=
  not_seconds_iff.mpr fun n hn => hdates _ _ n h hn.1

theorem retryAfter?_eq_some_iff (hdates : NoNumerals dates) {delay : Nanos} :
    retryAfter? dates now value = some delay ↔ Asks dates now value delay := by
  unfold retryAfter?
  constructor
  · intro h
    split at h
    · next n hn =>
      obtain rfl := Option.some.inj h
      exact .seconds (Text.word64?_eq_some_iff.mp hn)
    · obtain ⟨moment, hd, hwait⟩ := Option.bind_eq_some_iff.mp h
      obtain ⟨hnow, hdelay⟩ : now ≤ moment ∧ some (moment - now) = some delay := by
        simpa [waitUntil?] using hwait
      obtain rfl := Option.some.inj hdelay
      exact .date hd hnow
  · rintro (hn | ⟨hd, hnow⟩)
    · simp [Text.word64?_eq_some_iff.mpr hn]
    · simp [not_seconds_of_date hdates hd, dateWait?, hd, waitUntil?, hnow]

/-- **A value asks for no wait** if it cannot be read or is past. -/
theorem retryAfter?_eq_none_iff (hdates : NoNumerals dates) :
    retryAfter? dates now value = none ↔ ¬ Readable dates value ∨ Past dates now value := by
  unfold retryAfter?
  cases hd : dates value with
  | some moment =>
    have hread : Readable dates value := .date hd
    have hpast : Past dates now value ↔ moment < now := by
      refine ⟨?_, .date hd⟩
      rintro ⟨h, hnow⟩
      rwa [Option.some.inj (hd.symm.trans h)]
    simp [not_seconds_of_date hdates hd, dateWait?, hd, waitUntil?, hread, hpast]
  | none =>
    have hpast : ¬ Past dates now value := by
      rintro ⟨h, -⟩
      exact absurd (hd.symm.trans h) nofun
    have hread : Readable dates value ↔ ∃ n, Seconds value n := by
      refine ⟨?_, fun ⟨n, hn⟩ => .seconds hn⟩
      rintro (hn | h)
      · exact ⟨_, hn⟩
      · exact absurd (hd.symm.trans h) nofun
    simp only [hpast, hread, not_exists, or_false, ← not_seconds_iff]
    cases Text.word64? value.toList <;> simp [dateWait?, hd]

/-! ### Headers -/

/-- **`Retry-After` goes unheeded**: the first header of that name cannot be read or is past. -/
def Unheeded (dates : DateReader) (headers : Entries String) (now : Nanos) : Prop :=
  ∃ value, Http.header? headers "retry-after" = some value ∧
    (¬ Readable dates (Text.trimmed value) ∨ Past dates now (Text.trimmed value))

/-- A header that stands somewhere is found, or one of the same name before it. -/
theorem exists_header?_of_mem {name key : String} (hmem : (name, value) ∈ headers)
    (hname : Text.sameLetters name key = true) :
    ∃ m ∈ headers, Text.sameLetters m.1 key = true ∧ Http.header? headers key = some m.2 := by
  have hsome : (headers.find? fun h => Text.sameLetters h.1 key).isSome = true :=
    List.find?_isSome.mpr ⟨_, hmem, hname⟩
  obtain ⟨m, hm⟩ := Option.isSome_iff_exists.mp hsome
  have hkey := List.find?_some hm
  refine ⟨m, List.mem_of_find?_eq_some hm, hkey, ?_⟩
  rw [Http.header?, hm]
  rfl

/-- The headers of vendors ask for nothing if none of them does. -/
theorem firstWish_eq_nothing_iff :
    firstWish dates headers now vendor = .nothing ↔
      ∀ h ∈ vendor, vendorWish dates headers now h = .nothing := by
  induction vendor with
  | nil => simp [firstWish]
  | cons h rest ih =>
    rw [firstWish, List.forall_mem_cons, ← ih]
    split
    · next hnothing => simp [hnothing]
    · next hsome => exact iff_of_false hsome fun hand => hsome hand.1

/-- Where `Retry-After` goes unheeded, the headers of vendors are asked, one after the other. -/
theorem requestedBy_of_unheeded (hdates : NoNumerals dates) (h : Unheeded dates headers now)
    (vendor : List WaitHeader) :
    requestedBy dates headers vendor now = firstWish dates headers now vendor := by
  obtain ⟨first, hfirst, hno⟩ := h
  have hnone : retryAfter? dates now (Text.trimmed first) = none :=
    (retryAfter?_eq_none_iff hdates).mpr hno
  rw [requestedBy, hfirst, Option.bind_some, hnone]

/-- Where it does not, the wait is what it asks for. -/
theorem requestedBy_of_heeded (hdates : NoNumerals dates) {first : String}
    (hfirst : Http.header? headers "retry-after" = some first)
    (h : ¬ Unheeded dates headers now) :
    ∃ delay, Asks dates now (Text.trimmed first) delay ∧
      ∀ vendor, requestedBy dates headers vendor now = .wait delay := by
  have hsome : retryAfter? dates now (Text.trimmed first) ≠ none := by
    intro hnone
    exact h ⟨first, hfirst, (retryAfter?_eq_none_iff hdates).mp hnone⟩
  obtain ⟨delay, hdelay⟩ := Option.ne_none_iff_exists'.mp hsome
  refine ⟨delay, (retryAfter?_eq_some_iff hdates).mp hdelay, fun vendor => ?_⟩
  rw [requestedBy, hfirst, Option.bind_some, hdelay]

/-- **When `Retry-After` wins over the headers of vendors**, whatever reads the dates. Where one of
the headers of that name can be read, what vendors there are makes no difference exactly unless
`Retry-After` goes unheeded and one of the vendors' headers asks for something. If it is heeded, the
wait is what its first value asks for. With a single value it goes unheeded exactly if that is a
date in the past. -/
theorem retry_after_wins_iff (hdates : NoNumerals dates) {name : String}
    (hmem : (name, value) ∈ headers) (hname : Text.sameLetters name "retry-after" = true)
    (hvalue : Readable dates (Text.trimmed value)) (vendor : List WaitHeader) (now : Nanos) :
    (requestedBy dates headers vendor now = requestedBy dates headers [] now ↔
      ¬ (Unheeded dates headers now ∧ ∃ h ∈ vendor, vendorWish dates headers now h ≠ .nothing)) ∧
    (¬ Unheeded dates headers now →
      ∃ first delay, Http.header? headers "retry-after" = some first ∧
        Asks dates now (Text.trimmed first) delay ∧
        requestedBy dates headers vendor now = .wait delay) ∧
    ((∀ m ∈ headers, Text.sameLetters m.1 "retry-after" = true → m.2 = value) →
      (Unheeded dates headers now ↔ Past dates now (Text.trimmed value))) := by
  obtain ⟨m, hm, hmname, hfirst⟩ := exists_header?_of_mem hmem hname
  refine ⟨?_, fun h => ?_, fun hsingle => ?_⟩
  · by_cases h : Unheeded dates headers now
    · have hvendor : firstWish dates headers now vendor = .nothing ↔
          ¬ ∃ h ∈ vendor, vendorWish dates headers now h ≠ .nothing := by
        rw [firstWish_eq_nothing_iff]
        simp
      simp only [requestedBy_of_unheeded hdates h, h, true_and]
      exact hvendor
    · obtain ⟨delay, -, hwait⟩ := requestedBy_of_heeded hdates hfirst h
      simp [hwait, h]
  · obtain ⟨delay, hasks, hwait⟩ := requestedBy_of_heeded hdates hfirst h
    exact ⟨_, delay, hfirst, hasks, hwait vendor⟩
  · rw [hsingle m hm hmname] at hfirst
    constructor
    · rintro ⟨other, hother, hno⟩
      obtain rfl := Option.some.inj (hfirst.symm.trans hother)
      exact hno.resolve_left (not_not_intro hvalue)
    · intro hpast
      exact ⟨value, hfirst, .inr hpast⟩

/-- What a server sends that gives a date and, in a header of its own, a moment. -/
def twofold (date : String) : Entries String :=
  [("RETRY-AFTER", date), ("X-RateLimit-Reset", "1767225630")]

/-- The header that is the server's own. -/
def resetHeader : List WaitHeader := [⟨"x-ratelimit-reset", .unixSeconds⟩]

theorem retry_after_wins_iff_twofold :
    let now := Nanos.ofSeconds 1767225600
    let headers := twofold " Thursday, 01-Jan-26 00:01:00 GMT"
    NoNumerals Http.Date.moment? ∧ ¬ Unheeded Http.Date.moment? headers now ∧
      requestedWait headers resetHeader now = requestedWait headers [] now := by
  intro now headers
  have hdate : Http.Date.moment? (Text.trimmed " Thursday, 01-Jan-26 00:01:00 GMT") =
    some (Nanos.ofSeconds 1767225660) := by decide +kernel
  have hmem : ("RETRY-AFTER", " Thursday, 01-Jan-26 00:01:00 GMT") ∈ headers := List.mem_cons_self
  obtain ⟨hwins, -, hpast⟩ := retry_after_wins_iff Http.Date.noNumerals hmem (by decide +kernel)
    (.date hdate) resetHeader now
  have hsingle : ∀ m ∈ headers, Text.sameLetters m.1 "retry-after" = true →
      m.2 = " Thursday, 01-Jan-26 00:01:00 GMT" := by decide +kernel
  have hheeded : ¬ Unheeded Http.Date.moment? headers now := by
    rw [hpast hsingle]
    rintro ⟨h, hnow⟩
    obtain rfl := Option.some.inj (hdate.symm.trans h)
    exact absurd hnow (by decide +kernel)
  exact ⟨Http.Date.noNumerals, hheeded, hwins.mpr fun h => hheeded h.1⟩

/-- **A date that is past does not win**: the wait is the vendor's, though without vendors there is
none. -/
theorem past_date_yields_to_vendor :
    let now := Nanos.ofSeconds 1767225600
    let headers := twofold "Sun, 06 Nov 1994 08:49:37 GMT"
    Readable Http.Date.moment? (Text.trimmed "Sun, 06 Nov 1994 08:49:37 GMT") ∧
      requestedWait headers resetHeader now = .wait (Nanos.ofSeconds 30) ∧
      requestedWait headers [] now = .nothing := by
  have hdate : Http.Date.moment? (Text.trimmed "Sun, 06 Nov 1994 08:49:37 GMT") =
    some (Nanos.ofSeconds 784111777) := by decide +kernel
  exact ⟨.date hdate, by decide +kernel, by decide +kernel⟩

end Retry
end RouteFlow
