import RouteFlow.Command.Output
import RouteFlow.Proofs.Json.ReadBack

/-!
# What is printed for a value and for an error

Unless a command is quiet it prints its result as one text: the compact text of the value for
programs, and the text with a line for each member and item for people. The two differ in blanks
only, and the value can be read from either, if it is one whose text reads back at all
(`Style.shows_result`). An error is a line for people, and for programs an object from which its
wording is read (`Style.tells_error`).
-/

namespace RouteFlow.Command

/-- **Lines show a value.** A quiet command has none. Any other has one text, which is the compact
text of the value but for blanks outside of strings, and with none of these for programs. A plain
value is read from it. -/
structure Style.Shows (s : Style) (j : Json) (lines : List String) : Prop where
  nothing : s.quiet = true → lines = []
  text : s.quiet = false → ∃ text, lines = [text] ∧ Json.unspaced text = j.compact ∧
    (s.format = .json → text = j.compact)
  readsBack : ∀ {n : Nat}, Json.Plain n j → n < Json.depthLimit →
    ∀ text ∈ lines, Json.ofText text = .ok j

/-- **What is printed for a value shows it.** -/
theorem Style.shows_result (s : Style) (j : Json) : s.Shows j (s.result j) := by
  obtain ⟨format, quiet⟩ := s
  cases quiet with
  | true => exact ⟨fun _ => rfl, nofun, fun _ _ => List.forall_mem_nil _⟩
  | false =>
    cases format with
    | text =>
      exact ⟨nofun, fun _ => ⟨j.pretty, rfl, Json.unspaced_pretty j, nofun⟩,
        fun hj hn => List.forall_mem_singleton.mpr (Json.ofText_pretty hj hn)⟩
    | json =>
      exact ⟨nofun, fun _ => ⟨j.compact, rfl, Json.unspaced_compact j, fun _ => rfl⟩,
        fun hj hn => List.forall_mem_singleton.mpr (Json.ofText_compact hj hn)⟩

/-- **Lines tell an error.** A quiet command has none. Any other has one text, which gives the
wording of the error for people, and from which an object with the wording is read for programs. -/
structure Style.Tells (s : Style) (message : String) (lines : List String) : Prop where
  nothing : s.quiet = true → lines = []
  forPeople : s.quiet = false → s.format = .text → lines = ["error: " ++ message]
  forPrograms : s.quiet = false → s.format = .json → ∃ text, lines = [text] ∧
    Json.ofText text = .ok (.object [("error", .string message)])

/-- **What is printed for an error tells it.** -/
theorem Style.tells_error (s : Style) (message : String) : s.Tells message (s.error message) := by
  obtain ⟨format, quiet⟩ := s
  cases quiet with
  | true => exact ⟨fun _ => rfl, nofun, nofun⟩
  | false =>
    cases format with
    | text => exact ⟨nofun, fun _ _ => rfl, nofun⟩
    | json =>
      have hlimit : 1 < Json.depthLimit := by decide
      exact ⟨nofun, nofun, fun _ _ =>
        ⟨_, rfl, Json.ofText_compact (.single .string) hlimit⟩⟩

theorem Style.tells_fail (s : Style) (exit : Exit) (message : String) :
    s.Tells message (s.fail exit [message]).err := by
  have herr : (s.fail exit [message]).err = s.error message :=
    (List.flatMap_cons ..).trans (List.append_nil _)
  rw [herr]
  exact s.tells_error message

/-- A command that is not quiet shows a plain value by a text from which it is read. -/
theorem Style.Shows.exists_text {s : Style} {j : Json} {lines : List String}
    (h : s.Shows j lines) (hquiet : s.quiet = false) {n : Nat} (hj : Json.Plain n j)
    (hn : n < Json.depthLimit) : ∃ text, lines = [text] ∧ Json.ofText text = .ok j := by
  obtain ⟨text, rfl, -, -⟩ := h.text hquiet
  exact ⟨text, rfl, h.readsBack hj hn text (List.mem_singleton_self text)⟩

end RouteFlow.Command
