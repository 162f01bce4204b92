import VarLint.CommandLine.Run
import VarLint.Proofs.WatchFreshness

/-!
# The program watches

The program starts a watch and then looks at the disk from time to time. What it sees at a look is
one round of the watch: the disk has become another one, and the clock ticks.

* `startWatch_rests`: a watch starts with an empty cache, which can be trusted.
* `Watching.Rests.poll`, `Watching.Rests.polls`: **the program prints what it would print without a
  cache**, at one look and at any number of them.
* `Watching.poll_spec`: it prints a report at the looks that see a change, and nothing at the
  others.
-/

namespace VarLint.CommandLine

open Watch

/-- A watch of the program between two looks at the disk: no run is due, and its cache can be
trusted. -/
structure Watching.Rests (seen : List Bytes → Nat × Int → Prop) (w : Watching) : Prop where
  pending : w.state.pending = false
  safe : Safe seen w.state

/-- **A watch starts** with what its task says, an empty cache and the directories where the
patterns start. -/
theorem startWatch_rests {i : Invocation} {task : Task} {size : Int} {log : List Log.Entry}
    {w : Watching} (h : (startWatch i task (.empty size) log).watching = some w) :
    w.task = task ∧ w.state.disk = i.disk ∧
      (· ∈ w.state.watched) = WatchedAtFirst i.disk task.settings.job.patterns ∧
      w.Rests i.disk.Has := by
  unfold startWatch at h
  split at h
  rename_i answer state more hfirst
  cases answer with
  | error e => cases h
  | ok found =>
    cases found with
    | none => cases h
    | some f =>
      cases h
      obtain ⟨-, -, hdisk, hpending, hwatched, hsafe⟩ :=
        first_spec hfirst (trusted_empty i.disk size)
      exact ⟨rfl, hdisk, hwatched, hpending, hsafe⟩

/-- A watch as it would be without a cache. -/
def Watching.uncached (w : Watching) : Watching := { w with state := w.state.uncached }

/-- **A look at the disk** does what it would do without a cache. -/
theorem Watching.Rests.poll {seen : List Bytes → Nat × Int → Prop} {w : Watching} (h : w.Rests seen)
    {i : Invocation} (hnew : NewStamps seen w.state.disk i.disk) (clock : Bytes) :
    (w.poll i clock).1 = (w.uncached.poll i clock).1 ∧
      (w.poll i clock).2.2.uncached = (w.uncached.poll i clock).2.2 ∧
      (w.poll i clock).2.2.state.disk = i.disk ∧
      (w.poll i clock).2.2.Rests (SeenWith seen [i.disk]) := by
  have hround := filterMap_round w.state [i.disk]
  have hsame := h.safe.run w.task.settings.job (w.state.round [i.disk])
    (hround.symm ▸ ⟨hnew, trivial⟩)
  obtain ⟨hdisk, hpending, -⟩ := run_round w.task.settings.job h.pending [i.disk]
  rw [hround] at hsame
  exact ⟨congrArg (List.flatMap (w.task.reportAgain i clock)) hsame.findings,
    congrArg (Watching.mk w.task) hsame.state, hdisk, hpending, hsame.safe⟩

/-- What is printed at each look. -/
def Watching.polls (w : Watching) : List (Invocation × Bytes) → List Bytes
  | [] => []
  | (i, clock) :: looks => (w.poll i clock).1 :: (w.poll i clock).2.2.polls looks

/-- **The program prints what it would print without a cache**, however often it looks at the
disk. -/
theorem Watching.Rests.polls : ∀ (looks : List (Invocation × Bytes))
    {seen : List Bytes → Nat × Int → Prop} {w : Watching}, w.Rests seen →
      NewDisks seen w.state.disk (looks.map fun look => look.1.disk) →
      w.polls looks = w.uncached.polls looks
  | [], _, _, _, _ => rfl
  | (i, clock) :: looks, seen, w, h, hnew => by
    obtain ⟨hprinted, hwatch, hdisk, hrests⟩ := h.poll hnew.1 clock
    have hlater := hrests.polls looks (hdisk.symm ▸ hnew.2)
    rw [hwatch] at hlater
    rw [Watching.polls, Watching.polls, hprinted, hlater]

/-- **What is printed at a look**: if the change since the last one is seen, the report of a run on
the disk as it is, and otherwise nothing. -/
theorem Watching.poll_spec {w : Watching} (h : w.state.pending = false) (i : Invocation)
    (clock : Bytes) :
    (Sees (· ∈ w.state.watched) w.state.disk [i.disk] →
      (w.poll i clock).1 = ((Lint.run i.disk w.task.settings.job false
        w.state.memory).answer.toOption.map (w.task.reportAgain i clock)).getD []) ∧
      (¬Sees (· ∈ w.state.watched) w.state.disk [i.disk] → (w.poll i clock).1 = []) ∧
      (· ∈ (w.poll i clock).2.2.state.watched) =
        WatchedAfter (· ∈ w.state.watched) w.state.disk [i.disk] := by
  obtain ⟨-, -, hwatched, hseen, hunseen⟩ := run_round w.task.settings.job h [i.disk]
  refine ⟨fun h => ?_, fun h => ?_, hwatched⟩
  · simp only [Watching.poll, (hseen h).1]
    cases hanswer : (Lint.run i.disk w.task.settings.job false w.state.memory).answer <;>
      simp [lastOf, hanswer, Except.toOption]
  · simp only [Watching.poll, (hunseen h).1, List.flatMap_nil]

end VarLint.CommandLine
