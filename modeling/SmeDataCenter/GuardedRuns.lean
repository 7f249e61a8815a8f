import Mathlib.Data.List.Basic
import Mathlib.Order.Basic

/-!
# Runs of a step that may be impossible

A step gives the next state, or none where the event cannot happen. An invariant is preserved by
the steps that can happen; a potential that each of them lowers bounds the length of every run.
-/

namespace SmeDataCenter
namespace GuardedRuns

variable {σ α : Type*}

/-- The state after the events, if each can happen in its turn. -/
def run (step : σ → α → Option σ) : σ → List α → Option σ
  | s, [] => some s
  | s, event :: events => (step s event).bind fun next => run step next events

variable {step : σ → α → Option σ}

variable {events : List α}

lemma run_cons {s final : σ} {event : α} :
    run step s (event :: events) = some final ↔
      ∃ next, step s event = some next ∧ run step next events = some final := by
  rw [run, Option.bind_eq_some_iff]

lemma run_append {s final : σ} {events' : List α} :
    run step s (events ++ events') = some final ↔
      ∃ middle, run step s events = some middle ∧ run step middle events' = some final := by
  induction events generalizing s with
  | nil => simp [run]
  | cons event events ih =>
    simp only [List.cons_append, run_cons, ih]
    constructor
    · rintro ⟨next, hnext, middle, hmiddle, hrest⟩
      exact ⟨middle, ⟨next, hnext, hmiddle⟩, hrest⟩
    · rintro ⟨middle, ⟨next, hnext, hmiddle⟩, hrest⟩
      exact ⟨next, hnext, middle, hmiddle, hrest⟩

/-- What the possible steps preserve holds at the end of a run. -/
theorem run_invariant {Inv : σ → Prop}
    (hstep : ∀ s event next, Inv s → step s event = some next → Inv next) {s final : σ}
    (hrun : run step s events = some final) (hs : Inv s) : Inv final := by
  induction events generalizing s with
  | nil =>
    cases hrun
    exact hs
  | cons event events ih =>
    obtain ⟨next, hnext, hrest⟩ := run_cons.mp hrun
    exact ih hrest (hstep s event next hs hnext)

/-- A run is no longer than what its steps take from the potential. -/
theorem length_add_le {Inv : σ → Prop} {potential : σ → ℕ}
    (hstep : ∀ s event next, Inv s → step s event = some next → Inv next)
    (hlower : ∀ s event next, Inv s → step s event = some next → potential next < potential s)
    {s final : σ} {events : List α} (hrun : run step s events = some final) (hs : Inv s) :
    events.length + potential final ≤ potential s := by
  induction events generalizing s with
  | nil =>
    cases hrun
    simp
  | cons event events ih =>
    obtain ⟨next, hnext, hrest⟩ := run_cons.mp hrun
    have htail := ih hrest (hstep s event next hs hnext)
    have hhead := hlower s event next hs hnext
    rw [List.length_cons]
    omega

/-- A state that only one kind of event leads to is reached only with such an event. -/
theorem exists_event {Bad : σ → Prop} {Cause : α → Prop}
    (hstep : ∀ s event next, step s event = some next → Bad next → Bad s ∨ Cause event)
    {s final : σ} (hrun : run step s events = some final) (hs : ¬ Bad s) (hfinal : Bad final) :
    ∃ event ∈ events, Cause event := by
  induction events generalizing s with
  | nil =>
    cases hrun
    exact absurd hfinal hs
  | cons event events ih =>
    obtain ⟨next, hnext, hrest⟩ := run_cons.mp hrun
    by_cases hbad : Bad next
    · rcases hstep s event next hnext hbad with h | h
      · exact absurd h hs
      · exact ⟨event, List.mem_cons_self, h⟩
    · obtain ⟨cause, hmem, hcause⟩ := ih hrest hbad
      exact ⟨cause, List.mem_cons_of_mem event hmem, hcause⟩

end GuardedRuns
end SmeDataCenter
