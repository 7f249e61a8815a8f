import Mathlib.Data.List.Pairwise
import Mathlib.Data.Int.Notation

/-!
# Fenced leases

A job is worked on by one holder at a time. Who holds it is written in its row: a phase, the
number of the attempt, the holder and a deadline, the last two absent outside the running phase.
A claim starts a new attempt; whoever shows the holder and the attempt of the row before the
deadline may renew the lease, give the job back, complete it or fail it. A move of a row is one
of these, or none of them.
-/

namespace SmeDataCenter
namespace FencedLease

inductive Phase where
  | waiting
  | running
  | completed
  | failed
  deriving DecidableEq

/-- What the row of a job says about its lease. -/
structure LeaseRow (ω : Type) where
  phase : Phase
  attempt : ℕ
  holder : Option ω
  deadline : Option ℕ

/-- What a holder shows. -/
structure Token (ω : Type) where
  holder : ω
  attempt : ℕ
  deriving DecidableEq

variable {ω : Type}

/-- The token names the running attempt and its holder, and the deadline is ahead. -/
structure Active (row : LeaseRow ω) (token : Token ω) (now : ℕ) : Prop where
  phase : row.phase = .running
  holder : row.holder = some token.holder
  attempt : row.attempt = token.attempt
  deadline : ∃ deadline, row.deadline = some deadline ∧ now < deadline

/-- A claim finds the job waiting, or its deadline gone by. -/
def Claimable (row : LeaseRow ω) (now : ℕ) : Prop :=
  row.phase = .waiting ∨
    (row.phase = .running ∧ ∃ deadline, row.deadline = some deadline ∧ deadline < now)

/-- What is done to a job. -/
inductive Action (ω : Type) where
  | none
  | claim
  | renew (token : Token ω)
  | giveBack (token : Token ω)
  | complete (token : Token ω)
  | fail (token : Token ω)

/-- A move of the row at a time. -/
inductive Move (now : ℕ) (row : LeaseRow ω) : Action ω → LeaseRow ω → Prop where
  | none : Move now row .none row
  | claim {row' : LeaseRow ω} (h : Claimable row now) (hphase : row'.phase = .running)
      (hattempt : row'.attempt = row.attempt + 1) : Move now row .claim row'
  | renew {token : Token ω} {row' : LeaseRow ω} (h : Active row token now)
      (hphase : row'.phase = row.phase) (hattempt : row'.attempt = row.attempt)
      (hholder : row'.holder = row.holder) : Move now row (.renew token) row'
  | giveBack {token : Token ω} {row' : LeaseRow ω} (h : Active row token now)
      (hphase : row'.phase = .waiting) (hattempt : row'.attempt = row.attempt) :
      Move now row (.giveBack token) row'
  | complete {token : Token ω} {row' : LeaseRow ω} (h : Active row token now)
      (hphase : row'.phase = .completed) (hattempt : row'.attempt = row.attempt) :
      Move now row (.complete token) row'
  | fail {token : Token ω} {row' : LeaseRow ω} (h : Active row token now)
      (hphase : row'.phase = .failed) (hattempt : row'.attempt = row.attempt) :
      Move now row (.fail token) row'

/-- The job is over. -/
def LeaseRow.Over (row : LeaseRow ω) : Prop := row.phase = .completed ∨ row.phase = .failed

namespace Move

variable {now : ℕ} {row row' : LeaseRow ω} {action : Action ω}

lemma attempt_le (h : Move now row action row') : row.attempt ≤ row'.attempt := by
  cases h with
  | none => exact Nat.le_refl _
  | claim _ _ hattempt => omega
  | renew _ _ hattempt _ => omega
  | giveBack _ _ hattempt => omega
  | complete _ _ hattempt => omega
  | fail _ _ hattempt => omega

lemma eq_of_over (h : Move now row action row') (hover : row.Over) :
    action = .none ∧ row' = row := by
  have hrun : row.phase ≠ .running := by
    rcases hover with h | h <;> simp [h]
  cases h with
  | none => exact ⟨rfl, rfl⟩
  | claim hc _ _ =>
    rcases hc with hw | ⟨hr, -⟩
    · rcases hover with h | h <;> simp [h] at hw
    · exact absurd hr hrun
  | renew ha _ _ _ => exact absurd ha.phase hrun
  | giveBack ha _ _ => exact absurd ha.phase hrun
  | complete ha _ _ => exact absurd ha.phase hrun
  | fail ha _ _ => exact absurd ha.phase hrun

/-- **A lease that is lost stays lost**: a token of an attempt the row has reached, not active
at some time, is not active at any later time, whatever move is made in between. -/
lemma not_active {token : Token ω} {start later : ℕ} (h : Move now row action row')
    (hissued : token.attempt ≤ row.attempt) (hstart : ¬ Active row token start)
    (hnow : start ≤ now) (hlater : now ≤ later) : ¬ Active row' token later := by
  have hstays : ∀ t, start ≤ t → ¬ Active row token t := by
    intro t ht ⟨hphase, hholder, hattempt, deadline, hd, hlt⟩
    exact hstart ⟨hphase, hholder, hattempt, deadline, hd, by omega⟩
  intro hactive
  cases h with
  | none => exact hstays later (by omega) hactive
  | claim _ _ hattempt =>
    have := hactive.attempt
    omega
  | renew ha hphase hattempt hholder =>
    -- the renewing token is the row's, and it is not this one
    refine hstays now hnow ⟨?_, ?_, ?_, ha.deadline⟩
    · rw [← hphase]; exact hactive.phase
    · rw [← hholder]; exact hactive.holder
    · rw [← hattempt]; exact hactive.attempt
  | giveBack _ hphase _ => simpa [hphase] using hactive.phase
  | complete _ hphase _ => simpa [hphase] using hactive.phase
  | fail _ hphase _ => simpa [hphase] using hactive.phase

/-- The attempt of the row is within a bound, and below it while the job waits to be claimed. -/
def Capped (bound : ℕ) (row : LeaseRow ω) : Prop :=
  row.attempt ≤ bound ∧ (row.phase = .waiting → row.attempt < bound)

lemma capped {bound : ℕ} (h : Move now row action row') (hcap : Capped bound row)
    (hback : ∀ token, action = .giveBack token → token.attempt < bound)
    (hover : action = .claim → row.phase = .running → row.attempt < bound) :
    Capped bound row' := by
  obtain ⟨hle, hwaiting⟩ := hcap
  cases h with
  | none => exact ⟨hle, hwaiting⟩
  | claim hc hphase hattempt =>
    have hlt : row.attempt < bound := by
      rcases hc with hw | ⟨hr, -⟩
      · exact hwaiting hw
      · exact hover rfl hr
    exact ⟨by omega, fun hw => absurd (hphase.symm.trans hw) (by simp)⟩
  | renew ha hphase hattempt _ =>
    refine ⟨by omega, fun hw => ?_⟩
    rw [hphase, ha.phase] at hw
    cases hw
  | @giveBack token _ ha hphase hattempt =>
    have hlt := hback token rfl
    have heq := ha.attempt
    exact ⟨by omega, fun _ => by omega⟩
  | complete _ hphase hattempt =>
    exact ⟨by omega, fun hw => absurd (hphase.symm.trans hw) (by simp)⟩
  | fail _ hphase hattempt =>
    exact ⟨by omega, fun hw => absurd (hphase.symm.trans hw) (by simp)⟩

end Move

/-! ### Histories -/

/-- The moves of a row, one after the other, each at its time. -/
inductive History : LeaseRow ω → List (ℕ × Action ω × LeaseRow ω) → LeaseRow ω → Prop where
  | nil (row : LeaseRow ω) : History row [] row
  | cons {now : ℕ} {action : Action ω} {row row' row'' : LeaseRow ω}
      {moves : List (ℕ × Action ω × LeaseRow ω)} (h : Move now row action row')
      (hrest : History row' moves row'') : History row ((now, action, row') :: moves) row''

/-- The attempts a history starts, in order. -/
def claimedAttempts (moves : List (ℕ × Action ω × LeaseRow ω)) : List ℕ :=
  moves.filterMap fun (_, action, row) =>
    match action with
    | .claim => some row.attempt
    | _ => none

/-- The completions of a history. -/
def completions (moves : List (ℕ × Action ω × LeaseRow ω)) : List (Token ω) :=
  moves.filterMap fun (_, action, _) =>
    match action with
    | .complete token => some token
    | _ => none

lemma claimedAttempts_cons (move : ℕ × Action ω × LeaseRow ω)
    (moves : List (ℕ × Action ω × LeaseRow ω)) :
    claimedAttempts (move :: moves) = claimedAttempts [move] ++ claimedAttempts moves := by
  rw [claimedAttempts, claimedAttempts, claimedAttempts, ← List.filterMap_append]
  rfl

lemma completions_cons (move : ℕ × Action ω × LeaseRow ω)
    (moves : List (ℕ × Action ω × LeaseRow ω)) :
    completions (move :: moves) = completions [move] ++ completions moves := by
  rw [completions, completions, completions, ← List.filterMap_append]
  rfl

namespace History

variable {row row' : LeaseRow ω} {moves : List (ℕ × Action ω × LeaseRow ω)}

/-- **Attempts count up**: a history starts the attempts after the one of the row, one by one,
up to the attempt it ends with. -/
theorem claimedAttempts_eq (h : History row moves row') :
    row.attempt ≤ row'.attempt ∧
      claimedAttempts moves = List.range' (row.attempt + 1) (row'.attempt - row.attempt) := by
  induction h with
  | nil row => simp [claimedAttempts]
  | @cons now action row row' row'' moves h hrest ih =>
    obtain ⟨hle, ih⟩ := ih
    have hmono := h.attempt_le
    refine ⟨by omega, ?_⟩
    cases h with
    | claim _ _ hattempt =>
      have hsub : row''.attempt - row.attempt = (row''.attempt - row'.attempt) + 1 := by omega
      simp only [claimedAttempts, List.filterMap_cons] at ih ⊢
      rw [ih, hsub, List.range'_succ, hattempt]
    | none => simpa [claimedAttempts] using ih
    | renew _ _ hattempt _ => simpa [claimedAttempts, hattempt] using ih
    | giveBack _ _ hattempt => simpa [claimedAttempts, hattempt] using ih
    | complete _ _ hattempt => simpa [claimedAttempts, hattempt] using ih
    | fail _ _ hattempt => simpa [claimedAttempts, hattempt] using ih

/-- The attempts of a history increase strictly. -/
theorem claimedAttempts_sorted (h : History row moves row') :
    (claimedAttempts moves).Pairwise (· < ·) := by
  rw [h.claimedAttempts_eq.2]
  exact List.pairwise_lt_range'

lemma completions_of_over (h : History row moves row') (hover : row.Over) :
    completions moves = [] := by
  induction h with
  | nil row => rfl
  | cons h hrest ih =>
    obtain ⟨rfl, rfl⟩ := h.eq_of_over hover
    simpa [completions] using ih hover

/-- **One completion**: a history completes the job at most once. -/
theorem completions_le_one (h : History row moves row') : (completions moves).length ≤ 1 := by
  induction h with
  | nil row => simp [completions]
  | @cons now action row row' row'' moves h hrest ih =>
    cases h with
    | complete _ hphase _ =>
      have hrest := hrest.completions_of_over (.inl hphase)
      simp only [completions, List.filterMap_cons, List.length_cons] at hrest ⊢
      rw [hrest]
      exact Nat.le_refl _
    | none => simpa [completions] using ih
    | claim => simpa [completions] using ih
    | renew => simpa [completions] using ih
    | giveBack => simpa [completions] using ih
    | fail => simpa [completions] using ih

/-- A lease that is lost at some time is lost after every history of later moves. -/
theorem not_active {token : Token ω} {start later : ℕ} (h : History row moves row')
    (hissued : token.attempt ≤ row.attempt) (hstart : ¬ Active row token start)
    (htimes : (start :: moves.map (·.1) ++ [later]).Pairwise (· ≤ ·)) :
    ¬ Active row' token later := by
  induction h generalizing start with
  | nil row =>
    have hle : start ≤ later := by simpa using htimes
    exact Move.none.not_active hissued hstart (Nat.le_refl _) hle
  | @cons now action row row' row'' moves h hrest ih =>
    simp only [List.map_cons, List.cons_append, List.pairwise_cons] at htimes
    obtain ⟨hfirst, htimes⟩ := htimes
    have hnow : start ≤ now := hfirst now List.mem_cons_self
    refine ih (Nat.le_trans hissued h.attempt_le) (h.not_active hissued hstart hnow (Nat.le_refl _)) ?_
    simpa using htimes

end History

end FencedLease
end SmeDataCenter
