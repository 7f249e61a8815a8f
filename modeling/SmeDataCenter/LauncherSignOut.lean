import SmeDataCenter.LauncherRotation

/-!
# Signing out of the launchers

When a launcher process signs out the record is deleted, and a call that takes the lock finds
none. A call that returns from the cache of its process does not look at the record: it returns an
access token as long as the cache has one.
-/

namespace SmeDataCenter
namespace LauncherSession

open CriticalSections Runs

/-- The record has been deleted, and no login has been stored since. -/
def SignedOut {Process : Type} (s : Shared Process) : Prop := s.session = none

section

variable {Process : Type} [DecidableEq Process] {origin : Process → String}
  {store : Option SessionRecord} {before after : List (Move Process Method Answer)} {p : Process}
  {method : Method}

/-- The launchers after a run, and a call that starts then. -/
def calling (origin : Process → String) (store : Option SessionRecord)
    (before : List (Move Process Method Answer)) (p : Process) (method : Method) :
    Launchers Process :=
  (run (System.step (launchers origin)) (started store) before).step (launchers origin)
    (.start p method)

lemma returned_call {strict : Prop}
    {post : Bool → Shared Process → Except Thrown Outcome → Prop}
    (h : Along (System.step (launchers origin)) (Allowed (rules strict)) (started store)
      (before ++ .start p method :: after))
    (hcall : SafeCall origin strict p post (call (origin p) method) false
      (run (System.step (launchers origin)) (started store) before).shared)
    {result : Except Thrown Outcome}
    (hreturned : (run (System.step (launchers origin)) (calling origin store before p method)
      after).Returned (run (System.step (launchers origin)) (started store) before).threads.length
        result) :
    ∃ locked seen, Moves seen (run (System.step (launchers origin))
      (calling origin store before p method) after).shared ∧ post locked seen result := by
  obtain ⟨hbefore, hafter⟩ := along_append.mp h
  refine (sound_run hbefore).returned_of_start ?_ hcall hafter.2 hreturned
  exact fun _ _ method' _ _ _ => (safe_call method').mono fun _ _ _ hended => hended.1

end

/-- **A call that starts when the launchers are signed out** returns an access token only when a
login has been stored since; and the token that a call returns was issued in the session that was
there when it started, or in a later one. -/
theorem no_token_when_signed_out {Process : Type} [DecidableEq Process]
    {origin : Process → String} {store : Option SessionRecord}
    {before after : List (Move Process Method Answer)} {p : Process} {token : String}
    (h : Along (System.step (launchers origin)) (Allowed (rules True)) (started store)
      (before ++ .start p .ensureAccessToken :: after))
    (hreturned : (run (System.step (launchers origin))
      (calling origin store before p .ensureAccessToken) after).Returned
        (run (System.step (launchers origin)) (started store) before).threads.length
        (.ok (.token token))) :
    (SignedOut (run (System.step (launchers origin)) (started store) before).shared →
        (run (System.step (launchers origin)) (started store) before).shared.sessions <
          (run (System.step (launchers origin))
            (calling origin store before p .ensureAccessToken) after).shared.sessions) ∧
      IssuedSince (run (System.step (launchers origin)) (started store) before).shared token
        (run (System.step (launchers origin))
          (calling origin store before p .ensureAccessToken) after).shared := by
  obtain ⟨locked, seen, hmoves, hended⟩ := returned_call h (safe_call .ensureAccessToken) hreturned
  obtain ⟨issue, hissue, htoken, hsession⟩ := hended.2 trivial token rfl
  have hpresent := hmoves.issued issue hissue
  refine ⟨fun hout => ?_, issue, hpresent, htoken, hsession⟩
  have hend := sound_run h
  rw [run_append] at hend
  have hlt := hend.always.sessions issue hpresent
  rcases hsession with hold | hnew
  · rw [show _ = none from hout] at hold
    cases hold
  · exact Nat.lt_of_le_of_lt hnew hlt

/-- A process logs in. -/
def login : List (Move Bool Method Answer) :=
  [.start true (.establish "access" "credential" 600000), .advance 0 .nothing,
    .advance 0 (.written true), .advance 0 .nothing, .advance 0 .nothing, .advance 0 .nothing]

lemma login_considered :
    Along (System.step (launchers fun _ => "origin")) (Allowed (rules True)) (started none)
      (login ++ .start true .ensureAccessToken :: [.advance 1 (.now 0)]) := by
  refine ⟨trivial, ?_, ?_, ?_, ?_, ?_, trivial, ?_, trivial⟩ <;>
    rintro thread r next hthread hprog <;> cases hthread <;> cases hprog
  · exact List.not_mem_nil
  · trivial
  · trivial
  · exact fun _ _ _ => ⟨_, rfl, rfl⟩

theorem token_after_login :
    (SignedOut (run (System.step (launchers fun _ => "origin")) (started none) login).shared →
        (run (System.step (launchers fun _ => "origin")) (started none) login).shared.sessions <
          (run (System.step (launchers fun _ => "origin"))
            (calling (fun _ => "origin") none login true .ensureAccessToken)
            [.advance 1 (.now 0)]).shared.sessions) ∧
      IssuedSince (run (System.step (launchers fun _ => "origin")) (started none) login).shared
        "access" (run (System.step (launchers fun _ => "origin"))
          (calling (fun _ => "origin") none login true .ensureAccessToken)
          [.advance 1 (.now 0)]).shared :=
  no_token_when_signed_out login_considered ⟨_, rfl, rfl⟩

/-! ### A token from a cache that is not current -/

/-- A process logs in, another one logs out. -/
def signOut : List (Move Bool Method Answer) :=
  login ++ [.start false .logout, .advance 1 .nothing, .advance 1 .nothing, .advance 1 .nothing,
    .advance 1 (.revoked (some true)), .advance 1 (.written true), .advance 1 .nothing]

/-- The process that had logged in still returns its access token. -/
theorem token_after_logout :
    (run (System.step (launchers fun _ => "origin")) (started none) signOut).Returned 1
        (.ok (.signedOut true true)) ∧
      SignedOut (run (System.step (launchers fun _ => "origin")) (started none) signOut).shared ∧
      (run (System.step (launchers fun _ => "origin"))
        (calling (fun _ => "origin") none signOut true .ensureAccessToken)
        [.advance 2 (.now 0)]).Returned 2 (.ok (.token "access")) ∧
      (run (System.step (launchers fun _ => "origin"))
        (calling (fun _ => "origin") none signOut true .ensureAccessToken)
        [.advance 2 (.now 0)]).shared.store = none :=
  ⟨⟨_, rfl, rfl⟩, rfl, ⟨_, rfl, rfl⟩, rfl⟩

end LauncherSession
end SmeDataCenter
