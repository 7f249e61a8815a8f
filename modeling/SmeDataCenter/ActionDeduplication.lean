import SmeDataCenter.WorkflowActions

/-!
# Keys of actions in flight

An action that was not refused holds its deduplication keys, so that no other action can have
the same effect. A claim takes the keys, a failed receipt gives them back, and nothing takes
them again when a later receipt says that the failed action did happen after all. The keys are
held in every state of a run in which no receipt revives a failed action.
-/

namespace SmeDataCenter
namespace WorkflowActions

open Runs

variable (sha256 : String → String)

/-- The keys of a stored action. -/
def keysOf (actionId : String) (action : WorkflowAction) : List String :=
  deduplicationKeys sha256 action.identity ⟨action.runId, actionId⟩

/-- Every action in flight, of unknown result or confirmed holds all its keys. -/
def KeysHeld (s : WorkflowState) : Prop :=
  ∀ actionId action, s.actions.lookup actionId = some action → action.state ≠ .failed →
    ∀ key ∈ keysOf sha256 actionId action, s.deduplication.lookup key = some actionId

/-- No two actions that were not refused share a key. -/
def NoSharedKey (s : WorkflowState) : Prop :=
  ∀ id id' action action', s.actions.lookup id = some action →
    s.actions.lookup id' = some action' → action.state ≠ .failed → action'.state ≠ .failed →
    (∃ key, key ∈ keysOf sha256 id action ∧ key ∈ keysOf sha256 id' action') → id = id'

variable {sha256}

variable {s : WorkflowState}

lemma KeysHeld.noSharedKey (h : KeysHeld sha256 s) : NoSharedKey sha256 s := by
  rintro id id' action action' ha ha' hs hs' ⟨key, hk, hk'⟩
  have h1 := h id action ha hs key hk
  have h2 := h id' action' ha' hs' key hk'
  exact Option.some.inj (h1.symm.trans h2)

/-! ### Claims -/

variable {s' : WorkflowState} {runId : String}

lemma reclaimable_ok {sameId : WorkflowAction} {keys : List String}
    (h : reclaimable sha256 sameId keys = .ok ()) :
    sameId.idempotencyKey = hash sha256 (.strings keys) := by
  unfold reclaimable at h
  by_cases hsame : sameId.state ≠ .failed ∨ sameId.idempotencyKey ≠ hash sha256 (.strings keys)
  · simp [hsame, bind, Except.bind, throw, throwThe, MonadExceptOf.throw] at h
  · rw [not_or, not_not, not_not] at hsame
    exact hsame.2

variable {now : ℤ}

/-- What a claim does to the tables: nothing, or it takes keys nobody holds for the action it
writes. -/
lemma claimAction_cases {intent : WorkflowActionIntent} {result : ClaimResult}
    (h : claimAction sha256 s runId intent now = .ok (s', result)) :
    s' = s ∨ ∃ action, action.runId = runId ∧
      action.idempotencyKey = hash sha256 (.strings (keysOf sha256 intent.actionId action)) ∧
      (∀ id, s'.actions.lookup id =
        if id = intent.actionId then some action else s.actions.lookup id) ∧
      s.deduplication.createMany ((keysOf sha256 intent.actionId action).map
        fun key => (key, intent.actionId)) = some s'.deduplication := by
  unfold claimAction at h
  simp only at h
  split at h
  · split at h
    · cases h
    · cases h
      exact .inl rfl
  simp only [bind_eq_ok] at h
  obtain ⟨actions, hrow, h⟩ := h
  split at h
  · cases h
  rename_i deduplication hkeys
  cases h
  right
  unfold intentRow at hrow
  split at hrow
  · rename_i sameId hsame
    simp only [bind_eq_ok] at hrow
    obtain ⟨⟨⟩, hagain, hrow⟩ := hrow
    cases hrow
    have hkey := reclaimable_ok hagain
    refine ⟨sameId.reclaim runId intent now, rfl, hkey, fun id => ?_, hkeys⟩
    rw [Table.lookup_update, hsame]
    rfl
  · split_ifs at hrow
    cases hrow
    exact ⟨intent.row runId _ now, rfl, rfl, fun id => Table.lookup_insert' _ _ _ _, hkeys⟩

lemma claimAction_keysHeld {intent : WorkflowActionIntent} {result : ClaimResult}
    (h : claimAction sha256 s runId intent now = .ok (s', result)) (hs : KeysHeld sha256 s) :
    KeysHeld sha256 s' := by
  rcases claimAction_cases h with rfl | ⟨action, -, -, hactions, hkeys⟩
  · exact hs
  obtain ⟨hnew, hold⟩ := Table.lookup_createMany hkeys
  intro id a ha hstate key hkey
  rw [hactions] at ha
  split_ifs at ha with hid
  · obtain rfl := Option.some.inj ha
    subst hid
    exact hnew (key, intent.actionId) (List.mem_map_of_mem hkey)
  · exact hold key id (hs id a ha hstate key hkey)

/-- What every claim keeps, the claims of a call keep. -/
lemma claimActions_induction (kept : WorkflowState → Prop)
    (hclaim : ∀ {s s' intent result}, claimAction sha256 s runId intent now = .ok (s', result) →
      kept s → kept s') {intents : List WorkflowActionIntent} {results : List ClaimResult}
    (h : claimActions sha256 s runId now intents = .ok (s', results)) (hs : kept s) : kept s' := by
  induction intents generalizing s results with
  | nil =>
    cases h
    exact hs
  | cons intent intents ih =>
    simp only [claimActions, bind_eq_ok, Prod.exists] at h
    obtain ⟨t, result, hfirst, t', results', hrest, h⟩ := h
    cases h
    exact ih hrest (hclaim hfirst hs)

lemma claimActions_of_execute {binding : Binding} {intents : List WorkflowActionIntent}
    {checks : Checks} (h : Operation.execute sha256 s (.intent binding intents now checks) = .ok s')
    : ∃ results, claimActions sha256 s binding.runId now intents = .ok (s', results) := by
  simp only [Operation.execute, bind_eq_ok, Prod.exists] at h
  obtain ⟨t, results, hintent, h⟩ := h
  cases h
  unfold intentOperation at hintent
  split_ifs at hintent
  exact ⟨results, hintent⟩

/-! ### Receipts -/

variable {call : ReceiptCall} {receipt : WorkflowActionReceipt}

/-- A receipt leaves the tables as they were, or is recorded on an action that is not yet
confirmed; a call that resolves unknown actions records it on no failed one. -/
lemma recordReceipt_cases (h : recordReceipt sha256 call s receipt = .ok s') :
    s' = s ∨ ∃ action, s.actions.lookup receipt.actionId = some action ∧
      action.state ≠ .confirmed ∧ (call.resolveUnknown = true → action.state ≠ .failed) ∧
      s' = applyReceipt s receipt call.now := by
  unfold recordReceipt at h
  split at h
  · cases h
  rename_i action hlookup
  split_ifs at h with hrun hconfirmed hsame
  · cases h
    exact .inl rfl
  split at h
  · cases h
  rename_i hrefusal
  cases h
  refine .inr ⟨action, hlookup, hconfirmed, fun hresolve hfailed => ?_, rfl⟩
  simp [receiptRefusal, hresolve, hfailed] at hrefusal

/-- A receipt that does not say the action failed, on an action that is failed at the moment:
what the code records without taking the keys again. -/
def Revives (s : WorkflowState) (receipt : WorkflowActionReceipt) : Prop :=
  receipt.state ≠ .failed ∧
    ∃ action, s.actions.lookup receipt.actionId = some action ∧ action.state = .failed

lemma applyReceipt_keysHeld {action : WorkflowAction}
    (hlookup : s.actions.lookup receipt.actionId = some action) (hlate : ¬ Revives s receipt)
    (hs : KeysHeld sha256 s) : KeysHeld sha256 (applyReceipt s receipt now) := by
  intro id a ha hstate key hkey
  simp only [applyReceipt, Table.lookup_update] at ha ⊢
  by_cases hid : id = receipt.actionId
  · -- the action of the receipt: it held its keys before, and keeps them
    subst hid
    rw [if_pos rfl, hlookup, Option.map_some, Option.some.injEq] at ha
    subst ha
    have hnot : receipt.state ≠ .failed := fun e => hstate (by
      simp [WorkflowAction.record, e, ReceiptState.action])
    have hbefore : action.state ≠ .failed := fun e => hlate ⟨hnot, action, hlookup, e⟩
    rw [if_neg hnot]
    exact hs _ action hlookup hbefore key hkey
  · -- any other action: only keys of the receipt's action are released
    rw [if_neg hid] at ha
    have hheld := hs id a ha hstate key hkey
    split_ifs with hfailed
    · rw [Table.lookup_deleteMany, hheld]
      simp [hid, Option.filter_some]
    · exact hheld

lemma failed_of_recordReceipt (h : recordReceipt sha256 call s receipt = .ok s') {id : String}
    {action : WorkflowAction} (ha : s'.actions.lookup id = some action)
    (hf : action.state = .failed) :
    (∃ before, s.actions.lookup id = some before ∧ before.state = .failed) ∨
      (receipt.actionId = id ∧ receipt.state = .failed) := by
  rcases recordReceipt_cases h with rfl | ⟨before, hlookup, -, -, rfl⟩
  · exact .inl ⟨action, ha, hf⟩
  simp only [applyReceipt, Table.lookup_update] at ha
  by_cases hid : id = receipt.actionId
  · subst hid
    rw [if_pos rfl, hlookup, Option.map_some, Option.some.injEq] at ha
    subst ha
    refine .inr ⟨rfl, ?_⟩
    cases hr : receipt.state <;> simp [WorkflowAction.record, hr, ReceiptState.action] at hf ⊢
  · rw [if_neg hid] at ha
    exact .inl ⟨action, ha, hf⟩

/-- The receipts of a call revive no failed action: none of them says otherwise of an action
that is failed before the call, or that an earlier receipt of the call says failed. -/
def RevivesNone (s : WorkflowState) : List WorkflowActionReceipt → Prop
  | [] => True
  | receipt :: receipts => ¬ Revives s receipt ∧ RevivesNone s receipts ∧
      (receipt.state = .failed →
        ∀ later ∈ receipts, later.actionId = receipt.actionId → later.state = .failed)

variable {receipts : List WorkflowActionReceipt}

lemma RevivesNone.tail (hrec : recordReceipt sha256 call s receipt = .ok s')
    (h : RevivesNone s (receipt :: receipts)) : RevivesNone s' receipts := by
  obtain ⟨-, hrest, hfirst⟩ := h
  induction receipts with
  | nil => trivial
  | cons later receipts ih =>
    obtain ⟨hlater, hrest, hlaterFirst⟩ := hrest
    refine ⟨?_, ih hrest fun hf l hl => hfirst hf l (List.mem_cons_of_mem _ hl), hlaterFirst⟩
    rintro ⟨hstate, action, ha, hf⟩
    rcases failed_of_recordReceipt hrec ha hf with hbefore | ⟨hid, hfailed⟩
    · exact hlater ⟨hstate, hbefore⟩
    · exact hstate (hfirst hfailed later List.mem_cons_self hid.symm)

lemma recordReceipts_keysHeld (h : recordReceipts sha256 call s receipts = .ok s')
    (hnone : RevivesNone s receipts) (hs : KeysHeld sha256 s) : KeysHeld sha256 s' := by
  induction receipts generalizing s with
  | nil =>
    cases h
    exact hs
  | cons receipt receipts ih =>
    simp only [recordReceipts, bind_eq_ok] at h
    obtain ⟨t, hrec, hrest⟩ := h
    refine ih hrest (hnone.tail hrec) ?_
    rcases recordReceipt_cases hrec with rfl | ⟨action, hlookup, -, -, rfl⟩
    · exact hs
    · exact applyReceipt_keysHeld hlookup hnone.1 hs

/-! ### Runs -/

/-- The operation records no receipt that revives a failed action. Calls that resolve unknown
actions never do: the code refuses them on a failed action. -/
def Operation.RevivesNone (s : WorkflowState) : Operation → Prop
  | .recordReceipts _ receipts _ _ => WorkflowActions.RevivesNone s receipts
  | _ => True

lemma receiptOperation_ok (h : receiptOperation sha256 s call receipts = .ok s') :
    recordReceipts sha256 call s receipts = .ok s' := by
  unfold receiptOperation at h
  split at h
  · cases h
  · split_ifs at h
    exact h

lemma resolveUnknown_keysHeld (hresolve : call.resolveUnknown = true)
    (h : recordReceipts sha256 call s [receipt] = .ok s') (hs : KeysHeld sha256 s) :
    KeysHeld sha256 s' := by
  simp only [recordReceipts, bind_eq_ok] at h
  obtain ⟨t, hrec, h⟩ := h
  cases h
  rcases recordReceipt_cases hrec with rfl | ⟨action, hlookup, -, hnot, rfl⟩
  · exact hs
  · refine applyReceipt_keysHeld hlookup ?_ hs
    rintro ⟨-, action', hlookup', hf⟩
    rw [hlookup, Option.some.injEq] at hlookup'
    exact hnot hresolve (hlookup' ▸ hf)

lemma takeover_keysHeld {actorId installationId : String} {checks : Checks}
    (h : takeoverOperation s actorId installationId now checks = .ok s') (hs : KeysHeld sha256 s) :
    KeysHeld sha256 s' := by
  unfold takeoverOperation at h
  split_ifs at h
  cases h
  intro id a ha hstate key hkey
  simp only [Table.lookup_updateMany, Option.map_eq_some_iff] at ha
  obtain ⟨before, hbefore, rfl⟩ := ha
  split_ifs at hstate hkey with hintent
  · -- an action in flight held its keys, and they do not depend on its state
    exact hs id before hbefore (by simp at hintent; simp [hintent]) key hkey
  · exact hs id before hbefore hstate key hkey

/-- **The step lemma**: an operation that revives no failed action keeps the keys held. -/
theorem step_keysHeld {op : Operation} (hop : op.RevivesNone s) (hs : KeysHeld sha256 s) :
    KeysHeld sha256 (step sha256 s op) := by
  refine commit_induction hs fun s' h => ?_
  cases op with
  | intent binding intents now checks =>
    obtain ⟨results, hclaims⟩ := claimActions_of_execute h
    exact claimActions_induction _ claimAction_keysHeld hclaims hs
  | recordReceipts binding receipts now checks =>
    exact recordReceipts_keysHeld (receiptOperation_ok h) hop hs
  | resolveUnknown binding receipt now checks =>
    simp only [Operation.execute] at h
    split_ifs at h
    exact resolveUnknown_keysHeld rfl (receiptOperation_ok h) hs
  | takeover actorId installationId now checks => exact takeover_keysHeld h hs
  | elsewhere assignment runs =>
    cases h
    exact hs

lemma initial_keysHeld : KeysHeld sha256 .initial := by
  intro id action h
  simp [WorkflowState.initial] at h

variable (sha256)

/-! ### A failed action revived -/

section Example

/-- A mail to the given recipients. -/
def exampleMail (recipients : List String) : WorkflowActionIdentity :=
  .email ["N"] ⟨"2026-01-05", "2026-01-11"⟩ .weeklyReport recipients "o@a.io" 1 []

def exampleIntent (actionId : String) (recipients : List String) : WorkflowActionIntent :=
  ⟨actionId, exampleMail recipients, some "artifact", some "marker"⟩

def exampleReceipt (actionId : String) (state : ReceiptState) (evidence : Evidence) :
    WorkflowActionReceipt where
  actionId := actionId
  state := state
  evidence := evidence
  receiptId := some "mail-1"
  jobId := none
  resultHash := none
  reason := some "checked by hand"
  verifiedAt := ⟨"2026-01-12T00:00:00Z", 0⟩
  providerReadback := none

def exampleBinding : Binding := ⟨"emp", "host", "run", 1⟩

def exampleChecks : Checks := ⟨true, fun _ => true, true, true, fun _ _ => none, true⟩

/-- The mail `a` to two recipients is rejected, the mail `b` to one of them is sent, and then
the mail `a` is resolved by hand as sent after all. -/
def revivingRun : List Operation :=
  [.elsewhere ⟨some "host", 1, none⟩
      ((∅ : Table String WorkflowRun).insert "run" ⟨"emp", "host", 1, false⟩),
    .intent exampleBinding [exampleIntent "a" ["x@a.io", "y@a.io"]] 0 exampleChecks,
    .recordReceipts exampleBinding [exampleReceipt "a" .failed .requestRejected] 1 exampleChecks,
    .intent exampleBinding [exampleIntent "b" ["x@a.io"]] 2 exampleChecks,
    .recordReceipts exampleBinding [exampleReceipt "b" .confirmed .manualResolution] 3
      exampleChecks,
    .recordReceipts exampleBinding [exampleReceipt "a" .confirmed .manualResolution] 4
      exampleChecks]

/-- With texts for their own digests, two confirmed mails share the key of a recipient, and the
revived one does not hold its keys. -/
theorem reviving_receipt_shares_key :
    ¬ NoSharedKey id (run (step id) .initial revivingRun) ∧
      ¬ KeysHeld id (run (step id) .initial revivingRun) := by
  have hboth : ((run (step id) .initial revivingRun).actions.lookup "a").bind (fun a =>
      ((run (step id) .initial revivingRun).actions.lookup "b").map fun b =>
        (a.state, b.state, (keysOf id "a" a).any (keysOf id "b" b).contains)) =
      some (.confirmed, .confirmed, true) := by
    decide +kernel
  have hshared : ¬ NoSharedKey id (run (step id) .initial revivingRun) := by
    intro h
    obtain ⟨a, ha, hab⟩ := Option.bind_eq_some_iff.mp hboth
    obtain ⟨b, hb, hab⟩ := Option.map_eq_some_iff.mp hab
    simp only [Prod.mk.injEq, List.any_eq_true, List.contains_iff_mem] at hab
    obtain ⟨hsa, hsb, key, hka, hkb⟩ := hab
    have := h "a" "b" a b ha hb (by simp [hsa]) (by simp [hsb]) ⟨key, hka, hkb⟩
    exact absurd this (by decide)
  exact ⟨hshared, fun h => hshared h.noSharedKey⟩

end Example

/-- **Keys stay held**: in every run from an empty workflow in which no receipt revives a failed
action, every action that was not refused holds all its keys, a key has one holder, and no two
confirmed actions share one. -/
theorem run_keysHeld (ops : List Operation)
    (h : Along (step sha256) (fun s op => op.RevivesNone s) .initial ops) :
    KeysHeld sha256 (run (step sha256) .initial ops) ∧
      NoSharedKey sha256 (run (step sha256) .initial ops) := by
  have hkeys : KeysHeld sha256 (run (step sha256) .initial ops) :=
    run_invariant (fun _ _ => step_keysHeld) h initial_keysHeld
  exact ⟨hkeys, hkeys.noSharedKey⟩

/-- The run above up to the second mail: the rejected mail has given its keys back. -/
theorem run_keysHeld_rejected :
    KeysHeld id (run (step id) .initial (revivingRun.take 4)) ∧
      NoSharedKey id (run (step id) .initial (revivingRun.take 4)) :=
  run_keysHeld id _ ⟨trivial, trivial,
    ⟨fun h => h.1 rfl, trivial, fun _ _ h => absurd h List.not_mem_nil⟩, trivial, trivial⟩

end WorkflowActions
end SmeDataCenter
