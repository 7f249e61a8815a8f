import SmeDataCenter.ActionDeduplication

/-!
# Actions whose keys are free

A failed receipt gives the keys of an action back, so that its effect can be claimed again; the
row of the action stays, with the digest of its keys under a unique index. In every state of a run
that digest is the one of the keys the row stands for. An intent whose keys nobody holds is
refused, under an action id of its own, as long as a row with the same digest exists.
-/

namespace SmeDataCenter

namespace Table

variable {κ ρ : Type} [DecidableEq κ]

lemma create_of_fresh {t : Table κ ρ} {k : κ} (row : ρ) (h : t.lookup k = none) :
    t.create k row = some (t.insert k row) := by
  rw [create, if_neg (AList.lookup_eq_none.mp h)]

lemma createMany_isSome {rows : List (κ × ρ)} {t : Table κ ρ} :
    (t.createMany rows).isSome = true ↔
      (rows.map (·.1)).Nodup ∧ ∀ k ∈ rows.map (·.1), t.lookup k = none := by
  induction rows generalizing t with
  | nil => simp [createMany]
  | cons e rows ih =>
    obtain ⟨k, row⟩ := e
    rw [List.map_cons, List.nodup_cons, List.forall_mem_cons]
    by_cases hk : t.lookup k = none
    · have hcreate : t.createMany ((k, row) :: rows) = createMany (t.insert k row) rows := by
        simp [createMany, create_of_fresh row hk]
      rw [hcreate, ih]
      have hlookup : ∀ k', (t.insert k row).lookup k' = none ↔ k' ≠ k ∧ t.lookup k' = none := by
        intro k'
        rw [lookup_insert']
        split_ifs with heq <;> simp [heq]
      simp only [hlookup]
      constructor
      · rintro ⟨hnodup, hfree⟩
        exact ⟨⟨fun hmem => (hfree k hmem).1 rfl, hnodup⟩, hk, fun k' h => (hfree k' h).2⟩
      · rintro ⟨⟨hnew, hnodup⟩, -, hfree⟩
        exact ⟨hnodup, fun k' h => ⟨fun heq => hnew (heq ▸ h), hfree k' h⟩⟩
    · refine iff_of_false (fun h => ?_) fun h => hk h.2.1
      obtain ⟨t', ht⟩ := Option.isSome_iff_exists.mp h
      simp only [createMany, Option.bind_eq_bind, Option.bind_eq_some_iff] at ht
      obtain ⟨u, hu, -⟩ := ht
      exact hk (create_fresh hu)

lemma findMany_eq_nil {t : Table κ ρ} {p : κ → ρ → Bool} :
    t.findMany p = [] ↔ ∀ k row, t.lookup k = some row → p k row = false := by
  constructor
  · intro h k row hk
    by_contra hp
    have hmem := mem_findMany.mpr ⟨hk, by simpa using hp⟩
    rw [h] at hmem
    cases hmem
  · intro h
    refine List.eq_nil_iff_forall_not_mem.mpr fun e he => ?_
    obtain ⟨hk, hp⟩ := mem_findMany.mp he
    rw [h e.1 e.2 hk] at hp
    cases hp

end Table

namespace WorkflowActions

open Runs

variable {sha256 : String → String}

/-! ### The digest of the keys -/

/-- The digest under which the row of an action is unique. -/
def effectOf (sha256 : String → String) (actionId : String) (action : WorkflowAction) : String :=
  hash sha256 (.strings (keysOf sha256 actionId action))

/-- Every row is stored under the digest of its keys. -/
def EffectsStored (sha256 : String → String) (s : WorkflowState) : Prop :=
  ∀ actionId action, s.actions.lookup actionId = some action →
    action.idempotencyKey = effectOf sha256 actionId action

/-- What an operation may do to the row of an action that keeps its keys. -/
def SameEffect (before after : WorkflowAction) : Prop :=
  after.runId = before.runId ∧ after.identity = before.identity ∧
    after.idempotencyKey = before.idempotencyKey

lemma SameEffect.stored {id : String} {before after : WorkflowAction}
    (h : SameEffect before after) (hbefore : before.idempotencyKey = effectOf sha256 id before) :
    after.idempotencyKey = effectOf sha256 id after := by
  obtain ⟨hrun, hidentity, hkey⟩ := h
  rw [hkey, hbefore, effectOf, effectOf, keysOf, keysOf, hrun, hidentity]

lemma EffectsStored.of_same {s s' : WorkflowState} (h : EffectsStored sha256 s)
    (hrows : ∀ id action, s'.actions.lookup id = some action →
      ∃ before, s.actions.lookup id = some before ∧ SameEffect before action) :
    EffectsStored sha256 s' := by
  intro id action ha
  obtain ⟨before, hbefore, hsame⟩ := hrows id action ha
  exact hsame.stored (h id before hbefore)

lemma claimAction_effectsStored {s s' : WorkflowState} {runId : String}
    {intent : WorkflowActionIntent} {now : ℤ} {result : ClaimResult}
    (h : claimAction sha256 s runId intent now = .ok (s', result))
    (hs : EffectsStored sha256 s) : EffectsStored sha256 s' := by
  rcases claimAction_cases h with rfl | ⟨action, -, hkey, hactions, -⟩
  · exact hs
  intro id a ha
  rw [hactions] at ha
  split_ifs at ha with hid
  · obtain rfl := Option.some.inj ha
    exact hid ▸ hkey
  · exact hs id a ha

lemma recordReceipts_effectsStored {call : ReceiptCall} {s s' : WorkflowState}
    {receipts : List WorkflowActionReceipt}
    (h : recordReceipts sha256 call s receipts = .ok s') (hs : EffectsStored sha256 s) :
    EffectsStored sha256 s' := by
  induction receipts generalizing s with
  | nil =>
    cases h
    exact hs
  | cons receipt receipts ih =>
    simp only [recordReceipts, bind_eq_ok] at h
    obtain ⟨t, hrec, hrest⟩ := h
    refine ih hrest ?_
    rcases recordReceipt_cases hrec with rfl | ⟨action, -, -, -, rfl⟩
    · exact hs
    refine hs.of_same fun id after hafter => ?_
    simp only [applyReceipt, Table.lookup_update] at hafter
    split_ifs at hafter with hid
    · obtain ⟨before, hbefore, rfl⟩ := Option.map_eq_some_iff.mp hafter
      exact ⟨before, hid ▸ hbefore, rfl, rfl, rfl⟩
    · exact ⟨after, hafter, rfl, rfl, rfl⟩

/-- **The step lemma**: every operation keeps the rows stored under the digests of their keys. -/
theorem step_effectsStored {s : WorkflowState} {op : Operation} (hs : EffectsStored sha256 s) :
    EffectsStored sha256 (step sha256 s op) := by
  refine commit_induction hs fun s' h => ?_
  cases op with
  | intent binding intents now checks =>
    obtain ⟨results, hclaims⟩ := claimActions_of_execute h
    exact claimActions_induction _ claimAction_effectsStored hclaims hs
  | recordReceipts binding receipts now checks =>
    exact recordReceipts_effectsStored (receiptOperation_ok h) hs
  | resolveUnknown binding receipt now checks =>
    simp only [Operation.execute] at h
    split_ifs at h
    exact recordReceipts_effectsStored (receiptOperation_ok h) hs
  | takeover actorId installationId now checks =>
    simp only [Operation.execute, takeoverOperation] at h
    split_ifs at h
    cases h
    refine hs.of_same fun id after hafter => ?_
    simp only [Table.lookup_updateMany, Option.map_eq_some_iff] at hafter
    obtain ⟨before, hbefore, rfl⟩ := hafter
    refine ⟨before, hbefore, ?_⟩
    split_ifs <;> exact ⟨rfl, rfl, rfl⟩
  | elsewhere assignment runs =>
    cases h
    exact hs

lemma initial_effectsStored : EffectsStored sha256 .initial := by
  intro id action h
  simp [WorkflowState.initial] at h

/-! ### Claiming what is free -/

/-- The keys of an intent. -/
def WorkflowActionIntent.keys (sha256 : String → String) (intent : WorkflowActionIntent)
    (runId : String) : List String :=
  deduplicationKeys sha256 intent.identity ⟨runId, intent.actionId⟩

/-- Nobody holds a key of the intent, and its action id is not used. -/
def Free (sha256 : String → String) (s : WorkflowState) (runId : String)
    (intent : WorkflowActionIntent) : Prop :=
  (∀ key ∈ intent.keys sha256 runId, s.deduplication.lookup key = none) ∧
    s.actions.lookup intent.actionId = none

/-- The claim of an intent is permitted: the action is recorded as intended, with all its keys. -/
def Claimed (sha256 : String → String) (s : WorkflowState) (runId : String)
    (intent : WorkflowActionIntent) (now : ℤ) : Prop :=
  ∃ s', claimAction sha256 s runId intent now =
      .ok (s', .permitted intent.actionId (hash sha256 intent.identity.json)) ∧
    (∃ action, s'.actions.lookup intent.actionId = some action ∧ action.state = .intent) ∧
    ∀ key ∈ intent.keys sha256 runId, s'.deduplication.lookup key = some intent.actionId

variable {s : WorkflowState} {runId : String} {intent : WorkflowActionIntent} {now : ℤ}

lemma claimAction_of_free (h : Free sha256 s runId intent) :
    claimAction sha256 s runId intent now =
      (intentRow sha256 s runId intent (intent.keys sha256 runId) now).bind fun actions =>
        ((s.deduplication.createMany ((intent.keys sha256 runId).map
          fun key => (key, intent.actionId))).map fun deduplication =>
            ({ s with actions, deduplication },
              ClaimResult.permitted intent.actionId (hash sha256 intent.identity.json))).elim
          (.error .duplicate) .ok := by
  have hnone : (s.deduplication.findMany fun key _ =>
      (deduplicationKeys sha256 intent.identity ⟨runId, intent.actionId⟩).contains key) = [] := by
    refine Table.findMany_eq_nil.mpr fun key row hkey => ?_
    by_contra hcontains
    rw [Bool.not_eq_false, List.contains_iff_mem] at hcontains
    have hfree := h.1 key hcontains
    rw [hkey] at hfree
    cases hfree
  unfold claimAction
  simp only [hnone]
  change Except.bind _ _ = _
  congr 1
  funext actions
  cases hkeys : s.deduplication.createMany ((intent.keys sha256 runId).map
    fun key => (key, intent.actionId)) <;>
    simp only [WorkflowActionIntent.keys] at hkeys <;> rw [hkeys] <;> rfl

/-- No row is stored under a digest. -/
def Unstored (s : WorkflowState) (digest : String) : Prop :=
  ∀ id action, s.actions.lookup id = some action → action.idempotencyKey ≠ digest

lemma findMany_of_unstored {digest : String} :
    (s.actions.findMany fun _ action => decide (action.idempotencyKey = digest)) = [] ↔
      Unstored s digest := by
  rw [Table.findMany_eq_nil]
  simp only [decide_eq_false_iff_not, Unstored, ne_eq]

lemma intentRow_of_unstored {keys : List String} (h : s.actions.lookup intent.actionId = none)
    (hrows : Unstored s (hash sha256 (.strings keys))) :
    intentRow sha256 s runId intent keys now = .ok (s.actions.insert intent.actionId
      (intent.row runId (hash sha256 (.strings keys)) now)) := by
  unfold intentRow
  rw [h]
  simp only [findMany_of_unstored.mpr hrows, ne_eq, not_true_eq_false, if_false]
  rfl

lemma intentRow_of_stored {keys : List String} (h : s.actions.lookup intent.actionId = none)
    (hrows : ¬ Unstored s (hash sha256 (.strings keys))) :
    intentRow sha256 s runId intent keys now = .error .duplicate := by
  unfold intentRow
  rw [h]
  simp only [ne_eq, mt findMany_of_unstored.mp hrows, not_false_eq_true, if_true]
  rfl

lemma claimed_iff_of_free (h : Free sha256 s runId intent) :
    Claimed sha256 s runId intent now ↔ (intent.keys sha256 runId).Nodup ∧
      Unstored s (hash sha256 (.strings (intent.keys sha256 runId))) := by
  have hkeys : (((intent.keys sha256 runId).map fun key => (key, intent.actionId)).map (·.1)) =
      intent.keys sha256 runId := by
    simp [List.map_map, Function.comp_def]
  have hsome := @Table.createMany_isSome _ _ _
    ((intent.keys sha256 runId).map fun key => (key, intent.actionId)) s.deduplication
  rw [hkeys] at hsome
  unfold Claimed
  rw [claimAction_of_free h]
  by_cases hrows : Unstored s (hash sha256 (.strings (intent.keys sha256 runId)))
  · rw [intentRow_of_unstored h.2 hrows]
    cases hcreate : s.deduplication.createMany ((intent.keys sha256 runId).map
        fun key => (key, intent.actionId)) with
    | none =>
      rw [hcreate] at hsome
      refine iff_of_false ?_ fun hcondition => ?_
      · rintro ⟨s', hclaim, -⟩
        cases hclaim
      · exact absurd (hsome.mpr ⟨hcondition.1, h.1⟩) (by simp)
    | some deduplication =>
      rw [hcreate] at hsome
      refine iff_of_true ⟨_, rfl, ⟨_, AList.lookup_insert _, rfl⟩, fun key hkey => ?_⟩
        ⟨(hsome.mp rfl).1, hrows⟩
      exact (Table.lookup_createMany hcreate).1 (key, intent.actionId) (List.mem_map_of_mem hkey)
  · rw [intentRow_of_stored h.2 hrows]
    refine iff_of_false ?_ fun hcondition => hrows hcondition.2
    rintro ⟨s', hclaim, -⟩
    cases hclaim

/-- **Availability**: in every state of a run, an intent whose keys nobody holds is claimed exactly
when its keys differ from one another and no row of the workflow, refused ones included, has keys
with the same digest. -/
theorem claimed_iff (sha256 : String → String) (ops : List Operation) (runId : String)
    (intent : WorkflowActionIntent) (now : ℤ)
    (h : Free sha256 (run (step sha256) .initial ops) runId intent) :
    Claimed sha256 (run (step sha256) .initial ops) runId intent now ↔
      (intent.keys sha256 runId).Nodup ∧
        ∀ id action, (run (step sha256) .initial ops).actions.lookup id = some action →
          effectOf sha256 id action ≠ hash sha256 (.strings (intent.keys sha256 runId)) := by
  have hstored : EffectsStored sha256 (run (step sha256) .initial ops) :=
    run_invariant' (fun _ _ => step_effectsStored) ops initial_effectsStored
  rw [claimed_iff_of_free h]
  refine and_congr_right fun _ => forall₂_congr fun id action => ?_
  refine forall_congr' fun ha => ?_
  rw [hstored id action ha]

/-! ### A refused mail -/

/-- The weekly report to one recipient. -/
def reportMail (actionId : String) : WorkflowActionIntent :=
  ⟨actionId, exampleMail ["x@a.io"], some (String.ofList (List.replicate 64 'a')), some "marker"⟩

/-- The mail `a` is claimed, and refused by the provider. -/
def refusedMail : List Operation :=
  [.elsewhere ⟨some "host", 1, none⟩
      ((∅ : Table String WorkflowRun).insert "run" ⟨"emp", "host", 1, false⟩),
    .intent exampleBinding [reportMail "a"] 0 exampleChecks,
    .recordReceipts exampleBinding [exampleReceipt "a" .failed .requestRejected] 1 exampleChecks]

/-- Another mail, before the first one is claimed. -/
theorem claimed_before :
    Claimed id (run (step id) .initial []) "run" (reportMail "b") 2 ↔
      ((reportMail "b").keys id "run").Nodup ∧
        ∀ id' action, (run (step id) .initial []).actions.lookup id' = some action →
          effectOf id id' action ≠ hash id (.strings ((reportMail "b").keys id "run")) :=
  claimed_iff id [] "run" (reportMail "b") 2 ⟨fun _ _ => rfl, rfl⟩

/-- The mail `b` with the keys that the refused mail `a` gave back is not claimed. -/
theorem refused_mail_blocks : ¬ ∀ (ops : List Operation) (runId : String)
    (intent : WorkflowActionIntent) (now : ℤ),
      Free id (run (step id) .initial ops) runId intent →
        Claimed id (run (step id) .initial ops) runId intent now := by
  intro h
  have hkeys : ∀ key ∈ (reportMail "b").keys id "run",
      (run (step id) .initial refusedMail).deduplication.lookup key = none := by decide +kernel
  have hunused : (run (step id) .initial refusedMail).actions.lookup "b" = none := by
    decide +kernel
  obtain ⟨s', hclaim, -⟩ := h refusedMail "run" (reportMail "b") 2 ⟨hkeys, hunused⟩
  have hrefused : ((claimAction id (run (step id) .initial refusedMail) "run" (reportMail "b")
      2).map fun _ => ()).toOption = none := by decide +kernel
  rw [hclaim] at hrefused
  cases hrefused

end WorkflowActions
end SmeDataCenter
