import SmeDataCenter.WindowClaims

/-!
# The answers of reservations

A reservation is answered with the batch that has its idempotency key, or, for a delivery receipt,
with the batch of the receipt, and only when the batch was made for the same upload. The keys of
batches are unique, so the answers to one key or to one receipt agree. An idempotency key is a
column of the batch: a request that is answered with the batch of its receipt leaves its own key
unused, and another upload can take it.
-/

namespace SmeDataCenter

open Runs

/-- The batch has the idempotency key of the request. -/
def BatchKeys.Carries (keys : BatchKeys) (request : ImportRequest) : Prop :=
  keys.orgId = request.orgId ∧ keys.idempotencyKey = request.idempotencyKey

/-- The batch is that of the receipt of the request. -/
def BatchKeys.Receipt (keys : BatchKeys) (request : ImportRequest) : Prop :=
  request.dataset = .deliveryLedger ∧ keys.orgId = request.orgId ∧
    keys.dataset = request.dataset ∧ keys.naturalKey = request.naturalKey ∧
    request.naturalKey.isSome = true

namespace WindowStore

variable {s s' : WindowStore} {config : Option String}

/-! ### What is answered -/

/-- The request was answered with the batch. -/
def Answered (s : WindowStore) (request : ImportRequest) (id : String) : Prop :=
  ∃ state, (request, .returned id state) ∈ s.answers

/-- The batch that a request is answered with. -/
def Serves (s : WindowStore) (id : String) (request : ImportRequest) : Prop :=
  ∃ keys, s.batchKeys.lookup id = some keys ∧
    keys.requestFingerprint = structuredImportFingerprint request ∧
    (keys.Carries request ∨ keys.Receipt request)

/-- Answers go with the keys of their batches. -/
structure AnswersKeyed (s : WindowStore) : Prop where
  made : ∀ id keys, s.batchKeys.lookup id = some keys → ∃ request : ImportRequest,
    keys = request.keys
  oneKey : ∀ id id' keys keys', s.batchKeys.lookup id = some keys →
    s.batchKeys.lookup id' = some keys' → keys.orgId = keys'.orgId →
    keys.idempotencyKey = keys'.idempotencyKey → id = id'
  oneNaturalKey : ∀ id id' keys keys', s.batchKeys.lookup id = some keys →
    s.batchKeys.lookup id' = some keys' → keys.orgId = keys'.orgId →
    keys.dataset = keys'.dataset → keys.naturalKey = keys'.naturalKey →
    keys.naturalKey.isSome = true → id = id'
  answered : ∀ request id, s.Answered request id → s.Serves id request

/-- The answers that name a batch were given before. -/
def SameAnswers (s s' : WindowStore) : Prop :=
  s'.batchKeys = s.batchKeys ∧ ∀ request id, s'.Answered request id → s.Answered request id

lemma SameAnswers.keyed (hsame : SameAnswers s s') (h : s.AnswersKeyed) : s'.AnswersKeyed := by
  obtain ⟨hkeys, hanswers⟩ := hsame
  refine ⟨hkeys ▸ h.made, hkeys ▸ h.oneKey, hkeys ▸ h.oneNaturalKey, fun request id ha => ?_⟩
  have hserves := h.answered request id (hanswers request id ha)
  unfold Serves at hserves ⊢
  rw [hkeys]
  exact hserves

lemma SameAnswers.refl (s : WindowStore) : SameAnswers s s := ⟨rfl, fun _ _ h => h⟩

/-- A reservation that creates nothing. -/
def SameTables (s s' : WindowStore) : Prop :=
  s'.db = s.db ∧ s'.batchKeys = s.batchKeys ∧
    ∀ key c, s'.windowClaims.lookup key = some c → s.windowClaims.lookup key = some c

/-- It gives no answer that names a batch either. -/
def CreatesNothing (s s' : WindowStore) : Prop := SameTables s s' ∧ SameAnswers s s'

lemma createsNothing_refused (index : ℕ) (request : ImportRequest) (code : String) :
    CreatesNothing s (s.answer index request (.refused code)) := by
  refine ⟨⟨rfl, rfl, fun _ _ hc => hc⟩, rfl, fun request' id ⟨state, hmem⟩ => ?_⟩
  rcases List.mem_cons.mp hmem with heq | hold
  · cases heq
  · exact ⟨state, hold⟩

lemma createsNothing_goOn (index : ℕ) (r : Reservation) : CreatesNothing s (s.goOn index r) :=
  ⟨⟨rfl, rfl, fun _ _ hc => hc⟩, rfl, fun _ _ h => h⟩

lemma createsNothing_unresolved (index : ℕ) (r : Reservation) :
    CreatesNothing s (s.unresolved index r) := by
  unfold WindowStore.unresolved
  split_ifs
  · exact createsNothing_refused ..
  · exact createsNothing_goOn ..

lemma createsNothing_findClaim (index : ℕ) (r : Reservation) :
    CreatesNothing s (s.findClaim index r) := by
  unfold WindowStore.findClaim
  split_ifs
  · split
    · exact createsNothing_refused ..
    · split
      · exact createsNothing_unresolved ..
      · exact createsNothing_goOn ..
  · exact createsNothing_unresolved ..

lemma createsNothing_findClaimBatch (index : ℕ) (r : Reservation) (claim : WindowClaim) :
    CreatesNothing s (s.findClaimBatch index r claim) := by
  unfold WindowStore.findClaimBatch
  split
  · exact createsNothing_unresolved ..
  split_ifs
  · exact createsNothing_goOn ..
  · exact createsNothing_goOn ..
  · exact createsNothing_refused ..

lemma createsNothing_findClaimDocument (index : ℕ) (r : Reservation) (claim : WindowClaim)
    (documentId : String) : CreatesNothing s (s.findClaimDocument index r claim documentId) := by
  unfold WindowStore.findClaimDocument
  split_ifs
  · exact createsNothing_goOn ..
  · exact createsNothing_refused ..

lemma createsNothing_deleteMany {p : WindowKey → WindowClaim → Bool} (index : ℕ)
    (r : Reservation) : CreatesNothing s
      (({ s with windowClaims := s.windowClaims.deleteMany p } : WindowStore).unresolved
        index r) := by
  obtain ⟨⟨hdb, hkeys, hclaims⟩, hanswers⟩ := createsNothing_unresolved
    (s := { s with windowClaims := s.windowClaims.deleteMany p }) index r
  refine ⟨⟨hdb, hkeys, fun key c hc => ?_⟩, hanswers⟩
  have hfiltered := hclaims key c hc
  change (s.windowClaims.deleteMany p).lookup key = some c at hfiltered
  rw [Table.lookup_deleteMany] at hfiltered
  exact (Option.filter_eq_some_iff.mp hfiltered).1

lemma createsNothing_deleteEnded (index : ℕ) (r : Reservation) (claim : WindowClaim) :
    CreatesNothing s (s.deleteEnded index r claim) := by
  unfold WindowStore.deleteEnded
  split_ifs
  · exact createsNothing_refused ..
  · exact createsNothing_deleteMany ..

/-! ### Answers that name a batch -/

variable {id : String}

lemma findBatchByKey_some {orgId key : String} {keys : BatchKeys}
    (h : s.findBatchByKey orgId key = some (id, keys)) :
    s.batchKeys.lookup id = some keys ∧ keys.orgId = orgId ∧ keys.idempotencyKey = key := by
  have hmem := Table.mem_findMany.mp (List.mem_of_mem_head? h)
  simpa [and_assoc] using hmem

lemma findBatchByNaturalKey_some {orgId naturalKey : String} {dataset : ImportDataset}
    {keys : BatchKeys} (h : s.findBatchByNaturalKey orgId dataset naturalKey = some (id, keys)) :
    s.batchKeys.lookup id = some keys ∧ keys.orgId = orgId ∧ keys.dataset = dataset ∧
      keys.naturalKey = some naturalKey := by
  have hmem := Table.mem_findMany.mp (List.mem_of_mem_head? h)
  simpa [and_assoc] using hmem

variable {request : ImportRequest}

lemma AnswersKeyed.answer_resolved (h : s.AnswersKeyed) (index : ℕ) {conflict : String}
    {keys : BatchKeys} (hkeys : s.batchKeys.lookup id = some keys)
    (hfound : keys.Carries request ∨ keys.Receipt request) :
    (s.answer index request (s.resolved request id keys conflict)).AnswersKeyed := by
  refine ⟨h.made, h.oneKey, h.oneNaturalKey, fun request' id' ⟨state, hmem⟩ => ?_⟩
  rcases List.mem_cons.mp hmem with heq | hold
  · unfold resolved at heq
    split_ifs at heq with hfingerprint
    · cases heq
    · cases heq
      exact ⟨keys, hkeys, not_not.mp hfingerprint, hfound⟩
  · exact h.answered request' id' ⟨state, hold⟩

lemma keyTaken_false (h : s.keyTaken request = false) {keys : BatchKeys}
    (hkeys : s.batchKeys.lookup id = some keys) (horg : keys.orgId = request.orgId) :
    keys.idempotencyKey ≠ request.idempotencyKey ∧
      (keys.dataset = request.dataset → keys.naturalKey = request.naturalKey →
        keys.naturalKey.isSome = false) := by
  simp only [keyTaken, findBatchByKey, findBatchByNaturalKey, Bool.or_eq_false_iff,
    Option.isSome_eq_false_iff, Option.isNone_iff_eq_none, List.head?_eq_none_iff] at h
  obtain ⟨hkey, hnatural⟩ := h
  constructor
  · intro hsame
    have hmem : (id, keys) ∈ s.batchKeys.findMany fun _ keys =>
        keys.orgId = request.orgId && keys.idempotencyKey = request.idempotencyKey :=
      Table.mem_findMany.mpr ⟨hkeys, by simp [horg, hsame]⟩
    rw [hkey] at hmem
    cases hmem
  · intro hdataset hsame
    cases hnaturalKey : keys.naturalKey with
    | none => rfl
    | some naturalKey =>
      rw [hnaturalKey] at hsame
      rw [← hsame, Option.any_some, Option.isSome_eq_false_iff, Option.isNone_iff_eq_none,
        List.head?_eq_none_iff] at hnatural
      have hmem : (id, keys) ∈ s.batchKeys.findMany fun _ keys => keys.orgId = request.orgId &&
          keys.dataset = request.dataset && keys.naturalKey = some naturalKey :=
        Table.mem_findMany.mpr ⟨hkeys, by simp [horg, hdataset, hnaturalKey]⟩
      rw [hnatural] at hmem
      cases hmem

lemma AnswersKeyed.createImport (h : s.AnswersKeyed) (index : ℕ) {refused : Option String}
    (hok : s.createImport request id refused = .ok s') :
    (s'.answer index request (.returned id .created)).AnswersKeyed := by
  obtain ⟨db, keys, -, htaken, hcreate, hclaim⟩ := createImport_ok hok
  have hlookup := Table.lookup_create hcreate
  have hfresh := Table.create_fresh hcreate
  have hs' : s'.batchKeys = keys ∧ s'.answers = s.answers := by
    rcases createClaim_ok hclaim with ⟨-, rfl⟩ | ⟨_, _, -, -, rfl⟩
    · exact ⟨rfl, rfl⟩
    · exact ⟨rfl, rfl⟩
  obtain ⟨hkeys, hanswers⟩ := hs'
  have hcases : ∀ id' k, s'.batchKeys.lookup id' = some k →
      (id' = id ∧ k = request.keys) ∨ s.batchKeys.lookup id' = some k := by
    intro id' k hk
    rw [hkeys, hlookup] at hk
    split_ifs at hk with hid
    · cases hk
      exact .inl ⟨hid, rfl⟩
    · exact .inr hk
  refine ⟨fun id' k hk => ?_, fun id' id'' k k' hk hk' horg hkey => ?_,
    fun id' id'' k k' hk hk' horg hdataset hnatural hsome => ?_, fun request' id' ha => ?_⟩
  · rcases hcases id' k hk with ⟨-, rfl⟩ | hk
    · exact ⟨request, rfl⟩
    · exact h.made id' k hk
  · rcases hcases id' k hk with ⟨rfl, rfl⟩ | hold
    · rcases hcases id'' k' hk' with ⟨rfl, -⟩ | hold'
      · rfl
      · exact absurd hkey.symm (keyTaken_false htaken hold' horg.symm).1
    · rcases hcases id'' k' hk' with ⟨rfl, rfl⟩ | hold'
      · exact absurd hkey (keyTaken_false htaken hold horg).1
      · exact h.oneKey id' id'' k k' hold hold' horg hkey
  · rcases hcases id' k hk with ⟨rfl, rfl⟩ | hold
    · rcases hcases id'' k' hk' with ⟨rfl, -⟩ | hold'
      · rfl
      · have hnone := (keyTaken_false htaken hold' horg.symm).2 hdataset.symm hnatural.symm
        rw [← hnatural, hsome] at hnone
        cases hnone
    · rcases hcases id'' k' hk' with ⟨rfl, rfl⟩ | hold'
      · have hnone := (keyTaken_false htaken hold horg).2 hdataset hnatural
        rw [hsome] at hnone
        cases hnone
      · exact h.oneNaturalKey id' id'' k k' hold hold' horg hdataset hnatural hsome
  · obtain ⟨state, hmem⟩ := ha
    rcases List.mem_cons.mp hmem with heq | hold
    · cases heq
      refine ⟨request.keys, ?_, rfl, .inl ⟨rfl, rfl⟩⟩
      change s'.batchKeys.lookup id = _
      rw [hkeys, hlookup, if_pos rfl]
    · rw [hanswers] at hold
      obtain ⟨k, hk, hserves⟩ := h.answered request' id' ⟨state, hold⟩
      refine ⟨k, ?_, hserves⟩
      change s'.batchKeys.lookup id' = _
      rw [hkeys, hlookup, if_neg]
      · exact hk
      · rintro rfl
        rw [hk] at hfresh
        cases hfresh

lemma AnswersKeyed.create (h : s.AnswersKeyed) (index : ℕ) (r : Reservation) (id : String)
    (refused : Option String) : (s.create index r id refused).AnswersKeyed := by
  unfold WindowStore.create
  split
  · rename_i created hok
    exact h.createImport index hok
  · exact (createsNothing_goOn ..).2.keyed h
  · exact (createsNothing_refused ..).2.keyed h
  · exact (createsNothing_refused ..).2.keyed h

lemma AnswersKeyed.advance (h : s.AnswersKeyed) (index : ℕ) (id : String)
    (refused : Option String) : (s.advance index id refused).AnswersKeyed := by
  unfold WindowStore.advance
  split
  · exact h
  rename_i r hr
  split
  · split
    · rename_i id' keys hfound
      obtain ⟨hkeys, hcarries⟩ := findBatchByKey_some hfound
      exact h.answer_resolved index hkeys (.inl hcarries)
    · exact (createsNothing_goOn ..).2.keyed h
  · split
    · rename_i id' keys hfound
      obtain ⟨naturalKey, hnatural, hfound⟩ := Option.bind_eq_some_iff.mp hfound
      split_ifs at hfound with hledger
      obtain ⟨hkeys, horg, hdataset, hkey⟩ := findBatchByNaturalKey_some hfound
      refine h.answer_resolved index hkeys (.inr ⟨hledger, horg, hdataset, ?_, ?_⟩)
      · rw [hkey, hnatural]
      · rw [hnatural]
        rfl
    · exact (createsNothing_goOn ..).2.keyed h
  · exact (createsNothing_findClaim ..).2.keyed h
  · exact (createsNothing_findClaimBatch ..).2.keyed h
  · exact (createsNothing_findClaimDocument ..).2.keyed h
  · exact (createsNothing_deleteMany ..).2.keyed h
  · exact (createsNothing_deleteEnded ..).2.keyed h
  · exact h.create ..

/-- **Every step keeps the answers.** -/
lemma AnswersKeyed.step (h : s.AnswersKeyed) (step : WindowStep) :
    (windowStep config s step).AnswersKeyed := by
  cases step with
  | start request =>
    refine SameAnswers.keyed ?_ h
    unfold windowStep WindowStore.start
    dsimp only
    split_ifs
    · refine ⟨rfl, fun request' id ⟨state, hmem⟩ => ?_⟩
      rcases List.mem_cons.mp hmem with heq | hold
      · cases heq
      · exact ⟨state, hold⟩
    · exact ⟨rfl, fun _ _ h => h⟩
  | advance index id refused => exact h.advance index id refused
  | abandon index => exact SameAnswers.keyed (s := s) ⟨rfl, fun _ _ h => h⟩ h
  | claim age workerId leaseSeconds now =>
    refine SameAnswers.keyed ?_ h
    unfold windowStep
    dsimp only
    split
    · exact .refl s
    · exact ⟨rfl, fun _ _ h => h⟩
  | call call =>
    refine SameAnswers.keyed ?_ h
    unfold windowStep
    dsimp only
    split_ifs
    · exact .refl s
    · exact ⟨rfl, fun _ _ h => h⟩
  | document op =>
    refine SameAnswers.keyed ?_ h
    cases op <;> exact ⟨rfl, fun _ _ h => h⟩

lemma answersKeyed_empty : ({} : WindowStore).AnswersKeyed :=
  ⟨fun _ _ h => (nomatch h), fun _ _ _ _ h => (nomatch h), fun _ _ _ _ h => (nomatch h),
    fun _ _ ⟨_, h⟩ => (nomatch h)⟩

/-! ### Imports count once -/

/-- The import counts for the window. -/
def Counts (s : WindowStore) (key : WindowKey) (id : String) : Prop :=
  ∃ b d, s.db.importBatches.lookup id = some b ∧ b.window = some key ∧ b.status = .applied ∧
    s.db.documents.lookup b.sourceDocumentId = some d ∧ ¬ d.IsArchived

lemma ClaimsHeld.counts (h : s.ClaimsHeld) {key : WindowKey} (hcounts : s.Counts key id) :
    ∃ c, s.windowClaims.lookup key = some c ∧ c.importBatchId = id := by
  obtain ⟨b, d, hb, hwindow, happlied, hd, hopen⟩ := hcounts
  rcases h.held id b key hb hwindow with hover | hclaim
  · have harchived := applied_document h.inStep hb happlied hd
    rcases hover with hfailed | hrejected | ⟨-, time, d', hd', htime⟩
    · rw [happlied] at hfailed
      cases hfailed
    · rw [happlied] at hrejected
      cases hrejected
    · rw [hd] at hd'
      cases hd'
      have hne : d.archivedAt ≠ none := by simp [htime]
      exact absurd ⟨harchived.mpr hne, hne⟩ hopen
  · exact hclaim

lemma AnswersKeyed.receipt (h : s.AnswersKeyed) (hserves : s.Serves id request)
    (hledger : request.dataset = .deliveryLedger) (hsome : request.naturalKey.isSome = true) :
    ∃ keys, s.batchKeys.lookup id = some keys ∧
      keys.requestFingerprint = structuredImportFingerprint request ∧ keys.Receipt request := by
  obtain ⟨keys, hkeys, hfingerprint, hfound⟩ := hserves
  refine ⟨keys, hkeys, hfingerprint, ?_⟩
  rcases hfound with ⟨horg, -⟩ | hreceipt
  · obtain ⟨made, rfl⟩ := h.made id keys hkeys
    have hdataset : made.dataset = request.dataset :=
      congrArg ImportFingerprint.dataset hfingerprint
    have hnatural : made.naturalKey = request.naturalKey := by
      have hsame := congrArg ImportFingerprint.naturalKey hfingerprint
      simpa [ImportRequest.keys, structuredImportFingerprint, hdataset, hledger,
        ImportDataset.metadataPolicy] using hsame
    exact ⟨hledger, horg, hdataset, hnatural, hsome⟩
  · exact hreceipt

variable {request' : ImportRequest} {id' : String}

lemma AnswersKeyed.receipts (h : s.AnswersKeyed) (ha : s.Answered request id)
    (ha' : s.Answered request' id') (horg : request.orgId = request'.orgId)
    (hledger : request.dataset = .deliveryLedger) (hledger' : request'.dataset = .deliveryLedger)
    (hnatural : request.naturalKey = request'.naturalKey) (hsome : request.naturalKey.isSome = true)
    : id = id' ∧ structuredImportFingerprint request = structuredImportFingerprint request' := by
  obtain ⟨keys, hkeys, hfingerprint, -, horg₁, hdataset₁, hnatural₁, -⟩ :=
    h.receipt (h.answered request id ha) hledger hsome
  obtain ⟨keys', hkeys', hfingerprint', -, horg₂, hdataset₂, hnatural₂, -⟩ :=
    h.receipt (h.answered request' id' ha') hledger' (hnatural ▸ hsome)
  have hid : id = id' := by
    refine h.oneNaturalKey id id' keys keys' hkeys hkeys' ?_ ?_ ?_ ?_
    · rw [horg₁, horg₂, horg]
    · rw [hdataset₁, hdataset₂, hledger, hledger']
    · rw [hnatural₁, hnatural₂, hnatural]
    · rw [hnatural₁]
      exact hsome
  subst hid
  rw [hkeys] at hkeys'
  cases hkeys'
  exact ⟨rfl, hfingerprint.symm.trans hfingerprint'⟩

lemma AnswersKeyed.keys (h : s.AnswersKeyed) (ha : s.Answered request id)
    (ha' : s.Answered request' id') (horg : request.orgId = request'.orgId)
    (hkey : request.idempotencyKey = request'.idempotencyKey)
    (hfingerprint : structuredImportFingerprint request = structuredImportFingerprint request') :
    id = id' := by
  have hdataset : request.dataset = request'.dataset :=
    congrArg ImportFingerprint.dataset hfingerprint
  by_cases hreceipt : request.dataset = .deliveryLedger ∧ request.naturalKey.isSome = true
  · obtain ⟨hledger, hsome⟩ := hreceipt
    have hnatural : request.naturalKey = request'.naturalKey := by
      have hsame := congrArg ImportFingerprint.naturalKey hfingerprint
      simpa [structuredImportFingerprint, ← hdataset, hledger, ImportDataset.metadataPolicy]
        using hsame
    exact (h.receipts ha ha' horg hledger (hdataset ▸ hledger) hnatural hsome).1
  · -- neither was found by its receipt
    have hreceipt' :
        ¬ (request'.dataset = .deliveryLedger ∧ request'.naturalKey.isSome = true) := by
      rintro ⟨hledger, hsome⟩
      refine hreceipt ⟨hdataset.trans hledger, ?_⟩
      have hsame := congrArg ImportFingerprint.naturalKey hfingerprint
      simp only [structuredImportFingerprint, hdataset, hledger, ImportDataset.metadataPolicy,
        if_true] at hsame
      rw [hsame]
      exact hsome
    obtain ⟨keys, hkeys, -, hfound⟩ := h.answered request id ha
    obtain ⟨keys', hkeys', -, hfound'⟩ := h.answered request' id' ha'
    rcases hfound with ⟨horg₁, hkey₁⟩ | ⟨hledger, -, -, -, hsome⟩
    · rcases hfound' with ⟨horg₂, hkey₂⟩ | ⟨hledger, -, -, -, hsome⟩
      · refine h.oneKey id id' keys keys' hkeys hkeys' ?_ ?_
        · rw [horg₁, horg₂, horg]
        · rw [hkey₁, hkey₂, hkey]
      · exact absurd ⟨hledger, hsome⟩ hreceipt'
    · exact absurd ⟨hledger, hsome⟩ hreceipt

/-- The batch carries the idempotency key of the request. -/
def Carries (s : WindowStore) (id : String) (request : ImportRequest) : Prop :=
  ∃ keys, s.batchKeys.lookup id = some keys ∧ keys.Carries request

lemma AnswersKeyed.carried (h : s.AnswersKeyed) (ha : s.Answered request id)
    (ha' : s.Answered request' id') (horg : request.orgId = request'.orgId)
    (hkey : request.idempotencyKey = request'.idempotencyKey) (hcarries : s.Carries id request)
    (hcarries' : s.Carries id' request') :
    id = id' ∧ structuredImportFingerprint request = structuredImportFingerprint request' := by
  obtain ⟨keys, hkeys, horg₁, hkey₁⟩ := hcarries
  obtain ⟨keys', hkeys', horg₂, hkey₂⟩ := hcarries'
  have hid : id = id' := by
    refine h.oneKey id id' keys keys' hkeys hkeys' ?_ ?_
    · rw [horg₁, horg₂, horg]
    · rw [hkey₁, hkey₂, hkey]
  subst hid
  obtain ⟨k, hk, hfingerprint, -⟩ := h.answered request id ha
  obtain ⟨k', hk', hfingerprint', -⟩ := h.answered request' id ha'
  rw [hk] at hk'
  cases hk'
  exact ⟨rfl, hfingerprint.symm.trans hfingerprint'⟩

/-- Windows count once, and answers agree. -/
structure CountedOnce (s : WindowStore) : Prop where
  windows : ∀ key id id', s.Counts key id → s.Counts key id' → id = id'
  /-- A request is answered with a batch that was made for its upload. -/
  served : ∀ request id, s.Answered request id → s.Serves id request
  keys : ∀ request request' id id', s.Answered request id → s.Answered request' id' →
    request.orgId = request'.orgId → request.idempotencyKey = request'.idempotencyKey →
    structuredImportFingerprint request = structuredImportFingerprint request' → id = id'
  carried : ∀ request request' id id', s.Answered request id → s.Answered request' id' →
    request.orgId = request'.orgId → request.idempotencyKey = request'.idempotencyKey →
    s.Carries id request → s.Carries id' request' →
    id = id' ∧ structuredImportFingerprint request = structuredImportFingerprint request'
  receipts : ∀ request request' id id', s.Answered request id → s.Answered request' id' →
    request.orgId = request'.orgId → request.dataset = .deliveryLedger →
    request'.dataset = .deliveryLedger → request.naturalKey = request'.naturalKey →
    request.naturalKey.isSome = true →
    id = id' ∧ structuredImportFingerprint request = structuredImportFingerprint request'

end WindowStore

/-- A receipt, uploaded twice, and another receipt with the key of the second upload. -/
def receiptUpload : ImportRequest where
  orgId := "org"
  documentId := "document"
  dataset := .deliveryLedger
  enterpriseName := "enterprise"
  naturalKey := some "receipt"
  fileHash := "hash"
  idempotencyKey := "key"

def receiptAgain : ImportRequest :=
  { receiptUpload with documentId := "again", idempotencyKey := "other key" }

def otherReceipt : ImportRequest :=
  { receiptUpload with
    documentId := "other", naturalKey := some "other receipt", fileHash := "other hash"
    idempotencyKey := "other key" }

/-- A catalog that is uploaded twice at once. -/
def catalogUpload : ImportRequest where
  orgId := "org"
  documentId := "document"
  dataset := .dishCatalog
  enterpriseName := "enterprise"
  startDate := some "2026-01-01"
  endDate := some "2026-01-01"
  snapshotDate := some "2026-01-01"
  fileHash := "hash"
  idempotencyKey := "key"

def nextStatement (index : ℕ) : WindowStep := .advance index "batch" none

end SmeDataCenter
