import SmeDataCenter.ImportOperations

/-!
# The claims on import windows

An import that is not over holds the claim on its window: the claim names it. A reservation deletes
a claim after it has looked at the import of the claim, in a statement of its own; whatever happens
in between, an import that is over stays over, and claims are not reused, so the claim that is
deleted is that of an import that is over. So no window has two imports that are applied and not
archived.
-/

namespace SmeDataCenter

open Runs

/-! ### Imports that are over -/

variable {b : ImportBatch} {db : Database}

namespace Database

/-- The import has ended without its rows, or its document is archived. -/
def Over (db : Database) (b : ImportBatch) : Prop :=
  b.status = .failed ∨ b.status = .rejected ∨
    b.status = .applied ∧ ∃ time, db.ArchivedAt b.sourceDocumentId time

lemma Over.ended (h : db.Over b) : b.status.ended = true := by
  rcases h with h | h | ⟨h, -⟩ <;> rw [h] <;> rfl

/-- The imports that have ended are as they were, and archived documents are archived. -/
structure Ended (db db' : Database) : Prop where
  batches : ∀ k b, db.importBatches.lookup k = some b → b.status.ended = true →
    db'.importBatches.lookup k = some b
  archived : ∀ k time, db.ArchivedAt k time → db'.ArchivedAt k time

lemma Ended.refl (db : Database) : Ended db db := ⟨fun _ _ hb _ => hb, fun _ _ h => h⟩

lemma Ended.over {db' : Database} (h : Ended db db') (hover : db.Over b) : db'.Over b := by
  rcases hover with hfailed | hrejected | ⟨happlied, time, htime⟩
  · exact .inl hfailed
  · exact .inr (.inl hrejected)
  · exact .inr (.inr ⟨happlied, time, h.archived _ time htime⟩)

end Database

open Database

lemma window_fixed {b' : ImportBatch} (h : b'.fixed = b.fixed) : b'.window = b.window := by
  have hdataset : b'.dataset = b.dataset := congrArg (fun f => f.2.2.1) h
  have hstart : b'.startDate = b.startDate := congrArg (fun f => f.2.2.2.1) h
  have hend : b'.endDate = b.endDate := congrArg (fun f => f.2.2.2.2) h
  unfold ImportBatch.window
  rw [fixed_org h, hdataset, hstart, hend]

namespace WindowStore

variable {s s' : WindowStore} {config : Option String}

/-! ### What a reservation knows of a claim -/

/-- The claim is the batch's, wherever it still is. -/
def Names (s : WindowStore) (claim : WindowClaim) : Prop :=
  claim.id < s.nextClaimId ∧ ∀ key c, s.windowClaims.lookup key = some c → c.id = claim.id →
    c.importBatchId = claim.importBatchId

/-- What a reservation has found when it makes its next statement. -/
def Knows (s : WindowStore) : ReservationStage → Prop
  | .findClaimBatch claim => s.Names claim
  | .findClaimDocument claim documentId => s.Names claim ∧
    ∃ b, s.db.importBatches.lookup claim.importBatchId = some b ∧ b.status = .applied ∧
      b.sourceDocumentId = documentId
  | .deleteArchived claim | .deleteEnded claim => s.Names claim ∧
    ∃ b, s.db.importBatches.lookup claim.importBatchId = some b ∧ s.db.Over b
  | _ => True

/-- A later state: claims that are new have new ids. -/
structure Later (s s' : WindowStore) : Prop where
  ended : Ended s.db s'.db
  next : s.nextClaimId ≤ s'.nextClaimId
  claims : ∀ key c, s'.windowClaims.lookup key = some c →
    s.windowClaims.lookup key = some c ∨ s.nextClaimId ≤ c.id

variable {claim : WindowClaim}

lemma Later.names (h : Later s s') (hc : s.Names claim) : s'.Names claim := by
  obtain ⟨hlt, hnames⟩ := hc
  refine ⟨lt_of_lt_of_le hlt h.next, fun key c hkey heq => ?_⟩
  rcases h.claims key c hkey with hold | hnew
  · exact hnames key c hold heq
  · omega

lemma Later.knows {stage : ReservationStage} (h : Later s s') (hk : s.Knows stage) :
    s'.Knows stage := by
  cases stage with
  | findKey => trivial
  | findNaturalKey => trivial
  | findClaim => trivial
  | findClaimBatch claim => exact h.names hk
  | findClaimDocument claim documentId =>
    obtain ⟨hnames, b, hb, happlied, hsource⟩ := hk
    exact ⟨h.names hnames, b, h.ended.batches _ b hb (by rw [happlied]; rfl), happlied, hsource⟩
  | deleteArchived claim =>
    obtain ⟨hnames, b, hb, hover⟩ := hk
    exact ⟨h.names hnames, b, h.ended.batches _ b hb hover.ended, h.ended.over hover⟩
  | deleteEnded claim =>
    obtain ⟨hnames, b, hb, hover⟩ := hk
    exact ⟨h.names hnames, b, h.ended.batches _ b hb hover.ended, h.ended.over hover⟩
  | create => trivial

/-! ### Claims are held -/

/-- **Every import that is not over holds the claim on its window.** -/
structure ClaimsHeld (s : WindowStore) : Prop where
  inStep : s.db.InStep
  seen : ∀ db ∈ s.past, Older db s.db
  ids : ∀ key c, s.windowClaims.lookup key = some c → c.id < s.nextClaimId
  one : ∀ key key' c c', s.windowClaims.lookup key = some c →
    s.windowClaims.lookup key' = some c' → c'.id = c.id → c'.importBatchId = c.importBatchId
  stages : ∀ r ∈ s.reservations, s.Knows r.stage
  held : ∀ id b key, s.db.importBatches.lookup id = some b → b.window = some key →
    s.db.Over b ∨ ∃ c, s.windowClaims.lookup key = some c ∧ c.importBatchId = id

lemma ClaimsHeld.names (h : s.ClaimsHeld) {key : WindowKey}
    (hkey : s.windowClaims.lookup key = some claim) : s.Names claim :=
  ⟨h.ids key claim hkey, fun key' c hc heq => h.one key key' claim c hkey hc heq⟩

lemma ClaimsHeld.of_reservations (h : s.ClaimsHeld) {reservations : List Reservation}
    {answers : List (ImportRequest × ReservationAnswer)}
    (hstages : ∀ r ∈ reservations, s.Knows r.stage) :
    ({ s with reservations, answers } : WindowStore).ClaimsHeld := by
  have hlater : Later s { s with reservations, answers } :=
    ⟨.refl _, le_rfl, fun _ _ hc => .inl hc⟩
  exact ⟨h.inStep, h.seen, h.ids, h.one, fun r hr => hlater.knows (hstages r hr), h.held⟩

lemma ClaimsHeld.answer (h : s.ClaimsHeld) (index : ℕ) (request : ImportRequest)
    (answer : ReservationAnswer) : (s.answer index request answer).ClaimsHeld :=
  h.of_reservations fun r hr => h.stages r (List.mem_of_mem_eraseIdx hr)

lemma ClaimsHeld.goOn (h : s.ClaimsHeld) (index : ℕ) {r : Reservation} (hr : s.Knows r.stage) :
    (s.goOn index r).ClaimsHeld := by
  refine h.of_reservations fun r' hr' => ?_
  rcases List.mem_or_eq_of_mem_set hr' with hold | rfl
  · exact h.stages r' hold
  · exact hr

lemma ClaimsHeld.unresolved (h : s.ClaimsHeld) (index : ℕ) (r : Reservation) :
    (s.unresolved index r).ClaimsHeld := by
  unfold WindowStore.unresolved
  split_ifs
  · exact h.answer ..
  · exact h.goOn index trivial

lemma ClaimsHeld.findClaim (h : s.ClaimsHeld) (index : ℕ) (r : Reservation) :
    (s.findClaim index r).ClaimsHeld := by
  unfold WindowStore.findClaim
  split_ifs
  · split
    · exact h.answer ..
    · split
      · exact h.unresolved ..
      · rename_i hclaim
        exact h.goOn index (h.names hclaim)
  · exact h.unresolved ..

lemma ClaimsHeld.findClaimBatch (h : s.ClaimsHeld) (index : ℕ) (r : Reservation)
    (hnames : s.Names claim) : (s.findClaimBatch index r claim).ClaimsHeld := by
  unfold WindowStore.findClaimBatch
  split
  · exact h.unresolved ..
  rename_i b hb
  split_ifs with happlied hended
  · exact h.goOn index ⟨hnames, b, hb, happlied, rfl⟩
  · refine h.goOn index ⟨hnames, b, hb, ?_⟩
    rcases hended with hrejected | hfailed
    · exact .inr (.inl hrejected)
    · exact .inl hfailed
  · exact h.answer ..

variable {id : String}

lemma applied_document {d : Document} (h : db.InStep) (hb : db.importBatches.lookup id = some b)
    (happlied : b.status = .applied) (hd : db.documents.lookup b.sourceDocumentId = some d) :
    d.status = .archived ↔ d.archivedAt ≠ none := by
  by_cases hruns : ∀ k run, ¬ db.RunOf k run b.sourceDocumentId
  · have hpending := h.idle id b hb hruns
    rw [happlied] at hpending
    cases hpending
  · push Not at hruns
    obtain ⟨k, run, hrun⟩ := hruns
    obtain ⟨-, -, hagrees⟩ := h.agrees id b k run d hb hrun hd
    rw [happlied] at hagrees
    exact hagrees.both

lemma ClaimsHeld.findClaimDocument (h : s.ClaimsHeld) (index : ℕ) (r : Reservation)
    {documentId : String} (hknows : s.Knows (.findClaimDocument claim documentId)) :
    (s.findClaimDocument index r claim documentId).ClaimsHeld := by
  obtain ⟨hnames, b, hb, happlied, rfl⟩ := hknows
  unfold WindowStore.findClaimDocument
  split_ifs with harchived
  · obtain ⟨d, hd, hstatus⟩ := Option.any_eq_true .. |>.mp harchived
    have htime := (applied_document h.inStep hb happlied hd).mp (by simpa using hstatus)
    obtain ⟨time, htime⟩ := Option.ne_none_iff_exists'.mp htime
    exact h.goOn index ⟨hnames, b, hb, .inr (.inr ⟨happlied, time, d, hd, htime⟩)⟩
  · exact h.answer ..

lemma ClaimsHeld.deleteMany (h : s.ClaimsHeld) {p : WindowKey → WindowClaim → Bool}
    (hb : s.db.importBatches.lookup id = some b) (hover : s.db.Over b)
    (hp : ∀ key c, s.windowClaims.lookup key = some c → p key c = true → c.importBatchId = id) :
    ({ s with windowClaims := s.windowClaims.deleteMany p } : WindowStore).ClaimsHeld := by
  have hback : ∀ key c, (s.windowClaims.deleteMany p).lookup key = some c →
      s.windowClaims.lookup key = some c := by
    intro key c hc
    rw [Table.lookup_deleteMany] at hc
    exact (Option.filter_eq_some_iff.mp hc).1
  have hlater : Later s { s with windowClaims := s.windowClaims.deleteMany p } :=
    ⟨.refl _, le_rfl, fun key c hc => .inl (hback key c hc)⟩
  refine ⟨h.inStep, h.seen, fun key c hc => h.ids key c (hback key c hc),
    fun key key' c c' hc hc' => h.one key key' c c' (hback key c hc) (hback key' c' hc'),
    fun r hr => hlater.knows (h.stages r hr), fun id' b' key hb' hkey => ?_⟩
  rcases h.held id' b' key hb' hkey with hover' | ⟨c, hc, rfl⟩
  · exact .inl hover'
  · cases hpc : p key c with
    | false =>
      refine .inr ⟨c, ?_, rfl⟩
      change (s.windowClaims.deleteMany p).lookup key = some c
      rw [Table.lookup_deleteMany, hc, Option.filter_some, hpc]
      rfl
    | true =>
      -- the claim that goes is that of an import that is over
      have hid := hp key c hc hpc
      rw [hid, hb] at hb'
      cases hb'
      exact .inl hover

lemma ClaimsHeld.deleteArchived (h : s.ClaimsHeld) (index : ℕ) (r : Reservation)
    (hknows : s.Knows (.deleteArchived claim)) : (s.deleteArchived index r claim).ClaimsHeld := by
  obtain ⟨-, b, hb, hover⟩ := hknows
  refine ClaimsHeld.unresolved (h.deleteMany hb hover fun key c _ hp => ?_) ..
  simp only [Bool.and_eq_true, decide_eq_true_eq] at hp
  exact hp.2

lemma ClaimsHeld.deleteEnded (h : s.ClaimsHeld) (index : ℕ) (r : Reservation)
    (hknows : s.Knows (.deleteEnded claim)) : (s.deleteEnded index r claim).ClaimsHeld := by
  obtain ⟨⟨-, hnames⟩, b, hb, hover⟩ := hknows
  unfold WindowStore.deleteEnded
  split_ifs
  · exact h.answer ..
  · refine ClaimsHeld.unresolved (h.deleteMany hb hover fun key c hc hp => ?_) ..
    exact hnames key c hc (of_decide_eq_true hp)

/-! ### The databases that there have been -/

lemma ClaimsHeld.moved (h : s.ClaimsHeld) (hkept : ImportsKept s.db db)
    (harchived : ∀ k time, s.db.ArchivedAt k time → db.ArchivedAt k time) :
    (s.moved db).ClaimsHeld := by
  have hlater : Later s (s.moved db) :=
    ⟨⟨hkept.ended, harchived⟩, le_rfl, fun _ _ hc => .inl hc⟩
  refine ⟨hkept.inStep, fun seen hseen => ?_, h.ids, h.one,
    fun r hr => hlater.knows (h.stages r hr), fun id b key hb hkey => ?_⟩
  · rcases List.mem_cons.mp hseen with rfl | hseen
    · exact .refl _
    · exact (h.seen seen hseen).trans hkept.older
  · obtain ⟨c, hc, hfixed⟩ := hkept.batches.back hb
    have hwindow : c.window = some key := by
      rw [← hkey]
      exact window_fixed hfixed
    rcases h.held id c key hc hwindow with hover | hclaim
    · have hsame : b = c := Option.some.inj (hb.symm.trans (hkept.ended id c hc hover.ended))
      subst hsame
      exact .inl (hlater.ended.over hover)
    · exact .inr hclaim

lemma ClaimsHeld.sourceStep (h : s.ClaimsHeld) {step : SourceStep}
    (hkept : ImportsKept s.db (Database.sourceStep config s.db step)) :
    (s.moved (Database.sourceStep config s.db step)).ClaimsHeld :=
  h.moved hkept fun _ _ => archivedAt_step step

/-! ### The transaction of a reservation -/

variable {request : ImportRequest}

lemma createClaim_ok (hok : s.createClaim request id = .ok s') :
    (request.window = none ∧ s' = s) ∨
      ∃ key claims, request.window = some key ∧
        s.windowClaims.create key ⟨s.nextClaimId, id⟩ = some claims ∧
        s' = { s with windowClaims := claims, nextClaimId := s.nextClaimId + 1 } := by
  unfold createClaim at hok
  split_ifs at hok with hclaims
  · split at hok
    · cases hok
    rename_i key hkey
    obtain ⟨claims, hcreate, hok⟩ := bind_eq_ok.mp hok
    cases hok
    exact .inr ⟨key, claims, hkey, createOrThrow_eq_ok.mp hcreate, rfl⟩
  · cases hok
    refine .inl ⟨?_, rfl⟩
    unfold ImportRequest.window
    rw [if_neg hclaims]

lemma createImport_ok {refused : Option String} (hok : s.createImport request id refused = .ok s') :
    ∃ db keys, s.db.reserveStructuredImport ⟨request.documentId, request.orgId, request.dataset,
        request.startDate, request.endDate⟩ id refused = .ok db ∧
      s.keyTaken request = false ∧ s.batchKeys.create id request.keys = some keys ∧
      ({ s.moved db with batchKeys := keys } : WindowStore).createClaim request id = .ok s' := by
  unfold createImport at hok
  obtain ⟨db, hdb, hok⟩ := bind_eq_ok.mp hok
  split_ifs at hok with htaken
  obtain ⟨keys, hkeys, hok⟩ := bind_eq_ok.mp hok
  exact ⟨db, keys, hdb, by simpa using htaken, createOrThrow_eq_ok.mp hkeys, hok⟩

lemma ClaimsHeld.create_batch (h : s.ClaimsHeld) {db : Database} {keys : Table String BatchKeys}
    {input : ReserveStructuredImportInput} {id : String} {refused : Option String}
    (hok : s.db.reserveStructuredImport input id refused = .ok db) :
    db.InStep ∧ (∀ seen ∈ db :: s.past, Older seen db) ∧
      Later s { s.moved db with batchKeys := keys } ∧
      ∃ b : ImportBatch, b.orgId = input.orgId ∧ b.dataset = input.dataset ∧
        b.startDate = input.startDate ∧ b.endDate = input.endDate ∧
        ∀ k, db.importBatches.lookup k =
          if k = id then some b else s.db.importBatches.lookup k := by
  obtain ⟨hinStep, holder, hfresh, b, horg, hdataset, hstart, hend, -, hlookup⟩ :=
    inStep_reserve h.inStep hok
  refine ⟨hinStep, fun seen hseen => ?_, ⟨⟨fun k c hc _ => ?_, fun k time htime => ?_⟩, le_rfl,
    fun _ _ hc => .inl hc⟩, b, horg, hdataset, hstart, hend, hlookup⟩
  · rcases List.mem_cons.mp hseen with rfl | hseen
    · exact .refl _
    · exact (h.seen seen hseen).trans holder
  · change db.importBatches.lookup k = some c
    rw [hlookup, if_neg]
    · exact hc
    · rintro rfl
      rw [hc] at hfresh
      cases hfresh
  · have hstep : (commit s.db (s.db.reserveStructuredImport input id refused)).ArchivedAt k time :=
      @archivedAt_step s.db none k time (.document (.reserveStructuredImport input id refused))
        htime
    rw [hok] at hstep
    exact hstep

lemma window_request (horg : b.orgId = request.orgId) (hdataset : b.dataset = request.dataset)
    (hstart : b.startDate = request.startDate) (hend : b.endDate = request.endDate) :
    b.window = request.window := by
  unfold ImportBatch.window ImportRequest.window
  rw [horg, hdataset, hstart, hend]

lemma ClaimsHeld.createImport (h : s.ClaimsHeld) {refused : Option String}
    (hok : s.createImport request id refused = .ok s') : s'.ClaimsHeld := by
  obtain ⟨db, keys, hdb, -, -, hclaim⟩ := createImport_ok hok
  obtain ⟨hinStep, hseen, hlater, b, horg, hdataset, hstart, hend, hlookup⟩ :=
    @create_batch s h db keys _ id refused hdb
  have hwindow := window_request horg hdataset hstart hend
  have hold : ∀ id' b', id' ≠ id → db.importBatches.lookup id' = some b' →
      s.db.importBatches.lookup id' = some b' := by
    intro id' b' hne hb'
    rw [hlookup, if_neg hne] at hb'
    exact hb'
  rcases createClaim_ok hclaim with ⟨hnone, rfl⟩ | ⟨key, claims, hkey, hcreate, rfl⟩
  · -- an import without a window
    refine ⟨hinStep, hseen, h.ids, h.one, fun r hr => hlater.knows (h.stages r hr),
      fun id' b' key hb' hkey => ?_⟩
    by_cases hid : id' = id
    · subst hid
      change db.importBatches.lookup id' = some b' at hb'
      rw [hlookup, if_pos rfl] at hb'
      cases hb'
      rw [hwindow, hnone] at hkey
      cases hkey
    · rcases h.held id' b' key (hold id' b' hid hb') hkey with hover | hclaim
      · exact .inl (hlater.ended.over hover)
      · exact .inr hclaim
  · have hclaims := Table.lookup_create hcreate
    have hfresh := Table.create_fresh hcreate
    have hcases : ∀ key' c, claims.lookup key' = some c →
        (key' = key ∧ c = ⟨s.nextClaimId, id⟩) ∨ s.windowClaims.lookup key' = some c := by
      intro key' c hc
      rw [hclaims] at hc
      split_ifs at hc with hsame
      · cases hc
        exact .inl ⟨hsame, rfl⟩
      · exact .inr hc
    have hlater' : Later s { s.moved db with
        batchKeys := keys, windowClaims := claims, nextClaimId := s.nextClaimId + 1 } := by
      refine ⟨hlater.ended, Nat.le_succ _, fun key' c hc => ?_⟩
      rcases hcases key' c hc with ⟨-, rfl⟩ | hc
      · exact .inr le_rfl
      · exact .inl hc
    refine ⟨hinStep, hseen, fun key' c hc => ?_, fun key' key'' c c' hc hc' heq => ?_,
      fun r hr => hlater'.knows (h.stages r hr), fun id' b' key' hb' hkey' => ?_⟩
    · rcases hcases key' c hc with ⟨-, rfl⟩ | hc
      · exact Nat.lt_succ_self _
      · exact Nat.lt_succ_of_lt (h.ids key' c hc)
    · rcases hcases key' c hc with ⟨-, rfl⟩ | hc
      · rcases hcases key'' c' hc' with ⟨-, rfl⟩ | hc'
        · rfl
        · have hlt := h.ids key'' c' hc'
          rw [heq] at hlt
          exact absurd hlt (lt_irrefl _)
      · rcases hcases key'' c' hc' with ⟨-, rfl⟩ | hc'
        · have hlt := h.ids key' c hc
          rw [← heq] at hlt
          exact absurd hlt (lt_irrefl _)
        · exact h.one key' key'' c c' hc hc' heq
    · by_cases hid : id' = id
      · subst hid
        change db.importBatches.lookup id' = some b' at hb'
        rw [hlookup, if_pos rfl] at hb'
        cases hb'
        rw [hwindow, hkey] at hkey'
        cases hkey'
        exact .inr ⟨⟨s.nextClaimId, id'⟩, (hclaims _).trans (if_pos rfl), rfl⟩
      · rcases h.held id' b' key' (hold id' b' hid hb') hkey' with hover | ⟨c, hc, hcid⟩
        · exact .inl (hlater.ended.over hover)
        · refine .inr ⟨c, ?_, hcid⟩
          change claims.lookup key' = some c
          rw [hclaims, if_neg]
          · exact hc
          · rintro rfl
            cases hc.symm.trans hfresh

lemma ClaimsHeld.create (h : s.ClaimsHeld) (index : ℕ) (r : Reservation) (id : String)
    (refused : Option String) : (s.create index r id refused).ClaimsHeld := by
  unfold WindowStore.create
  split
  · rename_i created hok
    exact (h.createImport hok).answer ..
  · exact h.goOn index trivial
  · exact h.answer ..
  · exact h.answer ..

/-! ### Steps -/

lemma ClaimsHeld.start (h : s.ClaimsHeld) (request : ImportRequest) :
    (s.start request).ClaimsHeld := by
  unfold WindowStore.start
  split_ifs
  · exact h.of_reservations h.stages
  · refine h.of_reservations fun r hr => ?_
    rcases List.mem_append.mp hr with hold | hnew
    · exact h.stages r hold
    · rw [List.mem_singleton.mp hnew]
      trivial

lemma ClaimsHeld.advance (h : s.ClaimsHeld) (index : ℕ) (id : String) (refused : Option String) :
    (s.advance index id refused).ClaimsHeld := by
  unfold WindowStore.advance
  split
  · exact h
  rename_i r hr
  have hknows := h.stages r (List.mem_of_getElem? hr)
  split
  · split
    · exact h.answer ..
    · exact h.goOn index trivial
  · split
    · exact h.answer ..
    · exact h.goOn index trivial
  · exact h.findClaim ..
  · rename_i claim hstage
    rw [hstage] at hknows
    exact h.findClaimBatch index r hknows
  · rename_i claim documentId hstage
    exact h.findClaimDocument index r (hstage ▸ hknows)
  · rename_i claim hstage
    exact h.deleteArchived index r (hstage ▸ hknows)
  · rename_i claim hstage
    exact h.deleteEnded index r (hstage ▸ hknows)
  · exact h.create ..

/-- **Every step keeps the claims.** -/
lemma ClaimsHeld.step (h : s.ClaimsHeld) (step : WindowStep) :
    (windowStep config s step).ClaimsHeld := by
  cases step with
  | start request => exact h.start request
  | advance index id refused => exact h.advance index id refused
  | abandon index => exact h.of_reservations fun r hr => h.stages r (List.mem_of_mem_eraseIdx hr)
  | claim age workerId leaseSeconds now =>
    unfold windowStep
    dsimp only
    split
    · exact h
    rename_i seen hage
    refine h.sourceStep ((writes_call h.inStep fun seen' _ _ _ heq => ?_).kept h.inStep)
    cases heq
    exact h.seen seen (List.mem_of_getElem? hage)
  | call call =>
    unfold windowStep
    dsimp only
    split_ifs with hlease
    · exact h
    refine h.sourceStep ((writes_call h.inStep fun seen _ _ _ heq => ?_).kept h.inStep)
    subst heq
    exact absurd rfl hlease
  | document op =>
    cases hop : op.reserves with
    | true =>
      cases op <;> first | exact h | cases hop
    | false =>
      have hstep : windowStep config s (.document op) =
          s.moved (Database.sourceStep config s.db (.document op)) := by
        cases op <;> first | rfl | cases hop
      rw [hstep]
      exact h.sourceStep (kept_document h.inStep hop)

lemma claimsHeld_empty : ({} : WindowStore).ClaimsHeld := by
  refine ⟨⟨?_, ?_, ?_, ?_, ?_, ?_⟩, fun db hdb => ?_, ?_, ?_, fun r hr => ?_, ?_⟩
  · exact fun _ _ h => nomatch h
  · exact fun _ _ _ _ _ h => nomatch h.1
  · exact fun _ _ _ _ h => nomatch h
  · exact fun _ _ h => nomatch h
  · exact fun _ _ h => nomatch h
  · exact fun _ _ _ _ _ h => nomatch h
  · rw [List.mem_singleton.mp hdb]
    exact .refl _
  · exact fun _ _ h => nomatch h
  · exact fun _ _ _ _ h => nomatch h
  · cases hr
  · exact fun _ _ _ h => nomatch h

lemma claimsHeld_run (config : Option String) (steps : List WindowStep) :
    (run (windowStep config) {} steps).ClaimsHeld :=
  run_invariant' (fun _ step h => h.step step) steps claimsHeld_empty

end WindowStore
end SmeDataCenter
