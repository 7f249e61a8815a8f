import Mathlib.Order.Basic
import SmeDataCenter.WorkflowActionIdentity

/-!
# Live policies

The reach of a workflow: which stores, datasets, mailboxes and sources its actions may name.
A policy is computed from a configuration and the integration it runs on, two policies are
intersected, and an action identity is allowed by a policy or not. Policies are ordered by
reach: what a narrower policy allows, every wider one does.
-/

namespace SmeDataCenter

/-- `WORKFLOW_LIMITS.sourceIdentities`. -/
def sourceIdentities : ℕ := 2000

structure MailConfiguration where
  enabled : Bool
  recipients : List String
  allowedSender : Option String
  deriving DecidableEq

structure IgnoredReview where
  source : WorkflowSourceIdentity
  feedbackId : String
  deriving DecidableEq

/-- The ignored reviews of a configuration, as many as its schema admits. -/
abbrev IgnoredReviews := { reviews : List IgnoredReview // reviews.length ≤ sourceIdentities }

inductive WorkflowType where
  | dailyIngestion
  | reviewOperations
  | weeklyReport
  deriving DecidableEq

/-- `workflowConfigurationSchema`: the fields a live policy is computed from. -/
inductive WorkflowConfiguration where
  | dailyIngestion (storeNames : List String) (datasets : List WorkflowDataset)
  | reviewOperations (storeNames : List String) (ignoredReviewIdentities : IgnoredReviews)
      (channels : List SourceChannel) (publicationEnabled : Bool)
      (publicationStoreNames : List String) (draftNotification : MailConfiguration)
  | weeklyReport (storeNames : List String) (delivery : MailConfiguration)
  deriving DecidableEq

namespace WorkflowConfiguration

def type : WorkflowConfiguration → WorkflowType
  | .dailyIngestion .. => .dailyIngestion
  | .reviewOperations .. => .reviewOperations
  | .weeklyReport .. => .weeklyReport

def storeNames : WorkflowConfiguration → List String
  | .dailyIngestion storeNames _ => storeNames
  | .reviewOperations storeNames .. => storeNames
  | .weeklyReport storeNames _ => storeNames

def mail : WorkflowConfiguration → Option MailConfiguration
  | .dailyIngestion .. => none
  | .reviewOperations _ _ _ _ _ draftNotification => some draftNotification
  | .weeklyReport _ delivery => some delivery

end WorkflowConfiguration

structure SourceAccount where
  product : SourceProduct
  accountRef : String
  sourceEnterpriseName : String
  sourceGroupName : Option String
  deriving DecidableEq

structure StoreMapping where
  source : WorkflowSourceIdentity
  storeName : String
  deriving DecidableEq

structure EnterpriseIntegration where
  sourceAccounts : List SourceAccount
  storeMappings : List StoreMapping
  deriving DecidableEq

structure PolicySource where
  key : String
  storeName : String
  binding : String
  deriving DecidableEq

structure WorkflowLivePolicy where
  stores : List String
  datasets : List WorkflowDataset
  channels : List SourceChannel
  publicationStores : List String
  senders : List String
  recipients : List String
  sources : List PolicySource
  ignored : List String
  reviewsBlocked : Bool
  deriving DecidableEq

def lower (values : List String) : List String := values.map (·.toLower)

def intersect {α : Type} [DecidableEq α] (a b : List α) : List α :=
  a.filter fun v => b.contains v

def reviewKey (source : WorkflowSourceIdentity) (feedbackId : String) : String :=
  workflowCanonicalJson (.strings [workflowSourceIdentityKey source, feedbackId])

/-- The mapped source of a store. The schema requires the account of a mapping to be declared. -/
def policySource (accounts : List SourceAccount) (m : StoreMapping) : Option PolicySource :=
  (accounts.find? fun a =>
    a.product = m.source.product && a.accountRef = m.source.accountRef).map fun account =>
    { key := workflowSourceIdentityKey m.source
      storeName := m.storeName
      binding := workflowCanonicalJson (.arr [m.source.json, .str account.product.text,
        .str account.accountRef, .str account.sourceEnterpriseName,
        (account.sourceGroupName.map .str).getD .null]) }

/-- The sources a configuration reaches. -/
def policySources (config : WorkflowConfiguration) (integration : EnterpriseIntegration) :
    List PolicySource :=
  let mapped (product : SourceProduct) (channel : SourceChannel → Bool) :=
    (integration.storeMappings.filter fun m =>
      m.source.product = product && config.storeNames.contains m.storeName &&
        channel m.source.channel).filterMap (policySource integration.sourceAccounts)
  match config with
  | .dailyIngestion .. => mapped .meituanErp fun _ => true
  | .reviewOperations _ _ channels .. => mapped .meituanReviews channels.contains
  | .weeklyReport .. => []

def workflowLivePolicy (config : WorkflowConfiguration) (integration : EnterpriseIntegration) :
    WorkflowLivePolicy where
  stores := config.storeNames
  datasets := match config with
    | .dailyIngestion _ datasets => datasets
    | _ => [.business, .dishes, .inStoreOrders, .takeawayOrders]
  channels := match config with
    | .reviewOperations _ _ channels .. => channels
    | _ => []
  publicationStores := match config with
    | .reviewOperations _ _ _ true publicationStoreNames _ => publicationStoreNames
    | _ => []
  senders := match config.mail with
    | some ⟨true, _, some allowedSender⟩ => lower [allowedSender]
    | _ => []
  recipients := match config.mail with
    | some ⟨true, recipients, _⟩ => lower recipients
    | _ => []
  sources := policySources config integration
  ignored := match config with
    | .reviewOperations _ ignored .. => ignored.val.map fun r => reviewKey r.source r.feedbackId
    | _ => []
  reviewsBlocked := false

def intersectWorkflowLivePolicy (a b : WorkflowLivePolicy) : WorkflowLivePolicy :=
  let ignored := distinct (a.ignored ++ b.ignored)
  { stores := intersect a.stores b.stores
    datasets := intersect a.datasets b.datasets
    channels := intersect a.channels b.channels
    publicationStores := intersect a.publicationStores b.publicationStores
    senders := intersect a.senders b.senders
    recipients := intersect a.recipients b.recipients
    sources := intersect a.sources b.sources
    ignored := ignored.take sourceIdentities
    reviewsBlocked := a.reviewsBlocked || b.reviewsBlocked ||
      decide (sourceIdentities < ignored.length) }

/-! ### What a policy allows -/

def WorkflowActionIdentity.stores : WorkflowActionIdentity → List String
  | .upload storeNames .. => storeNames
  | .download storeNames .. => storeNames
  | .reviewSync storeNames .. => storeNames
  | .reviewPublish storeName .. => [storeName]
  | .email storeNames .. => storeNames

/-- May a review of this source be touched? A review that is named must not be ignored. -/
def sourceAllowed (policy : WorkflowLivePolicy) (stores : List String)
    (source : WorkflowSourceIdentity) (feedbackId : Option String) : Bool :=
  !policy.reviewsBlocked &&
  policy.channels.contains source.channel &&
  (policy.sources.any fun m =>
    m.key = workflowSourceIdentityKey source && stores.contains m.storeName) &&
  (match feedbackId with
    | none => true
    | some feedbackId => !policy.ignored.contains (reviewKey source feedbackId))

/-- The part of the check that depends on the kind of action. -/
def kindAllowed (policy : WorkflowLivePolicy) (identity : WorkflowActionIdentity) : Bool :=
  match identity with
  | .upload _ _ dataset .. => policy.datasets.contains dataset
  | .download _ _ dataset _ => policy.datasets.contains dataset
  | .reviewSync stores _ source _ => sourceAllowed policy stores source none
  | .reviewPublish storeName source feedbackId =>
    sourceAllowed policy [storeName] source (some feedbackId) &&
      policy.publicationStores.contains storeName
  | .email stores _ purpose recipients sender _ reviewIdentities =>
    (purpose = .exception || (policy.senders.contains sender.toLower &&
      (lower recipients).all policy.recipients.contains)) &&
    reviewIdentities.all fun r => sourceAllowed policy stores r.source (some r.feedbackId)

def workflowLivePolicyAllows (policy : WorkflowLivePolicy) (identity : WorkflowActionIdentity)
    (type : WorkflowType) : Bool :=
  identity.stores.all policy.stores.contains &&
  (type ≠ .dailyIngestion || identity.stores.all fun s =>
    policy.sources.any fun m => m.storeName = s) &&
  kindAllowed policy identity

/-! ### The order of reach -/

namespace WorkflowLivePolicy

/-- `p` reaches no further than `q`. A policy that blocks reviews reaches none of them, whatever
it ignores. -/
structure Narrower (p q : WorkflowLivePolicy) : Prop where
  stores : p.stores ⊆ q.stores
  datasets : p.datasets ⊆ q.datasets
  channels : p.channels ⊆ q.channels
  publicationStores : p.publicationStores ⊆ q.publicationStores
  senders : p.senders ⊆ q.senders
  recipients : p.recipients ⊆ q.recipients
  sources : p.sources ⊆ q.sources
  reviews : p.reviewsBlocked = true ∨ (q.reviewsBlocked = false ∧ q.ignored ⊆ p.ignored)

instance : Preorder WorkflowLivePolicy where
  le := Narrower
  le_refl p := by
    refine ⟨List.Subset.refl _, List.Subset.refl _, List.Subset.refl _, List.Subset.refl _,
      List.Subset.refl _, List.Subset.refl _, List.Subset.refl _, ?_⟩
    cases h : p.reviewsBlocked with
    | true => exact .inl rfl
    | false => exact .inr ⟨rfl, List.Subset.refl _⟩
  le_trans p q r h h' := by
    refine ⟨List.Subset.trans h.stores h'.stores, List.Subset.trans h.datasets h'.datasets,
      List.Subset.trans h.channels h'.channels,
      List.Subset.trans h.publicationStores h'.publicationStores,
      List.Subset.trans h.senders h'.senders, List.Subset.trans h.recipients h'.recipients,
      List.Subset.trans h.sources h'.sources, ?_⟩
    rcases h.reviews with hp | ⟨hq, hpq⟩
    · exact .inl hp
    · rcases h'.reviews with hq' | ⟨hr, hqr⟩
      · simp [hq] at hq'
      · exact .inr ⟨hr, List.Subset.trans hqr hpq⟩

variable {q p : WorkflowLivePolicy}

lemma sourceAllowed_mono (h : p ≤ q) {stores : List String} {source : WorkflowSourceIdentity}
    {feedbackId : Option String} (hp : sourceAllowed p stores source feedbackId = true) :
    sourceAllowed q stores source feedbackId = true := by
  simp only [sourceAllowed, Bool.and_eq_true, Bool.not_eq_true', List.contains_iff_mem,
    List.any_eq_true] at hp ⊢
  obtain ⟨⟨⟨hblocked, hchannel⟩, m, hm, hkey⟩, hfeedback⟩ := hp
  rcases h.reviews with hb | ⟨hq, hignored⟩
  · simp [hb] at hblocked
  refine ⟨⟨⟨hq, h.channels hchannel⟩, m, h.sources hm, hkey⟩, ?_⟩
  cases feedbackId with
  | none => rfl
  | some feedbackId =>
    simp only [Bool.not_eq_true', List.contains_eq_mem, decide_eq_false_iff_not] at hfeedback ⊢
    exact fun hmem => hfeedback (hignored hmem)

lemma kindAllowed_mono (h : p ≤ q) {identity : WorkflowActionIdentity}
    (hp : kindAllowed p identity = true) : kindAllowed q identity = true := by
  cases identity with
  | upload stores window dataset settledOnly sourceHash metadataHash =>
    exact List.contains_iff_mem.mpr (h.datasets (List.contains_iff_mem.mp hp))
  | download stores window dataset manifestHash =>
    exact List.contains_iff_mem.mpr (h.datasets (List.contains_iff_mem.mp hp))
  | reviewSync stores window source facts =>
    simp only [kindAllowed] at hp ⊢
    exact sourceAllowed_mono h hp
  | reviewPublish storeName source feedbackId =>
    simp only [kindAllowed, Bool.and_eq_true, List.contains_iff_mem] at hp ⊢
    exact ⟨sourceAllowed_mono h hp.1, h.publicationStores hp.2⟩
  | email stores window purpose recipients sender version reviews =>
    simp only [kindAllowed, Bool.and_eq_true, Bool.or_eq_true, decide_eq_true_eq,
      List.contains_iff_mem, List.all_eq_true] at hp ⊢
    obtain ⟨hmail, hreviews⟩ := hp
    refine ⟨?_, fun r hr => sourceAllowed_mono h (hreviews r hr)⟩
    rcases hmail with hexception | ⟨hsender, hrecipients⟩
    · exact .inl hexception
    · exact .inr ⟨h.senders hsender, fun r hr => h.recipients (hrecipients r hr)⟩

/-- **Monotonicity**: what a policy allows, every wider one does. -/
theorem allows_mono (h : p ≤ q) {identity : WorkflowActionIdentity} {type : WorkflowType}
    (hp : workflowLivePolicyAllows p identity type = true) :
    workflowLivePolicyAllows q identity type = true := by
  simp only [workflowLivePolicyAllows, Bool.and_eq_true, Bool.or_eq_true, List.all_eq_true,
    List.contains_iff_mem, List.any_eq_true] at hp ⊢
  obtain ⟨⟨hstores, hmapped⟩, hkind⟩ := hp
  refine ⟨⟨fun s hs => h.stores (hstores s hs), ?_⟩, kindAllowed_mono h hkind⟩
  rcases hmapped with htype | hmapped
  · exact .inl htype
  · refine .inr fun s hs => ?_
    obtain ⟨m, hm, hname⟩ := hmapped s hs
    exact ⟨m, h.sources hm, hname⟩

/-! ### Intersection -/

lemma intersect_subset_left {α : Type} [DecidableEq α] (a b : List α) : intersect a b ⊆ a :=
  fun _ h => (List.mem_filter.mp h).1

lemma intersect_subset_right {α : Type} [DecidableEq α] (a b : List α) : intersect a b ⊆ b :=
  fun _ h => List.contains_iff_mem.mp (List.mem_filter.mp h).2

lemma subset_intersect {α : Type} [DecidableEq α] {x a b : List α} (ha : x ⊆ a) (hb : x ⊆ b) :
    x ⊆ intersect a b :=
  fun _ h => List.mem_filter.mpr ⟨ha h, List.contains_iff_mem.mpr (hb h)⟩

lemma intersect_reviews (a b : WorkflowLivePolicy) :
    (intersectWorkflowLivePolicy a b).reviewsBlocked = true ∨
      (a.reviewsBlocked = false ∧ b.reviewsBlocked = false ∧
        (intersectWorkflowLivePolicy a b).ignored = distinct (a.ignored ++ b.ignored)) := by
  rcases Bool.eq_false_or_eq_true (intersectWorkflowLivePolicy a b).reviewsBlocked with h | h
  · exact .inl h
  · simp only [intersectWorkflowLivePolicy, Bool.or_eq_false_iff, decide_eq_false_iff_not,
      not_lt] at h ⊢
    exact .inr ⟨h.1.1, h.1.2, List.take_of_length_le h.2⟩

lemma mem_distinct {v : String} {values : List String} : v ∈ distinct values ↔ v ∈ values :=
  List.mem_eraseDups

lemma intersect_le_left (a b : WorkflowLivePolicy) : intersectWorkflowLivePolicy a b ≤ a := by
  refine ⟨intersect_subset_left _ _, intersect_subset_left _ _, intersect_subset_left _ _,
    intersect_subset_left _ _, intersect_subset_left _ _, intersect_subset_left _ _,
    intersect_subset_left _ _, ?_⟩
  rcases intersect_reviews a b with h | ⟨ha, -, hignored⟩
  · exact .inl h
  · refine .inr ⟨ha, fun v hv => ?_⟩
    rw [hignored, mem_distinct]
    exact List.mem_append_left _ hv

lemma intersect_le_right (a b : WorkflowLivePolicy) : intersectWorkflowLivePolicy a b ≤ b := by
  refine ⟨intersect_subset_right _ _, intersect_subset_right _ _, intersect_subset_right _ _,
    intersect_subset_right _ _, intersect_subset_right _ _, intersect_subset_right _ _,
    intersect_subset_right _ _, ?_⟩
  rcases intersect_reviews a b with h | ⟨-, hb, hignored⟩
  · exact .inl h
  · refine .inr ⟨hb, fun v hv => ?_⟩
    rw [hignored, mem_distinct]
    exact List.mem_append_right _ hv

lemma length_distinct_le (values : List String) : (distinct values).length ≤ values.length := by
  induction hn : values.length using Nat.strong_induction_on generalizing values with
  | _ n ih =>
    cases values with
    | nil => simp [distinct]
    | cons v values =>
      have hlt : (values.filter fun w => !w == v).length < n := by
        have := List.length_filter_le (fun w => !w == v) values
        simp only [List.length_cons] at hn
        omega
      have := ih _ hlt (values.filter fun w => !w == v) rfl
      simp only [distinct, List.eraseDups_cons, List.length_cons] at this hn ⊢
      have hle := List.length_filter_le (fun w => !w == v) values
      omega

lemma distinct_append_of_subset {a b : List String} (h : b ⊆ a) :
    distinct (a ++ b) = distinct a := by
  have hnone : b.removeAll a = [] := by
    rw [List.eq_nil_iff_forall_not_mem]
    intro v hv
    simp only [List.removeAll, List.mem_filter] at hv
    simp [h hv.1] at hv
  rw [distinct, List.eraseDups_append, hnone]
  simp [distinct]

/-- What is narrower than a policy within limits is narrower than its intersection with a wider
one: the two sides do not make the ignored reviews overflow. -/
lemma le_intersect {x : WorkflowLivePolicy} (hp : x ≤ p) (hq : x ≤ q)
    (hpq : p.reviewsBlocked = true ∨ (q.reviewsBlocked = false ∧ q.ignored ⊆ p.ignored))
    (hlimit : p.ignored.length ≤ sourceIdentities) : x ≤ intersectWorkflowLivePolicy p q := by
  refine ⟨subset_intersect hp.stores hq.stores, subset_intersect hp.datasets hq.datasets,
    subset_intersect hp.channels hq.channels,
    subset_intersect hp.publicationStores hq.publicationStores,
    subset_intersect hp.senders hq.senders, subset_intersect hp.recipients hq.recipients,
    subset_intersect hp.sources hq.sources, ?_⟩
  rcases hp.reviews with hx | ⟨hpb, hpx⟩
  · exact .inl hx
  rcases hpq with hb | ⟨hqb, hqp⟩
  · simp [hb] at hpb
  have hd := distinct_append_of_subset hqp
  have hlen := length_distinct_le p.ignored
  refine .inr ⟨?_, fun v hv => ?_⟩
  · simp only [intersectWorkflowLivePolicy, hpb, hqb, hd, Bool.or_false, Bool.false_or,
      decide_eq_false_iff_not]
    omega
  · have hmem := List.mem_of_mem_take hv
    rw [hd, mem_distinct] at hmem
    exact hpx hmem

lemma le_of_intersect_eq (h : p = intersectWorkflowLivePolicy p q) : p ≤ q := by
  have := intersect_le_right p q
  rwa [← h] at this

lemma length_ignored_intersect (p q : WorkflowLivePolicy) :
    (intersectWorkflowLivePolicy p q).ignored.length ≤ sourceIdentities := by
  simp [intersectWorkflowLivePolicy]

lemma length_ignored_livePolicy (config : WorkflowConfiguration)
    (integration : EnterpriseIntegration) :
    (workflowLivePolicy config integration).ignored.length ≤ sourceIdentities := by
  cases config with
  | reviewOperations storeNames ignored channels enabled publicationStores mail =>
    simpa [workflowLivePolicy] using ignored.property
  | dailyIngestion storeNames datasets => simp [workflowLivePolicy]
  | weeklyReport storeNames delivery => simp [workflowLivePolicy]

/-- **An intersection never widens**: what it allows, both policies do. -/
theorem intersect_never_widens (a b : WorkflowLivePolicy) (identity : WorkflowActionIdentity)
    (type : WorkflowType)
    (h : workflowLivePolicyAllows (intersectWorkflowLivePolicy a b) identity type = true) :
    workflowLivePolicyAllows a identity type = true ∧
      workflowLivePolicyAllows b identity type = true :=
  ⟨allows_mono (intersect_le_left a b) h, allows_mono (intersect_le_right a b) h⟩

/-- A policy that reaches some stores, and one dataset of them. -/
def storePolicy (stores : List String) : WorkflowLivePolicy where
  stores
  datasets := [.business]
  channels := []
  publicationStores := []
  senders := []
  recipients := []
  sources := []
  ignored := []
  reviewsBlocked := false

theorem intersect_never_widens_store :
    workflowLivePolicyAllows (storePolicy ["a", "b"])
        (.download ["b"] ⟨"2024-01-01", "2024-01-02"⟩ .business "hash") .weeklyReport = true ∧
      workflowLivePolicyAllows (storePolicy ["b", "c"])
        (.download ["b"] ⟨"2024-01-01", "2024-01-02"⟩ .business "hash") .weeklyReport = true :=
  intersect_never_widens _ _ _ _ (by decide)

end WorkflowLivePolicy

end SmeDataCenter
