import SmeDataCenter.CanonicalJson

/-!
# Identities of workflow actions

What an enterprise workflow may do outside the data centre, one constructor for each kind of
action, and the keys that say when two actions are the same effect. An action that reaches
several recipients has a key for each of them.
-/

namespace SmeDataCenter

inductive WorkflowDataset where
  | business
  | dishes
  | inStoreOrders
  | takeawayOrders
  | deliveryLedger
  deriving DecidableEq

def WorkflowDataset.text : WorkflowDataset → String
  | .business => "business"
  | .dishes => "dishes"
  | .inStoreOrders => "in_store_orders"
  | .takeawayOrders => "takeaway_orders"
  | .deliveryLedger => "delivery_ledger"

inductive SourceProduct where
  | meituanErp
  | meituanReviews
  deriving DecidableEq

def SourceProduct.text : SourceProduct → String
  | .meituanErp => "meituan_erp"
  | .meituanReviews => "meituan_reviews"

inductive SourceChannel where
  | erp
  | meituan
  | dianping
  deriving DecidableEq

def SourceChannel.text : SourceChannel → String
  | .erp => "erp"
  | .meituan => "meituan"
  | .dianping => "dianping"

structure WorkflowSourceIdentity where
  product : SourceProduct
  channel : SourceChannel
  accountRef : String
  sourceStoreId : Option String
  sourceStoreName : String
  deriving DecidableEq

structure DateRange where
  startDate : String
  endDate : String
  deriving DecidableEq

inductive MailPurpose where
  | reviewDrafts
  | weeklyReport
  | exception
  deriving DecidableEq

def MailPurpose.text : MailPurpose → String
  | .reviewDrafts => "review_drafts"
  | .weeklyReport => "weekly_report"
  | .exception => "exception"

structure ReviewIdentity where
  source : WorkflowSourceIdentity
  feedbackId : String
  recipient : String

/-- `workflowActionIdentitySchema`. The purpose of a published reply is always
`customer_reply`, the order scope of an upload always `settled_only` where it has one. -/
inductive WorkflowActionIdentity where
  | upload (storeNames : List String) (window : DateRange) (dataset : WorkflowDataset)
      (settledOnly : Bool) (sourceHash metadataHash : String)
  | download (storeNames : List String) (window : DateRange) (dataset : WorkflowDataset)
      (manifestHash : Option String)
  | reviewSync (storeNames : List String) (window : DateRange) (source : WorkflowSourceIdentity)
      (observedFactsHash : String)
  | reviewPublish (storeName : String) (source : WorkflowSourceIdentity) (feedbackId : String)
  | email (storeNames : List String) (window : DateRange) (purpose : MailPurpose)
      (recipients : List String) (sender : String) (deliveryVersion : ℕ)
      (reviewIdentities : List ReviewIdentity)

/-! ### As JSON -/

def WorkflowSourceIdentity.json (source : WorkflowSourceIdentity) : Json :=
  .ofFields [("product", some (.str source.product.text)),
    ("channel", some (.str source.channel.text)), ("accountRef", some (.str source.accountRef)),
    ("sourceStoreId", source.sourceStoreId.map .str),
    ("sourceStoreName", some (.str source.sourceStoreName))]

def DateRange.json (window : DateRange) : Json :=
  .ofFields [("startDate", some (.str window.startDate)), ("endDate", some (.str window.endDate))]

def ReviewIdentity.json (review : ReviewIdentity) : Json :=
  .ofFields [("source", some review.source.json), ("feedbackId", some (.str review.feedbackId)),
    ("recipient", some (.str review.recipient))]

/-- The identity as it is stored. A mail names review identities only for review drafts. -/
def WorkflowActionIdentity.json : WorkflowActionIdentity → Json
  | .upload storeNames window dataset settledOnly sourceHash metadataHash =>
    .ofFields [("storeNames", some (.strings storeNames)), ("window", some window.json),
      ("kind", some (.str "upload")), ("dataset", some (.str dataset.text)),
      ("orderScope", if settledOnly then some (.str "settled_only") else none),
      ("sourceHash", some (.str sourceHash)), ("metadataHash", some (.str metadataHash))]
  | .download storeNames window dataset manifestHash =>
    .ofFields [("storeNames", some (.strings storeNames)), ("window", some window.json),
      ("kind", some (.str "download")), ("dataset", some (.str dataset.text)),
      ("manifestHash", manifestHash.map .str)]
  | .reviewSync storeNames window source observedFactsHash =>
    .ofFields [("storeNames", some (.strings storeNames)), ("window", some window.json),
      ("kind", some (.str "review_sync")), ("source", some source.json),
      ("observedFactsHash", some (.str observedFactsHash))]
  | .reviewPublish storeName source feedbackId =>
    .ofFields [("kind", some (.str "review_publish")), ("storeName", some (.str storeName)),
      ("source", some source.json), ("feedbackId", some (.str feedbackId)),
      ("purpose", some (.str "customer_reply"))]
  | .email storeNames window purpose recipients sender deliveryVersion reviewIdentities =>
    .ofFields [("storeNames", some (.strings storeNames)), ("window", some window.json),
      ("kind", some (.str "email")), ("purpose", some (.str purpose.text)),
      ("recipients", some (.strings recipients)), ("sender", some (.str sender)),
      ("deliveryVersion", some (.num deliveryVersion)),
      ("reviewIdentities", if purpose = .reviewDrafts then
        some (.arr (reviewIdentities.map (·.json))) else none)]

/-- The identity with its store names sorted. -/
def WorkflowActionIdentity.sorted : WorkflowActionIdentity → WorkflowActionIdentity
  | .upload storeNames window dataset settledOnly sourceHash metadataHash =>
    .upload (sortStrings storeNames) window dataset settledOnly sourceHash metadataHash
  | .download storeNames window dataset manifestHash =>
    .download (sortStrings storeNames) window dataset manifestHash
  | .reviewSync storeNames window source observedFactsHash =>
    .reviewSync (sortStrings storeNames) window source observedFactsHash
  | .reviewPublish storeName source feedbackId => .reviewPublish storeName source feedbackId
  | .email storeNames window purpose recipients sender deliveryVersion reviewIdentities =>
    .email (sortStrings storeNames) window purpose recipients sender deliveryVersion
      reviewIdentities

/-- `JSON.stringify` of an array of a source's parts. -/
def workflowSourceIdentityKey (source : WorkflowSourceIdentity) : String :=
  workflowCanonicalJson (.arr [.str source.product.text, .str source.channel.text,
    .str source.accountRef, match source.sourceStoreId with
      | none => .strings ["name", source.sourceStoreName]
      | some id => .strings ["id", id]])

/-! ### Deduplication keys -/

section

variable (sha256 : String → String)

/-- The digest of a value's canonical text. -/
def hash (value : Json) : String := sha256 (workflowCanonicalJson value)

/-- A read is bound to its run and action, so no other action has its key. -/
structure ReadBinding where
  runId : String
  actionId : String

def deduplicationKeys (identity : WorkflowActionIdentity) (readBinding : ReadBinding) :
    List String :=
  match identity with
  | .download .. =>
    [hash sha256 (.arr [.str "download", .str readBinding.runId, .str readBinding.actionId,
      identity.sorted.json])]
  | .reviewPublish _ source feedbackId =>
    [hash sha256 (.strings ["review_publish", workflowSourceIdentityKey source, feedbackId,
      "customer_reply"])]
  | .email _ _ .reviewDrafts _ _ _ reviewIdentities =>
    sortStrings (distinct (reviewIdentities.map fun r => hash sha256 (.strings ["review_drafts",
      workflowSourceIdentityKey r.source, r.feedbackId, r.recipient.toLower])))
  | .email storeNames window purpose recipients _ deliveryVersion _ =>
    sortStrings (recipients.map fun r => hash sha256 (.arr [.str "email", .str purpose.text,
      .strings (sortStrings storeNames), window.json, .str r.toLower, .num deliveryVersion]))
  | .reviewSync storeNames window source observedFactsHash =>
    [hash sha256 (.arr [.str "review_sync", .str (workflowSourceIdentityKey source),
      .strings (sortStrings storeNames), window.json, .str observedFactsHash])]
  | .upload .. => [hash sha256 identity.sorted.json]

end

end SmeDataCenter
