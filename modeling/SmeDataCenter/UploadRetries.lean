import SmeDataCenter.CatalogCollation
import SmeDataCenter.EnterpriseNames
import SmeDataCenter.RecordUpdates
import SmeDataCenter.StableJson

/-!
# Retries of an upload request

A request to upload is known by its idempotency key, and by the digest of a text: what its body was
normalized to, written over the body that was sent. A second request with the key is answered with
the job of the first when the digests agree.
-/

namespace SmeDataCenter
namespace UploadRetries

open EnterpriseNames JsonNumbers JsonStrings JsonValues RecordUpdates ScriptText
open Fallible (bind_ok exists_ok pure_ok)

/-! ### Bodies -/

/-- A number that was read: a numeral beyond the range stands for an infinity. -/
inductive BodyNumber where
  | finite (n : JsonNumber)
  | infinite (negative : Bool)

abbrev BodyValue := Value ScriptText BodyNumber

abbrev WrittenValue := Value ScriptText JsonNumber

abbrev Members := List (ScriptText × BodyValue)

mutual

/-- What `JSON.stringify` writes for a value. -/
def written : BodyValue → WrittenValue
  | .null => .null
  | .bool b => .bool b
  | .number (.finite n) => .number n
  | .number (.infinite _) => .null
  | .string s => .string s
  | .array items => .array (writtenItems items)
  | .object members => .object (writtenMembers members)

def writtenItems : List BodyValue → List WrittenValue
  | [] => []
  | item :: items => written item :: writtenItems items

def writtenMembers : Members → List (ScriptText × WrittenValue)
  | [] => []
  | (name, value) :: members => (name, written value) :: writtenMembers members

end

/-- `JSON.stringify` and `JSON.parse` -/
def scriptLexicon : Lexicon ScriptText JsonNumber where
  string s := escaped (points s)
  number := JsonNumber.text
  readString := readString
  readNumber := readNumber
  readString_string := readString_points
  readNumber_number n _ hends := readNumber_text n hends
  number_head := StableJson.jsonNumber_head

/-- The number, if it is an integer. -/
def integerOf : JsonNumber → Option ℤ
  | .zero => some 0
  | .nonzero negative significand point =>
    if significand.digits.length ≤ point then
      let magnitude : ℤ := digitsValue significand.digits *
        10 ^ (point - significand.digits.length).toNat
      some (if negative then -magnitude else magnitude)
    else none

/-! ### The fields of a request -/

inductive UploadField where
  | dataset
  | orderScope
  | orderScopeTransition
  | enterpriseKey
  | enterpriseName
  | originalFileName
  | mediaType
  | sourceByteSize
  | sourceChecksumSha256
  | idempotencyKey
  | confidentialityLevel
  | historicalSupplementReason
  | startDate
  | endDate
  deriving DecidableEq

def UploadField.text : UploadField → String
  | .dataset => "dataset"
  | .orderScope => "orderScope"
  | .orderScopeTransition => "orderScopeTransition"
  | .enterpriseKey => "enterpriseKey"
  | .enterpriseName => "enterpriseName"
  | .originalFileName => "originalFileName"
  | .mediaType => "mediaType"
  | .sourceByteSize => "sourceByteSize"
  | .sourceChecksumSha256 => "sourceChecksumSha256"
  | .idempotencyKey => "idempotencyKey"
  | .confidentialityLevel => "confidentialityLevel"
  | .historicalSupplementReason => "historicalSupplementReason"
  | .startDate => "startDate"
  | .endDate => "endDate"

def UploadField.name (field : UploadField) : ScriptText := ofString field.text

structure TransitionConfirmation where
  previewId : ScriptText
  confirmationDigest : ScriptText
  deriving DecidableEq

/-- The field values that a body results in. -/
structure UploadFields where
  dataset : PartitionDataset
  orderScope : Option OrderScope
  orderScopeTransition : Option TransitionConfirmation
  enterprise : EnterpriseIdentity
  originalFileName : ScriptText
  mediaType : ScriptText
  sourceByteSize : JsonNumber
  sourceChecksumSha256 : ScriptText
  idempotencyKey : ScriptText
  confidentialityLevel : JsonNumber
  historicalSupplementReason : Option ScriptText
  startDate : ScriptText
  endDate : ScriptText
  deriving DecidableEq

/-! ### `parseCreateBody` -/

def readStringField (members : Members) (field : UploadField) : Option ScriptText :=
  match members.lookup field.name with
  | some (.string s) => some s
  | _ => none

def readNumberField (members : Members) (field : UploadField) : Option JsonNumber :=
  match members.lookup field.name with
  | some (.number (.finite n)) => some n
  | _ => none

def isBlank (s : ScriptText) : Bool := (EvidenceChunks.trim s).isEmpty

def invalidUpload (message : String) : String × String := ("INVALID_PARTITION_UPLOAD", message)

/-- `isPartitionDataset` -/
def datasetOf (name : ScriptText) : Option PartitionDataset :=
  [PartitionDataset.business, .dishes, .inStoreOrders, .takeawayOrders].find? fun dataset =>
    ofString dataset.text = name

def parseDataset (members : Members) : Except (String × String) PartitionDataset :=
  match (readStringField members .dataset).bind datasetOf with
  | some dataset => .ok dataset
  | none => .error (invalidUpload
      "dataset must be business, dishes, in_store_orders, or takeaway_orders.")

/-- `declaredOrderScopeSchema` -/
def declaredOrderScope (name : ScriptText) : Option OrderScope :=
  if name = ofString "settled_only" then some .settledOnly
  else if name = ofString "all_statuses" then some .allStatuses
  else none

def parseOrderScope (members : Members) (dataset : PartitionDataset) :
    Except (String × String) (Option OrderScope) :=
  match members.lookup UploadField.orderScope.name with
  | none => .ok none
  | some _ =>
    match (readStringField members .orderScope).bind declaredOrderScope with
    | some scope =>
      if dataset = .inStoreOrders then .ok (some scope)
      else .error ("INVALID_ORDER_SCOPE",
        "Declare settled_only or all_statuses only for in_store_orders.")
    | none => .error ("INVALID_ORDER_SCOPE",
        "Declare settled_only or all_statuses only for in_store_orders.")

/-- `/^[a-f0-9]{64}$/` -/
def isSha256Hex (s : ScriptText) : Bool :=
  s.length = 64 && s.all fun u =>
    (0x30 ≤ u.toNat && u.toNat ≤ 0x39) || (0x61 ≤ u.toNat && u.toNat ≤ 0x66)

/-- `orderScopeTransitionConfirmationSchema` -/
def readTransition (value : BodyValue) : Option TransitionConfirmation :=
  match value with
  | .object members =>
    match members.lookup (ofString "previewId"), members.lookup (ofString "confirmationDigest") with
    | some (.string previewId), some (.string digest) =>
      if (members.all fun member => member.1 = ofString "previewId" ||
          member.1 = ofString "confirmationDigest") &&
          1 ≤ previewId.length && previewId.length ≤ 32 && isSha256Hex digest then
        some ⟨previewId, digest⟩
      else none
    | _, _ => none
  | _ => none

def invalidTransition : String × String :=
  ("INVALID_ORDER_SCOPE_TRANSITION", "Transition confirmation requires a declared in-store " ++
    "source scope and server preview identity.")

def parseTransition (members : Members) (dataset : PartitionDataset)
    (orderScope : Option OrderScope) :
    Except (String × String) (Option TransitionConfirmation) :=
  match members.lookup UploadField.orderScopeTransition.name with
  | none => .ok none
  | some value =>
    match readTransition value with
    | none => .error invalidTransition
    | some transition =>
      if dataset ≠ .inStoreOrders || orderScope.isNone then .error invalidTransition
      else .ok (some transition)

def parseEnterprise (nfc : String → String) (members : Members) :
    Except (String × String) EnterpriseIdentity :=
  match (readStringField members .enterpriseName).bind (normalizeEnterpriseIdentity nfc) with
  | some enterprise => .ok enterprise
  | none => .error (invalidUpload "enterpriseName is required.")

def validDate (date : ScriptText) : Bool := (readIsoDate (scalars date)).isSome

def parseDates (members : Members) : Except (String × String) (ScriptText × ScriptText) :=
  match readStringField members .startDate, readStringField members .endDate with
  | some startDate, some endDate =>
    if validDate startDate && validDate endDate && !decide (endDate < startDate) then
      .ok (startDate, endDate)
    else .error (invalidUpload "startDate and endDate must be a valid inclusive date range.")
  | _, _ => .error (invalidUpload "startDate and endDate must be a valid inclusive date range.")

/-- A string that is not blank and has a form, without the blanks around it. -/
def parseTrimmed (members : Members) (field : UploadField) (form : ScriptText → Bool)
    (error : String × String) : Except (String × String) ScriptText :=
  match readStringField members field with
  | some value =>
    if !isBlank value && form value then .ok (EvidenceChunks.trim value) else .error error
  | none => .error error

/-- `/\.(csv|xlsx)$/i` -/
def isTableFile (name : ScriptText) : Bool :=
  (ofString ".csv").isSuffixOf (EnterpriseNames.asciiLowercase name) ||
    (ofString ".xlsx").isSuffixOf (EnterpriseNames.asciiLowercase name)

def parseSourceByteSize (maxSourceBytes : ℤ) (members : Members) :
    Except (String × String) JsonNumber :=
  match readNumberField members .sourceByteSize with
  | some size =>
    if (integerOf size).any fun n => 0 < n && n ≤ 2 ^ 53 - 1 && n ≤ maxSourceBytes then .ok size
    else .error ("PARTITION_LIMIT_EXCEEDED",
      s!"sourceByteSize must be between 1 and {maxSourceBytes}.")
  | none => .error ("PARTITION_LIMIT_EXCEEDED",
      s!"sourceByteSize must be between 1 and {maxSourceBytes}.")

def parseChecksum (members : Members) : Except (String × String) ScriptText :=
  match readStringField members .sourceChecksumSha256 with
  | some checksum =>
    if isSha256Hex checksum then .ok checksum
    else .error (invalidUpload "sourceChecksumSha256 must be lowercase SHA-256 hex.")
  | none => .error (invalidUpload "sourceChecksumSha256 must be lowercase SHA-256 hex.")

def invalidLevel : String × String :=
  ("INVALID_CONFIDENTIALITY_LEVEL", "confidentialityLevel must be an integer from 0 through 3.")

/-- `body.confidentialityLevel ?? 0` -/
def parseLevel (members : Members) : Except (String × String) JsonNumber :=
  match members.lookup UploadField.confidentialityLevel.name with
  | none | some .null => .ok .zero
  | some (.number (.finite level)) =>
    if (integerOf level).any fun n => 0 ≤ n && n ≤ 3 then .ok level else .error invalidLevel
  | some _ => .error invalidLevel

def parseReason (members : Members) : Except (String × String) (Option ScriptText) :=
  match members.lookup UploadField.historicalSupplementReason.name with
  | none => .ok none
  | some _ => (parseTrimmed members .historicalSupplementReason (fun s => s.length ≤ 2048)
      ("RESOURCE_HISTORICAL_REASON_REQUIRED",
        "Historical supplementation requires a nonempty reason.")).map some

/-- The checks of `parseCreateBody`, in their order, and the fields it normalizes. -/
def parseFields (nfc : String → String) (maxSourceBytes : ℤ) (members : Members) :
    Except (String × String) UploadFields := do
  let dataset ← parseDataset members
  let orderScope ← parseOrderScope members dataset
  let orderScopeTransition ← parseTransition members dataset orderScope
  let enterprise ← parseEnterprise nfc members
  let dates ← parseDates members
  let originalFileName ← parseTrimmed members .originalFileName isTableFile
    (invalidUpload "originalFileName must be CSV or XLSX.")
  let mediaType ← parseTrimmed members .mediaType (fun _ => true)
    (invalidUpload "mediaType is required.")
  let sourceByteSize ← parseSourceByteSize maxSourceBytes members
  let sourceChecksumSha256 ← parseChecksum members
  let idempotencyKey ← parseTrimmed members .idempotencyKey (fun s => s.length ≤ 255)
    (invalidUpload "idempotencyKey is required and must be at most 255 characters.")
  let confidentialityLevel ← parseLevel members
  let historicalSupplementReason ← parseReason members
  return {
    dataset, orderScope, orderScopeTransition, enterprise, originalFileName, mediaType,
    sourceByteSize, sourceChecksumSha256, idempotencyKey, confidentialityLevel,
    historicalSupplementReason, startDate := dates.1, endDate := dates.2 }

/-! ### The normalized body and its digest -/

def scopeText : OrderScope → String
  | .settledOnly => "settled_only"
  | .allStatuses => "all_statuses"
  | .legacyUnknown => "legacy_unknown"

def TransitionConfirmation.value (transition : TransitionConfirmation) : BodyValue :=
  .object [(ofString "previewId", .string transition.previewId),
    (ofString "confirmationDigest", .string transition.confirmationDigest)]

/-- What a field is set to; `none` is `undefined`. -/
def UploadFields.value (fields : UploadFields) : UploadField → Option BodyValue
  | .dataset => some (.string (ofString fields.dataset.text))
  | .orderScope => fields.orderScope.map fun scope => .string (ofString (scopeText scope))
  | .orderScopeTransition => fields.orderScopeTransition.map (·.value)
  | .enterpriseKey => some (.string fields.enterprise.enterpriseKey)
  | .enterpriseName => some (.string fields.enterprise.enterpriseName)
  | .originalFileName => some (.string fields.originalFileName)
  | .mediaType => some (.string fields.mediaType)
  | .sourceByteSize => some (.number (.finite fields.sourceByteSize))
  | .sourceChecksumSha256 => some (.string fields.sourceChecksumSha256)
  | .idempotencyKey => some (.string fields.idempotencyKey)
  | .confidentialityLevel => some (.number (.finite fields.confidentialityLevel))
  | .historicalSupplementReason => fields.historicalSupplementReason.map .string
  | .startDate => some (.string fields.startDate)
  | .endDate => some (.string fields.endDate)

/-- The order in which the fields are written over the body. -/
def fieldOrder : List UploadField :=
  [.dataset, .orderScope, .orderScopeTransition, .enterpriseKey, .enterpriseName,
    .originalFileName, .mediaType, .sourceByteSize, .sourceChecksumSha256, .idempotencyKey,
    .confidentialityLevel, .historicalSupplementReason, .startDate, .endDate]

/-- The members that are written over the body; a reason only where there is one. -/
def UploadFields.assignments (fields : UploadFields) : List (ScriptText × Option BodyValue) :=
  (fieldOrder.filter fun field =>
    field ≠ .historicalSupplementReason ∨ fields.historicalSupplementReason.isSome).map
      fun field => (field.name, fields.value field)

/-- `{ ...body, dataset, …, endDate }` -/
def UploadFields.over (fields : UploadFields) (members : Members) :
    List (ScriptText × Option BodyValue) :=
  assignAll (members.map fun member => (member.1, some member.2)) fields.assignments

/-- The members that `JSON.stringify` writes. -/
def stringified (members : List (ScriptText × Option BodyValue)) :
    List (ScriptText × WrittenValue) :=
  members.filterMap fun member => member.2.map fun value => (member.1, written value)

/-- The text of which `sha256` makes the fingerprint of a request. -/
def fingerprintText (fields : UploadFields) (members : Members) : Text :=
  scriptLexicon.print (.object (stringified (fields.over members)))

/-- A request whose body was accepted. -/
structure UploadRequest (nfc : String → String) (maxSourceBytes : ℤ) where
  members : Members
  fields : UploadFields
  accepted : parseFields nfc maxSourceBytes members = .ok fields

/-- `parseCreateBody` of a body that is a record. -/
def parseCreateBody (nfc : String → String) (maxSourceBytes : ℤ) (body : BodyValue) :
    Except (String × String) (UploadRequest nfc maxSourceBytes) :=
  match body with
  | .object members =>
    match h : parseFields nfc maxSourceBytes members with
    | .ok fields => .ok ⟨members, fields, h⟩
    | .error error => .error error
  | _ => .error (invalidUpload
      "dataset must be business, dishes, in_store_orders, or takeaway_orders.")

/-! ### Reservation -/

/-- What the route adds to a request. -/
structure UploadSession where
  id : String
  orgId : String
  uploaderId : String
  expiresAt : ℕ
  temporaryObjectKey : ObjectKey
  multipartUploadId : String

section

variable {nfc : String → String} {maxSourceBytes : ℤ} (sha256 : Text → String)

def reserveInput (session : UploadSession) (request : UploadRequest nfc maxSourceBytes) :
    ReserveUploadInput where
  id := session.id
  orgId := session.orgId
  uploaderId := session.uploaderId
  dataset := request.fields.dataset
  orderScope := request.fields.orderScope
  enterpriseKey := stored request.fields.enterprise.enterpriseKey
  enterpriseName := stored request.fields.enterprise.enterpriseName
  confidentialityLevel := ((integerOf request.fields.confidentialityLevel).getD 0).toNat
  idempotencyKey := stored request.fields.idempotencyKey
  requestFingerprint := sha256 (fingerprintText request.fields request.members)
  sourceChecksumSha256 := stored request.fields.sourceChecksumSha256
  sourceStartDate := stored request.fields.startDate
  sourceEndDate := stored request.fields.endDate
  expiresAt := session.expiresAt
  temporaryObjectKey := session.temporaryObjectKey
  multipartUploadId := session.multipartUploadId

/-- The job of an idempotency key. -/
def jobOf (db : Database) (orgId idempotencyKey : String) : Option (String × PartitionImportJob) :=
  (db.partitionImportJobs.findMany fun _ job => job.orgId = orgId &&
    job.idempotencyKey = idempotencyKey).head?

/-- A reservation and the job it is answered with. -/
def reserve (db : Database) (input : ReserveUploadInput) (refused : Option String) :
    Except WorkerError (Database × Option (String × PartitionImportJob)) := do
  let db ← db.reserveUpload input refused
  return (db, jobOf db input.orgId input.idempotencyKey)

end

/-! ### What the order of the members says -/

def fieldOf (name : ScriptText) : Option UploadField :=
  fieldOrder.find? fun field => field.name = name

/-- A member of a layout: a field, or a member the request does not know. -/
abbrev Slot := UploadField ⊕ (ScriptText × WrittenValue)

def slotOf (member : ScriptText × BodyValue) : Slot :=
  match fieldOf member.1 with
  | some field => .inl field
  | none => .inr (member.1, written member.2)

/-- The fields of a body by their places and the other members with their values. The key of the
enterprise and the level come last in this order where the body leaves them out. -/
def layout (members : Members) : List Slot :=
  members.map slotOf ++
    ([UploadField.enterpriseKey, .confidentialityLevel].filter fun field =>
      field.name ∉ members.map Prod.fst).map .inl

/-! ### Which fields a body has -/

lemma fieldOf_name (field : UploadField) : fieldOf field.name = some field := by
  cases field <;> decide +kernel

lemma mem_fieldOrder (field : UploadField) : field ∈ fieldOrder := by
  cases field <;> decide

lemma name_injective : Function.Injective UploadField.name := by
  intro field other h
  have hfields := congrArg fieldOf h
  rw [fieldOf_name, fieldOf_name] at hfields
  exact Option.some.inj hfields

lemma name_of_fieldOf {name : ScriptText} {field : UploadField} (h : fieldOf name = some field) :
    field.name = name := by
  have hfound := List.find?_some h
  exact of_decide_eq_true hfound

section

variable {members : Members} {fields : UploadFields} {field : UploadField}

/-- The members that are fields of the request. -/
def Has (members : Members) (field : UploadField) : Prop := field.name ∈ members.map Prod.fst

lemma has_of_lookup {value : BodyValue} (h : members.lookup field.name = some value) :
    Has members field := by
  by_contra hnot
  have hnone : members.lookup field.name = none := by
    rw [List.lookup_eq_none_iff]
    intro member hmember
    rw [bne_iff_ne]
    intro heq
    refine hnot ?_
    rw [Has, heq]
    exact List.mem_map_of_mem hmember
  rw [hnone] at h
  cases h

lemma not_has_of_lookup (h : members.lookup field.name = none) : ¬ Has members field := by
  intro hmem
  obtain ⟨member, hmember, hname⟩ := List.mem_map.mp hmem
  have hne := List.lookup_eq_none_iff.mp h member hmember
  rw [bne_iff_ne] at hne
  exact hne hname.symm

variable {s : ScriptText}

lemma has_of_readStringField (h : readStringField members field = some s) : Has members field := by
  unfold readStringField at h
  split at h
  · next hlookup => exact has_of_lookup hlookup
  · cases h

lemma has_of_bind {α : Type} {f : ScriptText → Option α} {a : α}
    (h : (readStringField members field).bind f = some a) : Has members field := by
  obtain ⟨s, hs, -⟩ := Option.bind_eq_some_iff.mp h
  exact has_of_readStringField hs

lemma has_of_parseTrimmed {form : ScriptText → Bool} {error : String × String}
    (h : parseTrimmed members field form error = .ok s) : Has members field := by
  unfold parseTrimmed at h
  split at h
  · next hread => exact has_of_readStringField hread
  · cases h

variable {dataset : PartitionDataset}

lemma parseDataset_ok (h : parseDataset members = .ok dataset) : Has members .dataset := by
  unfold parseDataset at h
  split at h
  · next hread => exact has_of_bind hread
  · cases h

lemma parseOrderScope_ok {scope : Option OrderScope}
    (h : parseOrderScope members dataset = .ok scope) :
    (Has members .orderScope ↔ scope.isSome = true) ∧
      (scope.isSome = true → dataset = .inStoreOrders ∧ scope ≠ some .legacyUnknown) := by
  unfold parseOrderScope at h
  split at h
  · next hnone =>
    cases h
    exact ⟨⟨fun hhas => absurd hhas (not_has_of_lookup hnone), nofun⟩, nofun⟩
  · next hsome =>
    split at h
    · next scope hread =>
      split_ifs at h with hdataset
      cases h
      refine ⟨⟨fun _ => rfl, fun _ => has_of_lookup hsome⟩, fun _ => ⟨hdataset, ?_⟩⟩
      rintro ⟨⟩
      obtain ⟨s, -, hs⟩ := Option.bind_eq_some_iff.mp hread
      unfold declaredOrderScope at hs
      split_ifs at hs
      · cases hs
      · cases hs
    · cases h

lemma parseTransition_ok {scope : Option OrderScope} {transition : Option TransitionConfirmation}
    (h : parseTransition members dataset scope = .ok transition) :
    Has members .orderScopeTransition ↔ transition.isSome = true := by
  unfold parseTransition at h
  split at h
  · next hnone =>
    cases h
    exact ⟨fun hhas => absurd hhas (not_has_of_lookup hnone), nofun⟩
  · next hsome =>
    split at h
    · cases h
    · split_ifs at h
      cases h
      exact ⟨fun _ => rfl, fun _ => has_of_lookup hsome⟩

lemma parseEnterprise_ok {nfc : String → String} {enterprise : EnterpriseIdentity}
    (h : parseEnterprise nfc members = .ok enterprise) : Has members .enterpriseName := by
  unfold parseEnterprise at h
  split at h
  · next hread => exact has_of_bind hread
  · cases h

lemma parseDates_ok {dates : ScriptText × ScriptText} (h : parseDates members = .ok dates) :
    Has members .startDate ∧ Has members .endDate := by
  unfold parseDates at h
  split at h
  · next hstart hend => exact ⟨has_of_readStringField hstart, has_of_readStringField hend⟩
  · cases h

lemma parseSourceByteSize_ok {maxSourceBytes : ℤ} {size : JsonNumber}
    (h : parseSourceByteSize maxSourceBytes members = .ok size) : Has members .sourceByteSize := by
  unfold parseSourceByteSize at h
  split at h
  · next hread =>
    unfold readNumberField at hread
    split at hread
    · next hlookup => exact has_of_lookup hlookup
    · cases hread
  · cases h

lemma parseChecksum_ok {checksum : ScriptText} (h : parseChecksum members = .ok checksum) :
    Has members .sourceChecksumSha256 := by
  unfold parseChecksum at h
  split at h
  · next hread => exact has_of_readStringField hread
  · cases h

lemma parseLevel_ok {level : JsonNumber} (h : parseLevel members = .ok level) :
    ∃ n, integerOf level = some n ∧ 0 ≤ n ∧ n ≤ 3 := by
  unfold parseLevel at h
  split at h
  · cases h
    exact ⟨0, rfl, by decide, by decide⟩
  · cases h
    exact ⟨0, rfl, by decide, by decide⟩
  · split_ifs at h with hlevel
    cases h
    cases hn : integerOf level with
    | none =>
      rw [hn] at hlevel
      cases hlevel
    | some n =>
      rw [hn, Option.any_some, Bool.and_eq_true, decide_eq_true_eq, decide_eq_true_eq] at hlevel
      exact ⟨n, rfl, hlevel⟩
  · cases h

lemma parseReason_ok {reason : Option ScriptText} (h : parseReason members = .ok reason) :
    Has members .historicalSupplementReason ↔ reason.isSome = true := by
  unfold parseReason at h
  split at h
  · next hnone =>
    cases h
    exact ⟨fun hhas => absurd hhas (not_has_of_lookup hnone), nofun⟩
  · next hsome =>
    cases hparse : parseTrimmed members .historicalSupplementReason (fun s => s.length ≤ 2048)
        ("RESOURCE_HISTORICAL_REASON_REQUIRED",
          "Historical supplementation requires a nonempty reason.") with
    | error error =>
      rw [hparse] at h
      cases h
    | ok s =>
      rw [hparse] at h
      cases h
      exact ⟨fun _ => rfl, fun _ => has_of_lookup hsome⟩

/-- What is known of a body that was accepted: a field is set just where the body has it, but for
the two that are set always; and the repository does not refuse it for its scope or its level. -/
structure Accepted (members : Members) (fields : UploadFields) : Prop where
  has : ∀ field, field ≠ .enterpriseKey → field ≠ .confidentialityLevel →
    (Has members field ↔ (fields.value field).isSome = true)
  scope : validateOrderScopeDataset fields.dataset fields.orderScope = true
  level : ((integerOf fields.confidentialityLevel).getD 0).toNat ≤ 3

lemma accepted_of_parseFields {nfc : String → String} {maxSourceBytes : ℤ}
    (h : parseFields nfc maxSourceBytes members = .ok fields) : Accepted members fields := by
  unfold parseFields at h
  obtain ⟨dataset, hdataset, h⟩ := bind_ok.mp h
  obtain ⟨orderScope, hscope, h⟩ := bind_ok.mp h
  obtain ⟨transition, htransition, h⟩ := bind_ok.mp h
  obtain ⟨enterprise, henterprise, h⟩ := bind_ok.mp h
  obtain ⟨dates, hdates, h⟩ := bind_ok.mp h
  obtain ⟨originalFileName, hname, h⟩ := bind_ok.mp h
  obtain ⟨mediaType, hmedia, h⟩ := bind_ok.mp h
  obtain ⟨size, hsize, h⟩ := bind_ok.mp h
  obtain ⟨checksum, hchecksum, h⟩ := bind_ok.mp h
  obtain ⟨idempotencyKey, hkey, h⟩ := bind_ok.mp h
  obtain ⟨level, hlevel, h⟩ := bind_ok.mp h
  obtain ⟨reason, hreason, h⟩ := bind_ok.mp h
  obtain rfl := pure_ok.mp h
  refine ⟨?_, ?_, ?_⟩
  · intro field hne hne'
    cases field with
    | dataset => exact iff_of_true (parseDataset_ok hdataset) rfl
    | orderScope => exact (parseOrderScope_ok hscope).1.trans (by simp [UploadFields.value])
    | orderScopeTransition =>
      exact (parseTransition_ok htransition).trans (by simp [UploadFields.value])
    | enterpriseKey => exact absurd rfl hne
    | enterpriseName => exact iff_of_true (parseEnterprise_ok henterprise) rfl
    | originalFileName => exact iff_of_true (has_of_parseTrimmed hname) rfl
    | mediaType => exact iff_of_true (has_of_parseTrimmed hmedia) rfl
    | sourceByteSize => exact iff_of_true (parseSourceByteSize_ok hsize) rfl
    | sourceChecksumSha256 => exact iff_of_true (parseChecksum_ok hchecksum) rfl
    | idempotencyKey => exact iff_of_true (has_of_parseTrimmed hkey) rfl
    | confidentialityLevel => exact absurd rfl hne'
    | historicalSupplementReason =>
      exact (parseReason_ok hreason).trans (by simp [UploadFields.value])
    | startDate => exact iff_of_true (parseDates_ok hdates).1 rfl
    | endDate => exact iff_of_true (parseDates_ok hdates).2 rfl
  · have hdeclared := (parseOrderScope_ok hscope).2
    cases orderScope with
    | none => rfl
    | some scope =>
      obtain ⟨rfl, hne⟩ := hdeclared rfl
      rw [validateOrderScopeDataset]
      simpa using hne
  · obtain ⟨n, hn, hlow, hhigh⟩ := parseLevel_ok hlevel
    dsimp only
    rw [hn]
    dsimp only [Option.getD_some]
    omega

/-! ### The text says the layout and the fields -/

/-- The member that is written for a slot. -/
def fill (fields : UploadFields) : Slot → ScriptText × WrittenValue
  | .inl field => (field.name, ((fields.value field).map written).getD .null)
  | .inr member => member

/-- The slot of a member that is written. -/
def writtenSlot (member : ScriptText × WrittenValue) : Slot :=
  match fieldOf member.1 with
  | some field => .inl field
  | none => .inr member

lemma names_assignments (fields : UploadFields) :
    (fields.assignments.map Prod.fst).Nodup := by
  have horder : fieldOrder.Nodup := by decide
  rw [UploadFields.assignments, List.map_map]
  exact (horder.filter _).map name_injective

lemma isSome_always (fields : UploadFields) {field : UploadField}
    (h : field = .enterpriseKey ∨ field = .confidentialityLevel) :
    (fields.value field).isSome = true := by
  rcases h with rfl | rfl
  · rfl
  · rfl

lemma Accepted.isSome (h : Accepted members fields) (hhas : Has members field) :
    (fields.value field).isSome = true := by
  by_cases hkey : field = .enterpriseKey
  · exact isSome_always fields (.inl hkey)
  · by_cases hlevel : field = .confidentialityLevel
    · exact isSome_always fields (.inr hlevel)
    · exact (h.has field hkey hlevel).mp hhas

lemma Accepted.written_member (h : Accepted members fields) {member : ScriptText × BodyValue}
    (hmember : member ∈ members) :
    ((fields.assignments.lookup member.1).getD (some member.2)).map
      (fun value => (member.1, written value)) = some (fill fields (slotOf member)) := by
  unfold slotOf
  cases hfield : fieldOf member.1 with
  | some field =>
    have hname := name_of_fieldOf hfield
    have hhas : Has members field := by
      rw [Has, hname]
      exact List.mem_map_of_mem hmember
    obtain ⟨value, hvalue⟩ := Option.isSome_iff_exists.mp (h.isSome hhas)
    have hentry : (field.name, fields.value field) ∈ fields.assignments := by
      refine List.mem_map.mpr ⟨field, List.mem_filter.mpr ⟨mem_fieldOrder field, ?_⟩, rfl⟩
      rw [decide_eq_true_eq]
      by_cases hreason : field = .historicalSupplementReason
      · subst hreason
        right
        simpa [UploadFields.value] using h.isSome hhas
      · exact .inl hreason
    have hlookup : fields.assignments.lookup field.name = some (fields.value field) :=
      lookup_of_mem (names_assignments fields) hentry
    rw [← hname, hlookup, Option.getD_some, hvalue, Option.map_some]
    simp [fill, hvalue]
  | none =>
    have hlookup : fields.assignments.lookup member.1 = none := by
      apply lookup_none
      intro hmem
      obtain ⟨entry, hentry, hname⟩ := List.mem_map.mp hmem
      obtain ⟨field, -, rfl⟩ := List.mem_map.mp hentry
      rw [← hname, fieldOf_name] at hfield
      cases hfield
    rw [hlookup, Option.getD_none, Option.map_some]
    rfl

lemma Accepted.written_missing (h : Accepted members fields) :
    stringified (fields.assignments.filter fun entry => entry.1 ∉ members.map Prod.fst) =
      (([UploadField.enterpriseKey, .confidentialityLevel].filter fun field =>
        field.name ∉ members.map Prod.fst).map .inl).map (fill fields) := by
  have halways : [UploadField.enterpriseKey, .confidentialityLevel] =
      fieldOrder.filter fun field => field = .enterpriseKey ∨ field = .confidentialityLevel := by
    decide
  rw [stringified, UploadFields.assignments, List.filter_map, List.filterMap_map,
    List.filterMap_filter, List.filterMap_filter, List.map_map, halways,
    ← @List.filterMap_eq_map _ _ (fill fields ∘ .inl), List.filterMap_filter,
    List.filterMap_filter]
  apply List.filterMap_congr
  intro field _
  by_cases hset : field = .enterpriseKey ∨ field = .confidentialityLevel
  · have hreason : field ≠ .historicalSupplementReason := by
      rintro rfl
      simp at hset
    obtain ⟨value, hvalue⟩ := Option.isSome_iff_exists.mp (isSome_always fields hset)
    simp [hset, hreason, hvalue, fill]
  · rw [not_or] at hset
    by_cases hhas : field.name ∈ members.map Prod.fst
    · simp [hset, hhas]
    · have hnone : fields.value field = none := by
        rw [← Option.not_isSome_iff_eq_none]
        intro hsome
        exact hhas ((h.has field hset.1 hset.2).mpr hsome)
      simp [hset, hnone]

lemma Accepted.stringified_eq (h : Accepted members fields) :
    stringified (fields.over members) = (layout members).map (fill fields) := by
  rw [UploadFields.over, assignAll_eq (names_assignments fields), stringified,
    List.filterMap_append]
  have hnames : (members.map fun member => (member.1, some member.2)).map Prod.fst =
      members.map Prod.fst := by
    rw [List.map_map]
    rfl
  rw [hnames, layout, List.map_append, ← h.written_missing]
  congr 1
  rw [List.map_map, List.map_map, List.filterMap_map, ← List.filterMap_eq_map]
  apply List.filterMap_congr
  intro member hmember
  exact h.written_member hmember

lemma writtenSlot_fill (fields : UploadFields) {slot : Slot} (h : slot ∈ layout members) :
    writtenSlot (fill fields slot) = slot := by
  cases slot with
  | inl field =>
    unfold writtenSlot fill
    rw [fieldOf_name]
  | inr member =>
    rcases List.mem_append.mp h with h | h
    · obtain ⟨own, -, hown⟩ := List.mem_map.mp h
      unfold slotOf at hown
      split at hown
      · cases hown
      · next hnone =>
        cases hown
        unfold writtenSlot fill
        rw [hnone]
    · obtain ⟨field, -, hfield⟩ := List.mem_map.mp h
      cases hfield

lemma Accepted.layout_eq (h : Accepted members fields) :
    (stringified (fields.over members)).map writtenSlot = layout members := by
  rw [h.stringified_eq, List.map_map]
  refine (List.map_congr_left fun slot hslot => ?_).trans (List.map_id _)
  exact writtenSlot_fill fields hslot

lemma inl_mem_layout : .inl field ∈ layout members ↔
    Has members field ∨ field = .enterpriseKey ∨ field = .confidentialityLevel := by
  constructor
  · intro h
    rcases List.mem_append.mp h with h | h
    · obtain ⟨member, hmember, hslot⟩ := List.mem_map.mp h
      unfold slotOf at hslot
      split at hslot
      · next hfield =>
        cases hslot
        left
        rw [Has, name_of_fieldOf hfield]
        exact List.mem_map_of_mem hmember
      · cases hslot
    · obtain ⟨other, hother, heq⟩ := List.mem_map.mp h
      cases heq
      exact .inr (by simpa using (List.mem_filter.mp hother).1)
  · intro h
    by_cases hhas : Has members field
    · obtain ⟨member, hmember, hname⟩ := List.mem_map.mp hhas
      refine List.mem_append_left _ (List.mem_map.mpr ⟨member, hmember, ?_⟩)
      rw [slotOf, hname, fieldOf_name]
    · have hfield := h.resolve_left hhas
      refine List.mem_append_right _ (List.mem_map_of_mem (List.mem_filter.mpr ⟨?_, ?_⟩))
      · simpa using hfield
      · exact decide_eq_true hhas

lemma Accepted.mem_stringified (h : Accepted members fields) {value : WrittenValue} :
    (field.name, value) ∈ stringified (fields.over members) ↔
      (fields.value field).map written = some value := by
  have hset : .inl field ∈ layout members ↔ (fields.value field).isSome = true := by
    rw [inl_mem_layout]
    constructor
    · rintro (hhas | halways)
      · exact h.isSome hhas
      · exact isSome_always fields halways
    · intro hsome
      by_cases halways : field = .enterpriseKey ∨ field = .confidentialityLevel
      · exact .inr halways
      · rw [not_or] at halways
        exact .inl ((h.has field halways.1 halways.2).mpr hsome)
  rw [h.stringified_eq]
  constructor
  · intro hmem
    obtain ⟨slot, hslot, hfill⟩ := List.mem_map.mp hmem
    have hwritten := writtenSlot_fill fields hslot
    rw [hfill, writtenSlot, fieldOf_name] at hwritten
    subst hwritten
    obtain ⟨own, hown⟩ := Option.isSome_iff_exists.mp (hset.mp hslot)
    rw [fill, hown] at hfill
    rw [hown]
    exact congrArg some (Prod.mk.inj hfill).2
  · intro hvalue
    obtain ⟨own, hown, hwritten⟩ := Option.map_eq_some_iff.mp hvalue
    refine List.mem_map.mpr ⟨.inl field, hset.mpr (by rw [hown]; rfl), ?_⟩
    rw [fill, hown, Option.map_some, hwritten]
    rfl

lemma ofString_injective : Function.Injective ofString := by
  intro s t h
  rw [← stored_ofString s, h, stored_ofString]

lemma written_string {t : ScriptText} (h : written (.string s) = written (.string t)) : s = t := by
  simp only [written, Value.string.injEq] at h
  exact h

lemma written_number {m n : JsonNumber}
    (h : written (.number (.finite m)) = written (.number (.finite n))) : m = n := by
  simp only [written, Value.number.injEq] at h
  exact h

lemma written_transition {transition other : TransitionConfirmation}
    (h : written transition.value = written other.value) : transition = other := by
  obtain ⟨previewId, digest⟩ := transition
  obtain ⟨previewId', digest'⟩ := other
  simp only [TransitionConfirmation.value, written, writtenMembers, Value.object.injEq,
    List.cons.injEq, Prod.mk.injEq, Value.string.injEq, true_and, and_true] at h
  rw [h.1, h.2]

lemma text_injective : Function.Injective PartitionDataset.text := by
  intro dataset other h
  cases dataset <;> cases other <;> first | rfl | exact absurd h (by decide)

lemma scopeText_injective : Function.Injective scopeText := by
  intro scope other h
  cases scope <;> cases other <;> first | rfl | exact absurd h (by decide)

lemma optional_inj {α : Type} {f : α → BodyValue}
    (hf : ∀ a b, written (f a) = written (f b) → a = b) {x y : Option α}
    (h : (x.map f).map written = (y.map f).map written) : x = y := by
  rw [Option.map_map, Option.map_map] at h
  exact Option.map_injective (fun a b => hf a b) h

lemma fields_of_values {other : UploadFields}
    (h : ∀ field, (fields.value field).map written = (other.value field).map written) :
    fields = other := by
  have hstring {s t : ScriptText} (hst : (some (Value.string s : BodyValue)).map written =
      (some (.string t)).map written) : s = t := written_string (Option.some.inj hst)
  have hnumber {m n : JsonNumber} (hmn : (some (Value.number (.finite m) : BodyValue)).map written =
      (some (.number (.finite n))).map written) : m = n := written_number (Option.some.inj hmn)
  have hdataset := text_injective (ofString_injective (hstring (h .dataset)))
  have hscope : fields.orderScope = other.orderScope :=
    optional_inj (fun scope scope' heq =>
      scopeText_injective (ofString_injective (written_string heq))) (h .orderScope)
  have htransition : fields.orderScopeTransition = other.orderScopeTransition :=
    optional_inj (fun _ _ => written_transition) (h .orderScopeTransition)
  have hreason : fields.historicalSupplementReason = other.historicalSupplementReason :=
    optional_inj (fun _ _ => written_string) (h .historicalSupplementReason)
  have hkey := hstring (h .enterpriseKey)
  have hname := hstring (h .enterpriseName)
  have hfile := hstring (h .originalFileName)
  have hmedia := hstring (h .mediaType)
  have hsize := hnumber (h .sourceByteSize)
  have hchecksum := hstring (h .sourceChecksumSha256)
  have hidempotency := hstring (h .idempotencyKey)
  have hlevel := hnumber (h .confidentialityLevel)
  have hstart := hstring (h .startDate)
  have hend := hstring (h .endDate)
  have henterprise : fields.enterprise = other.enterprise := by
    cases hidentity : fields.enterprise
    cases hidentity' : other.enterprise
    rw [hidentity, hidentity'] at hkey hname
    exact congrArg₂ EnterpriseIdentity.mk hkey hname
  cases fields
  cases other
  simp_all

/-- Two accepted bodies have one text just when they have one layout and result in one set of
fields. -/
lemma fingerprintText_iff {others : Members} {other : UploadFields}
    (h : Accepted members fields) (h' : Accepted others other) :
    fingerprintText fields members = fingerprintText other others ↔
      fields = other ∧ layout members = layout others := by
  constructor
  · intro htext
    have hobjects := scriptLexicon.print_injective htext
    simp only [Value.object.injEq] at hobjects
    refine ⟨fields_of_values fun field => ?_, ?_⟩
    · apply Option.ext
      intro value
      rw [← h.mem_stringified, ← h'.mem_stringified, hobjects]
    · rw [← h.layout_eq, ← h'.layout_eq, hobjects]
  · rintro ⟨rfl, hlayout⟩
    rw [fingerprintText, fingerprintText, h.stringified_eq, h'.stringified_eq, hlayout]

end

/-! ### Answers -/

section

variable {nfc : String → String} {maxSourceBytes : ℤ} {sha256 : Text → String}
  {db later : Database} {session : UploadSession} {request : UploadRequest nfc maxSourceBytes}

lemma reserve_standing {input : ReserveUploadInput} {id : String} {job : PartitionImportJob}
    (refused : Option String)
    (hscope : validateOrderScopeDataset input.dataset input.orderScope = true)
    (hlevel : input.confidentialityLevel ≤ 3)
    (hjob : jobOf db input.orgId input.idempotencyKey = some (id, job)) :
    reserve db input refused =
      if job.requestFingerprint = input.requestFingerprint ∧ job.uploaderId = input.uploaderId then
        .ok (db, some (id, job))
      else .error (.thrown "IDEMPOTENCY_KEY_REUSED") := by
  have hfound := hjob
  unfold jobOf at hfound
  unfold reserve Database.reserveUpload
  rw [hscope, if_neg (by simp), if_neg (by omega), hfound]
  dsimp only
  by_cases hsame : job.requestFingerprint = input.requestFingerprint ∧
      job.uploaderId = input.uploaderId
  · have hfirst : ¬(job.requestFingerprint ≠ input.requestFingerprint ∨
        job.uploaderId ≠ input.uploaderId) := by
      rw [not_or, not_not, not_not]
      exact hsame
    rw [if_neg hfirst, if_pos hsame]
    exact congrArg (fun job => Except.ok (db, job)) hjob
  · have hfirst : job.requestFingerprint ≠ input.requestFingerprint ∨
        job.uploaderId ≠ input.uploaderId := by
      rw [not_and_or] at hsame
      exact hsame
    rw [if_pos hfirst, if_neg hsame]
    rfl

variable {answer : Option (String × PartitionImportJob)}

variable {input : ReserveUploadInput} {refused : Option String}

lemma reserve_new (hjob : jobOf db input.orgId input.idempotencyKey = none)
    (h : reserve db input refused = .ok (later, answer)) :
    ∃ job, jobOf later input.orgId input.idempotencyKey = some (input.id, job) ∧
      job.requestFingerprint = input.requestFingerprint ∧ job.uploaderId = input.uploaderId := by
  have hnone : (db.partitionImportJobs.findMany fun _ job => job.orgId = input.orgId &&
      job.idempotencyKey = input.idempotencyKey) = [] := List.head?_eq_none_iff.mp hjob
  obtain ⟨db', hreserved, hanswer⟩ := bind_ok.mp h
  obtain ⟨rfl, -⟩ := Prod.mk.inj (pure_ok.mp hanswer)
  unfold Database.reserveUpload at hreserved
  split_ifs at hreserved
  rw [hnone] at hreserved
  dsimp only [List.head?_nil] at hreserved
  split at hreserved
  · cases hreserved
  · obtain ⟨jobs, hjobs, hdb⟩ := bind_ok.mp hreserved
    obtain rfl := pure_ok.mp hdb
    have hcreate := createOrThrow_eq_ok.mp hjobs
    have hself (id : String) := Table.lookup_create hcreate id
    cases hhead : jobOf { db with partitionImportJobs := jobs } input.orgId
        input.idempotencyKey with
    | none =>
      have hempty := List.head?_eq_none_iff.mp hhead
      have hrow := (hself input.id).trans (if_pos rfl)
      have hmem := (@Table.mem_findMany _ _ _ jobs (fun _ job => job.orgId = input.orgId &&
        job.idempotencyKey = input.idempotencyKey) input.id _).mpr ⟨hrow, by simp⟩
      rw [hempty] at hmem
      cases hmem
    | some entry =>
      obtain ⟨id, job⟩ := entry
      obtain ⟨hlookup, hmatch⟩ := Table.mem_findMany.mp (List.mem_of_mem_head? hhead)
      rw [hself id] at hlookup
      split_ifs at hlookup with hid
      · subst hid
        cases hlookup
        exact ⟨_, rfl, rfl, rfl⟩
      · have hold : (id, job) ∈ db.partitionImportJobs.findMany fun _ job =>
            job.orgId = input.orgId && job.idempotencyKey = input.idempotencyKey :=
          Table.mem_findMany.mpr ⟨hlookup, hmatch⟩
        rw [hnone] at hold
        cases hold

lemma reserve_answer (h : reserve db input refused = .ok (later, answer)) :
    answer = jobOf later input.orgId input.idempotencyKey := by
  obtain ⟨db', -, hanswer⟩ := bind_ok.mp h
  obtain ⟨rfl, rfl⟩ := Prod.mk.inj (pure_ok.mp hanswer)
  rfl

lemma reserve_ok (hscope : validateOrderScopeDataset input.dataset input.orderScope = true)
    (hlevel : input.confidentialityLevel ≤ 3) (h : reserve db input refused = .ok (later, answer)) :
    ∃ id job, answer = some (id, job) ∧ job.requestFingerprint = input.requestFingerprint ∧
      job.uploaderId = input.uploaderId := by
  cases hjob : jobOf db input.orgId input.idempotencyKey with
  | some found =>
    obtain ⟨id, job⟩ := found
    rw [reserve_standing refused hscope hlevel hjob] at h
    split_ifs at h with hsame
    cases h
    exact ⟨id, job, rfl, hsame⟩
  | none =>
    obtain ⟨job, hlater, hsame⟩ := reserve_new hjob h
    exact ⟨input.id, job, (reserve_answer h).trans hlater, hsame⟩

/-- The answer of a request still stands under its key, whatever else has become of it. -/
def Stands (later : Database) (orgId idempotencyKey : String)
    (answer : Option (String × PartitionImportJob)) (id : String) (job : PartitionImportJob) :
    Prop :=
  jobOf later orgId idempotencyKey = some (id, job) ∧ ∃ first, answer = some (id, first) ∧
    job.requestFingerprint = first.requestFingerprint ∧ job.uploaderId = first.uploaderId

/-- A request with the key and the uploader of an earlier one is answered with its job when the
fields agree, and refused when they do not, just when agreeing fields come in one layout. -/
theorem retry_depends_on_layout {nfc : String → String} {maxSourceBytes : ℤ}
    {sha256 : Text → String} {session session' : UploadSession}
    {a b : UploadRequest nfc maxSourceBytes}
    (hcollision : sha256 (fingerprintText a.fields a.members) =
      sha256 (fingerprintText b.fields b.members) →
        fingerprintText a.fields a.members = fingerprintText b.fields b.members)
    (hsession : session'.orgId = session.orgId ∧ session'.uploaderId = session.uploaderId)
    (hkey : stored b.fields.idempotencyKey = stored a.fields.idempotencyKey)
    {db db' later : Database} {refused refused' : Option String}
    {answer : Option (String × PartitionImportJob)}
    (hfirst : reserve db (reserveInput sha256 session a) refused = .ok (db', answer))
    {id : String} {job : PartitionImportJob}
    (hlater : Stands later session.orgId (stored a.fields.idempotencyKey) answer id job) :
    ((a.fields = b.fields →
        reserve later (reserveInput sha256 session' b) refused' = .ok (later, some (id, job))) ∧
      (a.fields ≠ b.fields →
        ∃ error, reserve later (reserveInput sha256 session' b) refused' = .error error)) ↔
      (a.fields = b.fields → layout a.members = layout b.members) := by
  have haccepted := accepted_of_parseFields a.accepted
  have haccepted' := accepted_of_parseFields b.accepted
  obtain ⟨hjob, first, hanswer, hfingerprint, huploader⟩ := hlater
  obtain ⟨id', job', hanswer', hsame⟩ := reserve_ok (by exact haccepted.scope)
    (by exact haccepted.level) hfirst
  obtain ⟨rfl, rfl⟩ := Prod.mk.inj (Option.some.inj (hanswer.symm.trans hanswer'))
  have hstanding := @reserve_standing later (reserveInput sha256 session' b) id job refused'
    haccepted'.scope haccepted'.level (by
      simp only [reserveInput]
      rw [hsession.1, hkey]
      exact hjob)
  have hmatch : (job.requestFingerprint = (reserveInput sha256 session' b).requestFingerprint ∧
      job.uploaderId = (reserveInput sha256 session' b).uploaderId) ↔
        a.fields = b.fields ∧ layout a.members = layout b.members := by
    rw [← fingerprintText_iff haccepted haccepted', hfingerprint, huploader, hsame.1, hsame.2]
    simp only [reserveInput, hsession.2, and_true]
    exact ⟨hcollision, fun h => by rw [h]⟩
  rw [hstanding]
  constructor
  · rintro ⟨hsame, -⟩ hfields
    by_contra hlayout
    have hanswered := hsame hfields
    rw [if_neg fun h => hlayout (hmatch.mp h).2] at hanswered
    cases hanswered
  · intro hlayout
    refine ⟨fun hfields => if_pos (hmatch.mpr ⟨hfields, hlayout hfields⟩), fun hfields => ?_⟩
    exact ⟨_, if_neg fun h => hfields (hmatch.mp h).1⟩

end

/-! ### Two bodies of one meaning -/

lemma one_isDigits : DecimalNumerals.IsDigits ['1'] := by
  simp [DecimalNumerals.IsDigits, Text.isDigit]

lemma one_first : ['1'].head? ≠ some '0' := by decide

lemma one_last : ['1'].getLast? ≠ some '0' := by decide

lemma one_ne_nil : ['1'] ≠ [] := by decide

def oneByte : JsonNumber :=
  .nonzero false ⟨['1'], one_isDigits, one_first, one_last, one_ne_nil⟩ 1

def oneByteFile (idempotencyKey : String) : Members :=
  [(ofString "startDate", .string (ofString "2026-01-01")),
    (ofString "endDate", .string (ofString "2026-01-02")),
    (ofString "originalFileName", .string (ofString "a.csv")),
    (ofString "mediaType", .string (ofString "text/csv")),
    (ofString "sourceByteSize", .number (.finite oneByte)),
    (ofString "sourceChecksumSha256", .string (List.replicate 64 0x61)),
    (ofString "idempotencyKey", .string (ofString idempotencyKey))]

def oneByteFields : UploadFields where
  dataset := .business
  orderScope := none
  orderScopeTransition := none
  enterprise := ⟨ofString "e", ofString "e"⟩
  originalFileName := ofString "a.csv"
  mediaType := ofString "text/csv"
  sourceByteSize := oneByte
  sourceChecksumSha256 := List.replicate 64 0x61
  idempotencyKey := ofString "k"
  confidentialityLevel := .zero
  historicalSupplementReason := none
  startDate := ofString "2026-01-01"
  endDate := ofString "2026-01-02"

def datasetMember : ScriptText × BodyValue := (ofString "dataset", .string (ofString "business"))

def enterpriseMember : ScriptText × BodyValue :=
  (ofString "enterpriseName", .string (ofString "e"))

def datasetFirst : UploadRequest id 1000 where
  members := datasetMember :: enterpriseMember :: oneByteFile "k"
  fields := oneByteFields
  accepted := by decide +kernel

def spacedKey : UploadRequest id 1000 where
  members := datasetMember :: enterpriseMember :: oneByteFile " k "
  fields := oneByteFields
  accepted := by decide +kernel

def enterpriseFirst : UploadRequest id 1000 where
  members := enterpriseMember :: datasetMember :: oneByteFile "k"
  fields := oneByteFields
  accepted := by decide +kernel

def uploadSession (jobId : String) : UploadSession where
  id := jobId
  orgId := "o"
  uploaderId := "u"
  expiresAt := 0
  temporaryObjectKey := .staging "o" jobId
  multipartUploadId := jobId

/-- A retry with blanks around its key is answered with the first job. -/
theorem spacedKey_answered : ∃ db answer,
    reserve {} (reserveInput String.ofList (uploadSession "j") datasetFirst) none =
        .ok (db, answer) ∧
      reserve db (reserveInput String.ofList (uploadSession "l") spacedKey) none =
        .ok (db, answer) := by
  obtain ⟨⟨db, answer⟩, hfirst⟩ := exists_ok (show (reserve {}
    (reserveInput String.ofList (uploadSession "j") datasetFirst) none).isOk = true by
      decide +kernel)
  obtain ⟨jobId, job, rfl, -⟩ := reserve_ok (by decide +kernel) (by decide +kernel) hfirst
  have hstands : Stands db "o" (stored datasetFirst.fields.idempotencyKey) (some (jobId, job))
      jobId job := ⟨(reserve_answer hfirst).symm, job, rfl, rfl, rfl⟩
  have hretry := (@retry_depends_on_layout id 1000 String.ofList (uploadSession "j")
    (uploadSession "l") datasetFirst spacedKey (fun h => String.ofList_injective h) ⟨rfl, rfl⟩ rfl
    {} db db none none _ hfirst jobId job hstands).mpr fun _ => rfl
  exact ⟨db, _, hfirst, hretry.1 rfl⟩

/-- A retry that lists two members in the other order is refused, though it says the same. -/
theorem enterpriseFirst_refused : datasetFirst.fields = enterpriseFirst.fields ∧
    ∃ db answer,
      reserve {} (reserveInput String.ofList (uploadSession "j") datasetFirst) none =
          .ok (db, answer) ∧
        reserve db (reserveInput String.ofList (uploadSession "l") enterpriseFirst) none =
          .error (.thrown "IDEMPOTENCY_KEY_REUSED") := by
  refine ⟨rfl, ?_⟩
  obtain ⟨⟨db, answer⟩, hfirst⟩ := exists_ok (show (reserve {}
    (reserveInput String.ofList (uploadSession "j") datasetFirst) none).isOk = true by
      decide +kernel)
  obtain ⟨jobId, job, rfl, hjob⟩ := reserve_ok (by decide +kernel) (by decide +kernel) hfirst
  refine ⟨db, _, hfirst, ?_⟩
  rw [@reserve_standing db (reserveInput String.ofList (uploadSession "l") enterpriseFirst) jobId
    job none (by decide +kernel) (by decide +kernel) (reserve_answer hfirst).symm]
  refine if_neg fun hsame => ?_
  have htext := String.ofList_injective (hjob.1.symm.trans hsame.1)
  have hlayout := ((fingerprintText_iff (accepted_of_parseFields datasetFirst.accepted)
    (accepted_of_parseFields enterpriseFirst.accepted)).mp htext).2
  have hdataset : (layout datasetFirst.members).head? = some (.inl .dataset) := rfl
  have henterprise : (layout enterpriseFirst.members).head? = some (.inl .enterpriseName) := rfl
  rw [hlayout, henterprise] at hdataset
  cases hdataset

end UploadRetries
end SmeDataCenter
