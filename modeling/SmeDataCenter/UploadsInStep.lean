import Mathlib.Data.Finset.Insert
import Mathlib.Data.Finset.Erase
import SmeDataCenter.Runs
import SmeDataCenter.WorkerTables

/-!
# Uploads of evidence and of certificates

An upload stores its file first, then writes its document into the catalog, and removes the file
again when that fails. A certificate has an idempotency key: its transaction is retried, and when
the key is taken the certificate that has it is the answer, if it is of the same content. A
transaction can fail, or commit and then lose its answer. Uploads run side by side; what they
leave is in step when an upload that has been answered has both its document and its file, or
neither.
-/

namespace SmeDataCenter
namespace Uploads

open Runs

/-- `createOriginalObjectKey` -/
structure OriginalObjectKey where
  orgId : String
  documentId : String
  fileName : String
  deriving DecidableEq

/-- What is uploaded: a certificate comes with its key, and the fingerprint of its content. -/
inductive UploadKind where
  | evidence
  | certificate (idempotencyKey requestFingerprint : String)
  deriving DecidableEq

structure UploadInput where
  orgId : String
  documentId : String
  fileName : String
  kind : UploadKind
  deriving DecidableEq

def UploadInput.objectKey (input : UploadInput) : OriginalObjectKey :=
  ⟨input.orgId, input.documentId, input.fileName⟩

def UploadInput.isCertificate (input : UploadInput) : Bool := input.kind ≠ .evidence

structure CatalogDocument where
  orgId : String
  documentKind : DocumentKind
  storageObjectKey : OriginalObjectKey

/-- The row of a certificate; it goes by its source document. -/
structure QuarantineCertificate where
  orgId : String
  idempotencyKey : String
  requestFingerprint : String

structure Catalog where
  documents : Table String CatalogDocument := ∅
  quarantineCertificates : Table String QuarantineCertificate := ∅

namespace Catalog

def findByIdempotencyKey (catalog : Catalog) (orgId idempotencyKey : String) :
    Option (String × QuarantineCertificate) :=
  (catalog.quarantineCertificates.findMany fun _ c =>
    c.orgId = orgId && c.idempotencyKey = idempotencyKey).head?

def createDocument (catalog : Catalog) (input : UploadInput) (documentKind : DocumentKind) :
    Except String Catalog :=
  match catalog.documents.create input.documentId
      ⟨input.orgId, documentKind, input.objectKey⟩ with
  | none => .error "P2002"
  | some documents => .ok { catalog with documents }

/-- The transaction of `createCertificate`. -/
def createCertificate (catalog : Catalog) (input : UploadInput)
    (idempotencyKey requestFingerprint : String) : Except String Catalog := do
  let catalog ← catalog.createDocument input .quarantineCertificate
  let certificate : QuarantineCertificate := ⟨input.orgId, idempotencyKey, requestFingerprint⟩
  match catalog.findByIdempotencyKey input.orgId idempotencyKey,
    catalog.quarantineCertificates.create input.documentId certificate with
  | none, some quarantineCertificates => return { catalog with quarantineCertificates }
  | _, _ => throw "P2002"

/-- What an upload writes: `createUploadedDocument`, or the transaction of a certificate. -/
def write (catalog : Catalog) (input : UploadInput) : Except String Catalog :=
  match input.kind with
  | .evidence => catalog.createDocument input .evidence
  | .certificate idempotencyKey requestFingerprint =>
    catalog.createCertificate input idempotencyKey requestFingerprint

end Catalog

/-- What an upload is at. -/
inductive Stage where
  /-- A certificate: has it been uploaded before? -/
  | received
  | storing
  | writing (attempt : ℕ)
  /-- Something unique is taken already: which certificate has the key? -/
  | resolving
  | removing
  | answered (accepted : Bool)
  deriving DecidableEq

structure Upload where
  input : UploadInput
  stage : Stage
  deriving DecidableEq

structure System where
  catalog : Catalog := {}
  objects : Finset OriginalObjectKey := ∅
  uploads : Table ℕ Upload := ∅

/-- What the object store answers to a put; one that fails may have left the object. -/
inductive StorageAnswer where
  | stored
  | failed (left : Bool)

/-- What becomes of a transaction: it runs to its end, or nothing is written, or what it has
written is committed and its answer is lost. `transient` errors are retried. -/
inductive DatabaseAnswer where
  | done
  | failed (transient : Bool)
  | lost (transient : Bool)

inductive Event where
  | start (n : ℕ) (input : UploadInput)
  | lookUp (n : ℕ) (fails : Bool)
  | put (n : ℕ) (answer : StorageAnswer)
  | write (n : ℕ) (answer : DatabaseAnswer)
  | resolve (n : ℕ) (fails : Bool)
  | remove (n : ℕ)

namespace System

def setStage (s : System) (n : ℕ) (upload : Upload) (stage : Stage) : System :=
  { s with uploads := s.uploads.insert n { upload with stage } }

/-- The id of a document is made for one upload only. -/
def isFresh (s : System) (documentId : String) : Bool :=
  (s.uploads.findMany fun _ u => u.input.documentId = documentId).isEmpty

def start (s : System) (n : ℕ) (input : UploadInput) : System :=
  if (s.uploads.lookup n).isSome || !s.isFresh input.documentId then s
  else { s with
    uploads := s.uploads.insert n ⟨input, if input.isCertificate then .received else .storing⟩ }

/-- The certificate under the key of the upload. -/
def existing (s : System) (input : UploadInput) : Option (String × QuarantineCertificate) :=
  match input.kind with
  | .evidence => none
  | .certificate idempotencyKey _ => s.catalog.findByIdempotencyKey input.orgId idempotencyKey

/-- The certificate is of the content of the upload. -/
def isSameContent (input : UploadInput) (certificate : QuarantineCertificate) : Bool :=
  input.kind = .certificate certificate.idempotencyKey certificate.requestFingerprint

def lookUp (s : System) (n : ℕ) (fails : Bool) (upload : Upload) : System :=
  if upload.stage ≠ .received then s
  else if fails then s.setStage n upload (.answered false)
  else match s.existing upload.input with
  | some (_, certificate) =>
    s.setStage n upload (.answered (isSameContent upload.input certificate))
  | none => s.setStage n upload .storing

def put (s : System) (n : ℕ) (answer : StorageAnswer) (upload : Upload) : System :=
  if upload.stage ≠ .storing then s
  else match answer with
  | .stored => { s.setStage n upload (.writing 1) with
      objects := insert upload.input.objectKey s.objects }
  | .failed left => { s.setStage n upload (.answered false) with
      objects := if left then insert upload.input.objectKey s.objects else s.objects }

/-- `retryIdempotentDatabaseOperation`, of certificates only. -/
def retries (input : UploadInput) (attempt : ℕ) (transient : Bool) : Bool :=
  input.isCertificate && transient && attempt < 3

/-- After an error that is not about something unique. -/
def afterError (s : System) (n attempt : ℕ) (transient : Bool) (upload : Upload) : System :=
  s.setStage n upload
    (if retries upload.input attempt transient then .writing (attempt + 1) else .removing)

def write (s : System) (n : ℕ) (answer : DatabaseAnswer) (upload : Upload) : System :=
  match upload.stage with
  | .writing attempt =>
    match answer, s.catalog.write upload.input with
    | .done, .ok catalog => { s.setStage n upload (.answered true) with catalog }
    | .done, .error _ =>
      s.setStage n upload (if upload.input.isCertificate then .resolving else .removing)
    | .failed transient, _ => s.afterError n attempt transient upload
    | .lost transient, .ok catalog => { s.afterError n attempt transient upload with catalog }
    | .lost transient, .error _ => s.afterError n attempt transient upload
  | _ => s

def resolve (s : System) (n : ℕ) (fails : Bool) (upload : Upload) : System :=
  if upload.stage ≠ .resolving then s
  else if !fails &&
      (s.existing upload.input).any fun found => isSameContent upload.input found.2 then
    s.setStage n upload (.answered true)
  else s.setStage n upload .removing

def remove (s : System) (n : ℕ) (upload : Upload) : System :=
  if upload.stage ≠ .removing then s
  else { s.setStage n upload (.answered false) with
    objects := s.objects.erase upload.input.objectKey }

/-- What an upload does next. -/
def drive (s : System) (n : ℕ) (f : Upload → System) : System :=
  match s.uploads.lookup n with
  | none => s
  | some upload => f upload

end System

def step (s : System) : Event → System
  | .start n input => s.start n input
  | .lookUp n fails => s.drive n (s.lookUp n fails)
  | .put n answer => s.drive n (s.put n answer)
  | .write n answer => s.drive n (s.write n answer)
  | .resolve n fails => s.drive n (s.resolve n fails)
  | .remove n => s.drive n (s.remove n)

/-! ### In step -/

/-- The document of the upload is in the catalog. -/
def System.committed (s : System) (input : UploadInput) : Bool :=
  (s.catalog.documents.lookup input.documentId).isSome

/-- The document that an answered upload has created has its object, and the object it has stored
is referred to by a document if it is still there. -/
def Upload.InStep (s : System) (upload : Upload) : Prop :=
  (∀ document, s.catalog.documents.lookup upload.input.documentId = some document →
    document.storageObjectKey ∈ s.objects) ∧
  (upload.input.objectKey ∈ s.objects → ∃ id document,
    s.catalog.documents.lookup id = some document ∧
      document.storageObjectKey = upload.input.objectKey)

def System.InStep (s : System) : Prop :=
  ∀ n upload accepted, s.uploads.lookup n = some upload → upload.stage = .answered accepted →
    upload.InStep s

/-- Another upload has written a certificate of the same content under the key. -/
def System.isTaken (s : System) (input : UploadInput) : Bool :=
  (s.existing input).any fun found =>
    found.1 ≠ input.documentId && System.isSameContent input found.2

/-- The upload that an event is about. -/
def Event.upload : Event → ℕ
  | .start n _ | .lookUp n _ | .put n _ | .write n _ | .resolve n _ | .remove n => n

/-- What the code can bear of the answer to an upload. A put that fails leaves nothing. Once the
document is committed, or if it is committed now, an error is one after which the transaction is
tried again. The key of a certificate can be looked up once its document is committed, and is
otherwise not taken by a certificate of the same content. -/
def System.carefulFor (s : System) (upload : Upload) : Stage → Event → Bool
  | .storing, .put _ (.failed left) => !left
  | .writing attempt, .write _ (.failed transient) =>
    !s.committed upload.input || retries upload.input attempt transient
  | .writing attempt, .write _ (.lost transient) =>
    (!s.committed upload.input && (s.catalog.write upload.input).toOption.isNone) ||
      retries upload.input attempt transient
  | .resolving, .resolve _ fails =>
    if s.committed upload.input then !fails else fails || !s.isTaken upload.input
  | _, _ => true

def careful (s : System) (e : Event) : Bool :=
  (s.uploads.lookup e.upload).all fun upload => s.carefulFor upload upload.stage e

/-! ### What an upload writes -/

variable {s s' : System} {n : ℕ} {upload : Upload} {stage : Stage} {input : UploadInput}

variable {catalog : Catalog}

lemma createDocument_ok {catalog' : Catalog} {documentKind : DocumentKind}
    (h : catalog.createDocument input documentKind = .ok catalog') :
    catalog.documents.lookup input.documentId = none ∧
      (∀ id, catalog'.documents.lookup id = if id = input.documentId then
        some ⟨input.orgId, documentKind, input.objectKey⟩ else catalog.documents.lookup id) ∧
      catalog'.quarantineCertificates = catalog.quarantineCertificates := by
  unfold Catalog.createDocument at h
  split at h
  · cases h
  · rename_i documents hdocuments
    cases h
    exact ⟨Table.create_fresh hdocuments, Table.lookup_create hdocuments, rfl⟩

lemma findByIdempotencyKey_eq_none {orgId idempotencyKey : String} :
    catalog.findByIdempotencyKey orgId idempotencyKey = none ↔
      ∀ id c, catalog.quarantineCertificates.lookup id = some c → c.orgId = orgId →
        c.idempotencyKey ≠ idempotencyKey := by
  unfold Catalog.findByIdempotencyKey
  rw [List.head?_eq_none_iff, List.eq_nil_iff_forall_not_mem]
  constructor
  · intro h id c hc horg hkey
    exact h (id, c) (Table.mem_findMany.mpr ⟨hc, by simp [horg, hkey]⟩)
  · rintro h ⟨id, c⟩ hmem
    obtain ⟨hc, hp⟩ := Table.mem_findMany.mp hmem
    rw [Bool.and_eq_true, decide_eq_true_eq, decide_eq_true_eq] at hp
    exact h id c hc hp.1 hp.2

lemma findByIdempotencyKey_eq_some {orgId idempotencyKey : String}
    {found : String × QuarantineCertificate}
    (h : catalog.findByIdempotencyKey orgId idempotencyKey = some found) :
    catalog.quarantineCertificates.lookup found.1 = some found.2 ∧ found.2.orgId = orgId ∧
      found.2.idempotencyKey = idempotencyKey := by
  obtain ⟨hc, hp⟩ := Table.mem_findMany.mp (List.mem_of_head? h)
  rw [Bool.and_eq_true, decide_eq_true_eq, decide_eq_true_eq] at hp
  exact ⟨hc, hp.1, hp.2⟩

/-- What is written: the document of the upload, and its certificate under a key that is free. -/
structure Catalog.Writes (catalog : Catalog) (input : UploadInput) (catalog' : Catalog) :
    Prop where
  fresh : catalog.documents.lookup input.documentId = none
  documents : ∃ documentKind, ∀ id, catalog'.documents.lookup id =
    if id = input.documentId then some ⟨input.orgId, documentKind, input.objectKey⟩
    else catalog.documents.lookup id
  certificates : (input.kind = .evidence ∧
      catalog'.quarantineCertificates = catalog.quarantineCertificates) ∨
    ∃ idempotencyKey requestFingerprint,
      input.kind = .certificate idempotencyKey requestFingerprint ∧
      (∀ id c, catalog.quarantineCertificates.lookup id = some c → c.orgId = input.orgId →
        c.idempotencyKey ≠ idempotencyKey) ∧
      ∀ id, catalog'.quarantineCertificates.lookup id = if id = input.documentId then
        some ⟨input.orgId, idempotencyKey, requestFingerprint⟩
        else catalog.quarantineCertificates.lookup id

lemma write_ok {catalog' : Catalog} (h : catalog.write input = .ok catalog') :
    catalog.Writes input catalog' := by
  unfold Catalog.write at h
  split at h
  · rename_i hkind
    obtain ⟨hfresh, hdocuments, hsame⟩ := createDocument_ok h
    exact ⟨hfresh, ⟨_, hdocuments⟩, .inl ⟨hkind, hsame⟩⟩
  · rename_i idempotencyKey requestFingerprint hkind
    obtain ⟨catalog₁, hcreate, h⟩ := bind_eq_ok.mp h
    obtain ⟨hfresh, hdocuments, hsame⟩ := createDocument_ok hcreate
    dsimp only at h
    split at h
    swap
    · cases h
    rename_i certificates hnone hcertificates
    rw [findByIdempotencyKey_eq_none, hsame] at hnone
    cases h
    refine ⟨hfresh, ⟨_, hdocuments⟩, .inr ⟨_, _, hkind, hnone, fun id => ?_⟩⟩
    rw [← hsame]
    exact Table.lookup_create hcertificates id

lemma committed_of_evidence {e : String} (h : s.catalog.write input = .error e)
    (hevidence : input.isCertificate = false) : s.committed input = true := by
  have hkind : input.kind = .evidence := by simpa [UploadInput.isCertificate] using hevidence
  unfold Catalog.write at h
  rw [hkind] at h
  dsimp only [Catalog.createDocument] at h
  split at h
  · rename_i hnone
    unfold Table.create at hnone
    unfold System.committed
    split at hnone
    · rename_i hmem
      exact AList.lookup_isSome.mpr hmem
    · cases hnone
  · cases h

/-! ### Steps of an upload -/

/-- What holds at a stage: the object is there once it is stored, and a document that is not
tried again is not there before it is written. -/
def Upload.Shaped (s : System) (upload : Upload) : Prop :=
  match upload.stage with
  | .received | .storing =>
    s.committed upload.input = false ∧ upload.input.objectKey ∉ s.objects
  | .writing _ => upload.input.objectKey ∈ s.objects ∧
    (upload.input.isCertificate = false → s.committed upload.input = false)
  | .resolving => upload.input.objectKey ∈ s.objects ∧ upload.input.isCertificate = true
  | .removing => upload.input.objectKey ∈ s.objects
  | .answered _ => True

/-- An object that is about to be removed has no document, and once the upload is answered there
are both or neither. -/
def Upload.Fine (s : System) (upload : Upload) : Prop :=
  match upload.stage with
  | .removing => s.committed upload.input = false
  | .answered _ => s.committed upload.input = true ↔ upload.input.objectKey ∈ s.objects
  | _ => True

/-- What holds in every reachable state. -/
structure System.Sound (s : System) : Prop where
  ids : ∀ n m u v, s.uploads.lookup n = some u → s.uploads.lookup m = some v →
    u.input.documentId = v.input.documentId → n = m
  documents : ∀ id document, s.catalog.documents.lookup id = some document →
    ∃ n u, s.uploads.lookup n = some u ∧ u.input.documentId = id ∧
      document.storageObjectKey = u.input.objectKey
  certificates : ∀ id c, s.catalog.quarantineCertificates.lookup id = some c →
    ∃ n u, s.uploads.lookup n = some u ∧ u.input.documentId = id ∧
      s.committed u.input = true ∧ u.input.orgId = c.orgId ∧
      u.input.kind = .certificate c.idempotencyKey c.requestFingerprint
  written : ∀ n u, s.uploads.lookup n = some u → u.input.isCertificate = true →
    s.committed u.input = true →
      (s.catalog.quarantineCertificates.lookup u.input.documentId).isSome = true
  unique : ∀ id id' c c', s.catalog.quarantineCertificates.lookup id = some c →
    s.catalog.quarantineCertificates.lookup id' = some c' → c.orgId = c'.orgId →
    c.idempotencyKey = c'.idempotencyKey → id = id'
  objects : ∀ key ∈ s.objects, ∃ n u, s.uploads.lookup n = some u ∧ u.input.objectKey = key
  shaped : ∀ n u, s.uploads.lookup n = some u → u.Shaped s

/-- A step of an upload: it goes to another stage, and nothing but its own rows and its own object
is touched. -/
structure Moves (s s' : System) (n : ℕ) (upload : Upload) (stage : Stage) : Prop where
  found : s.uploads.lookup n = some upload
  uploads : s'.uploads = s.uploads.insert n { upload with stage }
  catalog : s'.catalog = s.catalog ∨ s.catalog.Writes upload.input s'.catalog
  objects : ∀ key, key ≠ upload.input.objectKey → (key ∈ s'.objects ↔ key ∈ s.objects)

/-- The step is careful just if it leaves a fine upload fine. -/
def Drives (s s' : System) (n : ℕ) (upload : Upload) (e : Event) : Prop :=
  ∃ stage, Moves s s' n upload stage ∧ ({ upload with stage } : Upload).Shaped s' ∧
    (({ upload with stage } : Upload).Fine s' ↔
      upload.Fine s ∧ s.carefulFor upload upload.stage e = true)

/-- An event that is not for the stage of the upload does nothing. -/
def Idle (s s' : System) (upload : Upload) (e : Event) : Prop :=
  s' = s ∧ s.carefulFor upload upload.stage e = true

lemma Moves.of_stage (h : s.uploads.lookup n = some upload) (stage : Stage) :
    Moves s (s.setStage n upload stage) n upload stage :=
  ⟨h, rfl, .inl rfl, fun _ _ => Iff.rfl⟩

lemma committed_of_writes (h : s.catalog.Writes input s'.catalog) :
    s'.committed input = true := by
  obtain ⟨documentKind, hdocuments⟩ := h.documents
  rw [System.committed, hdocuments, if_pos rfl]
  rfl

lemma drives_lookUp (hs : s.Sound) (hfound : s.uploads.lookup n = some upload) (fails : Bool) :
    Idle s (s.lookUp n fails upload) upload (.lookUp n fails) ∨
      Drives s (s.lookUp n fails upload) n upload (.lookUp n fails) := by
  obtain ⟨input, stage⟩ := upload
  have hshaped := hs.shaped n _ hfound
  unfold System.lookUp
  split_ifs with hstage hfails
  · exact .inl ⟨rfl, by cases stage <;> rfl⟩
  all_goals
    rw [not_not] at hstage
    dsimp only at hstage
    subst hstage
    obtain ⟨hnew, hobject⟩ : s.committed input = false ∧ input.objectKey ∉ s.objects := hshaped
    right
  · refine ⟨_, .of_stage hfound _, trivial, ?_⟩
    simp [Upload.Fine, System.setStage, System.committed, System.carefulFor] at hnew ⊢
    simp [hnew, hobject]
  · split
    · refine ⟨_, .of_stage hfound _, trivial, ?_⟩
      simp [Upload.Fine, System.setStage, System.committed, System.carefulFor] at hnew ⊢
      simp [hnew, hobject]
    · exact ⟨_, .of_stage hfound _, ⟨hnew, hobject⟩, by simp [Upload.Fine, System.carefulFor]⟩

lemma drives_put (hs : s.Sound) (hfound : s.uploads.lookup n = some upload)
    (answer : StorageAnswer) :
    Idle s (s.put n answer upload) upload (.put n answer) ∨
      Drives s (s.put n answer upload) n upload (.put n answer) := by
  obtain ⟨input, stage⟩ := upload
  have hshaped := hs.shaped n _ hfound
  unfold System.put
  split_ifs with hstage
  · exact .inl ⟨rfl, by cases stage <;> first | rfl | exact absurd rfl hstage⟩
  rw [not_not] at hstage
  dsimp only at hstage
  subst hstage
  obtain ⟨hnew, hobject⟩ : s.committed input = false ∧ input.objectKey ∉ s.objects := hshaped
  right
  cases answer with
  | stored =>
    refine ⟨.writing 1, ⟨hfound, rfl, .inl rfl, fun key hkey => ?_⟩,
      ⟨Finset.mem_insert_self _ _, fun _ => hnew⟩, by simp [Upload.Fine, System.carefulFor]⟩
    exact ⟨fun h => (Finset.mem_insert.mp h).resolve_left hkey, Finset.mem_insert_of_mem⟩
  | failed left =>
    refine ⟨.answered false, ⟨hfound, rfl, .inl rfl, fun key hkey => ?_⟩, trivial, ?_⟩
    · cases left with
      | false => exact Iff.rfl
      | true =>
        exact ⟨fun h => (Finset.mem_insert.mp h).resolve_left hkey, Finset.mem_insert_of_mem⟩
    · have hcommitted : s.committed input ≠ true := by simp [hnew]
      cases left with
      | false => exact ⟨fun _ => ⟨trivial, rfl⟩, fun _ =>
          ⟨fun h => absurd h hcommitted, fun h => absurd h hobject⟩⟩
      | true => exact ⟨fun h => absurd (h.mpr (Finset.mem_insert_self _ _)) hcommitted,
          fun h => by cases h.2⟩

variable {e : Event}

lemma drives_afterError (hs : s.Sound) (hfound : s.uploads.lookup n = some upload) {attempt : ℕ}
    (hstage : upload.stage = .writing attempt) (transient : Bool)
    (hcatalog : catalog = s.catalog ∨ s.catalog.Writes upload.input catalog)
    (hcareful : s.carefulFor upload (.writing attempt) e =
      (!({ s with catalog } : System).committed upload.input ||
        System.retries upload.input attempt transient)) :
    Drives s { s.afterError n attempt transient upload with catalog } n upload e := by
  obtain ⟨input, stage⟩ := upload
  dsimp only at hstage
  subst hstage
  obtain ⟨hobject, -⟩ : input.objectKey ∈ s.objects ∧ _ := hs.shaped n _ hfound
  refine ⟨_, ⟨hfound, rfl, hcatalog, fun _ _ => Iff.rfl⟩, ?_, ?_⟩
  · split_ifs with hretries
    · refine ⟨hobject, fun hevidence => ?_⟩
      dsimp only at hevidence hretries
      rw [System.retries, hevidence] at hretries
      cases hretries
    · exact hobject
  · dsimp only
    rw [hcareful]
    split_ifs with hretries
    · simp [Upload.Fine, hretries]
    · simp [Upload.Fine, hretries, System.committed]

lemma drives_write (hs : s.Sound) (hfound : s.uploads.lookup n = some upload)
    (answer : DatabaseAnswer) :
    Idle s (s.write n answer upload) upload (.write n answer) ∨
      Drives s (s.write n answer upload) n upload (.write n answer) := by
  unfold System.write
  split
  swap
  · rename_i hstage
    refine .inl ⟨rfl, ?_⟩
    cases hupload : upload.stage with
    | writing attempt => exact absurd hupload (hstage attempt)
    | _ => rfl
  rename_i attempt hstage
  have hshaped := hs.shaped n _ hfound
  unfold Upload.Shaped at hshaped
  rw [hstage] at hshaped
  obtain ⟨hobject, hevidence⟩ : upload.input.objectKey ∈ s.objects ∧
    (upload.input.isCertificate = false → s.committed upload.input = false) := hshaped
  have hfine : upload.Fine s := by
    unfold Upload.Fine
    rw [hstage]
    trivial
  right
  split
  · -- the transaction commits
    rename_i catalog hwrite
    have hwrites := write_ok hwrite
    refine ⟨.answered true, ⟨hfound, rfl, .inr hwrites, fun _ _ => Iff.rfl⟩, trivial, ?_⟩
    have hcommitted : ({ s.setStage n upload (.answered true) with catalog } : System).committed
        upload.input = true := committed_of_writes hwrites
    rw [hstage]
    exact ⟨fun _ => ⟨hfine, rfl⟩, fun _ => ⟨fun _ => hobject, fun _ => hcommitted⟩⟩
  · -- something unique is taken
    rename_i code hwrite
    refine ⟨_, .of_stage hfound _, ?_, ?_⟩
    · split_ifs with hcertificate
      · exact ⟨hobject, hcertificate⟩
      · exact hobject
    · rw [hstage]
      split_ifs with hcertificate
      · simp [Upload.Fine, hstage, System.carefulFor]
      · rw [Bool.not_eq_true] at hcertificate
        have hnot := hevidence hcertificate
        rw [committed_of_evidence hwrite hcertificate] at hnot
        cases hnot
  · rename_i transient
    exact drives_afterError hs hfound hstage transient (.inl rfl) rfl
  · rename_i transient catalog hwrite
    have hwrites := write_ok hwrite
    refine drives_afterError hs hfound hstage transient (.inr hwrites) ?_
    have hcommitted : ({ s with catalog } : System).committed upload.input = true :=
      committed_of_writes hwrites
    rw [hcommitted]
    simp [System.carefulFor, hwrite, Except.toOption]
  · rename_i transient code hwrite
    refine drives_afterError hs hfound hstage transient (.inl rfl) ?_
    simp [System.carefulFor, hwrite, Except.toOption]

lemma isTaken_of_existing (hs : s.Sound) (hfound : s.uploads.lookup n = some upload)
    (hcommitted : s.committed upload.input = false) :
    s.isTaken upload.input = (s.existing upload.input).any
      fun found => System.isSameContent upload.input found.2 := by
  unfold System.isTaken
  cases hexisting : s.existing upload.input with
  | none => rfl
  | some found =>
    have hother : found.1 ≠ upload.input.documentId := by
      unfold System.existing at hexisting
      split at hexisting
      · cases hexisting
      obtain ⟨hlookup, -, -⟩ := findByIdempotencyKey_eq_some hexisting
      obtain ⟨m, u, hu, hid, hcommitted', -, -⟩ := hs.certificates _ _ hlookup
      intro hsame
      have hm : m = n := hs.ids m n u upload hu hfound (hid.trans hsame)
      subst hm
      rw [hfound] at hu
      cases hu
      rw [hcommitted] at hcommitted'
      cases hcommitted'
    simp [hother]

lemma existing_of_committed (hs : s.Sound) (hfound : s.uploads.lookup n = some upload)
    (hcertificate : upload.input.isCertificate = true)
    (hcommitted : s.committed upload.input = true) :
    ((s.existing upload.input).any
      fun found => System.isSameContent upload.input found.2) = true := by
  obtain ⟨c, hc⟩ := Option.isSome_iff_exists.mp (hs.written n upload hfound hcertificate hcommitted)
  obtain ⟨m, u, hu, hid, -, horg, hkind⟩ := hs.certificates _ _ hc
  have hm : m = n := hs.ids m n u upload hu hfound hid
  subst hm
  rw [hfound] at hu
  cases hu
  have hexisting : s.existing upload.input =
      s.catalog.findByIdempotencyKey upload.input.orgId c.idempotencyKey := by
    unfold System.existing
    rw [hkind]
  rw [hexisting]
  cases hfind : s.catalog.findByIdempotencyKey upload.input.orgId c.idempotencyKey with
  | none => exact absurd rfl (findByIdempotencyKey_eq_none.mp hfind _ _ hc horg.symm)
  | some found =>
    obtain ⟨hlookup, horg', hkey⟩ := findByIdempotencyKey_eq_some hfind
    have hsame : found.1 = upload.input.documentId :=
      hs.unique _ _ _ _ hlookup hc (horg'.trans horg) hkey
    rw [hsame, hc] at hlookup
    have hown : found.2 = c := (Option.some.inj hlookup).symm
    rw [Option.any_some, System.isSameContent, hown, hkind]
    exact decide_eq_true rfl

lemma drives_resolve (hs : s.Sound) (hfound : s.uploads.lookup n = some upload) (fails : Bool) :
    Idle s (s.resolve n fails upload) upload (.resolve n fails) ∨
      Drives s (s.resolve n fails upload) n upload (.resolve n fails) := by
  unfold System.resolve
  split_ifs with hstage hexisting
  · refine .inl ⟨rfl, ?_⟩
    cases hupload : upload.stage with
    | resolving => exact absurd hupload hstage
    | _ => rfl
  all_goals
    rw [not_not] at hstage
    have hshaped := hs.shaped n _ hfound
    unfold Upload.Shaped at hshaped
    rw [hstage] at hshaped
    obtain ⟨hobject, hcertificate⟩ : upload.input.objectKey ∈ s.objects ∧
      upload.input.isCertificate = true := hshaped
    have hfine : upload.Fine s := by
      unfold Upload.Fine
      rw [hstage]
      trivial
    right
    refine ⟨_, .of_stage hfound _, ?_, ?_⟩
  · trivial
  · rw [Bool.and_eq_true, Bool.not_eq_true'] at hexisting
    obtain ⟨hreads, hsame⟩ := hexisting
    rw [hstage]
    cases hc : s.committed upload.input with
    | true =>
      have hcareful : s.carefulFor upload .resolving (.resolve n fails) = true := by
        simp [System.carefulFor, hc, hreads]
      exact ⟨fun _ => ⟨hfine, hcareful⟩, fun _ => ⟨fun _ => hobject, fun _ => hc⟩⟩
    | false =>
      rw [← isTaken_of_existing hs hfound hc] at hsame
      have hcareless : s.carefulFor upload .resolving (.resolve n fails) = false := by
        simp [System.carefulFor, hc, hreads, hsame]
      refine ⟨fun h => ?_, fun h => ?_⟩
      · have hcommitted : s.committed upload.input = true := h.mpr hobject
        rw [hc] at hcommitted
        cases hcommitted
      · rw [hcareless] at h
        cases h.2
  · exact hobject
  · rw [hstage]
    cases hc : s.committed upload.input with
    | true =>
      rw [existing_of_committed hs hfound hcertificate hc, Bool.and_true, Bool.not_eq_true',
        Bool.not_eq_false] at hexisting
      have hcareless : s.carefulFor upload .resolving (.resolve n fails) = false := by
        simp [System.carefulFor, hc, hexisting]
      refine ⟨fun h => ?_, fun h => ?_⟩
      · have hcommitted : s.committed upload.input = false := h
        rw [hc] at hcommitted
        cases hcommitted
      · rw [hcareless] at h
        cases h.2
    | false =>
      rw [← isTaken_of_existing hs hfound hc] at hexisting
      have hcareful : s.carefulFor upload .resolving (.resolve n fails) = true := by
        cases fails <;> simp_all [System.carefulFor]
      exact ⟨fun _ => ⟨hfine, hcareful⟩, fun _ => hc⟩

lemma drives_remove (hfound : s.uploads.lookup n = some upload) :
    Idle s (s.remove n upload) upload (.remove n) ∨
      Drives s (s.remove n upload) n upload (.remove n) := by
  unfold System.remove
  split_ifs with hstage
  · exact .inl ⟨rfl, by cases hupload : upload.stage <;> rfl⟩
  rw [not_not] at hstage
  right
  refine ⟨.answered false, ⟨hfound, rfl, .inl rfl, fun key hkey => ?_⟩, trivial, ?_⟩
  · exact ⟨Finset.mem_of_mem_erase, fun h => Finset.mem_erase.mpr ⟨hkey, h⟩⟩
  · have hfine : upload.Fine s ↔ s.committed upload.input = false := by
      unfold Upload.Fine
      rw [hstage]
    rw [hfine, hstage]
    refine ⟨fun h => ⟨?_, rfl⟩, fun h => ⟨fun hc => ?_, fun hmem => ?_⟩⟩
    · rw [← Bool.not_eq_true]
      intro hc
      exact Finset.notMem_erase upload.input.objectKey s.objects (h.mp hc)
    · have hcommitted : s.committed upload.input = true := hc
      rw [h.1] at hcommitted
      cases hcommitted
    · exact absurd hmem (Finset.notMem_erase upload.input.objectKey s.objects)

/-! ### Steps of the system -/

lemma Moves.lookup (h : Moves s s' n upload stage) (m : ℕ) : s'.uploads.lookup m =
    if m = n then some { upload with stage } else s.uploads.lookup m := by
  rw [h.uploads, Table.lookup_insert']

lemma Moves.committed (h : Moves s s' n upload stage) (hinput : s.committed input = true) :
    s'.committed input = true := by
  unfold System.committed at hinput ⊢
  rcases h.catalog with hsame | hwrites
  · rw [hsame]
    exact hinput
  · obtain ⟨documentKind, hdocuments⟩ := hwrites.documents
    rw [hdocuments]
    split_ifs
    · rfl
    · exact hinput

variable {v : Upload}

lemma Moves.other (hs : s.Sound) (h : Moves s s' n upload stage) {m : ℕ} (hm : m ≠ n)
    (hv : s.uploads.lookup m = some v) :
    v.input.documentId ≠ upload.input.documentId ∧
      s'.committed v.input = s.committed v.input ∧
      (v.input.objectKey ∈ s'.objects ↔ v.input.objectKey ∈ s.objects) := by
  have hid : v.input.documentId ≠ upload.input.documentId := fun hsame =>
    hm (hs.ids m n v upload hv h.found hsame)
  refine ⟨hid, ?_, h.objects _ fun hsame => ?_⟩
  · unfold System.committed
    rcases h.catalog with hsame | hwrites
    · rw [hsame]
    · obtain ⟨documentKind, hdocuments⟩ := hwrites.documents
      rw [hdocuments, if_neg hid]
  · exact hid (congrArg OriginalObjectKey.documentId hsame)

lemma Shaped.congr (hcommitted : s'.committed v.input = s.committed v.input)
    (hobject : v.input.objectKey ∈ s'.objects ↔ v.input.objectKey ∈ s.objects) (h : v.Shaped s) :
    v.Shaped s' := by
  unfold Upload.Shaped at h ⊢
  rw [hcommitted, hobject]
  exact h

lemma Fine.congr (hcommitted : s'.committed v.input = s.committed v.input)
    (hobject : v.input.objectKey ∈ s'.objects ↔ v.input.objectKey ∈ s.objects) :
    v.Fine s' ↔ v.Fine s := by
  unfold Upload.Fine
  rw [hcommitted, hobject]

lemma System.Sound.moves (hs : s.Sound) (h : Moves s s' n upload stage)
    (hshaped : ({ upload with stage } : Upload).Shaped s') : s'.Sound := by
  have hback : ∀ {m v}, s'.uploads.lookup m = some v →
      ∃ u, s.uploads.lookup m = some u ∧ u.input = v.input := by
    intro m v hv
    rw [h.lookup] at hv
    split_ifs at hv with hm
    · cases hv
      exact ⟨upload, hm ▸ h.found, rfl⟩
    · exact ⟨v, hv, rfl⟩
  have hforth : ∀ {m u}, s.uploads.lookup m = some u →
      ∃ v, s'.uploads.lookup m = some v ∧ v.input = u.input := by
    intro m u hu
    by_cases hm : m = n
    · subst hm
      have hsame := hu.symm.trans h.found
      cases hsame
      exact ⟨_, (h.lookup m).trans (if_pos rfl), rfl⟩
    · exact ⟨u, (h.lookup m).trans ((if_neg hm).trans hu), rfl⟩
  obtain ⟨own, hown, howninput⟩ := hforth h.found
  refine ⟨?_, ?_, ?_, ?_, ?_, ?_, ?_⟩
  · intro m k u v hu hv hid
    obtain ⟨u', hu', hu''⟩ := hback hu
    obtain ⟨v', hv', hv''⟩ := hback hv
    exact hs.ids m k u' v' hu' hv' (by rw [hu'', hv'', hid])
  · intro id document hdocument
    have hold : s.catalog.documents.lookup id = some document →
        ∃ n u, s'.uploads.lookup n = some u ∧ u.input.documentId = id ∧
          document.storageObjectKey = u.input.objectKey := by
      intro hdocument
      obtain ⟨m, u, hu, hid, hkey⟩ := hs.documents id document hdocument
      obtain ⟨v, hv, hinput⟩ := hforth hu
      exact ⟨m, v, hv, by rw [hinput, hid], by rw [hinput, hkey]⟩
    rcases h.catalog with hsame | hwrites
    · exact hold (hsame ▸ hdocument)
    · obtain ⟨documentKind, hdocuments⟩ := hwrites.documents
      rw [hdocuments] at hdocument
      split_ifs at hdocument with hid
      · cases hdocument
        exact ⟨n, own, hown, by rw [howninput, hid], by rw [howninput]⟩
      · exact hold hdocument
  · intro id c hc
    have hold : s.catalog.quarantineCertificates.lookup id = some c →
        ∃ n u, s'.uploads.lookup n = some u ∧ u.input.documentId = id ∧
          s'.committed u.input = true ∧ u.input.orgId = c.orgId ∧
          u.input.kind = .certificate c.idempotencyKey c.requestFingerprint := by
      intro hc
      obtain ⟨m, u, hu, hid, hcommitted, horg, hkind⟩ := hs.certificates id c hc
      obtain ⟨v, hv, hinput⟩ := hforth hu
      rw [← hinput] at hid hcommitted horg hkind
      exact ⟨m, v, hv, hid, h.committed hcommitted, horg, hkind⟩
    rcases h.catalog with hsame | hwrites
    · exact hold (hsame ▸ hc)
    · rcases hwrites.certificates with ⟨-, hsame⟩ | ⟨k, f, hkind, -, hcertificates⟩
      · exact hold (hsame ▸ hc)
      · rw [hcertificates] at hc
        split_ifs at hc with hid
        · cases hc
          refine ⟨n, own, hown, by rw [howninput, hid], ?_, by rw [howninput],
            by rw [howninput, hkind]⟩
          rw [howninput]
          exact committed_of_writes hwrites
        · exact hold hc
  · intro m v hv hcertificate hcommitted
    obtain ⟨u, hu, hinput⟩ := hback hv
    rw [← hinput] at hcertificate hcommitted ⊢
    rcases h.catalog with hsame | hwrites
    · have hbefore : s.committed u.input = true := by
        unfold System.committed at hcommitted ⊢
        rw [← hsame]
        exact hcommitted
      rw [hsame]
      exact hs.written m u hu hcertificate hbefore
    · rcases hwrites.certificates with ⟨hkind, hsame⟩ | ⟨k, f, hkind, -, hcertificates⟩
      · rw [hsame]
        by_cases hm : m = n
        · subst hm
          have hown := hu.symm.trans h.found
          cases hown
          simp [UploadInput.isCertificate, hkind] at hcertificate
        · rw [(h.other hs hm hu).2.1] at hcommitted
          exact hs.written m u hu hcertificate hcommitted
      · rw [hcertificates]
        split_ifs with hid
        · rfl
        · have hm : m ≠ n := by
            rintro rfl
            have hown := hu.symm.trans h.found
            cases hown
            exact hid rfl
          rw [(h.other hs hm hu).2.1] at hcommitted
          exact hs.written m u hu hcertificate hcommitted
  · intro id id' c c' hc hc' horg hkey
    rcases h.catalog with hsame | hwrites
    · rw [hsame] at hc hc'
      exact hs.unique id id' c c' hc hc' horg hkey
    · rcases hwrites.certificates with ⟨-, hsame⟩ | ⟨k, f, -, hfree, hcertificates⟩
      · rw [hsame] at hc hc'
        exact hs.unique id id' c c' hc hc' horg hkey
      · rw [hcertificates] at hc hc'
        split_ifs at hc hc' with hid hid' hid'
        · rw [hid, hid']
        · cases hc
          exact absurd hkey.symm (hfree id' c' hc' horg.symm)
        · cases hc'
          exact absurd hkey (hfree id c hc horg)
        · exact hs.unique id id' c c' hc hc' horg hkey
  · intro key hkey
    by_cases hsame : key = upload.input.objectKey
    · exact ⟨n, own, hown, by rw [howninput, hsame]⟩
    · obtain ⟨m, u, hu, hobject⟩ := hs.objects key ((h.objects key hsame).mp hkey)
      obtain ⟨v, hv, hinput⟩ := hforth hu
      exact ⟨m, v, hv, by rw [hinput, hobject]⟩
  · intro m v hv
    by_cases hm : m = n
    · subst hm
      rw [h.lookup, if_pos rfl] at hv
      cases hv
      exact hshaped
    · rw [h.lookup, if_neg hm] at hv
      obtain ⟨-, hcommitted, hobject⟩ := h.other hs hm hv
      exact Shaped.congr hcommitted hobject (hs.shaped m v hv)

/-- The upload is fine, if it is there. -/
def FineAt (s : System) (n : ℕ) : Prop :=
  ∀ upload, s.uploads.lookup n = some upload → upload.Fine s

/-- What a step does for each upload: it stays fine just if the step is careful of it. -/
structure Keeps (s s' : System) (e : Event) : Prop where
  sound : s'.Sound
  fine : ∀ n, FineAt s' n ↔ FineAt s n ∧ (e.upload = n → careful s e = true)

lemma keeps_idle (hs : s.Sound) (hcareful : careful s e = true) : Keeps s s e :=
  ⟨hs, fun _ => ⟨fun h => ⟨h, fun _ => hcareful⟩, fun h => h.1⟩⟩

lemma keeps_drives (hs : s.Sound) (he : e.upload = n) (h : Drives s s' n upload e) :
    Keeps s s' e := by
  obtain ⟨stage, hmoves, hshaped, hfine⟩ := h
  refine ⟨hs.moves hmoves hshaped, fun m => ?_⟩
  by_cases hm : m = n
  · subst hm
    have hcareful : careful s e = s.carefulFor upload upload.stage e := by
      rw [careful, he, hmoves.found]
      rfl
    rw [hcareful]
    refine ⟨fun hafter => ?_, fun hbefore found hfound => ?_⟩
    · obtain ⟨hupload, hc⟩ := hfine.mp (hafter _ ((hmoves.lookup m).trans (if_pos rfl)))
      refine ⟨fun found hfound => ?_, fun _ => hc⟩
      have hsame := hfound.symm.trans hmoves.found
      cases hsame
      exact hupload
    · rw [hmoves.lookup, if_pos rfl] at hfound
      cases hfound
      exact hfine.mpr ⟨hbefore.1 upload hmoves.found, hbefore.2 he⟩
  · have hother : FineAt s' m ↔ FineAt s m := by
      have hlookup : s'.uploads.lookup m = s.uploads.lookup m :=
        (hmoves.lookup m).trans (if_neg hm)
      unfold FineAt
      rw [hlookup]
      refine forall_congr' fun v => forall_congr' fun hv => ?_
      obtain ⟨-, hcommitted, hobject⟩ := hmoves.other hs hm hv
      exact Fine.congr hcommitted hobject
    rw [hother]
    exact ⟨fun h => ⟨h, fun hne => absurd (hne.symm.trans he) hm⟩, fun h => h.1⟩

lemma keeps_start (hs : s.Sound) (n : ℕ) (input : UploadInput) :
    Keeps s (s.start n input) (.start n input) := by
  have hcareful : careful s (.start n input) = true := by
    unfold careful
    cases s.uploads.lookup (Event.start n input).upload with
    | none => rfl
    | some u => simp [System.carefulFor]
  unfold System.start
  split
  · exact keeps_idle hs hcareful
  rename_i htaken
  rw [Bool.or_eq_true, not_or, Option.not_isSome_iff_eq_none, Bool.not_eq_true',
    Bool.not_eq_false] at htaken
  obtain ⟨hnone, hfresh⟩ := htaken
  have hnew : ∀ m u, s.uploads.lookup m = some u → u.input.documentId ≠ input.documentId := by
    intro m u hu hid
    unfold System.isFresh at hfresh
    rw [List.isEmpty_iff] at hfresh
    have hmem : (m, u) ∈ s.uploads.findMany fun _ u => u.input.documentId = input.documentId :=
      Table.mem_findMany.mpr ⟨hu, decide_eq_true hid⟩
    rw [hfresh] at hmem
    cases hmem
  have hold : ∀ {m u}, s.uploads.lookup m = some u → m ≠ n := by
    rintro m u hu rfl
    rw [hnone] at hu
    cases hu
  obtain ⟨stage, hstage⟩ : ∃ stage, stage =
      (if input.isCertificate = true then Stage.received else .storing) := ⟨_, rfl⟩
  rw [← hstage]
  have hlookup : ∀ m, (s.uploads.insert n ⟨input, stage⟩).lookup m =
      if m = n then some ⟨input, stage⟩ else s.uploads.lookup m := fun m =>
    Table.lookup_insert' ..
  have hforth : ∀ {m u}, s.uploads.lookup m = some u →
      (s.uploads.insert n ⟨input, stage⟩).lookup m = some u := fun {m u} hu =>
    (hlookup m).trans ((if_neg (hold hu)).trans hu)
  refine ⟨⟨?_, ?_, ?_, ?_, hs.unique, ?_, ?_⟩, fun m => ?_⟩
  · intro m k u v hu hv hid
    rw [hlookup] at hu hv
    split_ifs at hu hv with hm hk hk
    · rw [hm, hk]
    · cases hu
      exact absurd hid.symm (hnew k v hv)
    · cases hv
      exact absurd hid (hnew m u hu)
    · exact hs.ids m k u v hu hv hid
  · intro id document hdocument
    obtain ⟨m, u, hu, hid, hkey⟩ := hs.documents id document hdocument
    exact ⟨m, u, hforth hu, hid, hkey⟩
  · intro id c hc
    obtain ⟨m, u, hu, hcertificate⟩ := hs.certificates id c hc
    exact ⟨m, u, hforth hu, hcertificate⟩
  · intro m v hv hcertificate hcommitted
    rw [hlookup] at hv
    split_ifs at hv with hm
    · cases hv
      obtain ⟨document, hdocument⟩ := Option.isSome_iff_exists.mp hcommitted
      obtain ⟨k, u, hu, hid, -⟩ := hs.documents _ document hdocument
      exact absurd hid (hnew k u hu)
    · exact hs.written m v hv hcertificate hcommitted
  · intro key hkey
    obtain ⟨m, u, hu, hobject⟩ := hs.objects key hkey
    exact ⟨m, u, hforth hu, hobject⟩
  · intro m v hv
    rw [hlookup] at hv
    split_ifs at hv with hm
    · cases hv
      have hcommitted : s.committed input = false := by
        rw [← Bool.not_eq_true]
        intro hc
        obtain ⟨document, hdocument⟩ := Option.isSome_iff_exists.mp hc
        obtain ⟨k, u, hu, hid, -⟩ := hs.documents _ document hdocument
        exact absurd hid (hnew k u hu)
      have hobject : input.objectKey ∉ s.objects := by
        intro hmem
        obtain ⟨k, u, hu, hkey⟩ := hs.objects _ hmem
        exact absurd (congrArg OriginalObjectKey.documentId hkey) (hnew k u hu)
      unfold Upload.Shaped
      rw [hstage]
      cases input.isCertificate <;> exact ⟨hcommitted, hobject⟩
    · exact hs.shaped m v hv
  · refine ⟨fun h => ⟨fun u hu => h u (hforth hu), fun _ => hcareful⟩, fun h v hv => ?_⟩
    dsimp only at hv
    rw [hlookup] at hv
    split_ifs at hv
    · cases hv
      unfold Upload.Fine
      rw [hstage]
      cases input.isCertificate <;> trivial
    · exact h.1 v hv

/-- **The step lemma.** -/
theorem keeps_step (hs : s.Sound) (e : Event) : Keeps s (step s e) e := by
  have hdrive : ∀ {n : ℕ} {f : Upload → System}, e.upload = n →
      (∀ upload, s.uploads.lookup n = some upload →
        Idle s (f upload) upload e ∨ Drives s (f upload) n upload e) →
        Keeps s (s.drive n f) e := by
    intro n f hn hf
    unfold System.drive
    split
    · rename_i hnone
      exact keeps_idle hs (by rw [careful, hn, hnone]; rfl)
    · rename_i upload hupload
      rcases hf upload hupload with ⟨hsame, hc⟩ | hdrives
      · rw [hsame]
        exact keeps_idle hs (by rw [careful, hn, hupload]; exact hc)
      · exact keeps_drives hs hn hdrives
  cases e with
  | start n input => exact keeps_start hs n input
  | lookUp n fails => exact hdrive rfl fun _ h => drives_lookUp hs h fails
  | put n answer => exact hdrive rfl fun _ h => drives_put hs h answer
  | write n answer => exact hdrive rfl fun _ h => drives_write hs h answer
  | resolve n fails => exact hdrive rfl fun _ h => drives_resolve hs h fails
  | remove n => exact hdrive rfl fun _ h => drives_remove h

lemma fine_run (hs : s.Sound) (events : List Event) (n : ℕ) :
    (run step s events).Sound ∧ (FineAt (run step s events) n ↔
      FineAt s n ∧ Along step (fun s e => e.upload = n → careful s e = true) s events) := by
  induction events generalizing s with
  | nil => exact ⟨hs, by simp⟩
  | cons e events ih =>
    have hkeeps := keeps_step hs e
    obtain ⟨hsound, hfine⟩ := ih hkeeps.sound
    refine ⟨hsound, ?_⟩
    rw [run_cons, hfine, hkeeps.fine, along_cons, and_assoc]

lemma sound_empty : System.Sound {} where
  ids _ _ _ _ h := by cases h
  documents _ _ h := by cases h
  certificates _ _ h := by cases h
  written _ _ h := by cases h
  unique _ _ _ _ h := by cases h
  objects _ h := by cases h
  shaped _ _ h := by cases h

lemma inStep_iff (hs : s.Sound) (hfound : s.uploads.lookup n = some upload) {accepted : Bool}
    (hanswered : upload.stage = .answered accepted) : upload.InStep s ↔ upload.Fine s := by
  have hown : ∀ {id document}, s.catalog.documents.lookup id = some document →
      document.storageObjectKey = upload.input.objectKey → id = upload.input.documentId := by
    intro id document hdocument hkey
    obtain ⟨m, u, hu, hid, hukey⟩ := hs.documents id document hdocument
    have hsame := congrArg OriginalObjectKey.documentId (hukey.symm.trans hkey)
    exact hid.symm.trans hsame
  have hkey : ∀ {document}, s.catalog.documents.lookup upload.input.documentId = some document →
      document.storageObjectKey = upload.input.objectKey := by
    intro document hdocument
    obtain ⟨m, u, hu, hid, hukey⟩ := hs.documents _ document hdocument
    have hm : m = n := hs.ids m n u upload hu hfound hid
    subst hm
    have hsame := hu.symm.trans hfound
    cases hsame
    exact hukey
  unfold Upload.Fine Upload.InStep
  rw [hanswered]
  constructor
  · rintro ⟨hobject, hreferred⟩
    refine ⟨fun hcommitted => ?_, fun hmem => ?_⟩
    · obtain ⟨document, hdocument⟩ := Option.isSome_iff_exists.mp hcommitted
      rw [← hkey hdocument]
      exact hobject document hdocument
    · obtain ⟨id, document, hdocument, hsame⟩ := hreferred hmem
      rw [System.committed, ← hown hdocument hsame, hdocument]
      rfl
  · intro hfine
    refine ⟨fun document hdocument => ?_, fun hmem => ?_⟩
    · rw [hkey hdocument]
      exact hfine.mp (by rw [System.committed, hdocument]; rfl)
    · obtain ⟨document, hdocument⟩ := Option.isSome_iff_exists.mp (hfine.mpr hmem)
      exact ⟨_, document, hdocument, hkey hdocument⟩

/-- Two uploads of one content under one key: the second one has looked for a certificate before
the first one is written, and its object stays behind. -/
def twoUploads : List Event :=
  [.start 0 ⟨"org", "doc-0", "photo.png", .certificate "key" "fingerprint"⟩,
    .start 1 ⟨"org", "doc-1", "photo.png", .certificate "key" "fingerprint"⟩,
    .lookUp 0 false, .lookUp 1 false, .put 0 .stored, .put 1 .stored, .write 0 .done,
    .write 1 .done, .resolve 1 false]

end Uploads
end SmeDataCenter
