import SmeDataCenter.CalendarTexts
import SmeDataCenter.Fallible
import SmeDataCenter.PercentEscapes
import SmeDataCenter.WorkerTables

/-!
# Keys of ledger files

The key under which the PDF of a partition is stored, and the name of its entry in a bundle. Both
escape what would split a segment or climb out of it. Names are stored texts, in which no surrogate
stands alone.
-/

namespace SmeDataCenter
namespace LedgerObjectKeys

open CodeWords CalendarTexts DecimalNumerals PercentEscapes LedgerArchive

/-! ### Keys of the storage -/

/-- `LEDGER_OSS_MAX_OBJECT_KEY_BYTES` -/
def maxObjectKeyBytes : ℕ := 1023

/-- `LEDGER_PDF_MAX_GENERATION` -/
def maxGeneration : ℤ := 4294967295

def escapesInKey (c : Char) : Bool :=
  c == '%' || c == '/' || c == '\\' || c.toNat ≤ 0x1f || (0x7f ≤ c.toNat && c.toNat ≤ 0x9f)

/-- `encodeURIComponent`, of a character that it does not leave as it is. -/
def encodeURIComponent (c : Char) : Text :=
  (String.utf8EncodeChar c).flatMap fun byte => percentByte byte.toNat

def pathSegment (value : Text) : Except String Text :=
  if (Text.trim value).isEmpty then .error "LEDGER_PARTITION_KEY_INVALID"
  else if value = ['.'] ∨ value = ['.', '.'] then .ok (value.flatMap fun _ => "%2E".toList)
  else .ok (encode (escapeWord escapesInKey encodeURIComponent) value)

/-- No segment of the path is empty or a dot segment. -/
def hasUnsafeSegment (path : Text) : Bool :=
  (path.splitOn '/').any fun segment => segment == [] || segment == ['.'] || segment == ['.', '.']

def normalizeLedgerObjectKeyPrefix (keyPrefix : Text) : Except String Text :=
  let normalized := (keyPrefix.dropWhile (· == '/')).rdropWhile (· == '/')
  if !normalized.isEmpty && (normalized.contains '\\' || hasUnsafeSegment normalized) then
    .error "LEDGER_OBJECT_KEY_PREFIX_INVALID"
  else .ok normalized

/-- `Buffer.byteLength(text, "utf8")` -/
def byteLength (text : Text) : ℕ := (text.flatMap String.utf8EncodeChar).length

def physicalKey (normalized objectKey : Text) : Text :=
  if normalized.isEmpty then objectKey else normalized ++ '/' :: objectKey

def assertLedgerObjectKeyByteLength (objectKey keyPrefix : Text) : Except String Unit := do
  let normalized ← normalizeLedgerObjectKeyPrefix keyPrefix
  if (physicalKey normalized objectKey).isEmpty then .error "LEDGER_OBJECT_KEY_INVALID"
  else if maxObjectKeyBytes < byteLength (physicalKey normalized objectKey) then
    .error "LEDGER_OBJECT_KEY_TOO_LONG"
  else .ok ()

def isLowerHex (c : Char) : Bool := Text.isDigit c || (0x61 ≤ c.toNat && c.toNat ≤ 0x66)

/-- `/^[0-9a-f]{8}-[0-9a-f]{4}-[0-9a-f]{4}-[0-9a-f]{4}-[0-9a-f]{12}$/` -/
def isAttemptId (id : Text) : Bool :=
  id.length == 36 && id.zipIdx.all fun (c, place) =>
    if [8, 13, 18, 23].contains place then c == '-' else isLowerHex c

def filenameId (generationId : ℤ) (attemptId : Option Text) : Text :=
  match attemptId with
  | none => Nat.toDigits 10 generationId.toNat
  | some attempt => Nat.toDigits 10 generationId.toNat ++ '-' :: attempt

/-- `org/…/ledger_records/…/YYYY/MM/DD/台账_….pdf` -/
def objectKeyText (orgSegment storeSegment purchaseDate filenameId : Text) : Text :=
  "org".toList ++ '/' :: (orgSegment ++ '/' :: ("ledger_records".toList ++ '/' :: (storeSegment ++
    '/' :: (purchaseDate.map (fun c => if c == '-' then '/' else c) ++
      '/' :: ("台账_".toList ++ filenameId ++ ".pdf".toList)))))

/-- A generation that is no integer is refused like one that is not positive. -/
def createLedgerPdfObjectKey (key : LedgerPartitionKey) (generationId : ℤ) (keyPrefix : Text)
    (attemptId : Option Text) : Except String Text :=
  if !isLedgerDate key.purchaseDate then .error "LEDGER_SCOPE_INVALID"
  else if generationId < 1 ∨ maxGeneration < generationId then .error "LEDGER_GENERATION_INVALID"
  else if attemptId.any (!isAttemptId ·) then .error "LEDGER_ATTEMPT_ID_INVALID"
  else do
    let orgSegment ← pathSegment key.orgId.toList
    let storeSegment ← pathSegment key.storeName.toList
    let objectKey := objectKeyText orgSegment storeSegment key.purchaseDate.toList
      (filenameId generationId attemptId)
    assertLedgerObjectKeyByteLength objectKey keyPrefix
    return objectKey

def widestAttemptId : Text := "ffffffff-ffff-ffff-ffff-ffffffffffff".toList

def assertLedgerPartitionObjectKeyFits (key : LedgerPartitionKey) (keyPrefix : Text) :
    Except String Unit := do
  let _ ← createLedgerPdfObjectKey key maxGeneration keyPrefix (some widestAttemptId)

/-- The storage takes keys that are relative and stay below its root. -/
def assertSafeObjectKey (key : Text) : Except String Unit :=
  if key.contains '\\' || key.head? == some '/' then
    .error "Storage object key must be relative."
  else if hasUnsafeSegment key then .error "Storage object key contains unsafe path segments."
  else .ok ()

/-! ### Names in a bundle -/

/-- The characters that are escaped; a space only at the end. -/
def escapesInFile (last : Bool) (c : Char) : Bool :=
  "%./\\<>:\"|?*".toList.contains c || c.toNat < 32 || c.toNat == 127 || (c == ' ' && last)

def storeFileWord (last : Bool) (c : Char) : Text :=
  escapeWord (escapesInFile last) (fun c => percentByte c.toNat) c

def ledgerStoreFileSegment : Text → Text
  | [] => []
  | c :: rest => storeFileWord rest.isEmpty c ++ ledgerStoreFileSegment rest

def ledgerTitle : Text := "食品经营单位进货台帐_".toList

def pdfExtension : Text := ".pdf".toList

def ledgerPdfFileName (storeName purchaseDate : Text) : Text :=
  ledgerTitle ++ ledgerStoreFileSegment storeName ++ '_' :: purchaseDate ++ pdfExtension

def ledgerBundleEntryName (storeName purchaseDate : Text) : Text :=
  ledgerStoreFileSegment storeName ++ '/' :: (purchaseDate ++ '/' ::
    ledgerPdfFileName storeName purchaseDate)

/-! ### Separators -/

lemma cut_inj {α : Type} {a : α} {x x' z z' : List α} (hx : a ∉ x) (hx' : a ∉ x')
    (h : x ++ a :: z = x' ++ a :: z') : x = x' ∧ z = z' := by
  induction x generalizing x' with
  | nil =>
    cases x' with
    | nil => exact ⟨rfl, (List.cons.inj h).2⟩
    | cons b x' =>
      obtain rfl := (List.cons.inj h).1
      exact absurd List.mem_cons_self hx'
  | cons b x ih =>
    cases x' with
    | nil =>
      obtain rfl := (List.cons.inj h).1
      exact absurd List.mem_cons_self hx
    | cons c x' =>
      obtain ⟨rfl, htail⟩ := List.cons.inj h
      obtain ⟨rfl, rfl⟩ := ih (fun hmem => hx (List.mem_cons_of_mem b hmem))
        (fun hmem => hx' (List.mem_cons_of_mem b hmem)) htail
      exact ⟨rfl, rfl⟩

lemma mem_intercalate {α : Type} {a c : α} {parts : List (List α)}
    (h : c ∈ [a].intercalate parts) : c = a ∨ ∃ part ∈ parts, c ∈ part := by
  induction parts with
  | nil => cases h
  | cons part parts ih =>
    cases parts with
    | nil =>
      rw [List.intercalate_singleton] at h
      exact .inr ⟨part, List.mem_cons_self, h⟩
    | cons second parts =>
      rw [List.intercalate_cons_cons] at h
      rcases List.mem_append.mp h with h | h
      · rcases List.mem_append.mp h with h | h
        · exact .inr ⟨part, List.mem_cons_self, h⟩
        · exact .inl (List.mem_singleton.mp h)
      · rcases ih h with h | ⟨other, hother, hc⟩
        · exact .inl h
        · exact .inr ⟨other, List.mem_cons_of_mem part hother, hc⟩

/-! ### Segments of a key -/

variable {c : Char}

lemma escapesInKey_lt (hc : escapesInKey c = true) : c.toNat < 160 := by
  simp only [escapesInKey, Bool.or_eq_true, beq_iff_eq, decide_eq_true_eq, Bool.and_eq_true] at hc
  rcases hc with (((rfl | rfl) | rfl) | hc) | hc
  · decide
  · decide
  · decide
  · omega
  · omega

lemma encodeURIComponent_ascii (hc : c.toNat < 128) :
    encodeURIComponent c = percentByte c.toNat := by
  have hall : ∀ n < 128, encodeURIComponent (Char.ofNat n) = percentByte n := by decide +kernel
  have := hall c.toNat hc
  rwa [Char.ofNat_toNat] at this

lemma encodeURIComponent_control (hlow : 128 ≤ c.toNat) (hc : c.toNat < 160) :
    encodeURIComponent c = percentByte 0xC2 ++ percentByte c.toNat := by
  have hall : ∀ n < 160, 128 ≤ n →
      encodeURIComponent (Char.ofNat n) = percentByte 0xC2 ++ percentByte n := by decide +kernel
  have := hall c.toNat hc hlow
  rwa [Char.ofNat_toNat] at this

lemma toNat_inj {a b : Char} (h : a.toNat = b.toNat) : a = b := by
  rw [← Char.ofNat_toNat a, h, Char.ofNat_toNat]

lemma readBack_key : ReadBack escapesInKey encodeURIComponent where
  percent := by decide
  head := by
    intro c hc
    rcases Nat.lt_or_ge c.toNat 128 with hlt | hge
    · exact ⟨_, encodeURIComponent_ascii hlt⟩
    · exact ⟨_, encodeURIComponent_control hge (escapesInKey_lt hc)⟩
  unique := by
    intro a b s t ha hb heq
    have ha := escapesInKey_lt ha
    have hb := escapesInKey_lt hb
    apply toNat_inj
    rcases Nat.lt_or_ge a.toNat 128 with hlt | hge
    · rw [encodeURIComponent_ascii hlt] at heq
      rcases Nat.lt_or_ge b.toNat 128 with hlt' | hge'
      · rw [encodeURIComponent_ascii hlt'] at heq
        exact percentByte_inj (by omega) (by omega) heq
      · rw [encodeURIComponent_control hge' hb, List.append_assoc] at heq
        have := percentByte_inj (by omega) (by omega) heq
        omega
    · rw [encodeURIComponent_control hge ha, List.append_assoc] at heq
      rcases Nat.lt_or_ge b.toNat 128 with hlt' | hge'
      · rw [encodeURIComponent_ascii hlt'] at heq
        have := percentByte_inj (by omega) (by omega) heq
        omega
      · rw [encodeURIComponent_control hge' hb, List.append_assoc] at heq
        exact percentByte_inj (by omega) (by omega) (List.append_cancel_left heq)

/-- A text that is one segment of a path, and stays where it is. -/
structure IsSegment (text : Text) : Prop where
  ne_nil : text ≠ []
  slash : '/' ∉ text
  backslash : '\\' ∉ text
  dot : text ≠ ['.']
  dots : text ≠ ['.', '.']

variable {d : Char}

lemma mem_encodeURIComponent (hd : d ∈ encodeURIComponent c) : d = '%' ∨ d ∈ hexDigits := by
  obtain ⟨byte, -, hbyte⟩ := List.mem_flatMap.mp hd
  exact mem_percentByte byte.toNat_lt hbyte

lemma notMem_encode {value : Text} (hd : escapesInKey d = true) (hpercent : d ≠ '%')
    (hdigit : d ∉ hexDigits) : d ∉ encode (escapeWord escapesInKey encodeURIComponent) value := by
  intro hmem
  obtain ⟨c, -, hc⟩ := List.mem_flatMap.mp hmem
  unfold escapeWord at hc
  split_ifs at hc with hescape
  · rcases mem_encodeURIComponent hc with h | h
    · exact hpercent h
    · exact hdigit h
  · rw [List.mem_singleton] at hc
    rw [← hc, hd] at hescape
    exact hescape rfl

lemma isSegment_of_pathSegment {value text : Text} (h : pathSegment value = .ok text) :
    IsSegment text := by
  unfold pathSegment at h
  split_ifs at h with hblank hdots
  · cases h
    rcases hdots with rfl | rfl
    · exact ⟨by decide, by decide, by decide, by decide, by decide⟩
    · exact ⟨by decide, by decide, by decide, by decide, by decide⟩
  · cases h
    have hplain (text : Text) (htext : ∀ c ∈ text, escapesInKey c = false) :
        encode (escapeWord escapesInKey encodeURIComponent) text = text := by
      induction text with
      | nil => rfl
      | cons c text ih =>
        rw [encode_cons, ih fun d hd => htext d (List.mem_cons_of_mem c hd), escapeWord,
          htext c List.mem_cons_self]
        rfl
    have hread {text : Text} (htext : text.all (!escapesInKey ·) = true)
        (heq : encode (escapeWord escapesInKey encodeURIComponent) value = text) :
        value = text := by
      refine encode_escapeWord_inj readBack_key (heq.trans (hplain text fun c hc => ?_).symm)
      have hescape := List.all_eq_true.mp htext c hc
      rwa [Bool.not_eq_true'] at hescape
    refine ⟨?_, ?_, ?_, ?_, ?_⟩
    · intro heq
      rw [hread (by decide) heq] at hblank
      exact hblank rfl
    · exact notMem_encode (by decide) (by decide) (by decide)
    · exact notMem_encode (by decide) (by decide) (by decide)
    · intro heq
      exact hdots (.inl (hread (by decide) heq))
    · intro heq
      exact hdots (.inr (hread (by decide) heq))

lemma encode_ne_dots {value : Text} (count : ℕ) :
    encode (escapeWord escapesInKey encodeURIComponent) value ≠
      (List.replicate (count + 1) '.').flatMap fun _ => "%2E".toList := by
  intro heq
  rw [List.replicate_succ, List.flatMap_cons] at heq
  have h2E : "%2E".toList = percentByte 0x2E := by decide
  rw [h2E] at heq
  cases value with
  | nil => cases heq
  | cons c value =>
    rw [encode_cons, escapeWord] at heq
    split_ifs at heq with hc
    · have hlt := escapesInKey_lt hc
      rcases Nat.lt_or_ge c.toNat 128 with hascii | hge
      · rw [encodeURIComponent_ascii hascii] at heq
        have hcode := percentByte_inj (by omega) (by omega) heq
        rw [toNat_inj (show c.toNat = '.'.toNat from hcode)] at hc
        exact absurd hc (by decide)
      · rw [encodeURIComponent_control hge hlt, List.append_assoc] at heq
        have hcode := percentByte_inj (by omega) (by omega) heq
        omega
    · rw [(List.cons.inj heq).1] at hc
      exact hc (by decide)

lemma pathSegment_inj {value other text : Text} (h : pathSegment value = .ok text)
    (h' : pathSegment other = .ok text) : value = other := by
  unfold pathSegment at h h'
  split_ifs at h with hblank hdots <;> split_ifs at h' with hblank' hdots'
  · cases h
    have heq := Except.ok.inj h'
    rcases hdots with rfl | rfl <;> rcases hdots' with rfl | rfl
    · rfl
    · exact absurd heq (by decide)
    · exact absurd heq (by decide)
    · rfl
  · cases h
    have heq := Except.ok.inj h'
    rcases hdots with rfl | rfl
    · exact (encode_ne_dots 0 heq).elim
    · exact (encode_ne_dots 1 heq).elim
  · cases h'
    have heq := Except.ok.inj h
    rcases hdots' with rfl | rfl
    · exact (encode_ne_dots 0 heq).elim
    · exact (encode_ne_dots 1 heq).elim
  · cases h
    exact (encode_escapeWord_inj readBack_key (Except.ok.inj h')).symm

/-! ### The parts of a key -/

/-- The segments of a key. -/
def keySegments (orgSegment storeSegment year month day filenameId : Text) : List Text :=
  ["org".toList, orgSegment, "ledger_records".toList, storeSegment, year, month, day,
    "台账_".toList ++ filenameId ++ ".pdf".toList]

lemma map_dashes {part : Text} (hpart : IsDigits part) :
    part.map (fun c => if c == '-' then '/' else c) = part := by
  refine (List.map_congr_left fun c hc => ?_).trans (List.map_id part)
  have hne : (c == '-') = false := by
    rw [beq_eq_false_iff_ne]
    rintro rfl
    exact notMem_of_isDigits hpart (by decide) hc
  rw [hne]
  rfl

variable {month year purchaseDate day : Text}

lemma objectKeyText_eq {orgSegment storeSegment filenameId : Text}
    (h : DateParts purchaseDate year month day) :
    objectKeyText orgSegment storeSegment purchaseDate filenameId =
      ['/'].intercalate (keySegments orgSegment storeSegment year month day filenameId) := by
  rw [objectKeyText, h.text_eq, List.map_append, List.map_cons, List.map_append, List.map_cons,
    map_dashes h.year.1, map_dashes h.month.1, map_dashes h.day.1, keySegments]
  generalize "org".toList = org
  generalize "ledger_records".toList = records
  generalize "台账_".toList ++ filenameId ++ ".pdf".toList = file
  simp only [List.intercalate_cons_cons, List.intercalate_singleton, List.append_assoc,
    List.cons_append, List.nil_append, beq_self_eq_true, if_true]

/-- What a key is made of. -/
structure Created (key : LedgerPartitionKey) (generationId : ℤ) (keyPrefix : Text)
    (attemptId : Option Text) (orgSegment storeSegment text : Text) : Prop where
  date : isLedgerDate key.purchaseDate = true
  generation : 1 ≤ generationId ∧ generationId ≤ maxGeneration
  attempt : ∀ id ∈ attemptId, isAttemptId id = true
  org : pathSegment key.orgId.toList = .ok orgSegment
  store : pathSegment key.storeName.toList = .ok storeSegment
  text_eq : text = objectKeyText orgSegment storeSegment key.purchaseDate.toList
    (filenameId generationId attemptId)
  fits : assertLedgerObjectKeyByteLength text keyPrefix = .ok ()

lemma createLedgerPdfObjectKey_ok {key : LedgerPartitionKey} {generationId : ℤ}
    {keyPrefix : Text} {attemptId : Option Text} {text : Text} :
    createLedgerPdfObjectKey key generationId keyPrefix attemptId = .ok text ↔
      ∃ orgSegment storeSegment,
        Created key generationId keyPrefix attemptId orgSegment storeSegment text := by
  have hattempts : (attemptId.any (!isAttemptId ·)) = false ↔
      ∀ id ∈ attemptId, isAttemptId id = true := by
    cases attemptId with
    | none => simp
    | some id => simp
  unfold createLedgerPdfObjectKey
  constructor
  · intro h
    split_ifs at h with hdate hgeneration hattempt
    obtain ⟨orgSegment, horg, h⟩ := Fallible.bind_ok.mp h
    obtain ⟨storeSegment, hstore, h⟩ := Fallible.bind_ok.mp h
    obtain ⟨_, hfits, h⟩ := Fallible.bind_ok.mp h
    obtain rfl := Fallible.pure_ok.mp h
    refine ⟨orgSegment, storeSegment, by simpa using hdate, by omega, ?_, horg, hstore, rfl, hfits⟩
    exact hattempts.mp (Bool.eq_false_iff.mpr hattempt)
  · rintro ⟨orgSegment, storeSegment, h⟩
    obtain ⟨hdate, hgeneration, hattempt, horg, hstore, rfl, hfits⟩ := h
    rw [if_neg (by simp [hdate]), if_neg (by omega),
      if_neg (Bool.eq_false_iff.mp (hattempts.mpr hattempt)), horg, hstore]
    refine Fallible.bind_ok.mpr ⟨_, rfl, Fallible.bind_ok.mpr ⟨_, rfl, ?_⟩⟩
    exact Fallible.bind_ok.mpr ⟨(), hfits, rfl⟩

/-! ### Names of files -/

/-- The characters of a file's id. -/
def isIdChar (c : Char) : Bool := isLowerHex c || c == '-'

variable {id : Text}

lemma attemptId_chars (h : isAttemptId id = true) :
    id.length = 36 ∧ ∀ c ∈ id, isIdChar c = true := by
  rw [isAttemptId, Bool.and_eq_true, beq_iff_eq] at h
  refine ⟨h.1, fun c hc => ?_⟩
  obtain ⟨place, hplace⟩ := List.mem_iff_getElem?.mp hc
  have hall := List.all_eq_true.mp h.2 (c, place) (List.mk_mem_zipIdx_iff_getElem?.mpr hplace)
  dsimp only at hall
  split_ifs at hall with hdash
  · rw [isIdChar, hall, Bool.or_true]
  · rw [isIdChar, hall, Bool.true_or]

lemma toDigits_chars (n : ℕ) : ∀ c ∈ Nat.toDigits 10 n, isIdChar c = true := by
  intro c hc
  rw [isIdChar, isLowerHex, isDigits_toDigits n c hc]
  rfl

lemma filenameId_chars (generationId : ℤ) {attemptId : Option Text}
    (h : ∀ id ∈ attemptId, isAttemptId id = true) :
    ∀ c ∈ filenameId generationId attemptId, isIdChar c = true := by
  intro c hc
  cases attemptId with
  | none => exact toDigits_chars _ c hc
  | some attempt =>
    rcases List.mem_append.mp hc with hc | hc
    · exact toDigits_chars _ c hc
    · rcases List.mem_cons.mp hc with rfl | hc
      · rfl
      · exact (attemptId_chars (h attempt rfl)).2 c hc

lemma toDigits_dash (n : ℕ) : '-' ∉ Nat.toDigits 10 n :=
  notMem_of_isDigits (isDigits_toDigits n) (by decide)

lemma filenameId_inj {generationId other : ℤ} {attemptId attemptId' : Option Text}
    (hpos : 1 ≤ generationId) (hpos' : 1 ≤ other)
    (h : filenameId generationId attemptId = filenameId other attemptId') :
    generationId = other ∧ attemptId = attemptId' := by
  have hnumber (hdigits : Nat.toDigits 10 generationId.toNat = Nat.toDigits 10 other.toNat) :
      generationId = other := by
    have hvalue := congrArg digitsValue hdigits
    rw [digitsValue_toDigits, digitsValue_toDigits] at hvalue
    omega
  cases attemptId with
  | none =>
    cases attemptId' with
    | none => exact ⟨hnumber h, rfl⟩
    | some attempt =>
      refine absurd ?_ (toDigits_dash generationId.toNat)
      rw [show Nat.toDigits 10 generationId.toNat = _ from h]
      simp [filenameId]
  | some attempt =>
    cases attemptId' with
    | none =>
      refine absurd ?_ (toDigits_dash other.toNat)
      rw [show Nat.toDigits 10 other.toNat = _ from h.symm]
      simp [filenameId]
    | some attempt' =>
      obtain ⟨hdigits, rfl⟩ := cut_inj (toDigits_dash _) (toDigits_dash _) h
      exact ⟨hnumber hdigits, rfl⟩

/-! ### Keys are safe -/

lemma isSegment_digits {part : Text} (hpart : IsDigits part) (hlength : 2 ≤ part.length) :
    IsSegment part := by
  have hdot : '.' ∉ part := notMem_of_isDigits hpart (by decide)
  refine ⟨?_, notMem_of_isDigits hpart (by decide), notMem_of_isDigits hpart (by decide), ?_, ?_⟩
  · rintro rfl
    simp at hlength
  · rintro rfl
    exact hdot List.mem_cons_self
  · rintro rfl
    exact hdot List.mem_cons_self

lemma isSegment_file (hid : ∀ c ∈ id, isIdChar c = true) :
    IsSegment ("台账_".toList ++ id ++ ".pdf".toList) := by
  have hnot {d : Char} (hd : isIdChar d = false) (hfront : d ∉ "台账_".toList)
      (hback : d ∉ ".pdf".toList) : d ∉ "台账_".toList ++ id ++ ".pdf".toList := by
    intro hmem
    rcases List.mem_append.mp hmem with hmem | hmem
    · rcases List.mem_append.mp hmem with hmem | hmem
      · exact hfront hmem
      · rw [hid d hmem] at hd
        cases hd
    · exact hback hmem
  have hlength : 2 < ("台账_".toList ++ id ++ ".pdf".toList).length := by
    rw [List.length_append, List.length_append]
    have : "台账_".toList.length = 3 := by decide
    omega
  refine ⟨?_, hnot (by decide) (by decide) (by decide), hnot (by decide) (by decide) (by decide),
    ?_, ?_⟩
  · intro heq
    rw [heq] at hlength
    exact absurd hlength (by decide)
  · intro heq
    rw [heq] at hlength
    exact absurd hlength (by decide)
  · intro heq
    rw [heq] at hlength
    exact absurd hlength (by decide)

section

variable {key other : LedgerPartitionKey} {generationId generationId' : ℤ}
  {keyPrefix keyPrefix' : Text} {attemptId attemptId' : Option Text}
  {orgSegment storeSegment orgSegment' storeSegment' text : Text}

lemma dateParts_of_isLedgerDate {date : String} (h : isLedgerDate date = true) :
    ∃ year month day, DateParts date.toList year month day := by
  apply exists_dateParts
  unfold isLedgerDate at h
  cases hread : readIsoDate date.toList with
  | none =>
    rw [hread] at h
    cases h
  | some date => rfl

lemma Created.dateParts
    (h : Created key generationId keyPrefix attemptId orgSegment storeSegment text) :
    ∃ year month day, DateParts key.purchaseDate.toList year month day :=
  dateParts_of_isLedgerDate h.date

lemma Created.isSegment
    (h : Created key generationId keyPrefix attemptId orgSegment storeSegment text)
    (hparts : DateParts key.purchaseDate.toList year month day) :
    ∀ segment ∈ keySegments orgSegment storeSegment year month day
      (filenameId generationId attemptId), IsSegment segment := by
  intro segment hsegment
  simp only [keySegments, List.mem_cons, List.not_mem_nil, or_false] at hsegment
  rcases hsegment with rfl | rfl | rfl | rfl | rfl | rfl | rfl | rfl
  · exact ⟨by decide, by decide, by decide, by decide, by decide⟩
  · exact isSegment_of_pathSegment h.org
  · exact ⟨by decide, by decide, by decide, by decide, by decide⟩
  · exact isSegment_of_pathSegment h.store
  · exact isSegment_digits hparts.year.1 (by have := hparts.year.2; omega)
  · exact isSegment_digits hparts.month.1 hparts.month.2.ge
  · exact isSegment_digits hparts.day.1 hparts.day.2.ge
  · exact isSegment_file (filenameId_chars generationId h.attempt)

lemma Created.splitOn
    (h : Created key generationId keyPrefix attemptId orgSegment storeSegment text)
    (hparts : DateParts key.purchaseDate.toList year month day) :
    text.splitOn '/' = keySegments orgSegment storeSegment year month day
      (filenameId generationId attemptId) := by
  rw [h.text_eq, objectKeyText_eq hparts]
  refine List.splitOn_intercalate '/' (fun segment hsegment => ?_) (List.cons_ne_nil _ _)
  exact (h.isSegment hparts segment hsegment).slash

lemma Created.safe
    (h : Created key generationId keyPrefix attemptId orgSegment storeSegment text) :
    assertSafeObjectKey text = .ok () := by
  obtain ⟨year, month, day, hparts⟩ := h.dateParts
  have hsegments := h.isSegment hparts
  have hsplit := h.splitOn hparts
  have hbackslash : '\\' ∉ text := by
    rw [h.text_eq, objectKeyText_eq hparts]
    intro hmem
    rcases mem_intercalate hmem with hslash | ⟨segment, hsegment, hc⟩
    · exact absurd hslash (by decide)
    · exact (hsegments segment hsegment).backslash hc
  have hhead : text.head? = some 'o' := by
    rw [h.text_eq]
    rfl
  have hunsafe : hasUnsafeSegment text = false := by
    rw [hasUnsafeSegment, hsplit, List.any_eq_false]
    intro segment hsegment
    have hok := hsegments segment hsegment
    simp [hok.ne_nil, hok.dot, hok.dots]
  rw [assertSafeObjectKey, hhead, if_neg (by simp [hbackslash]), hunsafe]
  rfl

lemma Created.inj
    (h : Created key generationId keyPrefix attemptId orgSegment storeSegment text)
    (h' : Created other generationId' keyPrefix' attemptId' orgSegment' storeSegment' text) :
    key = other ∧ generationId = generationId' ∧ attemptId = attemptId' := by
  obtain ⟨year, month, day, hparts⟩ := h.dateParts
  obtain ⟨year', month', day', hparts'⟩ := h'.dateParts
  have hsegments := (h.splitOn hparts).symm.trans (h'.splitOn hparts')
  simp only [keySegments, List.cons.injEq, true_and, and_true] at hsegments
  obtain ⟨horg, hstore, hyear, hmonth, hday, hfile⟩ := hsegments
  have hid := List.append_cancel_left (List.append_cancel_right hfile)
  obtain ⟨hgeneration, hattempt⟩ := filenameId_inj h.generation.1 h'.generation.1 hid
  refine ⟨?_, hgeneration, hattempt⟩
  obtain ⟨orgId, storeName, purchaseDate⟩ := key
  obtain ⟨orgId', storeName', purchaseDate'⟩ := other
  have horgId : orgId = orgId' :=
    String.toList_injective (pathSegment_inj h.org (horg ▸ h'.org))
  have hstoreName : storeName = storeName' :=
    String.toList_injective (pathSegment_inj h.store (hstore ▸ h'.store))
  have hdate : purchaseDate = purchaseDate' := by
    apply String.toList_injective
    rw [hparts.text_eq, hparts'.text_eq, hyear, hmonth, hday]
  rw [horgId, hstoreName, hdate]

/-! ### Admission -/

lemma byteLength_append (s t : Text) : byteLength (s ++ t) = byteLength s + byteLength t := by
  rw [byteLength, List.flatMap_append, List.length_append]
  rfl

lemma byteLength_cons (c : Char) (t : Text) :
    byteLength (c :: t) = (String.utf8EncodeChar c).length + byteLength t := by
  rw [byteLength, List.flatMap_cons, List.length_append]
  rfl

lemma byteLength_id (hid : ∀ c ∈ id, isIdChar c = true) : byteLength id = id.length := by
  induction id with
  | nil => rfl
  | cons c id ih =>
    have hc : c.toNat ≤ 127 := by
      have hchar := hid c List.mem_cons_self
      simp only [isIdChar, isLowerHex, Text.isDigit, Bool.or_eq_true, Bool.and_eq_true,
        decide_eq_true_eq, beq_iff_eq] at hchar
      rcases hchar with (hchar | hchar) | rfl
      · have : '9'.toNat = 57 := by decide
        omega
      · omega
      · decide
    have hsize : c.utf8Size = 1 := Char.utf8Size_eq_one_iff.mpr hc
    rw [byteLength_cons, String.length_utf8EncodeChar, hsize,
      ih fun d hd => hid d (List.mem_cons_of_mem c hd), List.length_cons]
    omega

lemma byteLength_objectKeyText (orgSegment storeSegment purchaseDate id : Text) :
    byteLength (objectKeyText orgSegment storeSegment purchaseDate id) =
      byteLength (objectKeyText orgSegment storeSegment purchaseDate []) + byteLength id := by
  have hnil : byteLength [] = 0 := rfl
  simp only [objectKeyText, byteLength_append, byteLength_cons, hnil]
  omega

lemma length_filenameId {attemptId : Option Text} (hgeneration : generationId ≤ maxGeneration)
    (h : ∀ id ∈ attemptId, isAttemptId id = true) :
    (filenameId generationId attemptId).length ≤ 47 := by
  have hdigits : (Nat.toDigits 10 generationId.toNat).length ≤ 10 := by
    refine (Nat.length_toDigits_le_iff (by decide) (by decide)).mpr ?_
    rw [maxGeneration] at hgeneration
    omega
  cases attemptId with
  | none =>
    rw [filenameId]
    omega
  | some attempt =>
    have hattempt := (attemptId_chars (h attempt rfl)).1
    rw [filenameId, List.length_append, List.length_cons]
    omega

lemma fits_ok {objectKey : Text} :
    assertLedgerObjectKeyByteLength objectKey keyPrefix = .ok () ↔
      ∃ normalized, normalizeLedgerObjectKeyPrefix keyPrefix = .ok normalized ∧
        physicalKey normalized objectKey ≠ [] ∧
        byteLength (physicalKey normalized objectKey) ≤ maxObjectKeyBytes := by
  unfold assertLedgerObjectKeyByteLength
  rw [Fallible.bind_ok]
  refine exists_congr fun normalized => and_congr_right fun _ => ?_
  split_ifs with hempty hlong
  · simp_all
  · simp [hlong]
  · simp_all

lemma Created.of_widest {widest : Text}
    (h : Created key maxGeneration keyPrefix (some widestAttemptId) orgSegment storeSegment widest)
    (hgeneration : 1 ≤ generationId ∧ generationId ≤ maxGeneration)
    (hattempt : ∀ id ∈ attemptId, isAttemptId id = true) :
    Created key generationId keyPrefix attemptId orgSegment storeSegment
      (objectKeyText orgSegment storeSegment key.purchaseDate.toList
        (filenameId generationId attemptId)) := by
  refine ⟨h.date, hgeneration, hattempt, h.org, h.store, rfl, ?_⟩
  obtain ⟨normalized, hnormalized, hne, hbytes⟩ := fits_ok.mp h.fits
  refine fits_ok.mpr ⟨normalized, hnormalized, ?_, ?_⟩
  · unfold physicalKey objectKeyText
    split_ifs
    · exact List.cons_ne_nil _ _
    · simp
  · have hwidest : byteLength (filenameId maxGeneration (some widestAttemptId)) = 47 := by
      decide +kernel
    have hid : byteLength (filenameId generationId attemptId) ≤ 47 := by
      rw [byteLength_id (filenameId_chars generationId hattempt)]
      exact length_filenameId hgeneration.2 hattempt
    have hle : byteLength (objectKeyText orgSegment storeSegment key.purchaseDate.toList
        (filenameId generationId attemptId)) ≤ byteLength widest := by
      rw [h.text_eq, byteLength_objectKeyText, byteLength_objectKeyText _ _ _
        (filenameId maxGeneration _)]
      omega
    unfold physicalKey at hbytes ⊢
    split_ifs at hbytes ⊢
    · omega
    · rw [byteLength_append, byteLength_cons] at hbytes ⊢
      omega

end

/-! ### Segments of a bundle -/

variable {last : Bool}

lemma escapesInFile_lt (hc : escapesInFile last c = true) : c.toNat < 128 := by
  have hlist : ("%./\\<>:\"|?*".toList.all fun d => d.toNat < 128) = true := by decide
  simp only [escapesInFile, Bool.or_eq_true, List.contains_iff_mem, decide_eq_true_eq, beq_iff_eq,
    Bool.and_eq_true] at hc
  rcases hc with ((hc | hc) | hc) | ⟨rfl, -⟩
  · exact of_decide_eq_true (List.all_eq_true.mp hlist c hc)
  · omega
  · omega
  · decide

lemma escapesInFile_last (hc : escapesInFile last c = true) : escapesInFile true c = true := by
  cases last
  · simp only [escapesInFile, Bool.and_false, Bool.or_false] at hc
    rw [escapesInFile, hc, Bool.true_or]
  · exact hc

lemma readBack_file : ReadBack (escapesInFile true) (fun c => percentByte c.toNat) where
  percent := by decide
  head := fun c _ => ⟨_, rfl⟩
  unique := by
    intro a b s t ha hb heq
    have ha := escapesInFile_lt ha
    have hb := escapesInFile_lt hb
    exact toNat_inj (percentByte_inj (by omega) (by omega) heq)

lemma storeFileWord_unique {last' : Bool} {a b : Char} {s t : Text}
    (h : storeFileWord last a ++ s = storeFileWord last' b ++ t) : a = b := by
  have hpercent (last : Bool) : escapesInFile last '%' = true := by
    cases last <;> decide
  exact escapeWord_unique readBack_file (fun _ => escapesInFile_last) (hpercent last)
    (fun _ => escapesInFile_last) (hpercent last') h

lemma storeFileWord_ne_nil (last : Bool) (c : Char) : storeFileWord last c ≠ [] := by
  unfold storeFileWord escapeWord
  split_ifs
  · exact List.cons_ne_nil _ _
  · exact List.cons_ne_nil _ _

lemma storeFileWord_last {rest : Text} (hrest : rest ≠ []) :
    storeFileWord true c ≠ storeFileWord false c ++ ledgerStoreFileSegment rest := by
  intro heq
  have hsome : ledgerStoreFileSegment rest ≠ [] := by
    cases rest with
    | nil => exact absurd rfl hrest
    | cons d rest =>
      rw [ledgerStoreFileSegment]
      exact fun hnil => storeFileWord_ne_nil _ d (List.append_eq_nil_iff.mp hnil).1
  unfold storeFileWord escapeWord at heq
  split_ifs at heq with htrue hfalse
  · exact hsome (by simpa using heq)
  · rw [(List.cons.inj heq).1.symm] at hfalse
    exact hfalse (by decide)
  · exact htrue (escapesInFile_last ‹_›)
  · exact hsome (by simpa using heq)

lemma ledgerStoreFileSegment_inj {name other : Text}
    (h : ledgerStoreFileSegment name = ledgerStoreFileSegment other) : name = other := by
  induction name generalizing other with
  | nil =>
    cases other with
    | nil => rfl
    | cons d rest =>
      rw [ledgerStoreFileSegment, ledgerStoreFileSegment] at h
      exact absurd (List.append_eq_nil_iff.mp h.symm).1 (storeFileWord_ne_nil _ d)
  | cons c name ih =>
    cases other with
    | nil =>
      rw [ledgerStoreFileSegment, ledgerStoreFileSegment] at h
      exact absurd (List.append_eq_nil_iff.mp h).1 (storeFileWord_ne_nil _ c)
    | cons d rest =>
      rw [ledgerStoreFileSegment, ledgerStoreFileSegment] at h
      obtain rfl := storeFileWord_unique h
      cases name with
      | nil =>
        cases rest with
        | nil => rfl
        | cons e rest =>
          rw [ledgerStoreFileSegment, List.append_nil] at h
          exact absurd h (storeFileWord_last (List.cons_ne_nil e rest))
      | cons e name =>
        cases rest with
        | nil =>
          rw [ledgerStoreFileSegment.eq_1, List.append_nil] at h
          exact absurd h.symm (storeFileWord_last (List.cons_ne_nil e name))
        | cons f rest => rw [ih (List.append_cancel_left h)]

lemma notMem_segment (hd : escapesInFile false d = true) (hpercent : d ≠ '%')
    (hdigit : d ∉ hexDigits) (name : Text) : d ∉ ledgerStoreFileSegment name := by
  induction name with
  | nil => exact List.not_mem_nil
  | cons c name ih =>
    intro hmem
    rw [ledgerStoreFileSegment] at hmem
    rcases List.mem_append.mp hmem with hmem | hmem
    · unfold storeFileWord escapeWord at hmem
      split_ifs at hmem with hescape
      · have hlt := escapesInFile_lt hescape
        rcases mem_percentByte (by omega) hmem with h | h
        · exact hpercent h
        · exact hdigit h
      · rw [List.mem_singleton] at hmem
        rw [← hmem] at hescape
        cases hlast : name.isEmpty
        · rw [hlast] at hescape
          exact hescape hd
        · rw [hlast] at hescape
          exact hescape (escapesInFile_last hd)
    · exact ih hmem

lemma ledgerBundleEntryName_inj {storeName storeName' purchaseDate' : Text}
    (h : ledgerBundleEntryName storeName purchaseDate =
      ledgerBundleEntryName storeName' purchaseDate') :
    storeName = storeName' ∧ purchaseDate = purchaseDate' := by
  have hslash (name : Text) : '/' ∉ ledgerStoreFileSegment name :=
    notMem_segment (by decide) (by decide) (by decide) name
  obtain ⟨hstore, hrest⟩ := cut_inj (hslash storeName) (hslash storeName') h
  obtain rfl := ledgerStoreFileSegment_inj hstore
  have hlength := congrArg List.length hrest
  simp only [ledgerPdfFileName, List.length_append, List.length_cons] at hlength
  exact ⟨rfl, (List.append_inj hrest (by omega)).1⟩

lemma dateParts_slash {text : Text} (h : DateParts text year month day) :
    '/' ∉ text ∧ '.' ∉ text := by
  have hnot {c : Char} (hdigit : Text.isDigit c = false) (hdash : c ≠ '-') : c ∉ text := by
    rw [h.text_eq]
    simp only [List.mem_append, List.mem_cons, not_or]
    exact ⟨notMem_of_isDigits h.year.1 hdigit, hdash, notMem_of_isDigits h.month.1 hdigit, hdash,
      notMem_of_isDigits h.day.1 hdigit⟩
  exact ⟨hnot (by decide) (by decide), hnot (by decide) (by decide)⟩

lemma splitOn_ledgerBundleEntryName (storeName : Text)
    (hparts : DateParts purchaseDate year month day) :
    (ledgerBundleEntryName storeName purchaseDate).splitOn '/' =
      [ledgerStoreFileSegment storeName, purchaseDate,
        ledgerPdfFileName storeName purchaseDate] := by
  have hslash := notMem_segment (d := '/') (by decide) (by decide) (by decide) storeName
  have hfile : '/' ∉ ledgerPdfFileName storeName purchaseDate := by
    simp only [ledgerPdfFileName, List.mem_append, List.mem_cons, not_or]
    exact ⟨⟨⟨by decide, hslash⟩, by decide, (dateParts_slash hparts).1⟩, by decide⟩
  have hname : ledgerBundleEntryName storeName purchaseDate = ['/'].intercalate
      [ledgerStoreFileSegment storeName, purchaseDate,
        ledgerPdfFileName storeName purchaseDate] := by
    simp only [ledgerBundleEntryName, List.intercalate_cons_cons, List.intercalate_singleton,
      List.append_assoc, List.cons_append, List.nil_append]
  rw [hname]
  refine List.splitOn_intercalate '/' (fun segment hsegment => ?_) (List.cons_ne_nil _ _)
  simp only [List.mem_cons, List.not_mem_nil, or_false] at hsegment
  rcases hsegment with rfl | rfl | rfl
  · exact hslash
  · exact (dateParts_slash hparts).1
  · exact hfile

lemma ledgerBundleEntryName_noDots (storeName : Text)
    (hparts : DateParts purchaseDate year month day) :
    ∀ segment ∈ (ledgerBundleEntryName storeName purchaseDate).splitOn '/',
      segment ≠ ['.'] ∧ segment ≠ ['.', '.'] := by
  intro segment hsegment
  rw [splitOn_ledgerBundleEntryName storeName hparts] at hsegment
  simp only [List.mem_cons, List.not_mem_nil, or_false] at hsegment
  have hdotless {text : Text} (htext : '.' ∉ text) : text ≠ ['.'] ∧ text ≠ ['.', '.'] := by
    constructor
    · rintro rfl
      exact htext List.mem_cons_self
    · rintro rfl
      exact htext List.mem_cons_self
  rcases hsegment with rfl | rfl | rfl
  · exact hdotless (notMem_segment (by decide) (by decide) (by decide) storeName)
  · exact hdotless (dateParts_slash hparts).2
  · have hlength : 2 < (ledgerPdfFileName storeName purchaseDate).length := by
      have htitle : ledgerTitle.length = 11 := by decide
      simp only [ledgerPdfFileName, List.length_append]
      omega
    constructor
    · intro heq
      rw [heq] at hlength
      exact absurd hlength (by decide)
    · intro heq
      rw [heq] at hlength
      exact absurd hlength (by decide)

/-- Keys and names in bundles are safe, say what they are made of, and those of an admitted
partition can always be made. -/
theorem ledgerObjectKeys_safe :
    (∀ (key other : LedgerPartitionKey) (generationId generationId' : ℤ)
      (keyPrefix keyPrefix' : Text) (attemptId attemptId' : Option Text) (text : Text),
      createLedgerPdfObjectKey key generationId keyPrefix attemptId = .ok text →
        createLedgerPdfObjectKey other generationId' keyPrefix' attemptId' = .ok text →
          key = other ∧ generationId = generationId' ∧ attemptId = attemptId') ∧
      (∀ (key : LedgerPartitionKey) (generationId : ℤ) (keyPrefix : Text)
        (attemptId : Option Text) (text : Text),
        createLedgerPdfObjectKey key generationId keyPrefix attemptId = .ok text →
          assertSafeObjectKey text = .ok ()) ∧
      (∀ (key : LedgerPartitionKey) (keyPrefix : Text),
        assertLedgerPartitionObjectKeyFits key keyPrefix = .ok () →
          ∀ (generationId : ℤ) (attemptId : Option Text),
            1 ≤ generationId → generationId ≤ maxGeneration →
              (∀ id ∈ attemptId, isAttemptId id = true) →
                ∃ text, createLedgerPdfObjectKey key generationId keyPrefix attemptId = .ok text) ∧
      (∀ storeName storeName' purchaseDate purchaseDate' : Text,
        ledgerBundleEntryName storeName purchaseDate =
          ledgerBundleEntryName storeName' purchaseDate' →
            storeName = storeName' ∧ purchaseDate = purchaseDate') ∧
      ∀ (storeName : Text) (purchaseDate : String), isLedgerDate purchaseDate = true →
        ∀ segment ∈ (ledgerBundleEntryName storeName purchaseDate.toList).splitOn '/',
          segment ≠ ['.'] ∧ segment ≠ ['.', '.'] := by
  refine ⟨?_, ?_, ?_, ?_, ?_⟩
  · intro key other generationId generationId' keyPrefix keyPrefix' attemptId attemptId' text h h'
    obtain ⟨orgSegment, storeSegment, hcreated⟩ := createLedgerPdfObjectKey_ok.mp h
    obtain ⟨orgSegment', storeSegment', hcreated'⟩ := createLedgerPdfObjectKey_ok.mp h'
    exact hcreated.inj hcreated'
  · intro key generationId keyPrefix attemptId text h
    obtain ⟨orgSegment, storeSegment, hcreated⟩ := createLedgerPdfObjectKey_ok.mp h
    exact hcreated.safe
  · intro key keyPrefix hfits generationId attemptId hpos hmax hattempt
    obtain ⟨widest, hwidest, -⟩ := Fallible.bind_ok.mp hfits
    obtain ⟨orgSegment, storeSegment, hcreated⟩ := createLedgerPdfObjectKey_ok.mp hwidest
    have hevery := hcreated.of_widest ⟨hpos, hmax⟩ hattempt
    exact ⟨_, createLedgerPdfObjectKey_ok.mpr ⟨orgSegment, storeSegment, hevery⟩⟩
  · intro storeName storeName' purchaseDate purchaseDate' h
    exact ledgerBundleEntryName_inj h
  · intro storeName purchaseDate hdate
    obtain ⟨year, month, day, hparts⟩ := dateParts_of_isLedgerDate hdate
    exact ledgerBundleEntryName_noDots storeName hparts

/-- A store whose name climbs out of its directory. -/
def climbingStore : LedgerPartitionKey where
  orgId := "o/1"
  storeName := ".."
  purchaseDate := "2026-01-02"

theorem climbingStore_safe :
    assertSafeObjectKey "org/o%2F1/ledger_records/%2E%2E/2026/01/02/台账_7.pdf".toList = .ok () ∧
      ∃ text, createLedgerPdfObjectKey climbingStore 8 [] none = .ok text := by
  have hkeys := ledgerObjectKeys_safe
  refine ⟨hkeys.2.1 climbingStore 7 [] none _ (by decide +kernel), ?_⟩
  exact hkeys.2.2.1 climbingStore [] (by decide +kernel) 8 none (by decide) (by decide) nofun

end LedgerObjectKeys
end SmeDataCenter
