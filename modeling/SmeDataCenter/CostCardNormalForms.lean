import SmeDataCenter.CostCardContents
import SmeDataCenter.CostCardDecimals
import SmeDataCenter.CostCardRows

/-!
# Normal forms of cost cards

A value that was normalized stays as it is when it is normalized again, and so do the values of a
scope. A row whose values are all accepted has a card, a recipe and an item of normal values.
-/

namespace SmeDataCenter
namespace Import

open Fallible DecimalNumerals

/-! ### Values -/

variable {field : CostCardUploadField}

lemma blankCostCardValue_ok {value : PayloadValue} (h : blankCostCardValue field = .ok value) :
    value = .null ∧ field.nullable = true := by
  unfold blankCostCardValue at h
  split at h
  · next hnullable =>
    cases h
    exact ⟨rfl, hnullable⟩
  · cases h

lemma trim_trim (text : Text) : Text.trim (Text.trim text) = Text.trim text := by
  have hstart : Text.trimStart (Text.trim text) = Text.trim text := by
    unfold Text.trimStart
    refine List.dropWhile_eq_self_iff.mpr fun hpos => ?_
    obtain ⟨rest, hrest⟩ := List.rdropWhile_prefix Text.isSpace text.trimStart
    have hhead : (Text.trim text).head? = text.trimStart.head? := by
      rw [← hrest]
      exact (List.head?_append_of_ne_nil _ (List.ne_nil_of_length_pos hpos)).symm
    have hnot := List.head?_dropWhile_not Text.isSpace text
    rw [← Text.trimStart, ← hhead, List.head?_eq_getElem?, List.getElem?_eq_getElem hpos] at hnot
    simpa using hnot
  rw [show Text.trim (Text.trim text) = (Text.trimStart (Text.trim text)).rdropWhile Text.isSpace
    from rfl, hstart]
  exact List.rdropWhile_idempotent _ _

lemma trimText_trimText (s : String) : trimText (trimText s) = trimText s := by
  rw [trimText, trimText, String.toList_ofList, trim_trim]

lemma normalizeCostCardDecimal_again {value r : String} {percent : Bool}
    (h : normalizeCostCardDecimal value percent = .ok r) :
    normalizeCostCardDecimal r percent = .ok r ∧ trimText r = r ∧ r ≠ "" := by
  obtain ⟨parts, hread, -, ⟨hwhole, hfraction⟩, rfl⟩ := normalizeCostCardDecimal_ok.mp h
  have hcanonical := (keptDigits_spec hread).1
  refine ⟨normalizeCostCardDecimal_canonicalText hcanonical hwhole hfraction, ?_, ?_⟩
  · rw [trimText, String.toList_ofList, trim_of_no_space (canonicalText_no_space hcanonical)]
  · intro hempty
    have hread := @readDecimalParts_canonicalText parts.negative _ _ hcanonical
    rw [show canonicalText parts.negative (keptDigits parts).1 (keptDigits parts).2 = [] by
      simpa using congrArg String.toList hempty] at hread
    cases hread

variable {w : PayloadValue}

lemma decimal_again {value : String} {percent : Bool}
    (hfield : ∀ r, trimText r ≠ "" → normalizeCostCardText field r =
      (normalizeCostCardDecimal (trimText r) percent).map .text)
    (h : (normalizeCostCardDecimal value percent).map .text = .ok w) :
    normalizeCostCardValue field (some w) = .ok w := by
  cases hr : normalizeCostCardDecimal value percent with
  | error message =>
    rw [hr] at h
    cases h
  | ok r =>
    rw [hr] at h
    cases h
    obtain ⟨hagain, htrim, hne⟩ := normalizeCostCardDecimal_again hr
    have hvalue : normalizeCostCardValue field (some (.text r)) =
        normalizeCostCardText field r := rfl
    rw [hvalue, hfield r (by rw [htrim]; exact hne), htrim, hagain]
    rfl

lemma normalizeCostCardText_again {value : String} (h : normalizeCostCardText field value = .ok w) :
    normalizeCostCardValue field (some w) = .ok w := by
  unfold normalizeCostCardText at h
  dsimp only at h
  split at h
  · obtain ⟨rfl, hnullable⟩ := blankCostCardValue_ok h
    simp [normalizeCostCardValue, blankCostCardValue, hnullable]
  · next hne =>
    split at h
    · next htype =>
      split at h
      · cases h
        simp [normalizeCostCardValue, normalizeCostCardText, htype, PayloadValue.toText,
          show trimText "true" = "true" by decide]
      · split at h
        · cases h
          simp [normalizeCostCardValue, normalizeCostCardText, htype, PayloadValue.toText,
            show trimText "false" = "false" by decide]
        · cases h
    · next htype =>
      exact decimal_again (fun r hr => by simp [normalizeCostCardText, hr, htype]) h
    · next htype =>
      exact decimal_again (fun r hr => by simp [normalizeCostCardText, hr, htype]) h
    · next hboolean hdecimal hpercent =>
      split at h
      · cases h
      · next hlength =>
        cases h
        split
        · next hsource =>
          simp [normalizeCostCardValue, normalizeCostCardText, PayloadValue.toText, hne, hlength,
            hsource]
        · next hsource =>
          simp [normalizeCostCardValue, normalizeCostCardText, PayloadValue.toText,
            trimText_trimText, hne, hlength, hsource]

variable {value : Option PayloadValue}

lemma normalizeCostCardValue_again (h : normalizeCostCardValue field value = .ok w) :
    normalizeCostCardValue field (some w) = .ok w := by
  unfold normalizeCostCardValue at h
  split at h
  · obtain ⟨rfl, hnullable⟩ := blankCostCardValue_ok h
    simp [normalizeCostCardValue, blankCostCardValue, hnullable]
  · obtain ⟨rfl, hnullable⟩ := blankCostCardValue_ok h
    simp [normalizeCostCardValue, blankCostCardValue, hnullable]
  · cases h
  · exact normalizeCostCardText_again h

lemma normalizeCostCardValue_not_number (h : normalizeCostCardValue field value = .ok w)
    (numeral : String) : w ≠ .number numeral := by
  rintro rfl
  have hagain := normalizeCostCardValue_again h
  cases hagain

/-! ### Scopes -/

lemma canonicalNames_nodup : (costCardUploadSchema.map (·.canonicalName)).Nodup := by decide

lemma scopeNames_nodup (scope : CostCardScope) :
    ((scopeFields scope).map (·.canonicalName)).Nodup :=
  canonicalNames_nodup.sublist (List.filter_sublist.map _)

lemma entry_of_field {f : CostCardUploadField} {entry : String × PayloadValue}
    (h : (normalizeCostCardValue f value).map (fun value => (f.canonicalName, value)) = .ok entry) :
    f.canonicalName = entry.1 ∧ normalizeCostCardValue f value = .ok entry.2 := by
  cases hvalue : normalizeCostCardValue f value with
  | error message =>
    rw [hvalue] at h
    cases h
  | ok value =>
    rw [hvalue] at h
    cases h
    exact ⟨rfl, rfl⟩

variable {values : Payload}

variable {row : Payload}

lemma values_of_mapM {fields : List CostCardUploadField}
    (h : fields.mapM (fun f => (normalizeCostCardValue f (row.get f.canonicalName)).map
      fun value => (f.canonicalName, value)) = .ok values) :
    List.Forall₂ (fun f entry => f.canonicalName = entry.1 ∧
      normalizeCostCardValue f (row.get f.canonicalName) = .ok entry.2) fields values :=
  (mapM_ok.mp h).imp fun _ _ => entry_of_field

lemma names_of_values {fields : List CostCardUploadField}
    (h : List.Forall₂ (fun f entry => f.canonicalName = entry.1 ∧
      normalizeCostCardValue f (row.get f.canonicalName) = .ok entry.2) fields values) :
    values.map Prod.fst = fields.map (·.canonicalName) := by
  induction h with
  | nil => rfl
  | cons hhead _ ih => rw [List.map_cons, List.map_cons, ih, hhead.1]

lemma get_of_mem (hnames : (values.map Prod.fst).Nodup) {name : String} {value : PayloadValue}
    (h : (name, value) ∈ values) : values.get name = some value :=
  Grouping.lookup_of_mem hnames h

lemma costCardScopedValues_again {scope : CostCardScope}
    (h : costCardScopedValues row scope = .ok values) :
    costCardScopedValues values scope = .ok values := by
  have hvalues := values_of_mapM h
  have hnames := names_of_values hvalues
  refine mapM_ok.mpr ?_
  rw [List.forall₂_iff_get] at hvalues ⊢
  refine ⟨hvalues.1, fun i hf he => ?_⟩
  obtain ⟨hname, hvalue⟩ := hvalues.2 i hf he
  have hget := get_of_mem (by rw [hnames]; exact scopeNames_nodup scope)
    (List.get_mem values ⟨i, he⟩)
  rw [hname, hget, normalizeCostCardValue_again hvalue]
  rfl

lemma costCardScopedValues_plain {scope : CostCardScope}
    (h : costCardScopedValues row scope = .ok values) : values.Plain := by
  intro entry hentry numeral
  obtain ⟨f, -, hf⟩ := exists_of_mapM h hentry
  exact normalizeCostCardValue_not_number (entry_of_field hf).2 numeral

end Import
end SmeDataCenter
