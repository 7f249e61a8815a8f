import Mathlib.Data.List.Basic
import Mathlib.Data.List.Nodup

/-!
# Updates of a record

The members of a record in their order. A member that is set keeps its place, and comes last where
the record had none of its name; setting several is a pass over the members with the new ones
behind them.
-/

namespace SmeDataCenter
namespace RecordUpdates

variable {K V : Type}

/-! ### Members by their names -/

variable {entries : List (K × V)}

section

variable [BEq K] [LawfulBEq K]

lemma lookup_none {name : K} (h : name ∉ entries.map Prod.fst) : entries.lookup name = none := by
  rw [List.lookup_eq_none_iff]
  intro entry hentry
  rw [bne_iff_ne]
  rintro rfl
  exact h (List.mem_map_of_mem hentry)

lemma lookup_cons_ne {entry : K × V} {name : K} (h : name ≠ entry.1) :
    (entry :: entries).lookup name = entries.lookup name := by
  rw [List.lookup_cons]
  have hne : (name == entry.1) = false := beq_eq_false_iff_ne.mpr h
  rw [hne]

lemma lookup_cons_eq (entries : List (K × V)) (entry : K × V) :
    (entry :: entries).lookup entry.1 = some entry.2 := by
  rw [List.lookup_cons, beq_self_eq_true]

lemma lookup_of_mem (hnodup : (entries.map Prod.fst).Nodup) {entry : K × V} (h : entry ∈ entries) :
    entries.lookup entry.1 = some entry.2 := by
  induction entries with
  | nil => cases h
  | cons first entries ih =>
    obtain ⟨hnew, hrest⟩ := List.nodup_cons.mp hnodup
    rcases List.mem_cons.mp h with rfl | h
    · exact lookup_cons_eq entries entry
    · have hne : entry.1 ≠ first.1 := by
        intro heq
        exact hnew (heq ▸ List.mem_map_of_mem h)
      rw [lookup_cons_ne hne, ih hrest h]

end

/-! ### Updates -/

variable [DecidableEq K]

/-- A member is set. -/
def assign (members : List (K × V)) (entry : K × V) : List (K × V) :=
  if entry.1 ∈ members.map Prod.fst then
    members.map fun member => if member.1 = entry.1 then entry else member
  else members ++ [entry]

/-- `{ ...members, ...entries }` -/
def assignAll (members entries : List (K × V)) : List (K × V) := entries.foldl assign members

lemma names_replace (members : List (K × V)) (entry : K × V) :
    (members.map fun member => if member.1 = entry.1 then entry else member).map Prod.fst =
      members.map Prod.fst := by
  rw [List.map_map]
  apply List.map_congr_left
  intro member _
  by_cases hname : member.1 = entry.1
  · simp [hname]
  · simp [hname]

/-- Members that are set stand in their places, new ones at the end. -/
theorem assignAll_eq [BEq K] [LawfulBEq K] (hnodup : (entries.map Prod.fst).Nodup)
    (members : List (K × V)) :
    assignAll members entries =
      (members.map fun member => (member.1, (entries.lookup member.1).getD member.2)) ++
        entries.filter fun entry => entry.1 ∉ members.map Prod.fst := by
  induction entries generalizing members with
  | nil => simp [assignAll]
  | cons entry entries ih =>
    obtain ⟨hnew, hrest⟩ := List.nodup_cons.mp hnodup
    have hself : entries.lookup entry.1 = none := lookup_none hnew
    have hstep : assignAll members (entry :: entries) =
        assignAll (assign members entry) entries := rfl
    rw [hstep, ih hrest, assign]
    split_ifs with hmem
    · rw [names_replace, List.filter_cons_of_neg (by simpa using hmem), List.map_map]
      congr 1
      apply List.map_congr_left
      intro member _
      by_cases hname : member.1 = entry.1
      · simp [hname, hself, lookup_cons_eq]
      · simp [hname, lookup_cons_ne hname]
    · rw [List.filter_cons_of_pos (by simpa using hmem), List.map_append, List.map_append,
        List.append_assoc]
      congr 1
      · apply List.map_congr_left
        intro member hmember
        have hname : member.1 ≠ entry.1 := by
          intro heq
          exact hmem (heq ▸ List.mem_map_of_mem hmember)
        rw [lookup_cons_ne hname]
      · simp only [List.map_cons, List.map_nil, hself, Option.getD_none, List.singleton_append]
        congr 1
        apply List.filter_congr
        intro other hother
        have hname : other.1 ≠ entry.1 := by
          intro heq
          exact hnew (heq ▸ List.mem_map_of_mem hother)
        simp [hname]

end RecordUpdates
end SmeDataCenter
