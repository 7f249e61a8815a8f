import SmeDataCenter.LedgerGenerations

/-!
# Requests that stay

No operation deletes a request of the ledger archive, or changes the columns that are written
once. The pages of an internal refresh move only when a page is appended to it.
-/

namespace SmeDataCenter

open Runs
open Table (Keeps)

namespace Database

/-- Every request is still there, as it was written; only requests that meet `paged` may have
moved to another page. -/
def RequestsKept (paged : String → Prop) (db db' : Database) : Prop :=
  ∀ id request, db.ledgerArtifactRequests.lookup id = some request →
    ∃ request', db'.ledgerArtifactRequests.lookup id = some request' ∧
      request'.entry = request.entry ∧
      (request'.internalScope = request.internalScope ∨ paged id)

section

variable {config : Option String} {db db' db'' : Database} {paged : String → Prop}

namespace RequestsKept

lemma of_eq (h : db'.ledgerArtifactRequests = db.ledgerArtifactRequests) :
    RequestsKept paged db db' := by
  intro id request hrequest
  exact ⟨request, by rw [h]; exact hrequest, rfl, .inl rfl⟩

lemma refl (db : Database) : RequestsKept paged db db := of_eq rfl

lemma trans (h : RequestsKept paged db db') (h' : RequestsKept paged db' db'') :
    RequestsKept paged db db'' := by
  intro id request hrequest
  obtain ⟨request', hrequest', hentry, hscope⟩ := h id request hrequest
  obtain ⟨request'', hrequest'', hentry', hscope'⟩ := h' id request' hrequest'
  refine ⟨request'', hrequest'', hentry'.trans hentry, ?_⟩
  rcases hscope with hscope | hpaged
  · rcases hscope' with hscope' | hpaged
    · exact .inl (hscope'.trans hscope)
    · exact .inr hpaged
  · exact .inr hpaged

lemma of_keeps (h : Keeps (fun r : LedgerArtifactRequest => (r.entry, r.internalScope))
    db.ledgerArtifactRequests db'.ledgerArtifactRequests) : RequestsKept paged db db' := by
  intro id request hrequest
  obtain ⟨request', hrequest', hsame⟩ := h.forth hrequest
  simp only [Prod.mk.injEq] at hsame
  exact ⟨request', hrequest', hsame.1, .inl hsame.2⟩

lemma of_facts (h : Keeps LedgerArtifactRequest.facts db.ledgerArtifactRequests
    db'.ledgerArtifactRequests) : RequestsKept paged db db' :=
  of_keeps (h.coarsen (fun facts => (facts.1, facts.2.1)) fun _ => rfl)

lemma of_kept (h : LedgerKept db db') : RequestsKept paged db db' := of_facts h.requests

lemma update {id : String} {f : LedgerArtifactRequest → LedgerArtifactRequest}
    (h : db'.ledgerArtifactRequests = db.ledgerArtifactRequests.update id f)
    (hentry : ∀ r, (f r).entry = r.entry)
    (hscope : paged id ∨ ∀ r, (f r).internalScope = r.internalScope) :
    RequestsKept paged db db' := by
  intro k request hrequest
  rw [h, Table.lookup_update]
  by_cases hk : k = id
  · subst hk
    rw [if_pos rfl, hrequest]
    refine ⟨f request, rfl, hentry request, ?_⟩
    rcases hscope with hpaged | hscope
    · exact .inr hpaged
    · exact .inl (hscope request)
  · rw [if_neg hk]
    exact ⟨request, hrequest, rfl, .inl rfl⟩

lemma create {requestId : String} {request : LedgerArtifactRequest}
    (h : db.createRequest requestId request = .ok db') : RequestsKept paged db db' := by
  obtain ⟨requests, hcreate, rfl⟩ := createRequest_ok h
  intro id old hold
  dsimp only
  rw [Table.lookup_create hcreate]
  by_cases hid : id = requestId
  · rw [hid, Table.create_fresh hcreate] at hold
    cases hold
  · rw [if_neg hid]
    exact ⟨old, hold, rfl, .inl rfl⟩

end RequestsKept

end

end Database
end SmeDataCenter
