import ConnectionPool.Proofs.Site.Openings
import ConnectionPool.Proofs.Site.Service

/-!
# Requests under way

A request is under way from the acquisition that queues it until whoever waits for it has its
outcome or gives it up. Until it is answered it is in the queue, and from then on its answer is in
the inbox; in a reachable site it is never in both, and never twice in one of them.

* `step_requests`: no event but those of whoever waits for a request changes what is under way.
* `poll_requests`, `cancel_requests`: these take one request away.
* `requests_numbered`: all requests under way are different.
-/

namespace ConnectionPool.Site

variable {config : Config} {s t : Site}

/-- The requests under way: those in the queue and those that were sent an answer. -/
def requests (s : Site) : List Nat := s.pool.pending.map (·.id) ++ s.inbox.map Prod.fst

theorem Serves.requests {right : Request → Delivery → Prop} (h : Serves right s t) :
    t.requests.Perm s.requests := by
  obtain ⟨served, hpending, hinbox, -⟩ := h
  simp only [Site.requests, hpending, hinbox, List.map_append, List.map_map, Function.comp_def,
    List.append_assoc]
  -- the answers of those served move from the end to the front
  exact (List.perm_append_comm.append_left _).trans (by
    rw [← List.append_assoc, ← List.append_assoc]
    exact List.perm_append_comm.append_right _)

/-- No event but one that `isOfWaiter` changes which `requests` are under way. -/
theorem step_requests (config : Config) (event : Event) (hevent : event.isOfWaiter = false)
    (s : Site) : (s.step config event).1.requests.Perm s.requests :=
  (step_serves config event hevent s).requests

theorem requests_erase_inbox {request : Nat} {answer : Delivery}
    (h : s.inbox.lookup request = some answer) :
    (Site.requests { s with inbox := s.inbox.eraseP (·.1 == request) }).Perm
      (s.requests.erase request) := by
  have hperm := ((perm_cons_eraseP_of_lookup h).map Prod.fst).append_left
    (s.pool.pending.map (·.id))
  have hcons := (hperm.trans List.perm_middle).erase request
  rw [List.erase_cons_head] at hcons
  exact hcons.symm

theorem requests_dequeue {request : Nat} (h : s.pool.isQueued request = true) :
    (Site.requests { s with pool := s.pool.dequeue request }).Perm
      (s.requests.erase request) := by
  obtain ⟨r, hr⟩ : ∃ r, s.pool.pending.find? (·.id == request) = some r := by
    rw [← Option.isSome_iff_exists, List.find?_isSome]
    simpa [Pool.isQueued] using h
  have hid : r.id = request := by
    simpa using List.find?_some (p := fun r : Request => r.id == request) hr
  have hperm := ((perm_cons_eraseP_of_find? hr).map (·.id)).append_right (s.inbox.map Prod.fst)
  have hcons := hperm.erase request
  rw [List.map_cons, List.cons_append, hid, List.erase_cons_head] at hcons
  exact hcons.symm

theorem notMem_requests {request : Nat} (hqueued : s.pool.isQueued request = false)
    (hinbox : s.inbox.lookup request = none) : request ∉ s.requests := by
  intro hmem
  rcases List.mem_append.1 hmem with hpending | hsent
  · obtain ⟨r, hr, rfl⟩ := List.mem_map.1 hpending
    simp only [Pool.isQueued, List.any_eq_false] at hqueued
    exact hqueued r hr (by simp)
  · exact notMem_keys_of_lookup hinbox hsent

/-- `poll` takes a request away exactly if it tells its outcome. -/
theorem poll_requests (config : Config) (m : Moment) (request : Nat) (s : Site) :
    ((s.poll config m request).1 = none ∧ (s.poll config m request).2.1 = s) ∨
    (s.poll config m request).1 ≠ none ∧
      (s.poll config m request).2.1.requests.Perm (s.requests.erase request) := by
  obtain ⟨e, hinbox, heq⟩ | ⟨error, hinbox, heq⟩ | ⟨hinbox, ⟨hfind, heq⟩ | ⟨r, hfind, ⟨-, heq⟩ |
    ⟨-, heq⟩⟩⟩ := poll_cases config m request s <;> rw [heq]
  · exact .inr ⟨by simp, requests_erase_inbox hinbox⟩
  · exact .inr ⟨by simp, requests_erase_inbox hinbox⟩
  · refine .inr ⟨by simp, ?_⟩
    rw [List.erase_of_not_mem (notMem_requests ?_ hinbox)]
    rw [isQueued_eq_isSome, hfind, Option.isSome_none]
  · refine .inr ⟨by simp, requests_dequeue ?_⟩
    rw [isQueued_eq_isSome, hfind, Option.isSome_some]
  · exact .inl ⟨rfl, rfl⟩

/-- `cancel` takes the request away. -/
theorem cancel_requests (config : Config) (m : Moment) (request : Nat) (s : Site) :
    (s.cancel config m request).1.requests.Perm (s.requests.erase request) := by
  cases hqueued : s.pool.isQueued request with
  | true =>
    obtain ⟨-, heq⟩ | ⟨h, -⟩ := cancel_cases config m request s
    · rw [heq]
      exact requests_dequeue hqueued
    · rw [hqueued] at h
      cases h
  | false =>
    refine (cancel_serves config m hqueued).requests.trans ?_
    cases hinbox : s.inbox.lookup request with
    | some answer => exact requests_erase_inbox hinbox
    | none =>
      rw [List.erase_of_not_mem (notMem_requests hqueued hinbox), eraseP_of_lookup_none hinbox]

/-- Only an event that `isAcquire` is queued. -/
theorem step_pending (config : Config) (event : Event) (hevent : event.isAcquire = false)
    (s : Site) : (s.step config event).1.pool.pending.Sublist s.pool.pending := by
  cases event with
  | acquire m => cases hevent
  | poll m request =>
    obtain ⟨e, -, heq⟩ | ⟨error, -, heq⟩ | ⟨-, ⟨-, heq⟩ | ⟨r, -, ⟨-, heq⟩ | ⟨-, heq⟩⟩⟩ :=
      poll_cases config m request s <;> rw [step, heq]
    · exact .refl _
    · exact List.eraseP_sublist
  | cancel m request =>
    cases hqueued : s.pool.isQueued request with
    | true =>
      obtain ⟨-, heq⟩ | ⟨h, -⟩ := cancel_cases config m request s
      · rw [step, heq]
        exact List.eraseP_sublist
      · rw [hqueued] at h
        cases h
    | false => exact (cancel_serves config m hqueued).sublist
  | _ => exact (step_serves config _ rfl s).sublist

/-- The `requests` of a site are `Numbered`. -/
theorem requests_numbered (h : Reachable config s) :
    Numbered s.pool.nextRequest s.requests := by
  -- only an acquisition brings a request, and it has the next number
  refine h.invariant (motive := fun s => Numbered s.pool.nextRequest s.requests)
    (fun destination => .nil 1) fun s event hs => ?_
  have hframe := step_frame config event s
  cases event with
  | acquire m =>
    obtain ⟨hinbox, ⟨-, -, -, hpending, hnext⟩ | ⟨-, -, -, hpending, hnext⟩ |
      ⟨-, -, -, hpending, hnext⟩⟩ := acquire_tickets config m s <;>
      rw [step, requests, hinbox, hpending, hnext]
    · exact hs
    · rw [List.map_append, List.append_assoc]
      have hnew := hs.append_next
      rw [requests, List.append_assoc] at hnew
      exact hnew.of_perm (List.perm_append_comm.append_left _)
    · exact hs
  | poll m request =>
    rw [hframe.nextRequest rfl, step]
    obtain ⟨-, heq⟩ | ⟨-, hperm⟩ := poll_requests config m request s
    · rw [heq]
      exact hs
    · exact hs.of_subperm (hperm.subperm.trans List.erase_sublist.subperm)
  | cancel m request =>
    rw [hframe.nextRequest rfl, step]
    have hperm := cancel_requests config m request s
    exact hs.of_subperm (hperm.subperm.trans List.erase_sublist.subperm)
  | _ =>
    rw [hframe.nextRequest rfl]
    exact hs.of_perm (step_requests config _ rfl s)

end ConnectionPool.Site
