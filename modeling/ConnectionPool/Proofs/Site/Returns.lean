import ConnectionPool.Proofs.Site.Balance

/-!
# What comes back

A connection comes back when its caller gives it back, or when a request is given up to which it had
been sent. Either way the site takes it from where it was, and from then on it does not matter where
that was: the connection is taken in.

## Main definitions

* `givenBack?`: the connection that comes back at an event.
* `withdraw`: a site without the connection that comes back at an event.

## Main results

* `givenBack?_cases`: the two ways in which a connection comes back.
* `step_of_givenBack`: whichever way it was, the connection is taken in.
-/

namespace ConnectionPool.Site

variable {s : Site} {event : Event} {e : Entry}

/-- The connection that is given back at an event, by its caller in `release` or with a request in
`cancel`. -/
def givenBack? (s : Site) : Event → Option Entry
  | .release _ lease => s.lease? lease
  | .cancel _ request =>
    if s.pool.isQueued request then none else (s.inbox.lookup request).bind Except.toOption
  | _ => none

/-- The site without the connection that `givenBack?` finds at an event. -/
def withdraw (s : Site) : Event → Site
  | .release _ lease => s.unlend lease
  | .cancel _ request => { s with inbox := s.inbox.eraseP (·.1 == request) }
  | _ => s

@[simp]
theorem withdraw_pool (s : Site) (event : Event) : (s.withdraw event).pool = s.pool := by
  cases event <;> rfl

/-- What `givenBack?` finds comes from a caller, or from the inbox where nobody read of it. -/
theorem givenBack?_cases (h : s.givenBack? event = some e) :
    (∃ m lease, event = .release m lease ∧ s.lease? lease = some e) ∨
    ∃ m request, event = .cancel m request ∧ s.pool.isQueued request = false ∧
      s.inbox.lookup request = some (.ok e) := by
  cases event with
  | release m lease => exact .inl ⟨m, lease, rfl, h⟩
  | cancel m request =>
    cases hqueued : s.pool.isQueued request with
    | true =>
      -- who is still in the queue was sent nothing
      rw [givenBack?, if_pos hqueued] at h
      cases h
    | false =>
      rw [givenBack?, hqueued, if_neg Bool.false_ne_true] at h
      obtain ⟨answer, hsent, hanswer⟩ := Option.bind_eq_some_iff.1 h
      cases answer with
      | error error => cases hanswer
      | ok sent =>
        obtain rfl : sent = e := Option.some.inj hanswer
        exact .inr ⟨m, request, rfl, hqueued, hsent⟩
  | _ => cases h

/-- What `givenBack?` finds comes back at a known moment. -/
theorem exists_moment_of_givenBack (h : s.givenBack? event = some e) :
    ∃ m, event.moment? = some m := by
  obtain ⟨m, lease, rfl, -⟩ | ⟨m, request, rfl, -⟩ := givenBack?_cases h
  · exact ⟨m, rfl⟩
  · exact ⟨m, rfl⟩

/-- What `givenBack?` finds was with a caller or on its way to one. -/
theorem mem_of_givenBack (h : s.givenBack? event = some e) : e ∈ s.leases ++ entriesOf s.inbox := by
  obtain ⟨m, lease, -, hlease⟩ | ⟨m, request, -, -, hsent⟩ := givenBack?_cases h
  · exact List.mem_append_left _ (List.mem_of_find?_eq_some hlease)
  · exact List.mem_append_right _ ((entriesOf_of_lookup_ok hsent).symm.subset List.mem_cons_self)

/-- A `step` that gives a connection back has it taken in by `takeIn`. -/
theorem step_of_givenBack (config : Config) {m : Moment} (hback : s.givenBack? event = some e)
    (hm : event.moment? = some m) :
    ∃ notes : List PoolEvent, s.step config event =
      Change.andThen (s.withdraw event, notes.map .note) (takeIn config m e) := by
  obtain ⟨m', lease, rfl, hlease⟩ | ⟨m', request, rfl, hunqueued, hsent⟩ := givenBack?_cases hback
  · obtain rfl := Option.some.inj hm
    obtain ⟨hnone, -⟩ | ⟨e', hlease', heq⟩ := release_cases config m' lease s
    · cases hnone.symm.trans hlease
    · obtain rfl := Option.some.inj (hlease.symm.trans hlease')
      exact ⟨[.returning lease], heq⟩
  · obtain rfl := Option.some.inj hm
    obtain ⟨hqueued, -⟩ | ⟨-, ⟨e', hsent', heq⟩ | ⟨hnone, -⟩⟩ := cancel_cases config m' request s
    · cases hunqueued.symm.trans hqueued
    · obtain rfl := Except.ok.inj (Option.some.inj (hsent.symm.trans hsent'))
      exact ⟨[], heq⟩
    · exact absurd hsent (hnone e)

end ConnectionPool.Site
