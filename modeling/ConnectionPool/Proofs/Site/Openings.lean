import ConnectionPool.Proofs.Site.Frame

/-!
# Slots being filled

The openings of a site carry the numbers in which they were begun. An opening for a caller is begun
by an acquisition and ended by an act of that caller; an opening for the queue is begun when a slot
becomes free and ended by the answer of the transport.

* `acquire_tickets`: what an acquisition enters in the books agrees with what its caller is told.
* `step_openings`: every other event ends the opening that it is about, and begins some for the
  queue.
-/

namespace ConnectionPool.Site

variable {config : Config} {s : Site}

/-- The openings that `isOpening` finds with the purpose `caller`. -/
def callerOpenings (s : Site) : List Nat :=
  (s.openings.filter (·.purpose == .caller)).map (·.id)

/-- The opening that the event brings to an end. -/
def Event.ends : Event → Option Opening
  | .opened opening _ _ | .openingFailed opening _ | .abandon opening => some ⟨opening, .caller⟩
  | .openedForQueue opening _ _ _ | .openingForQueueFailed opening _ _ => some ⟨opening, .queue⟩
  | _ => none

/-- `isOpening` finds an opening if it is listed. -/
theorem isOpening_iff {opening : Nat} {purpose : Purpose} :
    s.isOpening opening purpose = true ↔ ⟨opening, purpose⟩ ∈ s.openings := by
  simp [isOpening]

/-- `queueOpenings` are not made for callers. -/
theorem filter_queueOpenings (first count : Nat) :
    (queueOpenings first count).filter (·.purpose == .caller) = [] := by
  rw [List.filter_eq_nil_iff]
  intro o ho
  obtain ⟨id, -, rfl⟩ := List.mem_map.1 ho
  simp

/-- What `acquire` enters in the books agrees with what its caller is told: the next opening, the
next request, or neither. -/
theorem acquire_tickets (config : Config) (m : Moment) (s : Site) :
    (s.acquire config m).2.1.inbox = s.inbox ∧
    (((s.acquire config m).1 = .ok (.opening s.nextOpening) ∧
      (s.acquire config m).2.1.openings = s.openings ++ [⟨s.nextOpening, .caller⟩] ∧
      (s.acquire config m).2.1.nextOpening = s.nextOpening + 1 ∧
      (s.acquire config m).2.1.pool.pending = s.pool.pending ∧
      (s.acquire config m).2.1.pool.nextRequest = s.pool.nextRequest) ∨
    ((s.acquire config m).1 =
        .ok (.request s.pool.nextRequest (m.now.deadline config.acquireTimeout)) ∧
      (s.acquire config m).2.1.openings = s.openings ∧
      (s.acquire config m).2.1.nextOpening = s.nextOpening ∧
      (s.acquire config m).2.1.pool.pending =
        s.pool.pending ++ [s.pool.newRequest config m.now] ∧
      (s.acquire config m).2.1.pool.nextRequest = s.pool.nextRequest + 1) ∨
    (((∃ lease, (s.acquire config m).1 = .ok (.lease lease)) ∨
        ∃ error, (s.acquire config m).1 = .error error) ∧
      (s.acquire config m).2.1.openings = s.openings ∧
      (s.acquire config m).2.1.nextOpening = s.nextOpening ∧
      (s.acquire config m).2.1.pool.pending = s.pool.pending ∧
      (s.acquire config m).2.1.pool.nextRequest = s.pool.nextRequest)) := by
  obtain ⟨-, heq⟩ | ⟨-, ⟨e, -, heq⟩ | ⟨-, ⟨-, heq⟩ | ⟨-, -, -, heq⟩ | ⟨error, -, heq⟩⟩⟩ :=
    acquire_cases config m s <;> rw [heq]
  · exact ⟨rfl, .inr (.inr ⟨.inr ⟨_, rfl⟩, rfl, rfl, rfl, rfl⟩)⟩
  · exact ⟨rfl, .inr (.inr ⟨.inl ⟨_, rfl⟩, rfl, rfl, rfl, rfl⟩)⟩
  · exact ⟨rfl, .inl ⟨rfl, rfl, rfl, rfl, rfl⟩⟩
  · exact ⟨rfl, .inr (.inl ⟨rfl, rfl, rfl, rfl, rfl⟩)⟩
  · exact ⟨rfl, .inr (.inr ⟨.inr ⟨_, rfl⟩, rfl, rfl, rfl, rfl⟩)⟩

/-- `endOpening` takes the opening off the list. -/
theorem perm_endOpening (hnumbers : (s.openings.map (·.id)).Nodup) {opening : Nat}
    {purpose : Purpose} (h : s.isOpening opening purpose = true) :
    s.openings.Perm (⟨opening, purpose⟩ :: s.openings.eraseP (·.id == opening)) :=
  perm_cons_eraseP_of_find? (find?_of_mem hnumbers (isOpening_iff.1 h))

/-- `Ends ended s t`: on the way from `s` to `t`, the opening `ended` is taken off the list if it is
there, and others are begun for the queue and put at the end. -/
def Ends (ended : Option Opening) (s t : Site) : Prop :=
  ∃ kept count, t.openings = kept ++ queueOpenings s.nextOpening count ∧
    t.nextOpening = s.nextOpening + count ∧
    ((∃ o, ended = some o ∧ s.openings.Perm (o :: kept)) ∨
      (∀ o, ended = some o → o ∉ s.openings) ∧ kept = s.openings)

namespace Ends

variable {ended : Option Opening} {t : Site}

/-- Where nothing is listed that ends, openings for the queue may be begun. -/
theorem of_append (hended : ∀ o, ended = some o → o ∉ s.openings) {n : Nat}
    (hopenings : t.openings = s.openings ++ queueOpenings s.nextOpening n)
    (hnext : t.nextOpening = s.nextOpening + n) : Ends ended s t :=
  ⟨s.openings, n, hopenings, hnext, .inr ⟨hended, rfl⟩⟩

/-- Where nothing is listed that ends, all may stay as it is. -/
theorem of_eq (hended : ∀ o, ended = some o → o ∉ s.openings) (hopenings : t.openings = s.openings)
    (hnext : t.nextOpening = s.nextOpening) : Ends ended s t :=
  of_append hended (n := 0) (by simpa [queueOpenings] using hopenings) hnext

/-- An opening that is listed is taken off. -/
theorem of_endOpening (hnumbers : (s.openings.map (·.id)).Nodup) {opening n : Nat}
    {purpose : Purpose} (h : s.isOpening opening purpose = true)
    (hopenings : t.openings =
      s.openings.eraseP (·.id == opening) ++ queueOpenings s.nextOpening n)
    (hnext : t.nextOpening = s.nextOpening + n) : Ends (some ⟨opening, purpose⟩) s t :=
  ⟨_, n, hopenings, hnext, .inl ⟨_, rfl, perm_endOpening hnumbers h⟩⟩

/-- Where no opening for a caller ends, those for callers stay. -/
theorem callerOpenings (h : Ends ended s t) (hended : ∀ id, ended ≠ some ⟨id, .caller⟩) :
    t.callerOpenings.Perm s.callerOpenings := by
  obtain ⟨kept, count, hopenings, -, hkept⟩ := h
  -- only openings for the queue end or begin
  have hkept' : (kept.filter (·.purpose == .caller)).Perm
      (s.openings.filter (·.purpose == .caller)) := by
    obtain ⟨o, heq, hperm⟩ | ⟨-, rfl⟩ := hkept
    · obtain ⟨id, purpose⟩ := o
      have hfilter := hperm.filter (·.purpose == .caller)
      have hpurpose : purpose ≠ .caller := by
        rintro rfl
        exact hended id heq
      rw [List.filter_cons_of_neg (by simpa using hpurpose)] at hfilter
      exact hfilter.symm
    · exact .refl _
  rw [Site.callerOpenings, Site.callerOpenings, hopenings, List.filter_append,
    filter_queueOpenings, List.append_nil]
  exact hkept'.map _

/-- Where an opening for a caller ends, it is taken away. -/
theorem callerOpenings_erase {id : Nat} (h : Ends (some ⟨id, .caller⟩) s t) :
    t.callerOpenings.Perm (s.callerOpenings.erase id) := by
  obtain ⟨kept, count, hopenings, -, hkept⟩ := h
  rw [Site.callerOpenings, Site.callerOpenings, hopenings, List.filter_append,
    filter_queueOpenings, List.append_nil]
  obtain ⟨o, heq, hperm⟩ | ⟨hnone, rfl⟩ := hkept
  · obtain rfl := Option.some.inj heq
    have hfilter := (hperm.filter (·.purpose == .caller)).map (·.id)
    rw [List.filter_cons_of_pos (by simp), List.map_cons] at hfilter
    have herased := hfilter.erase id
    rw [List.erase_cons_head] at herased
    exact herased.symm
  -- it was not listed, so there is nothing to take away
  · rw [List.erase_of_not_mem]
    intro hmem
    obtain ⟨o, ho, hid⟩ := List.mem_map.1 hmem
    obtain ⟨ho, hpurpose⟩ := List.mem_filter.1 ho
    obtain ⟨_, purpose⟩ := o
    simp only [beq_iff_eq] at hid hpurpose
    subst hid hpurpose
    exact hnone _ rfl ho

end Ends

/-- An opening that `isOpening` does not find is not listed. -/
theorem notMem_of_isOpening {opening : Nat} {purpose : Purpose}
    (h : s.isOpening opening purpose = false) :
    ∀ o, some (Opening.mk opening purpose) = some o → o ∉ s.openings := by
  rintro o ho hmem
  obtain rfl := Option.some.inj ho
  rw [isOpening_iff.2 hmem] at h
  cases h

/-- `abandon` ends the opening. -/
theorem abandon_openings (config : Config) (hnumbers : (s.openings.map (·.id)).Nodup)
    (opening : Nat) : Ends (some ⟨opening, .caller⟩) s (s.abandon config opening).1 := by
  obtain ⟨hopening, heq⟩ | ⟨hopening, heq⟩ := abandon_cases config opening s <;> rw [heq]
  · exact .of_eq (notMem_of_isOpening hopening) rfl rfl
  · rw [slotFreed_fst]
    exact .of_endOpening hnumbers hopening rfl rfl

/-- Taking a connection in may begin openings for the queue. -/
theorem takeIn_openings (config : Config) (m : Moment) (e : Entry) (s : Site) :
    Ends none s (takeIn config m e s).1 := by
  have hnone : ∀ o : Opening, none = some o → o ∉ s.openings := by simp
  obtain ⟨reason, -, heq⟩ | ⟨-, heq⟩ := takeIn_cases config m e s <;> rw [heq]
  · rw [Change.andThen_fst, slotFreed_fst]
    exact .of_append hnone rfl rfl
  · rw [Change.andThen_fst, announce_fst, handOff_fst]
    exact .of_eq hnone rfl rfl

/-- Every event but an acquisition ends the opening that it is about, and begins some for the
queue. -/
theorem step_openings (config : Config) (event : Event) (hevent : event.isAcquire = false)
    (hnumbers : (s.openings.map (·.id)).Nodup) :
    Ends event.ends s (s.step config event).1 := by
  have hnone : ∀ o : Opening, none = some o → o ∉ s.openings := by simp
  -- an event about an opening ends it if it is listed; the others end none
  cases event with
  | acquire m => cases hevent
  | opened opening conn m =>
    obtain ⟨hopening, heq⟩ | ⟨hopening, ⟨-, heq⟩ | ⟨-, heq⟩⟩ := opened_cases opening conn m s <;>
      rw [step, heq]
    · exact .of_eq (notMem_of_isOpening hopening) rfl rfl
    · rw [Change.andThen_fst, announce_fst]
      exact .of_endOpening hnumbers hopening (n := 0) (List.append_nil _).symm rfl
    · exact .of_endOpening hnumbers hopening (n := 0) (List.append_nil _).symm rfl
  | openingFailed opening failure =>
    rw [step, openingFailed_snd_fst]
    exact abandon_openings config hnumbers opening
  | abandon opening => exact abandon_openings config hnumbers opening
  | openedForQueue opening conn m created =>
    obtain ⟨hopening, heq⟩ | ⟨hopening, ⟨-, heq⟩ | ⟨-, heq⟩⟩ :=
      openedForQueue_cases config opening conn m created s <;> rw [step, heq]
    · exact .of_eq (notMem_of_isOpening hopening) rfl rfl
    · rw [Change.andThen_fst, announce_fst]
      exact .of_endOpening hnumbers hopening (n := 0) (List.append_nil _).symm rfl
    · rw [Change.andThen_fst, announce_fst, Change.andThen_fst, handOff_fst]
      exact .of_endOpening hnumbers hopening (n := 0) (List.append_nil _).symm rfl
  | openingForQueueFailed opening failure m =>
    obtain ⟨hopening, heq⟩ | ⟨hopening, heq⟩ :=
      openingForQueueFailed_cases config opening failure m s <;> rw [step, heq]
    · exact .of_eq (notMem_of_isOpening hopening) rfl rfl
    · rw [Change.andThen_fst, slotFreed_fst, Change.andThen_fst, failOldest_fst]
      exact .of_endOpening hnumbers hopening rfl rfl
  | poll m request =>
    obtain ⟨e, -, heq⟩ | ⟨error, -, heq⟩ | ⟨-, ⟨-, heq⟩ | ⟨r, -, ⟨-, heq⟩ | ⟨-, heq⟩⟩⟩ :=
      poll_cases config m request s <;> rw [step, heq] <;> exact .of_eq hnone rfl rfl
  | cancel m request =>
    obtain ⟨-, heq⟩ | ⟨-, ⟨e, -, heq⟩ | ⟨-, heq⟩⟩ := cancel_cases config m request s <;>
      rw [step, heq]
    · exact .of_eq hnone rfl rfl
    · exact takeIn_openings config m e _
    · exact .of_eq hnone rfl rfl
  | release m lease =>
    obtain ⟨-, heq⟩ | ⟨e, -, heq⟩ := release_cases config m lease s <;> rw [step, heq]
    · exact .of_eq hnone rfl rfl
    · exact takeIn_openings config m e (s.unlend lease)
  | detach lease =>
    obtain ⟨-, heq⟩ | ⟨e, -, heq⟩ := detach_cases config lease s <;> rw [step, heq]
    · exact .of_eq hnone rfl rfl
    · rw [slotFreed_fst]
      exact .of_append hnone rfl rfl
  | exchange lease conn => exact .of_eq hnone rfl rfl
  | sweep m =>
    obtain ⟨-, heq⟩ | ⟨-, notes, -, heq⟩ := sweep_cases config m s <;> rw [step, heq]
    · exact .of_eq hnone rfl rfl
    · rw [Change.andThen_fst, openForQueue_fst]
      exact .of_append hnone rfl rfl
  | closeFinished connection =>
    obtain ⟨-, heq⟩ | ⟨e, -, heq⟩ := closeFinished_cases connection s <;> rw [step, heq]
    · exact .of_eq hnone rfl rfl
    · rw [announce_fst]
      exact .of_eq hnone rfl rfl
  | shutDown =>
    obtain ⟨-, heq⟩ | ⟨-, heq⟩ := shutDown_cases s <;> rw [step, heq] <;>
      exact .of_eq hnone rfl rfl
  | pollDrain m =>
    obtain ⟨drain, heq⟩ := pollDrain_fst config m s
    rw [step, heq]
    exact .of_eq hnone rfl rfl

/-- The openings of a site are numbered. -/
theorem openings_numbered (h : Reachable config s) :
    Numbered s.nextOpening (s.openings.map (·.id)) := by
  refine h.invariant (motive := fun s => Numbered s.nextOpening (s.openings.map (·.id)))
    (fun destination => .nil 1) fun s event hs => ?_
  -- acquisitions begin openings for callers, all other events for the queue, and both under the
  -- next numbers
  cases hevent : event.isAcquire with
  | true =>
    obtain ⟨m, rfl⟩ : ∃ m, event = .acquire m := by
      cases event <;> simp [Event.isAcquire] at hevent ⊢
    obtain ⟨-, ⟨-, hopenings, hnext, -, -⟩ | ⟨-, hopenings, hnext, -, -⟩ |
      ⟨-, hopenings, hnext, -, -⟩⟩ := acquire_tickets config m s <;> rw [step, hopenings, hnext]
    · simpa using hs.append_next
    · exact hs
    · exact hs
  | false =>
    obtain ⟨kept, count, hopenings, hnext, hkept⟩ := step_openings config event hevent hs.nodup
    have hsub : (kept.map (·.id)).Subperm (s.openings.map (·.id)) := by
      obtain ⟨o, -, hperm⟩ | ⟨-, rfl⟩ := hkept
      · exact ((List.sublist_cons_self o kept).map _).subperm.trans (hperm.map _).symm.subperm
      · exact .refl _
    rw [hopenings, hnext, List.map_append]
    have hqueue : (queueOpenings s.nextOpening count).map (·.id) =
        List.range' s.nextOpening count := by
      simp [queueOpenings, Function.comp_def]
    rw [hqueue]
    exact (hs.of_subperm hsub).append_range' count

end ConnectionPool.Site
