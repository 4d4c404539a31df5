import ConnectionPool.Proofs.Site.Threads

/-!
# Where those who wait are

Whoever waits at a site on which several threads work has one place: in the queue, among those whom
a shutdown has still to tell, or in the inbox. Whoever does not wait any more has none at the site.
A shutdown may still have it on its list, but what it sends then is lost.

The argument counts, for each number, how often it stands at the site and how often on the list of
the shutdown, as `Placed` says. A step takes a number from one of the two to the other, or off both
together with the end of the waiting.

## Main definitions

* `Threaded.Placed`: how often a number may be found, by how far whoever waits has come.
* `Threaded.Kept`: what is true of every reachable state.

## Main results

* `Threaded.kept_of_reachable`: `Kept` holds in every reachable state.
-/

namespace ConnectionPool.Site

variable {config : Config} {s : Site} {request : Nat} {answer : Delivery}

/-- What `receive` reads leaves the inbox, and the books stay. -/
theorem receive_of_lookup (h : s.inbox.lookup request = some answer) :
    (s.receive request).1 = some (answer.map (·.info.id)) ∧
      (s.receive request).2.1.pool = s.pool ∧
      (s.receive request).2.1.inbox = s.inbox.eraseP (·.1 == request) := by
  cases answer <;> simp [receive, h, Except.map, lend]

/-- `cancel` of a request that is not in the queue is `discard`: its channel is closed. -/
theorem cancel_of_not_isQueued (config : Config) (m : Moment)
    (hqueued : s.pool.isQueued request = false) :
    s.cancel config m request = s.discard config m request := by
  simp [cancel, leaveQueue, hqueued]

/-- A request that is not in a queue is not in a part of it. -/
theorem isQueued_of_sublist {p q : Pool} (hsub : q.pending.Sublist p.pending)
    (h : p.isQueued request = false) : q.isQueued request = false := by
  rw [Pool.isQueued, List.any_eq_false] at h ⊢
  exact fun r hr => h r (hsub.subset hr)

namespace Threaded

variable {t u : Threaded} {event : Event} {w : Wait} {stage : Stage}

theorem isAwaited_of_wait? (hwait : t.wait? request = some w) :
    t.isAwaited request = !w.stage.isOver := by
  rw [isAwaited, stage?, hwait, Option.map_some, Option.any_some]

theorem setStage_isAwaited (hwait : t.wait? request = some w) (stage : Stage) (other : Nat) :
    (t.setStage request stage).isAwaited other =
      if other = request then !stage.isOver else t.isAwaited other := by
  rw [isAwaited, setStage_stage?]
  split
  · rename_i heq
    rw [heq, stage?, hwait, Option.map_some, Option.map_some, Option.any_some]
  · rfl

/-- `Placed awaited here untold`: how often a request's number may be found at the site, and on the
list of a shutdown. It is once in all if somebody waits, and otherwise never at the site. -/
def Placed : Bool → Nat → Nat → Prop
  | true, here, untold => here + untold = 1
  | false, here, _ => here = 0

@[simp]
theorem placed_true {here untold : Nat} : Placed true here untold ↔ here + untold = 1 := Iff.rfl

@[simp]
theorem placed_false {here untold : Nat} : Placed false here untold ↔ here = 0 := Iff.rfl

/-- `Kept config t`: what is true in every `Reachable` state. -/
structure Kept (config : Config) (t : Threaded) : Prop where
  /-- Numbers are given out from one. -/
  next_pos : 0 < t.site.pool.nextRequest
  /-- Every number that was given out belongs to one acquisition. -/
  listed : t.waits.map (·.request) = List.range' 1 (t.site.pool.nextRequest - 1)
  /-- Every number is `Placed`: whoever waits has one place, and others have none at the site. -/
  placed : ∀ request, Placed (t.isAwaited request) (t.site.requests.count request)
    ((t.untold.map (·.id)).count request)
  /-- Whoever `hasMissed` its request in the queue will not find it there later. -/
  missed : ∀ request stage, t.stage? request = some stage → stage.hasMissed = true →
    t.site.pool.isQueued request = false
  /-- The queue knows the deadlines. -/
  deadlines : ∀ r ∈ t.site.pool.pending, ∀ w, t.wait? r.id = some w → w.deadline = r.deadline
  /-- Nobody is queued at a closed pool. -/
  emptied : t.site.pool.closed = true → t.site.pool.pending = []
  /-- Only a shutdown has somebody to tell. -/
  shut : t.untold ≠ [] → t.site.pool.closed = true
  /-- Only of a closed pool is it said that it is closed. -/
  told : ∀ request, (request, .error .poolClosed) ∈ t.site.inbox → t.site.pool.closed = true
  /-- Nobody finds that the sender is gone. -/
  sender : ∀ request, t.stage? request ≠ some (.finished .senderGone)
  /-- Only of a closed pool is it learnt that it is closed. -/
  learnt : ∀ request ending, t.stage? request = some (.finished ending) →
    ending.result? config = some (.error .poolClosed) → t.site.pool.closed = true

namespace Kept

theorem start (config : Config) (destination : Destination) :
    (fresh destination).Kept config := by
  refine ⟨Nat.one_pos, rfl, fun request => rfl, ?_, ?_, ?_, ?_, ?_, ?_, ?_⟩ <;>
    simp [fresh, Site.fresh, Pool.empty, stage?, wait?]

/-- All `waits` have different numbers. -/
theorem nodup (h : t.Kept config) : (t.waits.map (·.request)).Nodup := by
  rw [h.listed]
  exact List.nodup_range'

/-- `wait?` finds nobody under the next number. -/
theorem wait?_next (h : t.Kept config) : t.wait? t.site.pool.nextRequest = none := by
  refine List.find?_eq_none.2 fun w hw heq => ?_
  have hmem : w.request ∈ t.waits.map (·.request) := List.mem_map_of_mem hw
  have := h.next_pos
  rw [h.listed, List.mem_range'_1] at hmem
  simp only [beq_iff_eq] at heq
  omega

theorem placed_of_wait? (h : t.Kept config) (hwait : t.wait? request = some w)
    (hlive : w.stage.isOver = false) :
    t.site.requests.count request + (t.untold.map (·.id)).count request = 1 := by
  simpa [isAwaited_of_wait? hwait, hlive] using h.placed request

/-- Whoever finds the channel empty `hasSender`. -/
theorem hasSender (h : t.Kept config) (hwait : t.wait? request = some w)
    (hlive : w.stage.isOver = false) (hunsent : t.site.inbox.lookup request = none) :
    t.hasSender request = true := by
  by_contra hgone
  simp only [Threaded.hasSender, Bool.or_eq_true, not_or, Bool.not_eq_true] at hgone
  have hsite : t.site.requests.count request = 0 :=
    List.count_eq_zero.2 (notMem_requests hgone.1 hunsent)
  have huntold : (t.untold.map (·.id)).count request = 0 := by
    refine List.count_eq_zero.2 fun hmem => ?_
    obtain ⟨r, hr, hid⟩ := List.mem_map.1 hmem
    have := List.any_eq_false.1 hgone.2 r hr
    simp [hid] at this
  have := h.placed_of_wait? hwait hlive
  omega

/-! ## Whoever waits -/

/-- `Kept` when whoever waits goes on waiting. -/
theorem move (h : t.Kept config) (hwait : t.wait? w.request = some w)
    (hlive : w.stage.isOver = false) (hstage : stage.isOver = false)
    (hmissed : stage.hasMissed = true → t.site.pool.isQueued w.request = false) :
    (t.setStage w.request stage).Kept config := by
  refine ⟨h.next_pos, (setStage_requests _ _ _).trans h.listed, fun other => ?_, ?_, ?_, h.emptied,
    h.shut, h.told, fun other => ?_, ?_⟩
  -- everybody has the same place as before, and is awaited as before
  · have hplaced := h.placed other
    rw [setStage_isAwaited hwait]
    split
    · rename_i heq
      rw [heq, isAwaited_of_wait? hwait, hlive] at hplaced
      rw [heq, hstage]
      exact hplaced
    · exact hplaced
  -- if it has missed its request now, that is not in the queue
  · intro other reached hreached hleft
    rw [setStage_stage?] at hreached
    split at hreached
    · rename_i heq
      subst heq
      obtain ⟨known, -, rfl⟩ := Option.map_eq_some_iff.1 hreached
      exact hmissed hleft
    · exact h.missed other reached hreached hleft
  · intro r hr v hv
    rw [setStage_wait?] at hv
    split at hv
    · obtain ⟨known, hknown, rfl⟩ := Option.map_eq_some_iff.1 hv
      exact h.deadlines r hr known hknown
    · exact h.deadlines r hr v hv
  -- its waiting has not ended, so it has learnt nothing
  · rw [setStage_stage?]
    split
    · rename_i heq
      subst heq
      rw [stage?, hwait]
      intro heq
      obtain rfl : stage = _ := Option.some.inj heq
      cases hstage
    · exact h.sender other
  · intro other ending hover hresult
    rw [setStage_stage?] at hover
    split at hover
    · obtain ⟨known, -, rfl⟩ := Option.map_eq_some_iff.1 hover
      cases hstage
    · exact h.learnt other ending hover hresult

/-- `Kept` when waiting ends, and the request leaves the site. -/
theorem finish (h : t.Kept config) (hwait : t.wait? w.request = some w)
    (hlive : w.stage.isOver = false) {s : Site} {ending : Ending}
    (hrequests : s.requests.Perm (t.site.requests.erase w.request))
    (hnext : s.pool.nextRequest = t.site.pool.nextRequest)
    (hpending : s.pool.pending.Sublist t.site.pool.pending)
    (hclosed : s.pool.closed = t.site.pool.closed)
    (htold : ∀ request, (request, .error .poolClosed) ∈ s.inbox →
      (request, .error .poolClosed) ∈ t.site.inbox)
    (hsender : ending ≠ .senderGone)
    (hlearnt : ending.result? config = some (.error .poolClosed) → t.site.pool.closed = true) :
    (setStage w.request (.finished ending) { t with site := s }).Kept config := by
  refine ⟨hnext ▸ h.next_pos, ?_, fun other => ?_, ?_, ?_, fun hshut => ?_, fun huntold => ?_,
    fun other hmem => ?_, fun other => ?_, ?_⟩
  · rw [setStage_requests, setStage_site, hnext]
    exact h.listed
  -- its own number was found once and is not found any more; those of others are found as before
  · have hplaced := h.placed other
    rw [setStage_isAwaited (t := { t with site := s }) hwait, setStage_site, hrequests.count_eq,
      List.count_erase]
    split
    · rename_i heq
      have hone := h.placed_of_wait? hwait hlive
      simp only [heq, Stage.isOver, Bool.not_true, placed_false, beq_self_eq_true, if_true]
      omega
    · rename_i hne
      change Placed (t.isAwaited other) _ _
      simpa [Ne.symm hne] using hplaced
  -- nobody has come to the queue
  · intro other reached hreached hleft
    refine isQueued_of_sublist hpending ?_
    rw [setStage_stage?] at hreached
    split at hreached
    · obtain ⟨known, -, rfl⟩ := Option.map_eq_some_iff.1 hreached
      cases hleft
    · exact h.missed other reached hreached hleft
  · intro r hr v hv
    rw [setStage_wait?] at hv
    have hr := hpending.subset hr
    split at hv
    · obtain ⟨known, hknown, rfl⟩ := Option.map_eq_some_iff.1 hv
      exact h.deadlines r hr known hknown
    · exact h.deadlines r hr v hv
  -- the pool is open or closed as before
  · rw [setStage_site, hclosed] at hshut
    have hnone := h.emptied hshut
    rw [hnone] at hpending
    exact List.sublist_nil.1 hpending
  · rw [setStage_site, hclosed]
    exact h.shut huntold
  · rw [setStage_site, hclosed]
    exact h.told other (htold other hmem)
  -- what it has learnt by ending may be learnt
  · rw [setStage_stage?]
    split
    · rename_i heq
      subst heq
      change Option.map _ (t.stage? w.request) ≠ _
      rw [stage?, hwait]
      simpa using hsender
    · exact h.sender other
  · intro other ended hover hresult
    rw [setStage_site, hclosed]
    rw [setStage_stage?] at hover
    split at hover
    · obtain ⟨known, -, heq⟩ := Option.map_eq_some_iff.1 hover
      obtain rfl := Stage.finished.inj heq
      exact hlearnt hresult
    · exact h.learnt other ended hover hresult

/-! ## What happens at the site -/

/-- `Kept` when those who wait have come no further, and their requests are where they may be. -/
theorem rearrange (h : t.Kept config) {untold : List Request} {unclosed : List Entry}
    (hnext : s.pool.nextRequest = t.site.pool.nextRequest)
    (hplaced : ∀ request, Placed (t.isAwaited request) (s.requests.count request)
      ((untold.map (·.id)).count request))
    (hpending : s.pool.pending.Sublist t.site.pool.pending)
    (hclosed : t.site.pool.closed = true → s.pool.closed = true)
    (hemptied : s.pool.closed = true → s.pool.pending = [])
    (hshut : untold ≠ [] → s.pool.closed = true)
    (htold : ∀ request, (request, .error .poolClosed) ∈ s.inbox →
      (request, .error .poolClosed) ∈ t.site.inbox ∨ s.pool.closed = true) :
    Kept config { t with site := s, untold, unclosed } where
  next_pos := hnext ▸ h.next_pos
  listed := by
    rw [hnext]
    exact h.listed
  placed := hplaced
  missed request stage hstage hmissed :=
    isQueued_of_sublist hpending (h.missed request stage hstage hmissed)
  deadlines r hr := h.deadlines r (hpending.subset hr)
  emptied := hemptied
  shut := hshut
  told request hmem := (htold request hmem).elim (fun hold => hclosed (h.told request hold)) id
  sender := h.sender
  learnt request ending hover hresult := hclosed (h.learnt request ending hover hresult)

/-- `Kept` by an operation that is one step and queues nobody. -/
theorem operates (h : t.Kept config) {act : Site.Event} (hstep : act.isStep = true)
    (hacquire : act.isAcquire = false) :
    Kept config { t with site := (t.site.step config act).1 } := by
  have hframe := step_frame config act t.site
  have hsub := step_pending config act hacquire t.site
  -- shutting down and what whoever waits does are not single steps
  have hshut : act.isShutDown = false := by
    cases act <;> simp_all [Event.isStep, Event.isShutDown]
  have hwaiter : act.isOfWaiter = false := by
    cases act <;> simp_all [Event.isStep, Event.isAcquire, Event.isOfWaiter]
  have hclosed : (t.site.step config act).1.pool.closed = t.site.pool.closed := by
    rw [hframe.closed, hshut, Bool.or_false]
  refine h.rearrange (hframe.nextRequest hacquire) (fun request => ?_) hsub (fun hold => ?_)
    (fun hnow => ?_) (fun huntold => ?_) (fun request hmem => ?_)
  · rw [(step_requests config act hwaiter t.site).count_eq]
    exact h.placed request
  · rw [hclosed, hold]
  · rw [hclosed] at hnow
    rw [h.emptied hnow] at hsub
    exact List.sublist_nil.1 hsub
  · rw [hclosed]
    exact h.shut huntold
  · rcases mem_inbox_of_step config act t.site hmem with hold | ⟨r, -, hanswers⟩
    · exact .inl hold
    · rw [hanswers.isShutDown] at hshut
      cases hshut

/-- `Kept` when the books are closed, and the queue goes over to the list of those to be told. -/
theorem closesUp (h : t.Kept config) (hopen : t.site.pool.closed = false) :
    Kept config { t with
      site := t.site.closeUp.1, untold := t.site.pool.pending, unclosed := t.site.pool.idle } := by
  -- nobody was to be told before, as the pool was open
  have huntold : t.untold = [] := by
    by_contra hsome
    rw [h.shut hsome] at hopen
    cases hopen
  refine h.rearrange rfl (fun request => ?_) (List.nil_sublist _) (fun _ => rfl) (fun _ => rfl)
    (fun _ => rfl) (fun request hmem => .inl hmem)
  have hplaced := h.placed request
  have hcount : t.site.requests.count request =
      (t.site.pool.pending.map (·.id)).count request + t.site.closeUp.1.requests.count request := by
    simp [requests, closeUp, Pool.shutDown, Pool.giveUp, List.count_append]
  rw [huntold, List.map_nil, List.count_nil] at hplaced
  change Placed (t.isAwaited request) _ _
  cases hawaited : t.isAwaited request <;>
    simp only [hawaited, placed_true, placed_false] at hplaced ⊢ <;> omega

/-- `Kept` when somebody is told, if it is still there to read it. -/
theorem tells (h : t.Kept config) {r : Request} {rest : List Request}
    (huntold : t.untold = r :: rest) :
    Kept config { t with
      site := if t.isAwaited r.id then (t.site.deliverClosed [r]).1 else t.site,
      untold := rest } := by
  have hshut : t.site.pool.closed = true := h.shut (by simp [huntold])
  have hplaced (request : Nat) : Placed (t.isAwaited request) (t.site.requests.count request)
      ([r.id].count request + (rest.map (·.id)).count request) := by
    have hplaced := h.placed request
    rwa [huntold, List.map_cons, ← List.singleton_append, List.count_append] at hplaced
  cases hawaited : t.isAwaited r.id with
  | true =>
    refine h.rearrange rfl (fun request => ?_) (.refl _) (fun _ => hshut) h.emptied
      (fun _ => hshut) (fun request _ => .inr hshut)
    -- the number goes from the list to the inbox
    have hcount : (t.site.deliverClosed [r]).1.requests.count request =
        t.site.requests.count request + [r.id].count request := by
      simp [requests, deliverClosed, deliver, List.count_append, Nat.add_assoc]
    have hplaced := hplaced request
    rw [if_pos rfl, hcount]
    cases hreads : t.isAwaited request with
    | true =>
      simp only [hreads, placed_true] at hplaced ⊢
      omega
    | false =>
      have hne : r.id ≠ request := by
        rintro rfl
        cases hawaited.symm.trans hreads
      simpa [hreads, hne] using hplaced
  | false =>
    refine h.rearrange rfl (fun request => ?_) (.refl _) (fun _ => hshut) h.emptied
      (fun _ => hshut) (fun request hmem => .inl hmem)
    have hplaced := hplaced request
    rw [if_neg Bool.false_ne_true]
    cases hreads : t.isAwaited request with
    | true =>
      have hne : r.id ≠ request := by
        rintro rfl
        cases hawaited.symm.trans hreads
      simpa [hreads, hne] using hplaced
    | false => simpa [hreads] using hplaced

/-- A new acquisition is found by `wait?` under its number. -/
theorem wait?_queue (hnew : t.wait? w.request = none) (s : Site) (other : Nat) :
    wait? other { t with site := s, waits := t.waits ++ [w] } =
      if other = w.request then some w else t.wait? other := by
  rw [wait?, List.find?_append]
  change (t.wait? other).or _ = _
  by_cases heq : other = w.request
  · rw [heq, hnew]
    simp
  · simp [heq, Ne.symm heq]

/-- `Kept` when somebody is queued under the next number. -/
theorem queue (h : t.Kept config) (hopen : t.site.pool.closed = false) {r : Request}
    (hid : r.id = t.site.pool.nextRequest)
    (hpending : s.pool.pending = t.site.pool.pending ++ [r])
    (hnext : s.pool.nextRequest = t.site.pool.nextRequest + 1)
    (hinbox : s.inbox = t.site.inbox) (hclosed : s.pool.closed = t.site.pool.closed) :
    Kept config { t with
      site := s
      waits := t.waits ++ [⟨t.site.pool.nextRequest, r.deadline, .asleep⟩] } := by
  have hunknown := h.wait?_next
  have hfound := wait?_queue (w := ⟨t.site.pool.nextRequest, r.deadline, .asleep⟩) hunknown s
  -- no shutdown is under way at an open pool
  have huntold : t.untold = [] := by
    by_contra hsome
    rw [h.shut hsome] at hopen
    cases hopen
  refine ⟨?_, ?_, fun other => ?_, ?_, ?_, ?_, ?_, ?_, ?_, ?_⟩
  · rw [hnext]
    exact Nat.succ_pos _
  · obtain ⟨given, hgiven⟩ : ∃ given, t.site.pool.nextRequest = given + 1 :=
      ⟨_, (Nat.sub_add_cancel h.next_pos).symm⟩
    rw [List.map_append, h.listed, hnext, List.map_singleton, hgiven]
    simp [List.range'_concat, Nat.add_comm]
  · have hplaced := h.placed other
    have hcount : s.requests.count other =
        t.site.requests.count other + [t.site.pool.nextRequest].count other := by
      rw [requests, requests, hpending, hinbox]
      simp only [List.map_append, List.map_singleton, List.count_append, hid]
      omega
    rw [isAwaited, stage?, hfound, hcount]
    rw [huntold] at hplaced ⊢
    split
    · rename_i heq
      rw [heq, isAwaited, stage?, hunknown, Option.map_none, Option.any_none,
        placed_false] at hplaced
      rw [heq, hplaced]
      simp [Stage.isOver]
    · rename_i hne
      change Placed (t.isAwaited other) _ _
      simpa [Ne.symm hne] using hplaced
  · intro other stage hstage hmissed
    rw [stage?, hfound] at hstage
    split at hstage
    · obtain rfl := Option.some.inj hstage
      cases hmissed
    · rename_i hne
      have hold := h.missed other stage hstage hmissed
      rw [Pool.isQueued, List.any_eq_false] at hold ⊢
      intro q hq
      rw [hpending, List.mem_append, List.mem_singleton] at hq
      rcases hq with hq | rfl
      · exact hold q hq
      · simpa [hid] using Ne.symm hne
  · intro q hq v hv
    rw [hpending, List.mem_append, List.mem_singleton] at hq
    rw [hfound] at hv
    rcases hq with hq | rfl
    · split at hv
      · -- the number was not in the queue before
        rename_i heq
        have hplaced := h.placed q.id
        rw [heq, isAwaited, stage?, hunknown] at hplaced
        refine absurd ?_ (List.count_eq_zero.1 hplaced)
        exact List.mem_append_left _ (heq ▸ List.mem_map_of_mem hq)
      · exact h.deadlines q hq v hv
    · rw [if_pos hid] at hv
      obtain rfl := Option.some.inj hv
      rfl
  · intro hnow
    rw [hclosed, hopen] at hnow
    cases hnow
  · intro hsome
    exact absurd huntold hsome
  · intro other hmem
    rw [hinbox] at hmem
    rw [hclosed]
    exact h.told other hmem
  · intro other
    rw [stage?, hfound]
    split
    · simp
    · exact h.sender other
  · intro other ending hover hresult
    rw [stage?, hfound] at hover
    rw [hclosed]
    split at hover
    · cases Option.some.inj hover
    · exact h.learnt other ending hover hresult

/-- `Kept` by `acquire`, which queues an acquisition under the next number, or nobody. -/
theorem acquires (h : t.Kept config) (m : Moment) :
    Kept config { t with
      site := (t.site.acquire config m).2.1,
      waits := t.waits ++ t.site.newWaits config (.acquire m) } := by
  have hclosed : (t.site.acquire config m).2.1.pool.closed = t.site.pool.closed :=
    (step_frame config (.acquire m) t.site).closed.trans (Bool.or_false _)
  -- where nobody is queued, nothing has changed that counts
  have hothers (hpending : (t.site.acquire config m).2.1.pool.pending = t.site.pool.pending)
      (hnext : (t.site.acquire config m).2.1.pool.nextRequest = t.site.pool.nextRequest)
      (hinbox : (t.site.acquire config m).2.1.inbox = t.site.inbox) :
      Kept config { t with site := (t.site.acquire config m).2.1 } := by
    refine h.rearrange hnext (fun request => ?_) (hpending ▸ .refl _) (fun hold => ?_)
      (fun hnow => ?_) (fun huntold => ?_) (fun request hmem => ?_)
    · rw [requests, hpending, hinbox]
      exact h.placed request
    · rw [hclosed, hold]
    · rw [hclosed] at hnow
      rw [hpending, h.emptied hnow]
    · rw [hclosed]
      exact h.shut huntold
    · rw [hinbox] at hmem
      exact .inl hmem
  obtain ⟨hinbox, ⟨hticket, -, -, hpending, hnext⟩ | ⟨hticket, -, -, hpending, hnext⟩ |
    ⟨hticket, -, -, hpending, hnext⟩⟩ := acquire_tickets config m t.site
  · have hnone : t.site.newWaits config (.acquire m) = [] := by simp only [newWaits, hticket]
    rw [hnone, List.append_nil]
    exact hothers hpending hnext hinbox
  · have hopen : t.site.pool.closed = false := by
      by_contra hshut
      rw [Bool.not_eq_false] at hshut
      simp [acquire, hshut] at hticket
    have hnew : t.site.newWaits config (.acquire m) =
        [⟨t.site.pool.nextRequest, m.now.deadline config.acquireTimeout, .asleep⟩] := by
      simp only [newWaits, hticket]
    rw [hnew]
    exact h.queue hopen rfl hpending hnext hinbox hclosed
  · have hnone : t.site.newWaits config (.acquire m) = [] := by
      rcases hticket with ⟨lease, hticket⟩ | ⟨error, hticket⟩ <;> simp only [newWaits, hticket]
    rw [hnone, List.append_nil]
    exact hothers hpending hnext hinbox

/-- `Kept` by every `step`. -/
theorem step (h : t.Kept config) (event : Event) : (t.step config event).Kept config := by
  -- on what the step does; whoever waits moves on or ends, and the others rearrange
  have hdoes := does_step config t event
  generalize t.step config event = u at hdoes
  cases hdoes with
  | nothing => exact h
  | operates hstep =>
    rename_i act
    cases hacquire : act.isAcquire with
    | true =>
      obtain ⟨m, rfl⟩ : ∃ m, act = .acquire m := by
        cases act <;> first | exact ⟨_, rfl⟩ | cases hacquire
      exact h.acquires m
    | false =>
      have hnone : t.site.newWaits config act = [] := by
        cases act <;> first | rfl | cases hacquire
      rw [hnone, List.append_nil]
      exact h.operates hstep hacquire
  | reads hevent hwait hsent =>
    rename_i w answer
    have hlive : w.stage.isOver = false := by
      rcases hevent with ⟨-, hstage⟩ | ⟨-, hstage⟩ <;> rw [hstage] <;> rfl
    obtain ⟨-, hpool, hinbox⟩ := receive_of_lookup hsent
    refine h.finish hwait hlive ?_ (by rw [hpool]) (by rw [hpool]) (by rw [hpool])
      (fun request hmem => ?_) (by simp) (fun hresult => ?_)
    · rw [requests, hpool, hinbox]
      exact requests_erase_inbox hsent
    · rw [hinbox] at hmem
      exact List.mem_of_mem_eraseP hmem
    · have hanswer : answer = .error .poolClosed := by
        cases answer with
        | ok e => cases Option.some.inj hresult
        | error error => rw [Except.error.inj (Option.some.inj hresult)]
      exact h.told w.request (hanswer ▸ mem_of_lookup hsent)
  | misses hevent hwait hunsent =>
    rename_i w next
    have hlive : w.stage.isOver = false := by
      rcases hevent with ⟨-, hstage, -⟩ | ⟨-, hstage, -⟩ <;> rw [hstage] <;> rfl
    rw [if_pos (h.hasSender hwait hlive hunsent)]
    refine h.move hwait hlive ?_ fun hmissed => ?_
    · rcases hevent with ⟨-, -, rfl⟩ | ⟨-, -, rfl⟩ <;> rfl
    · rcases hevent with ⟨-, -, rfl⟩ | ⟨-, hstage, rfl⟩
      · cases hmissed
      · exact h.missed w.request .committed (by rw [stage?, hwait, Option.map_some, hstage]) rfl
  | checks m hwait hstage =>
    refine h.move hwait (by rw [hstage]; rfl) ?_ ?_ <;> split
    · rfl
    · rfl
    · intro hmissed
      cases hmissed
    · intro hmissed
      cases hmissed
  | leaves hevent hwait hqueued =>
    rename_i w ending
    have hlive : w.stage.isOver = false := by
      rcases hevent with ⟨-, hstage, -⟩ | ⟨-, hstage | hstage, -⟩ <;> rw [hstage] <;> rfl
    refine h.finish hwait hlive (requests_dequeue hqueued) rfl List.eraseP_sublist rfl
      (fun _ => id) ?_ ?_
    · rcases hevent with ⟨-, -, rfl⟩ | ⟨-, -, rfl⟩ <;> simp
    · rcases hevent with ⟨-, -, rfl⟩ | ⟨-, -, rfl⟩ <;> simp [Ending.result?]
  | lingers hevent hwait hqueued =>
    rename_i w next
    have hlive : w.stage.isOver = false := by
      rcases hevent with ⟨-, hstage, -⟩ | ⟨-, hstage | hstage, -⟩ <;> rw [hstage] <;> rfl
    refine h.move hwait hlive ?_ fun _ => hqueued
    rcases hevent with ⟨-, -, rfl⟩ | ⟨-, -, rfl⟩ <;> rfl
  | discards m hwait hstage =>
    rename_i w
    -- the channel is closed as it would be if nobody had come between
    have hgone := h.missed w.request .dropped (by rw [stage?, hwait, Option.map_some, hstage]) rfl
    have heq := cancel_of_not_isQueued config m hgone
    have hframe := step_frame config (.cancel m w.request) t.site
    rw [← heq]
    refine h.finish hwait (by rw [hstage]; rfl) (cancel_requests config m w.request t.site)
      (hframe.nextRequest rfl) (step_pending config (.cancel m w.request) rfl t.site) ?_
      (fun request hmem => ?_) (by simp) (by simp [Ending.result?])
    · exact hframe.closed.trans (Bool.or_false _)
    · rcases mem_inbox_of_step config (.cancel m w.request) t.site hmem with hold | ⟨r, -, hanswers⟩
      · exact hold
      · cases hanswers.isShutDown
  | closesUp hopen => exact h.closesUp hopen
  | tells huntold => exact h.tells huntold
  | closesIdle huntold =>
    refine h.rearrange rfl h.placed (.refl _) id h.emptied ?_ fun _ => .inl
    exact h.shut

/-- `Kept` by every `run`. -/
theorem run (h : t.Kept config) (events : List Event) : (t.run config events).Kept config := by
  induction events generalizing t with
  | nil => exact h
  | cons event events ih => exact ih (h.step event)

end Kept

/-- Every `Reachable` state is `Kept`. -/
theorem kept_of_reachable (h : Reachable config t) : t.Kept config := by
  induction h with
  | fresh destination => exact .start config destination
  | step event _ ih => exact ih.step event

end Threaded

end ConnectionPool.Site
