import ConnectionPool.Proofs.Provider.Links
import ConnectionPool.Proofs.Site.Waiting

/-!
# Those who wait in a queue

A waiter is an acquisition that was queued: it waits, or it was sent an answer that it has not read,
or it is over. What others do leaves it waiting or sends it one answer, and never takes the answer
away; once it is over, nothing concerns it any more.

* `answered_or_waits`: an unfinished acquisition that was queued is in the queue, or its one answer
  can be read.
* `waits_of_start`: whoever is told to wait waits.
* `Moves.of_others`, `step_over`: what an event does to a waiter whose act it is not.
* `step_poll_of_waits`, `step_poll_of_answered`, `step_abandon`: the acts of the waiter.
-/

namespace ConnectionPool.Provider

/-- A `Waiter`: an acquisition that was queued. -/
structure Waiter where
  /-- The number of the acquisition. -/
  id : Nat
  /-- The site in whose queue it is. -/
  site : Nat
  /-- The number of its request there. -/
  request : Nat
  /-- When it runs out of time. -/
  deadline : Instant

namespace Waiter

/-- `Known w p`: the acquisition is unfinished, and `queued` where `w` says. -/
def Known (w : Waiter) (p : Provider) : Prop :=
  p.acquisitions.lookup w.id = some (.queued w.site w.request w.deadline)

/-- `Waits w p`: the acquisition waits in the queue and has no answer. -/
structure Waits (w : Waiter) (p : Provider) : Prop where
  /-- It is unfinished. -/
  known : w.Known p
  /-- Its request is in the queue. -/
  queued : ∃ s, p.sites[w.site]? = some s ∧ s.Queues w.request w.deadline

/-- `Answered w answer p`: the acquisition is no longer queued and was sent one answer, which it has
not read. -/
structure Answered (w : Waiter) (answer : Delivery) (p : Provider) : Prop where
  /-- It is unfinished. -/
  known : w.Known p
  /-- Its answer is there to be read. -/
  sent : ∃ s, p.sites[w.site]? = some s ∧ s.Sent w.request answer

/-- `Over w p`: the acquisition is over, and its request is neither queued nor answered. -/
structure Over (w : Waiter) (p : Provider) : Prop where
  /-- It is finished. -/
  unknown : p.acquisitions.lookup w.id = none
  /-- Its number was given out. -/
  lt : w.id < p.nextAcquisition
  /-- Nothing is left of its request. -/
  past : ∃ s, p.sites[w.site]? = some s ∧ s.Past w.request

end Waiter

variable {config : Config} {allowed : Actors} {p : Provider} {flow : Flow} {c : Change}
  {w : Waiter}

/-- A request under way belongs to one acquisition. -/
theorem Linked.eq_of_request (h : Linked p) {site request id other : Nat}
    {deadline deadline' : Instant} {s : Site} (hs : p.sites[site]? = some s)
    (hrequests : s.requests.Nodup)
    (hid : (id, .queued site request deadline) ∈ p.acquisitions)
    (hother : (other, .queued site request deadline') ∈ p.acquisitions) : id = other := by
  have hagrees := h.requests site
  rw [listAt, hs] at hagrees
  have heq := eq_of_nodup_filterMap (hagrees.nodup_iff.2 hrequests) hid hother
    (n := request) (if_pos rfl) (if_pos rfl)
  exact congrArg Prod.fst heq

/-- An acquisition that is `Known` either `Waits` or is `Answered`. -/
theorem answered_or_waits (h : Reachable config p) (hknown : w.Known p) :
    w.Waits p ∨ ∃ answer, w.Answered answer p := by
  have hlinked := linked_of_reachable h
  have hmem := mem_of_lookup hknown
  obtain ⟨s, hs, hrequest⟩ := hlinked.requests.exists_mem hmem (if_pos rfl)
  have hnodup := (Site.requests_numbered ((sound_of_reachable h).site hs)).nodup
  -- what is under way at a site is in its queue or in its inbox
  rcases List.mem_append.1 hrequest with hpending | hinbox
  · obtain ⟨r, hr, hid⟩ := List.mem_map.1 hpending
    have hdeadline := hlinked.deadlines w.id w.site w.request w.deadline hmem s hs r hr hid
    exact .inl ⟨hknown, s, hs, (Site.queues_iff hnodup).2 ⟨r, hr, hid, hdeadline⟩⟩
  · obtain ⟨⟨request, answer⟩, hsent, hrequest⟩ := List.mem_map.1 hinbox
    dsimp only at hrequest
    subst hrequest
    exact .inr ⟨answer, hknown, s, hs, (Site.sent_iff hnodup).2 hsent⟩

/-! ## How one comes to wait -/

/-- `advanceAcquisition` makes an acquisition known as one that has come further. -/
theorem lookup_advance {id : Nat} {known : Acquisition} (progress : Acquisition)
    (h : p.acquisitions.lookup id = some known) :
    (p.advanceAcquisition id progress).acquisitions.lookup id = some progress := by
  rw [advanceAcquisition, lookup_map_update, h]
  rfl

/-- `siteFor` finds the site that serves a destination, or it has just been made. -/
theorem siteFor_cases (hsound : Sound config p) (d : Destination) :
    ∃ s, (p.siteFor d).2.1.sites[(p.siteFor d).1]? = some s ∧
      ((p.siteOf? d = some (p.siteFor d).1 ∧ p.sites[(p.siteFor d).1]? = some s) ∨
        s = .fresh d) := by
  unfold siteFor
  cases hserves : p.siteOf? d with
  | some site =>
    obtain ⟨s, hs, -⟩ := hsound.registered d site (mem_of_lookup hserves)
    exact ⟨s, hs, .inl ⟨rfl, hs⟩⟩
  | none => exact ⟨.fresh d, List.getElem?_concat_length, .inr rfl⟩

/-- `start` is refused if the provider `isDisposed`, and otherwise asks the site for the
destination. -/
theorem start_cases (m : Moment) (id : Nat) (d : Destination) (p : Provider) {s : Site}
    (hs : (p.siteFor d).2.1.sites[(p.siteFor d).1]? = some s) :
    (p.isDisposed = true ∧ (p.start m id d).1 = .finished (.error .poolClosed)) ∨
    ((p.start m id d).1 = .ofTicket d (p.siteFor d).1 (s.acquire p.config m).1 ∧
      (p.start m id d).2.1 =
        ((p.siteFor d).2.1.setSite (p.siteFor d).1 (s.acquire p.config m).2.1).proceed id
          (Acquisition.ofTicket d (p.siteFor d).1 (s.acquire p.config m).1)) := by
  -- a disposed provider does not even look for the site
  cases hdisposed : p.isDisposed with
  | true => exact .inl ⟨rfl, by rw [start_of_disposed hdisposed]⟩
  | false =>
    refine .inr ?_
    simp [start_of_accepting hdisposed, enter_eq, changeSiteReporting, changeSite, hs, setSite]

/-- An acquisition that is told to wait `Waits`, until its time is up. -/
theorem waits_of_start (h : Reachable config p) {m : Moment} {d : Destination}
    (hfresh : p.acquisitions.lookup w.id = some (.fresh d))
    (hwaiting : (p.poll m w.id).1 = .waiting w.site w.request w.deadline) :
    w.deadline = m.now.deadline config.acquireTimeout ∧ w.Waits (p.step (.poll m w.id)).1 := by
  have hsound := sound_of_reachable h
  have hpoll : p.poll m w.id = p.start m w.id d := by
    rw [poll, hfresh]
  obtain ⟨s, hs, -⟩ := siteFor_cases hsound d
  obtain ⟨hmoves, hconfig, hacquisitions⟩ := siteFor_moves (fun _ _ _ => False) d p
  have hreachable : Site.Reachable config s :=
    (hmoves.invariant (motive := Sound config) (fun _ _ _ hq hmove => hq.move hmove) hsound).site hs
  have hnext : Reachable config (p.start m w.id d).2.1 := by
    rw [← hpoll]
    exact h.step (.poll m w.id)
  rw [hpoll] at hwaiting
  rw [step, hpoll]
  obtain ⟨-, hrefused⟩ | ⟨hticket, hafter⟩ := start_cases m w.id d p hs
  · rw [hrefused] at hwaiting
    cases hwaiting
  · rw [hsound.settings] at hticket hafter
    obtain ⟨hinbox, ⟨hgiven, -⟩ | ⟨hgiven, -⟩ | ⟨hgiven, -⟩⟩ := Site.acquire_tickets config m s
    · rw [hticket, hgiven] at hwaiting
      cases hwaiting
    · rw [hticket, hgiven, Progress.ofTicket] at hwaiting
      obtain ⟨hsite, hrequest, hdeadline⟩ := Progress.waiting.inj hwaiting
      refine ⟨hdeadline.symm, ?_⟩
      rw [hsite] at hs hafter
      -- the acquisition is known to wait, so it waits or has an answer
      have hknown : w.Known (p.start m w.id d).2.1 := by
        rw [hgiven, hrequest, hdeadline] at hafter
        rw [Waiter.Known, hafter]
        exact lookup_advance _ (by rw [← hfresh, ← hacquisitions]; rfl)
      rcases answered_or_waits hnext hknown with hwaits | ⟨answer, -, t, ht, hsent⟩
      · exact hwaits
      · -- the request has a number that was not given out before, so nothing was sent to it
        rw [hafter, proceed_sites, getElem?_setSite _ hs, if_pos rfl] at ht
        obtain rfl := Option.some.inj ht
        have hmem := (Site.sent_iff
          (Site.requests_numbered (hreachable.step (.acquire m))).nodup).1 hsent
        have hlt := (Site.requests_numbered hreachable).lt w.request
          (List.mem_append_right _ (List.mem_map_of_mem (f := Prod.fst) (hinbox ▸ hmem)))
        omega
    · obtain ⟨lease, hgiven⟩ | ⟨error, hgiven⟩ := hgiven <;>
        (rw [hticket, hgiven] at hwaiting; cases hwaiting)

/-! ## What others do -/

/-- The site at an index after a `Move`: its queue and its inbox are the same, or the site was
changed by an event that is allowed. -/
theorem Move.site_cases (hmove : Move allowed p flow c) {index : Nat} {s : Site}
    (hs : p.sites[index]? = some s) :
    ∃ t, c.1.sites[index]? = some t ∧
      ((t.pool = s.pool ∧ t.inbox = s.inbox) ∨
      (∃ event, allowed none index event ∧ event.isOfCaller = false ∧
        t = (s.step p.config event).1) ∨
      ∃ id known event next, allowed (some id) index event ∧
        p.acquisitions.lookup id = some known ∧ Proceeds p.config index s known event next ∧
        t = (s.step p.config event).1) := by
  -- a site changes in moves at its index, and a swap touches neither queue nor inbox
  cases hmove with
  | books hbooks => exact ⟨s, by rw [hbooks.sites]; exact hs, .inl ⟨rfl, rfl⟩⟩
  | found d =>
    have hlt := (List.getElem?_eq_some_iff.1 hs).1
    exact ⟨s, (List.getElem?_append_left hlt).trans hs, .inl ⟨rfl, rfl⟩⟩
  | ask d => exact ⟨s, hs, .inl ⟨rfl, rfl⟩⟩
  | forget hknown hsite => exact ⟨s, hs, .inl ⟨rfl, rfl⟩⟩
  | @site other t event hallowed ht hcaller hexchange =>
    rw [getElem?_setSite _ ht]
    by_cases hindex : index = other
    · subst hindex
      obtain rfl : t = s := Option.some.inj (ht.symm.trans hs)
      exact ⟨_, if_pos rfl, .inr (.inl ⟨event, hallowed, hcaller, rfl⟩)⟩
    · exact ⟨s, (if_neg hindex).trans hs, .inl ⟨rfl, rfl⟩⟩
  | @act id other t event known next hallowed hknown ht hnext =>
    rw [proceed_sites, getElem?_setSite _ ht]
    by_cases hindex : index = other
    · subst hindex
      obtain rfl : t = s := Option.some.inj (ht.symm.trans hs)
      exact ⟨_, if_pos rfl, .inr (.inr ⟨id, known, event, next, hallowed, hknown, hnext, rfl⟩)⟩
    · exact ⟨s, (if_neg hindex).trans hs, .inl ⟨rfl, rfl⟩⟩
  | swap first second =>
    obtain ⟨t, ht, hpool, hinbox⟩ := swap_invariant
      (motive := fun q => ∃ t, q.sites[index]? = some t ∧ t.pool = s.pool ∧ t.inbox = s.inbox)
      p ⟨s, hs, rfl, rfl⟩ (by
        rintro q lease conn ⟨t, ht, hpool, hinbox⟩
        obtain ⟨-, heq⟩ | ⟨u, hu, heq⟩ := exchange_cases q lease conn <;> rw [heq]
        · exact ⟨t, ht, hpool, hinbox⟩
        · rw [getElem?_setSite _ hu]
          by_cases hindex : index = lease.site
          · subst hindex
            obtain rfl : u = t := Option.some.inj (hu.symm.trans ht)
            exact ⟨_, if_pos rfl, hpool, hinbox⟩
          · exact ⟨t, (if_neg hindex).trans ht, hpool, hinbox⟩) first second
    exact ⟨t, ht, .inl ⟨hpool, hinbox⟩⟩

/-- A `Move` of others leaves an acquisition unfinished. -/
theorem Move.known (hmove : Move allowed p flow c) (hsound : Sound config p) (hlinked : Linked p)
    (hother : ∀ site event, ¬ allowed (some w.id) site event) {s : Site}
    (hs : p.sites[w.site]? = some s) (hknown : w.Known p) : w.Known c.1 := by
  have hids := (hlinked.move hsound hmove).numbers.nodup
  have hmem := mem_of_lookup hknown
  have hkept : ∀ id, id ≠ w.id → (w.id, .queued w.site w.request w.deadline) ∈
      p.acquisitions.eraseP (·.1 == id) := by
    intro id hid
    exact (List.mem_eraseP_of_neg (by simpa using hid.symm)).2 hmem
  -- it stays on the list, where numbers differ
  refine lookup_of_mem hids ?_
  cases hmove with
  | books hbooks =>
    rw [hbooks.acquisitions]
    exact hmem
  | found d => exact hmem
  | ask d => exact List.mem_append_left _ hmem
  | @forget id known hforgotten hsite =>
    refine hkept id ?_
    rintro rfl
    -- the site of the acquisition exists
    obtain rfl := Option.some.inj (hforgotten.symm.trans hknown)
    have hnone := hsite w.site rfl
    rw [hs] at hnone
    cases hnone
  | site hallowed ht hcaller hexchange => exact hmem
  | @act id index t event known next hallowed hacting ht hnext =>
    have hne : id ≠ w.id := by
      rintro rfl
      exact hother _ _ hallowed
    obtain ⟨-, hafter⟩ := proceed_acquisitions (p := p.setSite index (t.step p.config event).1)
      next hlinked.numbers.nodup hacting
    exact hafter.symm.subset (List.mem_append_right _ (hkept id hne))
  | swap first second =>
    refine swap_invariant (motive := fun q =>
      (w.id, Acquisition.queued w.site w.request w.deadline) ∈ q.acquisitions) p hmem ?_
      first second
    intro q lease conn hq
    rw [exchange_acquisitions]
    exact hq

/-- An event of another acquisition, or of none, is not `isOfRequest` of the waiter. -/
theorem isOfRequest_of_proceeds (hsound : Sound config p) (hlinked : Linked p) {s : Site}
    (hs : p.sites[w.site]? = some s) (hknown : w.Known p) {id : Nat} (hne : id ≠ w.id)
    {known : Acquisition} {event : Site.Event} {next : Option Acquisition}
    (hacting : p.acquisitions.lookup id = some known)
    (hnext : Proceeds p.config w.site s known event next) :
    event.isOfRequest w.request = false := by
  have hrequests := (Site.requests_numbered (hsound.site hs)).nodup
  -- requests of different acquisitions have different numbers
  have hother : ∀ request deadline, known = .queued w.site request deadline →
      request ≠ w.request := by
    rintro request deadline rfl rfl
    exact hne (hlinked.eq_of_request hs hrequests (mem_of_lookup hacting) (mem_of_lookup hknown))
  cases hnext with
  | learn m request deadline houtcome => simpa [Site.Event.isOfRequest] using hother _ _ rfl
  | cancel m request deadline => simpa [Site.Event.isOfRequest] using hother _ _ rfl
  | _ => rfl

/-- `MayBeSent config allowed answer w`: some allowed event may send the answer to the waiter. -/
def Waiter.MayBeSent (config : Config) (allowed : Actors) (answer : Delivery) (w : Waiter) : Prop :=
  ∃ actor event r, allowed actor w.site event ∧ r.id = w.request ∧ r.deadline = w.deadline ∧
    Site.Event.Answers config event r answer

/-- A `Move` of others is no act of the waiter at its site. -/
theorem Move.site_of_others (hmove : Move allowed p flow c) (hsound : Sound config p)
    (hlinked : Linked p) (hother : ∀ site event, ¬ allowed (some w.id) site event) {s : Site}
    (hs : p.sites[w.site]? = some s) (hknown : w.Known p) :
    ∃ t, c.1.sites[w.site]? = some t ∧
      ((t.pool = s.pool ∧ t.inbox = s.inbox) ∨
      ∃ actor event, allowed actor w.site event ∧ event.isOfRequest w.request = false ∧
        t = (s.step config event).1) := by
  obtain ⟨t, ht, hsame | ⟨event, hallowed, hcaller, heq⟩ | ⟨id, known, event, next, hallowed,
    hacting, hnext, heq⟩⟩ := hmove.site_cases hs
  · exact ⟨t, ht, .inl hsame⟩
  · refine ⟨t, ht, .inr ⟨none, event, hallowed, ?_, by rw [heq, hsound.settings]⟩⟩
    cases event <;> first | rfl | cases hcaller
  · have hne : id ≠ w.id := by
      rintro rfl
      exact hother _ _ hallowed
    exact ⟨t, ht, .inr ⟨some id, event, hallowed,
      isOfRequest_of_proceeds hsound hlinked hs hknown hne hacting hnext,
      by rw [heq, hsound.settings]⟩⟩

/-- A `Move` of others leaves a waiter that `Waits` there, or sends it an answer. -/
theorem Move.waits (hmove : Move allowed p flow c) (hsound : Sound config p) (hlinked : Linked p)
    (hother : ∀ site event, ¬ allowed (some w.id) site event) (h : w.Waits p) :
    w.Waits c.1 ∨ ∃ answer, w.Answered answer c.1 ∧ w.MayBeSent config allowed answer := by
  obtain ⟨hknown, s, hs, hqueues⟩ := h
  have hafter := hmove.known hsound hlinked hother hs hknown
  obtain ⟨t, ht, ⟨hpool, hinbox⟩ | ⟨actor, event, hallowed, hevent, rfl⟩⟩ :=
    hmove.site_of_others hsound hlinked hother hs hknown
  · refine .inl ⟨hafter, t, ht, ?_, ?_⟩
    · rw [hpool]
      exact hqueues.once
    · rw [hinbox]
      exact hqueues.unanswered
  · rcases Site.step_queues (hsound.site hs) hevent hqueues with hstays | ⟨answer, hsent, hright⟩
    · exact .inl ⟨hafter, _, ht, hstays⟩
    · obtain ⟨r, hid, hdeadline, hanswers⟩ := hright
      exact .inr ⟨answer, ⟨hafter, _, ht, hsent⟩, actor, event, r, hallowed, hid, hdeadline,
        hanswers⟩

/-- A `Move` of others leaves a waiter `Answered`. -/
theorem Move.answered (hmove : Move allowed p flow c) (hsound : Sound config p)
    (hlinked : Linked p) (hother : ∀ site event, ¬ allowed (some w.id) site event)
    {answer : Delivery} (h : w.Answered answer p) : w.Answered answer c.1 := by
  obtain ⟨hknown, s, hs, hsent⟩ := h
  have hafter := hmove.known hsound hlinked hother hs hknown
  obtain ⟨t, ht, ⟨hpool, hinbox⟩ | ⟨actor, event, hallowed, hevent, rfl⟩⟩ :=
    hmove.site_of_others hsound hlinked hother hs hknown
  · refine ⟨hafter, t, ht, ?_, ?_⟩
    · rw [hpool]
      exact hsent.unqueued
    · rw [hinbox]
      exact hsent.once
  · exact ⟨hafter, _, ht, Site.step_sent (hsound.site hs) hevent hsent⟩

/-- `Moves` of others leave a waiter that `Waits` there, or send it one answer, and leave it
`Answered`. -/
theorem Moves.of_others (hmoves : Moves allowed p flow c) (hsound : Sound config p)
    (hlinked : Linked p) (hother : ∀ site event, ¬ allowed (some w.id) site event) :
    (w.Waits p →
      w.Waits c.1 ∨ ∃ answer, w.Answered answer c.1 ∧ w.MayBeSent config allowed answer) ∧
    ∀ answer, w.Answered answer p → w.Answered answer c.1 := by
  -- once an answer is sent, the rest of the moves leave it where it is
  induction hmoves with
  | nil p => exact ⟨.inl, fun _ => id⟩
  | cons hmove _ ih =>
    obtain ⟨hwaits, hanswered⟩ := ih (hsound.move hmove) (hlinked.move hsound hmove)
    refine ⟨fun h => ?_, fun answer h => hanswered answer (hmove.answered hsound hlinked hother h)⟩
    rcases hmove.waits hsound hlinked hother h with hstays | ⟨answer, hsent, hright⟩
    · exact hwaits hstays
    · exact .inr ⟨answer, hanswered answer hsent, hright⟩

/-! ## What is over -/

/-- Acquisitions keep their numbers. -/
theorem keys_proceed (id : Nat) (next : Option Acquisition) (p : Provider) :
    (p.proceed id next).acquisitions.map Prod.fst ⊆ p.acquisitions.map Prod.fst := by
  cases next with
  | none => exact (List.eraseP_sublist.map Prod.fst).subset
  | some progress =>
    have hkeys : (p.proceed id (some progress)).acquisitions.map Prod.fst =
        p.acquisitions.map Prod.fst := by
      rw [proceed, advanceAcquisition, List.map_map]
      rfl
    rw [hkeys]
    exact List.Subset.refl _

/-- Only those who ask get numbers of acquisitions in a `Move`. -/
theorem Move.unknown (hmove : Move allowed p flow c) {id : Nat}
    (hunknown : p.acquisitions.lookup id = none) (hlt : id < p.nextAcquisition) :
    c.1.acquisitions.lookup id = none ∧ id < c.1.nextAcquisition := by
  have hkey := notMem_keys_of_lookup hunknown
  -- numbers come on the list only by asking, and the next one was never given out
  cases hmove with
  | books hbooks =>
    rw [hbooks.acquisitions, hbooks.nextAcquisition]
    exact ⟨hunknown, hlt⟩
  | found d => exact ⟨hunknown, hlt⟩
  | ask d =>
    refine ⟨lookup_of_notMem_keys ?_, Nat.lt_succ_of_lt hlt⟩
    intro hmem
    rw [acquire, List.map_append] at hmem
    rcases List.mem_append.1 hmem with hold | hnew
    · exact hkey hold
    · have heq : id = p.nextAcquisition := by simpa using hnew
      omega
  | @forget other known hknown hsite =>
    refine ⟨lookup_of_notMem_keys fun hmem => hkey ?_, hlt⟩
    exact (List.eraseP_sublist.map Prod.fst).subset hmem
  | site hallowed hs hcaller hexchange => exact ⟨hunknown, hlt⟩
  | @act other index s event known next hallowed hknown hs hnext =>
    refine ⟨lookup_of_notMem_keys fun hmem => ?_, ?_⟩
    · exact hkey (keys_proceed other next (p.setSite index (s.step p.config event).1) hmem)
    · rw [proceed_nextAcquisition]
      exact hlt
  | swap first second =>
    refine swap_invariant (motive := fun q =>
      q.acquisitions.lookup id = none ∧ id < q.nextAcquisition) p ⟨hunknown, hlt⟩ ?_ first second
    intro q lease conn hq
    rw [exchange_acquisitions, exchange_nextAcquisition]
    exact hq

/-- What is `Over` stays over at every `Move`. -/
theorem Move.over (hmove : Move allowed p flow c) (h : w.Over p) : w.Over c.1 := by
  obtain ⟨hunknown, hlt, s, hs, hpast⟩ := h
  obtain ⟨hunknown', hlt'⟩ := hmove.unknown hunknown hlt
  obtain ⟨t, ht, ⟨hpool, hinbox⟩ | ⟨event, -, -, rfl⟩ | ⟨id, known, event, next, -, -, -, rfl⟩⟩ :=
    hmove.site_cases hs
  · refine ⟨hunknown', hlt', t, ht, ?_, ?_⟩
    · rw [hpool]
      exact hpast.lt
    · rw [Site.requests, hpool, hinbox]
      exact hpast.notMem
  · exact ⟨hunknown', hlt', _, ht, Site.step_past p.config event hpast⟩
  · exact ⟨hunknown', hlt', _, ht, Site.step_past p.config event hpast⟩

/-- What is `Over` stays over at every `step`. -/
theorem step_over (h : w.Over p) (event : Event) : w.Over (p.step event).1 :=
  (step_moves p event).invariant (motive := w.Over) (fun _ _ _ hp hmove => hmove.over hp) h

/-! ## What the waiter does -/

/-- An acquisition that is finished with its request is `Over`. -/
theorem over_of_finish (hlinked : Linked p) {s t : Site} (hs : p.sites[w.site]? = some s)
    (hknown : w.Known p) (hpast : t.Past w.request) :
    w.Over ((p.setSite w.site t).finishAcquisition w.id) := by
  have hperm := (perm_cons_eraseP_of_lookup hknown).map Prod.fst
  have hnodup := hperm.nodup_iff.1 hlinked.numbers.nodup
  refine ⟨lookup_of_notMem_keys (List.nodup_cons.1 hnodup).1, ?_, t, ?_, hpast⟩
  · exact hlinked.numbers.lt w.id (List.mem_map_of_mem (f := Prod.fst) (mem_of_lookup hknown))
  · exact (getElem?_setSite t hs w.site).trans (if_pos rfl)

/-- `poll` of a queued acquisition is `Site.poll` of its request. -/
theorem poll_of_known {s : Site} (hs : p.sites[w.site]? = some s) (hknown : w.Known p)
    (m : Moment) :
    ((s.poll p.config m w.request).1 = none ∧
      (p.poll m w.id).1 = .waiting w.site w.request w.deadline ∧
      (p.poll m w.id).2.1 = p.setSite w.site (s.poll p.config m w.request).2.1) ∨
    ∃ result, (s.poll p.config m w.request).1 = some result ∧
      (p.poll m w.id).1 = .finished (result.map (⟨w.site, ·⟩)) ∧
      (p.poll m w.id).2.1 =
        (p.setSite w.site (s.poll p.config m w.request).2.1).finishAcquisition w.id := by
  have hpoll : p.poll m w.id = p.pollQueued m w.id w.site w.request w.deadline := by
    rw [poll, hknown]
  rw [hpoll, pollQueued]
  simp only [changeSiteReporting, changeSite, hs, Option.map_some, Option.getD_some]
  cases houtcome : (s.poll p.config m w.request).1 with
  | none => exact .inl ⟨rfl, rfl, rfl⟩
  | some result => exact .inr ⟨result, rfl, rfl, rfl⟩

/-- A waiter that `Waits` learns by a poll that its time is up, if its timer has fired, and
otherwise waits on. -/
theorem step_poll_of_waits (h : Reachable config p) (hw : w.Waits p) (m : Moment) :
    (m.hasFired w.deadline = true ∧
      (p.poll m w.id).1 = .finished (.error (.acquisitionTimeout config.acquireTimeout)) ∧
      w.Over (p.step (.poll m w.id)).1) ∨
    (m.hasFired w.deadline = false ∧ (p.poll m w.id).1 = .waiting w.site w.request w.deadline ∧
      w.Waits (p.step (.poll m w.id)).1) := by
  have hsound := sound_of_reachable h
  obtain ⟨hknown, s, hs, hqueues⟩ := hw
  have hrequests := (Site.requests_numbered (hsound.site hs)).nodup
  have hmem := Site.mem_requests_of_queues hrequests hqueues
  have hpoll := poll_of_known hs hknown m
  rw [hsound.settings] at hpoll
  -- the timer decides
  obtain ⟨hfired, houtcome⟩ | ⟨hfired, hsame⟩ := Site.poll_of_queues hrequests hqueues m
  · refine .inl ⟨hfired, ?_⟩
    have hpast := Site.past_of_poll (hsound.site hs) hmem (m := m) (by rw [houtcome]; simp)
    obtain ⟨hnone, -⟩ | ⟨result, hresult, hprogress, hafter⟩ := hpoll
    · rw [houtcome] at hnone
      cases hnone
    · obtain rfl := Option.some.inj (houtcome.symm.trans hresult)
      refine ⟨hprogress, ?_⟩
      rw [step, hafter]
      exact over_of_finish (linked_of_reachable h) hs hknown hpast
  · obtain ⟨-, hprogress, hafter⟩ | ⟨result, hresult, -, -⟩ := hpoll
    · refine .inr ⟨hfired, hprogress, ?_⟩
      rw [step, hafter, hsame]
      exact ⟨hknown, s, (getElem?_setSite s hs w.site).trans (if_pos rfl), hqueues⟩
    · rw [hsame] at hresult
      cases hresult

/-- A waiter that is `Answered` reads the answer by a poll, at any time. -/
theorem step_poll_of_answered (h : Reachable config p) {answer : Delivery}
    (hw : w.Answered answer p) (m : Moment) :
    (p.poll m w.id).1 = .finished (answer.map fun e => ⟨w.site, e.info.id⟩) ∧
      w.Over (p.step (.poll m w.id)).1 := by
  have hsound := sound_of_reachable h
  obtain ⟨hknown, s, hs, hsent⟩ := hw
  have hrequests := (Site.requests_numbered (hsound.site hs)).nodup
  have houtcome : (s.poll config m w.request).1 = some (answer.map fun e => e.info.id) :=
    Site.poll_of_sent hrequests hsent m
  have hpoll := poll_of_known hs hknown m
  rw [hsound.settings] at hpoll
  -- the site has an answer, so that the poll is not the one that goes on waiting
  obtain ⟨hnone, -⟩ | ⟨result, hresult, hprogress, hafter⟩ := hpoll
  · rw [houtcome] at hnone
    cases hnone
  · obtain rfl := Option.some.inj (houtcome.symm.trans hresult)
    refine ⟨?_, ?_⟩
    · rw [hprogress]
      cases answer <;> rfl
    · have hmem := Site.mem_requests_of_sent hrequests hsent
      rw [step, hafter]
      exact over_of_finish (linked_of_reachable h) hs hknown
        (Site.past_of_poll (hsound.site hs) hmem (by rw [houtcome]; simp))

/-- A waiter that gives up is `Over`, whether it was sent an answer or not. -/
theorem step_abandon (h : Reachable config p)
    (hw : w.Waits p ∨ ∃ answer, w.Answered answer p) (m : Moment) :
    w.Over (p.step (.abandon m w.id)).1 := by
  have hsound := sound_of_reachable h
  -- queued or answered, the request is under way, and giving it up takes it off
  obtain ⟨hknown, s, hs, hmem⟩ : w.Known p ∧
      ∃ s, p.sites[w.site]? = some s ∧ w.request ∈ s.requests := by
    rcases hw with ⟨hknown, s, hs, hqueues⟩ | ⟨answer, hknown, s, hs, hsent⟩
    · have hrequests := (Site.requests_numbered (hsound.site hs)).nodup
      exact ⟨hknown, s, hs, Site.mem_requests_of_queues hrequests hqueues⟩
    · have hrequests := (Site.requests_numbered (hsound.site hs)).nodup
      exact ⟨hknown, s, hs, Site.mem_requests_of_sent hrequests hsent⟩
  have hafter : (p.step (.abandon m w.id)).1 =
      (p.setSite w.site (s.cancel config m w.request).1).finishAcquisition w.id := by
    rw [step, abandon, hknown, hsound.settings]
    simp only [changeSite, hs]
    rfl
  rw [hafter]
  exact over_of_finish (linked_of_reachable h) hs hknown
    (Site.past_of_cancel (hsound.site hs) hmem m)

end ConnectionPool.Provider
