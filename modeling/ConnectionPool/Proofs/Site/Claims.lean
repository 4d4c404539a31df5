import ConnectionPool.Proofs.Site.Freshness

/-!
# The connection that was parked last is claimed first

What is idle stands in the order in which it was parked. An acquisition looks through it from the
end, so it claims the usable connection that was parked last. All that it passes over is unusable
and is closed, each connection once, and all that it does not reach stays as it was. Where nothing
is usable everything is closed, and the slots that this frees let the caller open a connection.

## Main definitions

* `Claims`: an acquisition claims an idle connection.
* `Exhausts`: an acquisition finds no usable connection among those that are idle.

## Main results

* `Pool.select_cases`: how the search ends.
* `idle_sorted`: on a monotone clock the idle connections are in the order of their last release.
* `claims_of_usable`, `exhausts_of_unusable`: the two ways in which an acquisition treats what is
  idle.
* `latest_claimed_first`: all of this after any run.
-/

namespace ConnectionPool

/-- `select` ends at the last usable connection, or it passes over everything. -/
theorem Pool.select_cases (usable : Entry → Bool) (idle : List Entry) :
    (∃ before e after, idle = before ++ e :: after ∧ usable e = true ∧
      (∀ x ∈ after, usable x = false) ∧ select usable idle = ⟨before, some e, after.reverse⟩) ∨
    ((∀ x ∈ idle, usable x = false) ∧ select usable idle = ⟨[], none, idle.reverse⟩) := by
  -- the search goes from the end, so what it passes over comes out in reverse
  have hstale : ∀ x ∈ idle.reverse.takeWhile (!usable ·), usable x = false := fun x hx => by
    simpa using List.all_eq_true.1 List.all_takeWhile x hx
  have parts := List.takeWhile_append_dropWhile (p := (!usable ·)) (l := idle.reverse)
  have husable := List.head?_dropWhile_not (p := (!usable ·)) (l := idle.reverse)
  unfold select
  cases hrest : idle.reverse.dropWhile (!usable ·) with
  | nil =>
    rw [hrest, List.append_nil] at parts
    refine .inr ⟨fun x hx => hstale x ?_, ?_⟩
    · rw [parts]
      exact List.mem_reverse.2 hx
    · rw [parts]
  | cons e older =>
    rw [hrest] at parts husable
    refine .inl ⟨older.reverse, e, (idle.reverse.takeWhile (!usable ·)).reverse, ?_,
      by simpa using husable, fun x hx => hstale x (List.mem_reverse.1 hx), ?_⟩
    · simpa using (congrArg List.reverse parts).symm
    · rw [List.reverse_reverse]

namespace Site

variable {config : Config} {s : Site} {m : Moment}

/-- When the events are `InOrder`, the idle connections are in the order in which they were last
given back. -/
theorem idle_sorted {events : List Event} (horder : InOrder events)
    (hsorted : s.pool.idle.Pairwise fun e f => e.info.lastReleasedAt ≤ f.info.lastReleasedAt)
    (hearlier : ∀ e ∈ s.pool.idle, ∀ event ∈ events, ∀ m, event.moment? = some m →
      e.info.lastReleasedAt ≤ m.now) :
    (s.run config events).pool.idle.Pairwise fun e f =>
      e.info.lastReleasedAt ≤ f.info.lastReleasedAt := by
  -- on the events: nothing that is idle was given back after an event that is still to come
  induction events generalizing s with
  | nil => exact hsorted
  | cons event events ih =>
    rcases step_idle config event s with hsub | ⟨now, e, hoffer, hparked⟩
    · refine ih horder.tail (hsorted.sublist hsub) fun f hf other hother => ?_
      exact hearlier f (hsub.subset hf) other (List.mem_cons_of_mem _ hother)
    · obtain ⟨m, hmoment, rfl, -⟩ := offer?_ok_cases hoffer
      refine ih horder.tail ?_ ?_
      · rw [hparked, List.pairwise_append]
        refine ⟨hsorted, List.pairwise_singleton _ _, fun f hf g hg => ?_⟩
        rw [List.mem_singleton.1 hg]
        exact hearlier f hf event List.mem_cons_self m hmoment
      · intro f hf other hother n hn
        rw [hparked] at hf
        rcases List.mem_append.1 hf with hold | hnew
        · exact hearlier f hold other (List.mem_cons_of_mem _ hother) n hn
        · rw [List.mem_singleton.1 hnew]
          exact horder.le hmoment hother hn

/-! ## What an acquisition does with what is idle -/

/-- `Claims config m s before e after`: an acquisition at `m` finds usable connections among those
that are idle. Of these, `e` was parked last, `before` are those parked before it, and `after` are
those parked after it. -/
structure Claims (config : Config) (m : Moment) (s : Site) (before : List Entry) (e : Entry)
    (after : List Entry) : Prop where
  /-- The idle connections are in this order. -/
  order : s.pool.idle = before ++ e :: after
  /-- The connection is usable. -/
  usable : e.isReusable config m = true
  /-- What was parked after it is not. -/
  unusable : ∀ x ∈ after, x.isReusable config m = false
  /-- The caller gets the connection. -/
  result : (s.acquire config m).1 = .ok (.lease e.info.id)
  /-- The slots to be given up are taken. -/
  covered : after.length ≤ s.pool.allocated
  /-- What was parked after it is given up and is being closed, what was parked before it stays, and
  the caller holds it. Nothing else changes. -/
  site : (s.acquire config m).2.1 =
    { s with
      pool := { s.pool with
        idle := before, allocated := s.pool.allocated - after.length, inUse := s.pool.inUse + 1,
        closing := s.pool.closing + after.length },
      leases := s.leases ++ [e.acquired],
      closings := s.closings ++ after.reverse.map Entry.retired }
  /-- The transport is asked to close what is given up, and nothing else. -/
  closes : closesOf (s.acquire config m).2.2 = after.reverse.map Entry.retired

/-- The slot that an acquisition takes for itself when it is answered with an `opening`. -/
def reservation : Except PoolError Ticket → Nat
  | .ok (.opening _) => 1
  | _ => 0

/-- `Exhausts config m s`: an acquisition at `m` finds no usable connection among those that are
idle. -/
structure Exhausts (config : Config) (m : Moment) (s : Site) : Prop where
  /-- No connection stays idle. -/
  idle : (s.acquire config m).2.1.pool.idle = []
  /-- All that were idle give their slots up, and then a slot may be taken for the caller. -/
  allocated : (s.acquire config m).2.1.pool.allocated + s.pool.idle.length =
    s.pool.allocated + reservation (s.acquire config m).1
  /-- All that were idle are counted as being closed. -/
  closing : (s.acquire config m).2.1.pool.closing = s.pool.closing + s.pool.idle.length
  /-- All that were idle are being closed. -/
  closings : (s.acquire config m).2.1.closings =
    s.closings ++ s.pool.idle.reverse.map Entry.retired
  /-- The transport is asked to close them, and nothing else. -/
  closes : closesOf (s.acquire config m).2.2 = s.pool.idle.reverse.map Entry.retired
  /-- If there was one, a slot is free, and a connection is opened for the caller. -/
  connects : s.pool.idle ≠ [] →
    (s.acquire config m).1 = .ok (.opening s.nextOpening) ∧
    (s.acquire config m).2.1 = beginOpening .caller
      { s with
        pool := { s.pool with
          idle := [], allocated := s.pool.allocated - s.pool.idle.length + 1,
          closing := s.pool.closing + s.pool.idle.length },
        closings := s.closings ++ s.pool.idle.reverse.map Entry.retired }

theorem claims_of_usable (h : Reachable config s) {before after : List Entry} {e : Entry}
    (horder : s.pool.idle = before ++ e :: after) (husable : e.isReusable config m = true)
    (hunusable : ∀ x ∈ after, x.isReusable config m = false)
    (hselect : Pool.select (·.isReusable config m) s.pool.idle = ⟨before, some e, after.reverse⟩) :
    Claims config m s before e after := by
  have hcovered : after.length ≤ s.pool.allocated := by
    have hallocated := (balance_of_reachable h).allocated
    rw [horder, List.length_append, List.length_cons] at hallocated
    omega
  obtain ⟨hclosed, -⟩ | ⟨-, ⟨e', hchosen, heq⟩ | ⟨hnone, -⟩⟩ := acquire_cases config m s
  -- nothing is idle in a pool that has been shut down
  · rw [((justified_of_reachable h).closed hclosed).2] at horder
    simp at horder
  · rw [hselect] at hchosen
    obtain rfl := Option.some.inj hchosen
    refine ⟨horder, husable, hunusable, by rw [heq], hcovered, ?_, ?_⟩
    · rw [heq]
      simp [searched, Pool.searched, Pool.giveUp, hselect, lend]
    · rw [heq]
      simp [searched, hselect]
  · rw [hselect] at hnone
    cases hnone

/-- Where anything idle is given up, the limit `admits` another connection. -/
theorem admits_of_idle_ne_nil (h : Reachable config s) (hidle : s.pool.idle ≠ []) :
    config.maxConnections.admits (s.pool.allocated - s.pool.idle.length) = true := by
  rw [← Bool.not_eq_false]
  intro hfull
  obtain ⟨max, hmax, hreached⟩ := Limit.get_of_not_admits hfull
  have hslots := (justified_of_reachable h).slots max hmax
  have hallocated := (balance_of_reachable h).allocated
  have hlength := List.length_pos_iff.2 hidle
  omega

theorem exhausts_of_unusable (h : Reachable config s)
    (hselect : Pool.select (·.isReusable config m) s.pool.idle = ⟨[], none, s.pool.idle.reverse⟩) :
    Exhausts config m s := by
  have hcovered : s.pool.idle.length ≤ s.pool.allocated := by
    have hallocated := (balance_of_reachable h).allocated
    omega
  -- where no slot is free, nothing was idle
  have hnothing
      (hfull : config.maxConnections.admits (s.pool.searched config m).allocated = false) :
      s.pool.idle = [] := by
    by_contra hidle
    have hfree := admits_of_idle_ne_nil h hidle
    rw [Pool.searched, hselect, Pool.giveUp, List.length_reverse, hfree] at hfull
    cases hfull
  obtain ⟨hclosed, heq⟩ | ⟨-, ⟨e, hchosen, -⟩ | ⟨-, hanswer⟩⟩ := acquire_cases config m s
  · have hidle := ((justified_of_reachable h).closed hclosed).2
    constructor <;> simp [heq, hidle, reservation]
  · rw [hselect] at hchosen
    cases hchosen
  · obtain ⟨-, heq⟩ | ⟨hfull, -, -, heq⟩ | ⟨error, ⟨hfull, -⟩, heq⟩ := hanswer
    · constructor <;>
        simp [heq, searched, Pool.searched, Pool.giveUp, hselect, beginOpening, reservation]
      omega
    -- whether the caller waits or is turned away, nothing was idle
    all_goals
      have hidle := hnothing hfull
      rw [hidle] at hselect
      constructor <;> simp [heq, searched, Pool.searched, Pool.giveUp, hselect, hidle, reservation]

/-- The numbers of the `closings` are all different. -/
theorem closings_numbered (h : Reachable config s) : (s.closings.map (·.info.id)).Nodup := by
  have hnodup := (holdings_numbered h).nodup
  rw [holdings_numbers, List.nodup_append] at hnodup
  exact hnodup.2.1

/-- After any run whose events are `InOrder`, what is idle is in the order in which it was last
given back. An acquisition at any moment `Claims` the usable connection that was given back last and
gives up exactly what was parked after it, or it `Exhausts` what is idle and gives up everything.
Each connection is given up once. -/
theorem latest_claimed_first (config : Config) (destination : Destination) {events : List Event}
    (horder : InOrder events) :
    let s := (fresh destination).run config events
    (s.pool.idle.Pairwise fun e f => e.info.lastReleasedAt ≤ f.info.lastReleasedAt) ∧
    ∀ m,
      ((∃ e ∈ s.pool.idle, e.isReusable config m = true) →
        ∃ before e after, Claims config m s before e after ∧
          ∀ x ∈ s.pool.idle, x.isReusable config m = true →
            x.info.lastReleasedAt ≤ e.info.lastReleasedAt) ∧
      ((∀ e ∈ s.pool.idle, e.isReusable config m = false) → Exhausts config m s) ∧
      ((s.acquire config m).2.1.closings.map (·.info.id)).Nodup := by
  intro s
  have h : Reachable config s := (Reachable.fresh destination).run events
  have hsorted : s.pool.idle.Pairwise fun e f => e.info.lastReleasedAt ≤ f.info.lastReleasedAt :=
    idle_sorted horder List.Pairwise.nil fun e he => absurd he List.not_mem_nil
  refine ⟨hsorted, fun m => ⟨fun husable => ?_, fun hunusable => ?_,
    closings_numbered (h.step (.acquire m))⟩⟩
  · obtain ⟨before, e, after, hidle, he, hafter, hselect⟩ | ⟨hnone, -⟩ :=
      Pool.select_cases (·.isReusable config m) s.pool.idle
    · refine ⟨before, e, after, claims_of_usable h hidle he hafter hselect, fun x hx hx' => ?_⟩
      rw [hidle, List.pairwise_append] at hsorted
      rw [hidle] at hx
      -- a usable connection is the one that is claimed, or it was parked before it
      rcases List.mem_append.1 hx with hbefore | hrest
      · exact hsorted.2.2 x hbefore e List.mem_cons_self
      · rcases List.mem_cons.1 hrest with rfl | hbehind
        · exact Int.le_refl _
        · cases hx'.symm.trans (hafter x hbehind)
    · obtain ⟨e, hmem, he⟩ := husable
      cases he.symm.trans (hnone e hmem)
  · obtain ⟨before, e, after, hidle, he, -⟩ | ⟨-, hselect⟩ :=
      Pool.select_cases (·.isReusable config m) s.pool.idle
    · cases he.symm.trans (hunusable e (by rw [hidle]; simp))
    · exact exhausts_of_unusable h hselect

/-- A configuration with three slots. -/
def threeSlots : Config := .ofDefaults "three slots" ⟨.bounded 3 (by decide), .ofSeconds 1⟩

/-- Three connections are opened and given back one after another. -/
def parkedThree : List Event :=
  [.acquire (.atMillis 0), .opened 1 ⟨1, "db:1"⟩ (.atMillis 0),
    .acquire (.atMillis 0), .opened 2 ⟨2, "db:1"⟩ (.atMillis 0),
    .acquire (.atMillis 0), .opened 3 ⟨3, "db:1"⟩ (.atMillis 0),
    .release (.atMillis 100) 1, .release (.atMillis 200) 2, .release (.atMillis 300) 3]

/-- A moment at which one connection has failed. -/
def atMillisWithout (failed millis : Nat) : Moment :=
  { Moment.atMillis millis with healthy := fun conn => conn.id != failed }

/-- When the last of the three has failed, the one before it is claimed, and the last is closed. -/
theorem latest_claimed_first_parkedThree :
    InOrder parkedThree ∧
      ((fresh (.ofAddress "db:1")).run threeSlots parkedThree).pool.idle.map
        (fun e => (e.info.id, e.isReusable threeSlots (atMillisWithout 3 400))) =
        [(1, true), (2, true), (3, false)] ∧
      (((fresh (.ofAddress "db:1")).run threeSlots parkedThree).acquire threeSlots
        (atMillisWithout 3 400)).1 = .ok (.lease 2) ∧
      ∃ before e after, Claims threeSlots (atMillisWithout 3 400)
        ((fresh (.ofAddress "db:1")).run threeSlots parkedThree) before e after := by
  have horder : InOrder parkedThree := by
    show List.Pairwise _ _
    decide
  obtain ⟨-, hacquire⟩ := latest_claimed_first threeSlots (.ofAddress "db:1") horder
  obtain ⟨before, e, after, hclaims, -⟩ := (hacquire (atMillisWithout 3 400)).1
    ⟨((fresh (.ofAddress "db:1")).run threeSlots parkedThree).pool.idle[1], by decide, by decide⟩
  exact ⟨horder, by decide, by decide, before, e, after, hclaims⟩

end Site

end ConnectionPool
