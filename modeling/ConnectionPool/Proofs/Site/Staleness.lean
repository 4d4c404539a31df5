import ConnectionPool.Proofs.Site.Freshness

/-!
# Not stale at an instant

A sweep leaves idle only what is within both limits at the time of the sweep. Whatever happens
later, nothing that is idle was over a limit then: what was idle before has not changed, and what
came to be idle since was opened later or was within the age limit when it was parked.

How stale idle connections are now is therefore bounded by the limits and the time since the sweep.

## Main definitions

* `FreshAt`: nothing that is idle was stale at an instant.

## Main results

* `FreshAt.step`: no later event makes anything idle that was stale then.
* `freshAt_sweep`: nothing is stale after a sweep.
* `FreshAt.idleFor_le`, `FreshAt.age_le`: how stale it can be later.
-/

namespace ConnectionPool.Site

variable {config : Config} {s : Site} {t now : Instant}

/-- `FreshAt config t s`: what is idle is known to be, and was within both limits at `t`, as far as
it was there then. -/
def FreshAt (config : Config) (t : Instant) (s : Site) : Prop :=
  ∀ e ∈ s.pool.idle, e.info.state = .idle ∧
    (∀ max, config.maxIdleTime = some max → e.info.idleFor t ≤ max) ∧
    (∀ max, config.maxLifeTime = some max → e.info.age t ≤ max)

/-- Where nothing is idle, the site is `FreshAt` every instant. -/
theorem freshAt_of_idle_nil (h : s.pool.idle = []) : s.FreshAt config t := by
  intro e he
  rw [h] at he
  cases he

/-- The time since an instant is not longer at an earlier time. -/
theorem since_mono {first later since : Instant} (h : first ≤ later) :
    first.since since ≤ later.since since := by
  have hnanos : first.nanos ≤ later.nanos := h
  show (first.nanos - since.nanos).toNat ≤ (later.nanos - since.nanos).toNat
  omega

/-- No time has passed since a later instant. -/
theorem since_of_le {first later : Instant} (h : first ≤ later) (max : Duration) :
    first.since later ≤ max := by
  have hnanos : first.nanos ≤ later.nanos := h
  show (first.nanos - later.nanos).toNat ≤ max.nanos
  omega

/-- Later, at most the time in between has passed in addition. -/
theorem since_le_add {first later since : Instant} {max gap : Duration}
    (h : first.since since ≤ max) (hgap : later ≤ first.add gap) :
    (later.since since).nanos ≤ max.nanos + gap.nanos := by
  have hmax : (first.nanos - since.nanos).toNat ≤ max.nanos := h
  have hlater : later.nanos ≤ first.nanos + gap.nanos := hgap
  show (later.nanos - since.nanos).toNat ≤ _
  omega

/-- Every `step` keeps a site `FreshAt` an instant that is over: nothing that was stale then becomes
idle later. -/
theorem FreshAt.step (h : s.FreshAt config t) {event : Event}
    (hlater : ∀ look ∈ event.looks, t ≤ look) :
    (s.step config event).1.FreshAt config t := by
  rcases step_idle config event s with hkept | ⟨now, e, hoffer, hparked⟩
  · exact fun e he => h e (hkept.subset he)
  · intro known hknown
    rw [hparked] at hknown
    rcases List.mem_append.1 hknown with hold | hnew
    · exact h known hold
    · obtain rfl := List.mem_singleton.1 hnew
      obtain ⟨m, hmoment, rfl, hcases⟩ := offer?_ok_cases hoffer
      have hm := hlater _ (Event.mem_looks_of_moment? hmoment)
      refine ⟨rfl, fun max _ => since_of_le hm max, fun max hmax => ?_⟩
      rcases hcases with ⟨-, hreason⟩ | ⟨opening, conn, created, rfl, -, rfl⟩
      · -- what is given back was within the age limit when it was parked
        obtain ⟨-, -, hexpired⟩ := Pool.closeReason?_eq_none_iff.1 hreason
        have hage : m.now.since e.info.createdAt ≤ max :=
          Metadata.age_le_of_not_isExpired hexpired hmax
        exact Nat.le_trans (since_mono hm) hage
      · exact since_of_le (hlater created (Event.mem_looks_of_created? rfl)) max

/-- After a sweep, an open pool is `FreshAt` the instant of the sweep. -/
theorem freshAt_sweep (h : s.FreshAt config t) (hopen : s.pool.closed = false) (m : Moment) :
    (s.step config (.sweep m)).1.FreshAt config m.now := by
  obtain ⟨hclosed, -⟩ | ⟨-, notes, -, heq⟩ := sweep_cases config m s
  · cases hopen.symm.trans hclosed
  · intro e he
    have hkept : e ∈ s.pool.idle.filter (·.isReusable config m) := by
      rw [step, heq, Change.andThen_fst, openForQueue_fst, Change.andThen_fst,
        startClosing_fst] at he
      exact he
    obtain ⟨hidle, hreusable⟩ := List.mem_filter.1 hkept
    obtain ⟨-, hidleExpired, hexpired⟩ := Entry.isReusable_iff.1 hreusable
    obtain ⟨hstate, -, -⟩ := h e hidle
    exact ⟨hstate,
      fun max hmax => Metadata.idleFor_le_of_not_isIdleExpired hstate hidleExpired hmax,
      fun max hmax => Metadata.age_le_of_not_isExpired hexpired hmax⟩

/-- What is idle in a site that is `FreshAt` an instant has been so for at most the limit and the
time since. -/
theorem FreshAt.idleFor_le (h : s.FreshAt config t) {gap : Duration} (hnow : now ≤ t.add gap)
    {e : Entry} (he : e ∈ s.pool.idle) {max : Duration} (hmax : config.maxIdleTime = some max) :
    (e.info.idleFor now).nanos ≤ max.nanos + gap.nanos :=
  since_le_add ((h e he).2.1 max hmax) hnow

/-- What is idle in a site that is `FreshAt` an instant is at most as old as the limit and the time
since. -/
theorem FreshAt.age_le (h : s.FreshAt config t) {gap : Duration} (hnow : now ≤ t.add gap)
    {e : Entry} (he : e ∈ s.pool.idle) {max : Duration} (hmax : config.maxLifeTime = some max) :
    (e.info.age now).nanos ≤ max.nanos + gap.nanos :=
  since_le_add ((h e he).2.2 max hmax) hnow

end ConnectionPool.Site
