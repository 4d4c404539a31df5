import ConnectionPool.Proofs.Provider.Disposals
import Mathlib.Data.List.Induction

/-!
# What has become of the connections of a pool

A pool numbers the connections that it is given, in order. Each of them is with the pool, which
holds it or has lent it, or it has left it: its caller took it out for good, or it has been closed.

## Main definitions

* `Leaves`: a connection leaves its pool at an event.
* `HasLeft`: it left in the course of events.

## Main results

* `holds_or_hasLeft`: what a pool was given, it holds, or it has left.
-/

namespace ConnectionPool

namespace Site

variable {config : Config} {s : Site} {event : Event} {number : Nat}

/-- `WasGiven number s`: the pool of the site was given a connection under the number. -/
def WasGiven (number : Nat) (s : Site) : Prop := 0 < number ∧ number < s.pool.nextConnection

/-- `Holds number s`: the site holds the connection with the number. -/
def Holds (number : Nat) (s : Site) : Prop := number ∈ s.holdings.map Prod.fst

/-- After a `step`, a site `Holds` a connection, did not hold it before, or the
connection leaves. -/
theorem step_numbers (config : Config) (event : Event)
    (hgiven : (s.step config event).1.WasGiven number) :
    (s.step config event).1.Holds number ∨ (s.WasGiven number ∧ ¬ s.Holds number) ∨
      number ∈ (s.departures event).map Prod.fst := by
  have hnext := (step_frame config event s).nextConnection
  cases hevent : event.isExchange with
  | true =>
    obtain ⟨lease, conn, rfl⟩ : ∃ lease conn, event = .exchange lease conn := by
      cases event <;> simp [Event.isExchange] at hevent ⊢
    by_cases hheld : s.Holds number
    · refine .inl ?_
      rw [Holds, step, exchange_numbers]
      exact hheld
    · exact .inr (.inl ⟨hgiven, hheld⟩)
  | false =>
    have hperm := (step_holdings config event hevent s).map Prod.fst
    have hmem := hperm.symm.subset (a := number)
    simp only [List.map_append, List.mem_append] at hmem
    by_cases hheld : s.Holds number
    · exact (hmem (.inl hheld)).imp_right .inr
    · by_cases hold : number < s.pool.nextConnection
      · exact .inr (.inl ⟨⟨hgiven.1, hold⟩, hheld⟩)
      · -- the number is that of the connection that arrives
        obtain ⟨-, hlt⟩ := hgiven
        rw [hnext] at hlt
        obtain harrivals | ⟨conn, harrivals⟩ := arrivals_cases event s <;>
          rw [harrivals] at hlt hmem
        · exact absurd hlt hold
        · obtain rfl : s.pool.nextConnection = number := by
            simp only [List.length_singleton] at hlt
            omega
          exact (hmem (.inr (by simp))).imp_right .inr

/-- A connection is among the `departures` only of events of its own. -/
theorem eq_of_mem_departures (h : number ∈ (s.departures event).map Prod.fst) :
    (event = .detach number ∧ ∃ e, s.lease? number = some e) ∨
      (event = .closeFinished number ∧ ∃ e ∈ s.closings, e.info.id = number) := by
  obtain ⟨tag, htag, rfl⟩ := List.mem_map.1 h
  cases event with
  | detach lease =>
    obtain ⟨e, he, rfl⟩ := List.mem_map.1 htag
    have hlease := Option.mem_toList.1 he
    have hid : e.info.id = lease := by
      simpa using List.find?_some (p := fun e : Entry => e.info.id == lease) hlease
    refine .inl ⟨?_, e, ?_⟩
    · rw [← hid]
      rfl
    · rw [← hid] at hlease
      exact hlease
  | closeFinished connection =>
    obtain ⟨e, he, rfl⟩ := List.mem_map.1 htag
    have hclosing := Option.mem_toList.1 he
    have hid : e.info.id = connection := by
      simpa using List.find?_some (p := fun e : Entry => e.info.id == connection) hclosing
    refine .inr ⟨?_, e, List.mem_of_find?_eq_some hclosing, rfl⟩
    rw [← hid]
    rfl
  | _ => cases htag

end Site

namespace Provider

variable {config : Config} {p : Provider} {event : Event} {site number : Nat} {s t : Site}

/-- `Leaves p site number event`: the connection leaves the pool of the site for good. -/
inductive Leaves (p : Provider) (site number : Nat) : Event → Prop
  /-- Its caller takes it out. -/
  | detached {s : Site} {e : Entry} (hs : p.sites[site]? = some s)
      (hlease : s.lease? number = some e) : Leaves p site number (.detach ⟨site, number⟩)
  /-- It has been closed. -/
  | closed {s : Site} {e : Entry} (hs : p.sites[site]? = some s) (hclosing : e ∈ s.closings)
      (hnumber : e.info.id = number) : Leaves p site number (.closeFinished site number)

/-- `HasLeft p site number events`: the connection left the pool of the site in the course of the
events. -/
def HasLeft (p : Provider) (site number : Nat) (events : List Event) : Prop :=
  ∃ before event after, events = before ++ event :: after ∧ (p.run before).Leaves site number event

theorem HasLeft.append {events : List Event} (h : p.HasLeft site number events)
    (later : List Event) : p.HasLeft site number (events ++ later) := by
  obtain ⟨before, event, after, rfl, hleaves⟩ := h
  exact ⟨before, event, after ++ later, by simp, hleaves⟩

/-- After events a site `Holds` the connection, did not hold it before them, or the connection may
leave in one of them. -/
theorem Descends.holds {may : Nat → Site.Event → Prop} {q : Provider} (h : Descends may p q)
    (ht : q.sites[site]? = some t) (hgiven : t.WasGiven number) :
    t.Holds number ∨ (∃ s, p.sites[site]? = some s ∧ s.WasGiven number ∧ ¬ s.Holds number) ∨
      may site (.detach number) ∨ may site (.closeFinished number) := by
  obtain ⟨s, hbegins, hbecomes⟩ := h.becomes site t ht
  refine hbecomes.invariant (motive := fun t => t.WasGiven number → t.Holds number ∨ _) ?_ ?_ hgiven
  · intro t act hmay ih hgiven
    obtain hholds | ⟨hbefore, hmissing⟩ | hleaves := Site.step_numbers p.config act hgiven
    · exact .inl hholds
    · exact .inr ((ih hbefore).resolve_left hmissing)
    · obtain ⟨rfl, -⟩ | ⟨rfl, -⟩ := Site.eq_of_mem_departures hleaves
      · exact .inr (.inr (.inl hmay))
      · exact .inr (.inr (.inr hmay))
  · intro hgiven
    rcases hbegins with hs | ⟨-, d, rfl⟩
    · by_cases hholds : s.Holds number
      · exact .inl hholds
      · exact .inr (.inl ⟨s, hs, hgiven, hholds⟩)
    · exact absurd hgiven.2 (Nat.not_lt.2 hgiven.1)

/-- An event at one site. -/
theorem changeSite_holds {act : Site.Event}
    (ht : (p.changeSite site fun s => s.step p.config act).1.sites[site]? = some t)
    (hgiven : t.WasGiven number) :
    t.Holds number ∨ (∃ s, p.sites[site]? = some s ∧ s.WasGiven number ∧ ¬ s.Holds number) ∨
      ∃ s, p.sites[site]? = some s ∧ number ∈ (s.departures act).map Prod.fst := by
  obtain ⟨hother, -⟩ | ⟨s, -, hs, rfl⟩ := site_changeSite ht
  · exact absurd rfl hother
  · obtain hholds | hmissing | hleaves := Site.step_numbers p.config act hgiven
    · exact .inl hholds
    · exact .inr (.inl ⟨s, hs, hmissing⟩)
    · exact .inr (.inr ⟨s, hs, hleaves⟩)

/-- After a `step`, a site `Holds` a connection, did not hold it before, or the
connection `Leaves`. -/
theorem step_holds_or_leaves (event : Event) (ht : (p.step event).1.sites[site]? = some t)
    (hgiven : t.WasGiven number) :
    t.Holds number ∨ (∃ s, p.sites[site]? = some s ∧ s.WasGiven number ∧ ¬ s.Holds number) ∨
      p.Leaves site number event := by
  by_cases hdetach : event = .detach ⟨site, number⟩
  · subst hdetach
    have hchange : (p.changeSite site fun s => s.step p.config (.detach number)).1.sites[site]? =
      some t := ht
    refine (changeSite_holds hchange hgiven).imp_right (.imp_right ?_)
    rintro ⟨s, hs, hleaves⟩
    obtain ⟨-, e, hlease⟩ | ⟨hother, -⟩ := Site.eq_of_mem_departures hleaves
    · exact .detached hs hlease
    · cases hother
  by_cases hclose : event = .closeFinished site number
  · subst hclose
    have hchange : (p.changeSite site fun s =>
      s.step p.config (.closeFinished number)).1.sites[site]? = some t := ht
    refine (changeSite_holds hchange hgiven).imp_right (.imp_right ?_)
    rintro ⟨s, hs, hleaves⟩
    obtain ⟨hother, -⟩ | ⟨-, e, hclosing, hnumber⟩ := Site.eq_of_mem_departures hleaves
    · cases hother
    · exact .closed hs hclosing hnumber
  -- no other event lets the connection leave
  refine ((step_moves p event).descends.holds ht hgiven).imp_right (.imp_right ?_)
  rintro ((hexchange | ⟨actor, hcauses⟩) | (hexchange | ⟨actor, hcauses⟩))
  · cases hexchange
  · cases hcauses
    exact absurd rfl hdetach
  · cases hexchange
  · cases hcauses
    exact absurd rfl hclose

theorem run_append (p : Provider) (events later : List Event) :
    p.run (events ++ later) = (p.run events).run later :=
  List.foldl_append

/-- What a pool `WasGiven`, it `Holds`, or it `HasLeft`. -/
theorem holds_or_hasLeft {events : List Event}
    (ht : ((ofConfig config).run events).sites[site]? = some t) (hgiven : t.WasGiven number) :
    t.Holds number ∨ (ofConfig config).HasLeft site number events := by
  induction events using List.reverseRecOn generalizing t with
  | nil => cases ht
  | append_singleton events event ih =>
    rw [run_append] at ht
    obtain hholds | ⟨s, hs, hbefore, hmissing⟩ | hleaves := step_holds_or_leaves event ht hgiven
    · exact .inl hholds
    · exact .inr (((ih hs hbefore).resolve_left hmissing).append [event])
    · exact .inr ⟨events, event, [], rfl, hleaves⟩

end Provider

end ConnectionPool
