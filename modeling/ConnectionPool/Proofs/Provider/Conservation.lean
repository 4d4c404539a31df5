import ConnectionPool.Proofs.Provider.Run

/-!
# Nothing is lost between the sites

What the pools of a provider hold, taken over all sites, changes only by what the transport hands
over, what callers take for good and what has been closed. A connection is being closed from the
moment at which its close is asked for, and until it is closed.

* `Move.conserves`: every part of a change conserves what is held.
* `Moves.conserves`, `step_conserves`: every sequence of parts does, and every event.
-/

namespace ConnectionPool

namespace Site

variable {config : Config} {s : Site}

/-- The `holdings` of a site change by its `Flow`. -/
theorem flow_holdings (config : Config) (event : Event) (hevent : event.isExchange = false)
    (s : Site) :
    ((s.step config event).1.holdings.map Prod.snd ++
        ((Provider.Flow.ofSite s event).detached ++ (Provider.Flow.ofSite s event).closed)).Perm
      (s.holdings.map Prod.snd ++ (Provider.Flow.ofSite s event).arrived) := by
  have hholdings := (step_holdings config event hevent s).map Prod.snd
  -- what leaves is closed or detached, by the kind of the event
  have hleft : (Provider.Flow.ofSite s event).detached ++ (Provider.Flow.ofSite s event).closed =
      (s.departures event).map Prod.snd := by
    rw [Provider.Flow.ofSite]
    by_cases hclose : event.isCloseFinished = true <;> simp [hclose]
  have harrived : ((s.arrivals event).map (s.pool.nextConnection, ·)).map Prod.snd =
      (Provider.Flow.ofSite s event).arrived := by
    simp [Provider.Flow.ofSite, Function.comp_def]
  rw [List.map_append, List.map_append, harrived] at hholdings
  rw [hleft]
  exact hholdings

/-- The `closings` of a site change by what it asks to be closed and what has been closed. -/
theorem flow_closings (config : Config) (event : Event) (s : Site) :
    ((s.step config event).1.closings.map Entry.conn ++
        (Provider.Flow.ofSite s event).closed).Perm
      (s.closings.map Entry.conn ++ (closesOf (s.step config event).2).map Entry.conn) := by
  by_cases hclose : event.isCloseFinished = true
  · obtain ⟨connection, rfl⟩ : ∃ connection, event = .closeFinished connection := by
      cases event <;> simp [Event.isCloseFinished] at hclose ⊢
    obtain ⟨hclosings, hcloses⟩ := closeFinished_closings connection s
    have hconns := hclosings.map Prod.snd
    rw [List.map_append, List.map_map, List.map_map] at hconns
    rw [step, hcloses, List.map_nil, List.append_nil]
    exact hconns.symm
  · rw [Bool.not_eq_true] at hclose
    have hclosings := congrArg (List.map Entry.conn) (step_closings config event hclose s)
    rw [Provider.Flow.ofSite, hclose, hclosings, List.map_append]
    simp

/-- What `lease?` finds under another number, or under the same one, is found after `exchange`. -/
theorem lease?_exchange {lease number : Nat} {e : Entry} (h : s.lease? number = some e) :
    ∃ exchanged, (s.exchange lease e.conn).lease? number = some exchanged ∧
      exchanged.conn = e.conn := by
  refine ⟨if e.info.id == lease then { e with conn := e.conn } else e, ?_, by split <;> rfl⟩
  -- an exchange keeps the numbers by which leases are found
  have hkept : ((fun x : Entry => x.info.id == number) ∘
      fun x : Entry => if x.info.id == lease then { x with conn := e.conn } else x) =
        fun x => x.info.id == number := by
    funext x
    simp only [Function.comp_apply]
    split <;> rfl
  rw [lease?] at h
  rw [lease?, exchange, List.find?_map, hkept, h, Option.map_some]

end Site

namespace Provider

variable {config : Config} {allowed : Actors} {p : Provider} {flow : Flow}
  {c : Change}

/-- The connections that the pools hold, being closed or not. -/
def held (p : Provider) : List Connection := p.sites.flatMap fun s => s.holdings.map Prod.snd

/-- The connections that are being closed. -/
def beingClosed (p : Provider) : List Connection :=
  p.sites.flatMap fun s => s.closings.map Entry.conn

/-- The connections that a change asks to be closed. -/
def closeCalls (effects : List Effect) : List Connection :=
  (closesOf effects).map fun called => called.2.conn

/-- `Conserves p flow c`: what the pools hold, and what is being closed, changes by `flow` and by
what the change asks for. -/
structure Conserves (p : Provider) (flow : Flow) (c : Change) : Prop where
  /-- What is held changes by what arrives and what leaves. -/
  held : (c.1.held ++ (flow.detached ++ flow.closed)).Perm (p.held ++ flow.arrived)
  /-- What is being closed changes by what the change asks for and what has been closed. -/
  beingClosed : (c.1.beingClosed ++ flow.closed).Perm (p.beingClosed ++ closeCalls c.2)

namespace Conserves

/-- Where the sites stay and nothing is asked for, nothing moves. -/
theorem of_eq (hheld : c.1.held = p.held) (hbeingClosed : c.1.beingClosed = p.beingClosed)
    (hquiet : closesOf c.2 = []) : Conserves p .none c := by
  refine ⟨by rw [hheld]; exact .refl _, ?_⟩
  rw [hbeingClosed, closeCalls, hquiet]
  exact .refl _

/-- One change after another `Conserves` what both do. -/
theorem append {first rest : Flow} {d : Change} (h : Conserves p first c)
    (hrest : Conserves c.1 rest d) : Conserves p (first.append rest) (d.1, c.2 ++ d.2) := by
  obtain ⟨hheld, hclosed⟩ := h
  obtain ⟨hheld', hclosed'⟩ := hrest
  rw [List.perm_iff_count] at hheld hclosed hheld' hclosed'
  -- counted connection by connection, the two balances add up
  constructor
  · rw [List.perm_iff_count]
    intro conn
    have := hheld conn
    have := hheld' conn
    simp only [Flow.append, List.count_append] at *
    omega
  · rw [List.perm_iff_count]
    intro conn
    have := hclosed conn
    have := hclosed' conn
    simp only [Flow.append, closeCalls, closesOf_append, List.map_append, List.count_append] at *
    omega

/-- An event at one site `Conserves` what it moves there. -/
theorem setSite {index : Nat} {s : Site} {event : Site.Event} (hs : p.sites[index]? = some s)
    (hexchange : event.isExchange = false) :
    Conserves p (.ofSite s event) (p.setSite index (s.step p.config event).1,
      (s.step p.config event).2.map (.site index)) := by
  have hholdings := Site.flow_holdings p.config event hexchange s
  have hclosings := Site.flow_closings p.config event s
  have hcalls : closeCalls ((s.step p.config event).2.map (.site index)) =
      (Site.closesOf (s.step p.config event).2).map Entry.conn := by
    rw [closeCalls, closesOf_site, List.map_map]
    rfl
  -- the other sites hold on both sides what they held
  constructor
  · obtain ⟨others, hbefore, hafter⟩ :=
      exists_perm_flatMap_set (f := fun s => s.holdings.map Prod.snd) hs
    have hafter := hafter (s.step p.config event).1
    rw [List.perm_iff_count] at *
    intro conn
    have := hholdings conn
    have := hbefore conn
    have := hafter conn
    simp only [Provider.held, Provider.setSite, List.count_append] at *
    omega
  · obtain ⟨others, hbefore, hafter⟩ :=
      exists_perm_flatMap_set (f := fun s => s.closings.map Entry.conn) hs
    have hafter := hafter (s.step p.config event).1
    rw [hcalls]
    rw [List.perm_iff_count] at *
    intro conn
    have := hclosings conn
    have := hbefore conn
    have := hafter conn
    simp only [Provider.beingClosed, Provider.setSite, List.count_append] at *
    omega

end Conserves

/-! ## Swaps -/

theorem exchange_beingClosed (lease : SiteConnection) (conn : Connection) (p : Provider) :
    (p.exchange lease conn).beingClosed.Perm p.beingClosed := by
  obtain ⟨-, heq⟩ | ⟨s, hs, heq⟩ := exchange_cases p lease conn <;> rw [heq]
  obtain ⟨others, hbefore, hafter⟩ :=
    exists_perm_flatMap_set (f := fun s => s.closings.map Entry.conn) hs
  exact (hafter _).trans hbefore.symm

/-- `exchange` changes one member of what is `held`. -/
theorem exchange_held (hsound : Sound config p) {lease : SiteConnection} {e : Entry}
    (conn : Connection) (h : p.lease? lease = some e) :
    ∃ others, p.held.Perm (e.conn :: others) ∧
      (p.exchange lease conn).held.Perm (conn :: others) := by
  obtain ⟨s, hs, hlease⟩ := Option.bind_eq_some_iff.1 h
  obtain ⟨hnone, -⟩ | ⟨t, ht, heq⟩ := exchange_cases p lease conn
  · rw [hs] at hnone
    cases hnone
  · obtain rfl : s = t := Option.some.inj (hs.symm.trans ht)
    have hnumbers := (Site.holdings_numbered (hsound.site hs)).nodup
    obtain ⟨rest, hrest, hexchanged⟩ := Site.exchange_holdings conn hnumbers hlease
    -- one member changes at the site, and so one member of the whole
    obtain ⟨others, hbefore, hafter⟩ :=
      exists_perm_flatMap_set (f := fun s => s.holdings.map Prod.snd) hs
    refine ⟨rest.map Prod.snd ++ others, ?_, ?_⟩
    · exact hbefore.trans ((hrest.map Prod.snd).append_right others)
    · rw [heq]
      exact (hafter _).trans ((hexchanged.map Prod.snd).append_right others)

/-- When one caller is given the connection of another, the other caller still holds it: they may be
the same. -/
theorem exchange_lease? (first : SiteConnection) {second : SiteConnection} {other : Entry}
    (hother : p.lease? second = some other) :
    ∃ exchanged, (p.exchange first other.conn).lease? second = some exchanged ∧
      exchanged.conn = other.conn := by
  obtain ⟨t, ht, hlease⟩ := Option.bind_eq_some_iff.1 hother
  obtain ⟨-, heq⟩ | ⟨s, hs, heq⟩ := exchange_cases p first other.conn <;> rw [heq]
  · exact ⟨other, hother, rfl⟩
  · rw [lease?, getElem?_setSite _ hs]
    by_cases hsite : second.site = first.site
    · rw [hsite] at ht
      obtain rfl : s = t := Option.some.inj (hs.symm.trans ht)
      rw [if_pos hsite]
      exact Site.lease?_exchange hlease
    · rw [if_neg hsite]
      exact ⟨other, hother, rfl⟩

/-- `swap` moves nothing in or out of what is `held`. -/
theorem swap_held (hsound : Sound config p) (first second : SiteConnection) :
    (p.swap first second).held.Perm p.held := by
  obtain heq | ⟨one, other, hone, hother, heq⟩ := swap_cases p first second <;> rw [heq]
  obtain ⟨exchanged, hexchanged, hconn⟩ := exchange_lease? first hother
  obtain ⟨rest, hbefore, hbetween⟩ := exchange_held hsound other.conn hone
  obtain ⟨rest', hbetween', hafter⟩ :=
    exchange_held (hsound.exchange first other.conn) one.conn hexchanged
  rw [hconn] at hbetween'
  -- between the exchanges the connection of the second caller is held twice
  have hrest := (hbetween'.symm.trans hbetween).cons_inv
  exact hafter.trans ((hrest.cons _).trans hbefore.symm)

theorem swap_beingClosed (first second : SiteConnection) (p : Provider) :
    (p.swap first second).beingClosed.Perm p.beingClosed :=
  swap_invariant (motive := fun q => q.beingClosed.Perm p.beingClosed) p (.refl _)
    (fun q lease conn hq => (exchange_beingClosed lease conn q).trans hq) first second

/-! ## Every event -/

/-- Every `Move` `Conserves` what is held. -/
theorem Move.conserves (hsound : Sound config p) (h : Move allowed p flow c) :
    Conserves p flow c := by
  -- only what happens at a site moves connections, and a swap puts two in each other's place
  cases h with
  | books hbooks hquiet =>
    exact .of_eq (congrArg (List.flatMap _) hbooks.sites) (congrArg (List.flatMap _) hbooks.sites)
      (closesOf_eq_nil hquiet)
  | found d hquiet =>
    refine .of_eq ?_ ?_ (closesOf_eq_nil hquiet)
    · rw [held, List.flatMap_append]
      exact List.append_nil _
    · rw [beingClosed, List.flatMap_append]
      exact List.append_nil _
  | ask d => exact .of_eq rfl rfl rfl
  | forget hknown hsite => exact .of_eq rfl rfl rfl
  | site hallowed hs hcaller hexchange => exact .setSite hs hexchange
  | @act id index s event known next hallowed hknown hs hnext =>
    have hexchange : event.isExchange = false := by cases hnext <;> rfl
    obtain ⟨hheld, hclosed⟩ := Conserves.setSite hs hexchange
    refine ⟨?_, ?_⟩
    · rw [held, proceed_sites]
      exact hheld
    · rw [beingClosed, proceed_sites]
      exact hclosed
  | swap first second =>
    refine ⟨?_, ?_⟩
    · simpa [Flow.none] using swap_held hsound first second
    · simpa [Flow.none, closeCalls, closesOf] using swap_beingClosed first second p

/-- `Moves` conserve what is held. -/
theorem Moves.conserves (hsound : Sound config p) (h : Moves allowed p flow c) :
    Conserves p flow c := by
  -- on the moves, with sound providers in between
  induction h with
  | nil p => exact .of_eq rfl rfl rfl
  | cons hmove _ ih => exact (hmove.conserves hsound).append (ih (hsound.move hmove))

/-- Every `step` `Conserves` what is held. -/
theorem step_conserves (hsound : Sound config p) (event : Event) :
    Conserves p (p.flow event) (p.step event) :=
  (step_moves p event).conserves hsound

end Provider

end ConnectionPool
