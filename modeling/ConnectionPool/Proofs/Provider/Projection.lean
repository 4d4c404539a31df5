import ConnectionPool.Proofs.Provider.Waiters
import ConnectionPool.Proofs.Rank

/-!
# What a provider is to one destination

A provider numbers its sites, its acquisitions and its disposals across all destinations. Seen from
one destination, only the sites, acquisitions and disposals of that destination exist, numbered as
if there were no others. `only` is the provider seen so. It does not show whether somebody holds the
provider, since those who use a destination cannot tell.

Which destination an acquisition is for is forgotten when it is over, while its number is not used
again. The list of all destinations that were ever asked for is therefore kept beside the provider.

## Main definitions

* `Placed`: whatever the provider knows is known to be of one destination.
* `only`: the provider, seen from one destination.
* `Names`, `names`: how numbers change on the way from the provider to what is seen of it.

## Main results

* `only_changeSite`, `only_siteFor`, `only_proceed`, `only_awaitEnd`: what is done at the
  destination is seen as done.
* `only_changeSite_of_ne`, `only_siteFor_of_ne`, `only_proceed_of_ne`: what is done elsewhere is not
  seen.
-/

namespace ConnectionPool

/-- The acquisition, whose site has another number. -/
def Acquisition.renumber (site : Nat → Nat) : Acquisition → Acquisition
  | .fresh d => .fresh d
  | .opening d index number => .opening d (site index) number
  | .queued index request deadline => .queued (site index) request deadline

/-- `IsFor destinations d a`: the acquisition is for the destination, and so is the site that it has
come to. -/
def Acquisition.IsFor (destinations : List Destination) (d : Destination) : Acquisition → Prop
  | .fresh wanted => wanted = d
  | .opening wanted site _ => wanted = d ∧ destinations[site]? = some d
  | .queued site _ _ => destinations[site]? = some d

/-- `renumber` by `rank` leaves an acquisition as it is while sites are added. -/
theorem Acquisition.renumber_append {a : Acquisition} {destinations more : List Destination}
    {d : Destination} (h : a.IsFor destinations d) (k : Destination) :
    a.renumber (rank k (destinations ++ more)) = a.renumber (rank k destinations) := by
  have hrank : ∀ {site : Nat}, destinations[site]? = some d →
      rank k (destinations ++ more) site = rank k destinations site :=
    fun hsite => rank_append (Nat.le_of_lt (List.getElem?_eq_some_iff.1 hsite).1)
  cases a with
  | fresh wanted => rfl
  | opening wanted site number => simp only [renumber, hrank h.2]
  | queued site request deadline => simp only [renumber, hrank h]

/-- An acquisition that `IsFor` a destination stays so while sites are added. -/
theorem Acquisition.IsFor.append {a : Acquisition} {destinations : List Destination}
    {d : Destination} (h : a.IsFor destinations d) (more : List Destination) :
    a.IsFor (destinations ++ more) d := by
  have hsite : ∀ {site : Nat}, destinations[site]? = some d →
      (destinations ++ more)[site]? = some d := getElem?_of_grown (List.prefix_append _ _)
  cases a with
  | fresh wanted => exact h
  | opening wanted site number => exact ⟨h.1, hsite h.2⟩
  | queued site request deadline => exact hsite h

/-- The disposal under another number. -/
def Disposal.renumber (single : Nat → Nat) : Disposal → Disposal
  | .nothing => .nothing
  | .whole => .whole
  | .single index => .single (single index)

namespace Provider

attribute [ext] Provider

variable {config : Config} {asked : List Destination} {p : Provider} {k : Destination}

/-- The destinations of the sites. -/
def destinations (p : Provider) : List Destination := p.sites.map (·.destination)

/-- The destinations of the `singleDisposals`. -/
def disposedOf (p : Provider) : List (Option Destination) :=
  p.singleDisposals.map fun disposal => p.destinations[disposal.site]?

/-- Where sites keep their destinations, disposals do. -/
theorem disposedOf_eq {q : Provider} (hdestinations : q.destinations = p.destinations)
    (hdisposals : q.singleDisposals = p.singleDisposals) : q.disposedOf = p.disposedOf := by
  rw [disposedOf, hdestinations, hdisposals, disposedOf]

/-- `Names`: new numbers for what a provider numbers. -/
structure Names where
  /-- The numbers of sites. -/
  site : Nat → Nat
  /-- The numbers of acquisitions. -/
  acquisition : Nat → Nat
  /-- The numbers of disposals of single destinations. -/
  disposal : Nat → Nat

/-- The numbers that sites, acquisitions and disposals of a destination have where there are no
others, by `rank`. -/
def names (k : Destination) (asked : List Destination) (p : Provider) : Names :=
  ⟨rank k p.destinations, rank k asked, rank (some k) p.disposedOf⟩

/-- `only k asked p`: the provider as it is seen from the destination `k`. -/
def only (k : Destination) (asked : List Destination) (p : Provider) : Provider where
  config := p.config
  sites := p.sites.filter (·.destination = k)
  registry := (p.registry.filter fun x => x.1 = k).map fun x => (x.1, rank k p.destinations x.2)
  isHeld := true
  isDisposed := false
  acquisitions := (p.acquisitions.filter fun x => asked[x.1]? = some k).map fun x =>
    (rank k asked x.1, x.2.renumber (rank k p.destinations))
  nextAcquisition := asked.countP (· = k)
  wholeDisposal := .unpolled
  singleDisposals := (p.singleDisposals.filter fun x => p.destinations[x.site]? = some k).map
    fun x => ⟨rank k p.destinations x.site, x.finished⟩

/-- The effect under other numbers. -/
def Effect.renumber (n : Names) : Effect → Effect
  | .site index effect => .site (n.site index) effect
  | .note event => .note event
  | .startSweep index => .startSweep (n.site index)
  | .startDisposal disposal => .startDisposal (disposal.renumber n.disposal)
  | .watchDrain index disposal => .watchDrain (n.site index) (disposal.renumber n.disposal)
  | .wakeDisposal disposal => .wakeDisposal (disposal.renumber n.disposal)

/-- The change as it is seen from one destination, with its effects under the new numbers. -/
def Change.only (k : Destination) (asked : List Destination) (n : Names) (c : Change) : Change :=
  (c.1.only k asked, c.2.map (Effect.renumber n))

/-- `Placed asked p`: everything that the provider knows is of one destination, and acquisitions are
accepted. -/
structure Placed (asked : List Destination) (p : Provider) : Prop where
  /-- Acquisitions are numbered in the order in which they are asked for. -/
  numbered : p.nextAcquisition = asked.length
  /-- An unfinished acquisition is for what was asked for. -/
  known : ∀ id a, (id, a) ∈ p.acquisitions → ∃ d, asked[id]? = some d ∧ a.IsFor p.destinations d
  /-- The registry knows sites by their destinations. -/
  registered : ∀ d site, (d, site) ∈ p.registry → p.destinations[site]? = some d
  /-- A disposal of a single destination is the disposal of a site. -/
  disposals : ∀ disposal ∈ p.singleDisposals, disposal.site < p.destinations.length
  /-- The provider was not disposed of. -/
  accepting : p.isDisposed = false

/-! ## Changing one site -/

section ChangeSite

variable {index : Nat} {change : Site → Site.Change}

/-- `changeSite` leaves all `destinations` if the change leaves that of the site. -/
theorem destinations_changeSite (hchange : ∀ s, (change s).1.destination = s.destination)
    (index : Nat) (p : Provider) : (p.changeSite index change).1.destinations = p.destinations := by
  obtain ⟨-, heq⟩ | ⟨s, hs, heq⟩ := changeSite_cases index change p
  · rw [heq]
  · rw [heq]
    exact map_set_of_eq hs (hchange s)

/-- `changeSite` changes sites only. -/
theorem changeSite_fst_eq (index : Nat) (change : Site → Site.Change) (p : Provider) :
    (p.changeSite index change).1 = { p with sites := (p.changeSite index change).1.sites } := by
  obtain ⟨-, heq⟩ | ⟨s, -, heq⟩ := changeSite_cases index change p <;> rw [heq]
  rfl

/-- `changeSite` leaves all disposals. -/
theorem singleDisposals_changeSite (index : Nat) (change : Site → Site.Change) (p : Provider) :
    (p.changeSite index change).1.singleDisposals = p.singleDisposals := by
  rw [changeSite_fst_eq]

/-- A site of the destination is there. -/
theorem exists_of_destinations (h : p.destinations[index]? = some k) :
    ∃ s, p.sites[index]? = some s ∧ s.destination = k := by
  simpa [destinations] using h

/-- A site of the destination is found under its new number in `only`. -/
theorem only_sites (asked : List Destination) (h : p.destinations[index]? = some k) :
    (p.only k asked).sites[rank k p.destinations index]? = p.sites[index]? :=
  getElem?_filter Site.destination h

/-- Where the `destinations` stay, only the sites themselves are seen to change. -/
theorem only_setSites {sites : List Site}
    (h : sites.map (·.destination) = p.destinations) :
    ({ p with sites } : Provider).only k asked =
      { p.only k asked with sites := sites.filter (·.destination = k) } := by
  have hdestinations : ({ p with sites } : Provider).destinations = p.destinations := h
  simp only [only, hdestinations]

/-- `changeSite` at a site of the destination is seen. -/
theorem only_changeSite (asked : List Destination) {n : Names} (h : p.destinations[index]? = some k)
    (hn : n.site index = rank k p.destinations index) {change : Site → Site.Change}
    (hchange : ∀ s, (change s).1.destination = s.destination) :
    (p.only k asked).changeSite (rank k p.destinations index) change =
      (p.changeSite index change).only k asked n := by
  obtain ⟨s, hs, hk⟩ := exists_of_destinations h
  have hset := filter_set Site.destination hs hk ((hchange s).trans hk)
  rw [changeSite, changeSite, only_sites asked h, hs]
  dsimp only [Change.only]
  rw [only_setSites (map_set_of_eq hs (hchange s)), hset, List.map_map]
  refine Prod.ext rfl (List.map_congr_left fun effect _ => ?_)
  rw [Function.comp_apply, Effect.renumber, hn]

/-- What `changeSiteReporting` yields at a site of the destination is seen. -/
theorem only_changeSiteReporting {ρ : Type} (asked : List Destination) {n : Names} (absent : ρ)
    (h : p.destinations[index]? = some k) (hn : n.site index = rank k p.destinations index)
    (change : Site → ρ × Site.Change) (hchange : ∀ s, (change s).2.1.destination = s.destination) :
    (p.only k asked).changeSiteReporting (rank k p.destinations index) absent change =
      ((p.changeSiteReporting index absent change).1,
        (p.changeSiteReporting index absent change).2.only k asked n) := by
  rw [changeSiteReporting, changeSiteReporting, only_sites asked h,
    only_changeSite asked h hn hchange]

/-- `changeSite` at a site of another destination is not seen. -/
theorem only_changeSite_of_ne (asked : List Destination) (h : p.destinations[index]? ≠ some k)
    (hchange : ∀ s, (change s).1.destination = s.destination) :
    (p.changeSite index change).1.only k asked = p.only k asked := by
  obtain ⟨-, heq⟩ | ⟨s, hs, heq⟩ := changeSite_cases index change p
  · rw [heq]
  · have hk : s.destination ≠ k := by
      rintro rfl
      exact h (by simp [destinations, hs])
    rw [heq, setSite, only_setSites (map_set_of_eq hs (hchange s)),
      filter_set_of_ne Site.destination hs hk (by rwa [hchange])]
    rfl

/-- `changeSite` keeps everything `Placed`. -/
theorem Placed.changeSite (h : Placed asked p)
    (hchange : ∀ s, (change s).1.destination = s.destination) (index : Nat) :
    Placed asked (p.changeSite index change).1 := by
  have hdestinations := destinations_changeSite hchange index p
  obtain ⟨hnumbered, hknown, hregistered, hdisposals, haccepting⟩ := h
  rw [← hdestinations] at hknown hregistered hdisposals
  obtain ⟨-, heq⟩ | ⟨s, hs, heq⟩ := changeSite_cases index change p <;>
    rw [heq] at hknown hregistered hdisposals ⊢ <;>
    exact ⟨hnumbered, hknown, hregistered, hdisposals, haccepting⟩

end ChangeSite

/-! ## Acquisitions -/

section Acquisitions

variable {id : Nat} {next : Option Acquisition}

/-- An acquisition for the destination is found under its new number in `only`. -/
theorem only_lookup (p : Provider) (hid : asked[id]? = some k) :
    (p.only k asked).acquisitions.lookup (rank k asked id) =
      (p.acquisitions.lookup id).map (Acquisition.renumber (rank k p.destinations)) :=
  lookup_filter_map (asked[·]? = some k) (rank k asked) _ (by simpa using hid) fun x _ hx heq =>
    rank_injective (by simpa using hx) hid heq

@[simp]
theorem destinations_proceed (p : Provider) (id : Nat) (next : Option Acquisition) :
    (p.proceed id next).destinations = p.destinations := by
  rw [destinations, proceed_sites, destinations]

/-- `proceed` of an acquisition for the destination is seen. -/
theorem only_proceed (p : Provider) (hid : asked[id]? = some k) (next : Option Acquisition) :
    (p.only k asked).proceed (rank k asked id)
        (next.map (Acquisition.renumber (rank k p.destinations))) =
      (p.proceed id next).only k asked := by
  have hrename : ∀ x ∈ p.acquisitions, decide (asked[x.1]? = some k) = true →
      rank k asked x.1 = rank k asked id → x.1 = id :=
    fun x _ hx heq => rank_injective (by simpa using hx) hid heq
  cases next with
  | none =>
    have herase := eraseP_key_filter_map (asked[·]? = some k) (rank k asked)
      (Acquisition.renumber (rank k p.destinations)) (by simpa using hid) hrename
    exact congrArg (fun acquisitions => { p.only k asked with acquisitions }) herase
  | some progress =>
    have hupdate := update_filter_map (asked[·]? = some k) (rank k asked)
      (Acquisition.renumber (rank k p.destinations)) progress (by simpa using hid) hrename
    exact congrArg (fun acquisitions => { p.only k asked with acquisitions }) hupdate

/-- `proceed` of an acquisition for another destination is not seen. -/
theorem only_proceed_of_ne (p : Provider) (hid : asked[id]? ≠ some k) (next : Option Acquisition) :
    (p.proceed id next).only k asked = p.only k asked := by
  have hkeep : decide (asked[id]? = some k) = false := decide_eq_false hid
  cases next with
  | none =>
    have herase : (p.acquisitions.eraseP (·.1 == id)).filter (fun x => asked[x.1]? = some k) =
        p.acquisitions.filter fun x => asked[x.1]? = some k :=
      filter_eraseP_of_not _ fun x _ hx => by rwa [beq_iff_eq.1 hx]
    have hacquisitions := congrArg (List.map fun x : Nat × Acquisition =>
      (rank k asked x.1, x.2.renumber (rank k p.destinations))) herase
    exact congrArg (fun acquisitions => { p.only k asked with acquisitions }) hacquisitions
  | some progress =>
    have hupdate := filter_update_of_not (asked[·]? = some k) progress (l := p.acquisitions) hkeep
    have hacquisitions := congrArg (List.map fun x : Nat × Acquisition =>
      (rank k asked x.1, x.2.renumber (rank k p.destinations))) hupdate
    exact congrArg (fun acquisitions => { p.only k asked with acquisitions }) hacquisitions

/-- `proceed` of an acquisition for what was asked for keeps everything `Placed`. -/
theorem Placed.proceed (h : Placed asked p)
    (hnext : ∀ a, next = some a → ∃ d, asked[id]? = some d ∧ a.IsFor p.destinations d) :
    Placed asked (p.proceed id next) := by
  obtain ⟨hnumbered, hknown, hregistered, hdisposals, haccepting⟩ := h
  cases next with
  | none =>
    exact ⟨hnumbered, fun id a hmem => hknown id a (List.mem_of_mem_eraseP hmem), hregistered,
      hdisposals, haccepting⟩
  | some progress =>
    refine ⟨hnumbered, fun other a hmem => ?_, hregistered, hdisposals, haccepting⟩
    obtain ⟨⟨number, old⟩, hold, heq⟩ := List.mem_map.1 hmem
    obtain ⟨rfl, rfl⟩ := Prod.mk.inj heq
    by_cases hother : number = id
    · subst hother
      rw [destinations_proceed, if_pos (beq_self_eq_true _)]
      exact hnext progress rfl
    · rw [destinations_proceed, if_neg (by simpa using hother)]
      exact hknown number old hold

/-- Acquisitions that are known were asked for before. -/
theorem Placed.lt (h : Placed asked p) {x : Nat × Acquisition} (hmem : x ∈ p.acquisitions) :
    x.1 < asked.length := by
  obtain ⟨d, hd, -⟩ := h.known x.1 x.2 hmem
  exact (List.getElem?_eq_some_iff.1 hd).1

/-- Acquisitions that are known are seen as before when one more is asked for. -/
theorem only_acquisitions_append (h : Placed asked p) (k d : Destination) :
    ((p.acquisitions.filter fun x => (asked ++ [d])[x.1]? = some k).map fun x =>
      (rank k (asked ++ [d]) x.1, x.2.renumber (rank k p.destinations))) =
    (p.only k asked).acquisitions := by
  have hfilter : (p.acquisitions.filter fun x => (asked ++ [d])[x.1]? = some k) =
      p.acquisitions.filter fun x => asked[x.1]? = some k :=
    List.filter_congr fun x hx => by rw [List.getElem?_append_left (h.lt hx)]
  rw [hfilter]
  refine List.map_congr_left fun x hx => ?_
  rw [rank_append (Nat.le_of_lt (h.lt (List.mem_filter.1 hx).1))]

/-- The next acquisition gets the next number of its destination. -/
theorem Placed.rank_next (h : Placed asked p) (k : Destination) :
    rank k asked p.nextAcquisition = (p.only k asked).nextAcquisition := by
  rw [h.numbered, rank_length]
  rfl

/-- Asking for the destination is seen, and asking for another is not. -/
theorem acquire_only (h : Placed asked p) (k d : Destination) :
    (p.acquire d).2.only k (asked ++ [d]) =
      if d = k then ((p.only k asked).acquire k).2 else p.only k asked := by
  -- the new acquisition has the next number in the whole as it has among those for the destination
  have hnew : (asked ++ [d])[p.nextAcquisition]? = some d := by
    rw [h.numbered]
    exact List.getElem?_concat_length
  have hrank : rank k (asked ++ [d]) p.nextAcquisition = (p.only k asked).nextAcquisition := by
    rw [rank_append (Nat.le_of_eq h.numbered), h.rank_next]
  have hold := only_acquisitions_append h k d
  by_cases hd : d = k
  · subst hd
    rw [if_pos rfl]
    refine Provider.ext rfl rfl rfl rfl rfl ?_ ?_ rfl rfl
    · show _ = (p.only d asked).acquisitions ++ [((p.only d asked).nextAcquisition, .fresh d)]
      rw [← hold, ← hrank]
      simp [only, acquire, destinations, hnew, Acquisition.renumber]
    · simp [only, acquire]
  · rw [if_neg hd]
    refine Provider.ext rfl rfl rfl rfl rfl ?_ ?_ rfl rfl
    · rw [← hold]
      simp [only, acquire, destinations, hnew, hd]
    · simp [only, hd]

/-- Asking for a destination puts it in its place. -/
theorem Placed.acquire (h : Placed asked p) (d : Destination) :
    Placed (asked ++ [d]) (p.acquire d).2 := by
  refine ⟨?_, fun id a hmem => ?_, h.registered, h.disposals, h.accepting⟩
  · rw [List.length_append, ← h.numbered]
    rfl
  · rcases List.mem_append.1 hmem with hold | hnew
    · obtain ⟨d', hd', hfor⟩ := h.known id a hold
      exact ⟨d', (List.getElem?_append_left (h.lt hold)).trans hd', hfor⟩
    · obtain ⟨rfl, rfl⟩ := Prod.mk.inj (List.mem_singleton.1 hnew)
      refine ⟨d, ?_, rfl⟩
      rw [h.numbered]
      exact List.getElem?_concat_length

end Acquisitions

/-! ## Finding and making sites -/

section Sites

variable {d : Destination} {site : Nat}

/-- A site is made for a destination. -/
def found (d : Destination) (p : Provider) : Provider :=
  { p with sites := p.sites ++ [.fresh d], registry := p.registry ++ [(d, p.sites.length)] }

theorem destinations_found (d : Destination) (p : Provider) :
    (p.found d).destinations = p.destinations ++ [d] := by
  simp [found, destinations, Site.fresh]

/-- The next site gets the next `rank` in its destination. -/
theorem rank_sites (k : Destination) (asked : List Destination) (p : Provider) :
    rank k p.destinations p.sites.length = (p.only k asked).sites.length := by
  have hlength : p.sites.length = p.destinations.length := by simp [destinations]
  rw [hlength, rank_length, destinations, List.countP_map, List.countP_eq_length_filter]
  rfl

/-- `found` for the destination is seen, and for another it is not. -/
theorem found_only (h : Placed asked p) (k d : Destination) :
    (p.found d).only k asked = if d = k then (p.only k asked).found k else p.only k asked := by
  have hdestinations := destinations_found d p
  have hlt : ∀ {index : Nat}, p.destinations[index]? = some k →
      rank k (p.destinations ++ [d]) index = rank k p.destinations index :=
    fun hindex => rank_append (Nat.le_of_lt (List.getElem?_eq_some_iff.1 hindex).1)
  -- what was known before is seen under the same numbers
  have hregistry : ((p.registry.filter fun x => x.1 = k).map fun x =>
      (x.1, rank k (p.found d).destinations x.2)) = (p.only k asked).registry := by
    rw [hdestinations]
    refine List.map_congr_left fun x hx => ?_
    obtain ⟨hmem, hk⟩ := List.mem_filter.1 hx
    have hregistered := h.registered x.1 x.2 hmem
    rw [of_decide_eq_true hk] at hregistered
    rw [hlt hregistered]
  have hacquisitions : ((p.acquisitions.filter fun x => asked[x.1]? = some k).map fun x =>
      (rank k asked x.1, x.2.renumber (rank k (p.found d).destinations))) =
        (p.only k asked).acquisitions := by
    rw [hdestinations]
    refine List.map_congr_left fun x hx => ?_
    obtain ⟨wanted, -, hfor⟩ := h.known x.1 x.2 (List.mem_filter.1 hx).1
    rw [Acquisition.renumber_append hfor]
  have hdisposals : ((p.singleDisposals.filter fun x =>
      (p.found d).destinations[x.site]? = some k).map fun x =>
        (⟨rank k (p.found d).destinations x.site, x.finished⟩ : SingleDisposal)) =
      (p.only k asked).singleDisposals := by
    rw [hdestinations]
    have hfilter : (p.singleDisposals.filter fun x => (p.destinations ++ [d])[x.site]? = some k) =
        p.singleDisposals.filter fun x => p.destinations[x.site]? = some k :=
      List.filter_congr fun x hx => by rw [List.getElem?_append_left (h.disposals x hx)]
    rw [hfilter]
    refine List.map_congr_left fun x hx => ?_
    rw [hlt (of_decide_eq_true (List.mem_filter.1 hx).2)]
  by_cases hd : d = k
  · subst hd
    rw [if_pos rfl]
    refine Provider.ext rfl ?_ ?_ rfl rfl hacquisitions rfl rfl hdisposals
    · simp [only, found, Site.fresh]
    · have hnew : rank d (p.found d).destinations p.sites.length =
          (p.only d asked).sites.length := by
        rw [hdestinations, ← rank_sites d asked p, rank_append (by simp [destinations])]
      simp only [only, found, List.filter_append, List.map_append] at hregistry hnew ⊢
      rw [hregistry]
      simp [hnew]
  · rw [if_neg hd]
    refine Provider.ext rfl ?_ ?_ rfl rfl hacquisitions rfl rfl hdisposals
    · simp [only, found, Site.fresh, hd]
    · simp only [only, found, List.filter_append, List.map_append] at hregistry ⊢
      rw [hregistry]
      simp [hd]

/-- `found` keeps everything `Placed`. -/
theorem Placed.found (h : Placed asked p) (d : Destination) : Placed asked (p.found d) := by
  have hdestinations := destinations_found d p
  have hold : ∀ {index : Nat} {d' : Destination}, p.destinations[index]? = some d' →
      (p.destinations ++ [d])[index]? = some d' := getElem?_of_grown (List.prefix_append _ _)
  refine ⟨h.numbered, fun id a hmem => ?_, fun d' site hmem => ?_, fun disposal hmem => ?_,
    h.accepting⟩
  · obtain ⟨d', hd', hfor⟩ := h.known id a hmem
    rw [hdestinations]
    exact ⟨d', hd', hfor.append [d]⟩
  · rw [hdestinations]
    rcases List.mem_append.1 hmem with hmem | hnew
    · exact hold (h.registered d' site hmem)
    · obtain ⟨rfl, rfl⟩ := Prod.mk.inj (List.mem_singleton.1 hnew)
      have hlength : p.sites.length = p.destinations.length := by simp [destinations]
      rw [hlength]
      exact List.getElem?_concat_length
  · rw [hdestinations, List.length_append]
    exact Nat.lt_add_right _ (h.disposals disposal hmem)

/-- `siteOf?` of the destination is seen. -/
theorem only_siteOf? (k : Destination) (asked : List Destination) (p : Provider) :
    (p.only k asked).siteOf? k = (p.siteOf? k).map (rank k p.destinations) := by
  have hlookup : ((p.registry.filter fun x => x.1 = k).map fun x =>
      (id x.1, rank k p.destinations x.2)).lookup (id k) =
        (p.registry.lookup k).map (rank k p.destinations) :=
    lookup_filter_map (· = k) id (rank k p.destinations) (by simp) fun x _ _ heq => heq
  exact hlookup

/-- `siteFor` finds the site that serves the destination, or makes it. -/
theorem siteFor_eq (d : Destination) (p : Provider) :
    (∃ site, p.siteOf? d = some site ∧ p.siteFor d = (site, p, [])) ∨
    (p.siteOf? d = none ∧ p.siteFor d =
      (p.sites.length, p.found d,
        (if p.config.sweepInterval.isSome then [.startSweep p.sites.length] else []) ++
          [.site p.sites.length (.note (.created p.config.maxConnections))])) := by
  cases hserves : p.siteOf? d with
  | some site => exact .inl ⟨site, rfl, by rw [siteFor, hserves]⟩
  | none => exact .inr ⟨rfl, by rw [siteFor, hserves]; rfl⟩

/-- `siteFor` yields a site of that destination, under a number that it keeps. -/
theorem siteFor_destination (h : Placed asked p) (d : Destination) :
    (p.siteFor d).2.1.destinations[(p.siteFor d).1]? = some d ∧
      ∀ k, rank k (p.siteFor d).2.1.destinations (p.siteFor d).1 =
        rank k p.destinations (p.siteFor d).1 := by
  obtain ⟨site, hserves, heq⟩ | ⟨-, heq⟩ := siteFor_eq d p <;> rw [heq]
  · exact ⟨h.registered d site (mem_of_lookup hserves), fun k => rfl⟩
  · have hlength : p.sites.length = p.destinations.length := by simp [destinations]
    dsimp only
    rw [destinations_found, hlength]
    exact ⟨List.getElem?_concat_length, fun k => rank_append (Nat.le_refl _)⟩

/-- `siteFor` of the destination is seen. -/
theorem only_siteFor (h : Placed asked p) (k : Destination) :
    (p.only k asked).siteFor k =
      (rank k p.destinations (p.siteFor k).1,
        (p.siteFor k).2.only k asked (p.names k asked)) := by
  have hserves := only_siteOf? k asked p
  obtain ⟨site, hsite, heq⟩ | ⟨hnone, heq⟩ := siteFor_eq k p <;> rw [heq]
  · rw [hsite] at hserves
    rw [Provider.siteFor, hserves]
    rfl
  · rw [hnone] at hserves
    have hfound := found_only h k k
    rw [if_pos rfl] at hfound
    rw [Provider.siteFor, hserves, Change.only, hfound, rank_sites k asked p]
    refine Prod.ext rfl (Prod.ext rfl ?_)
    have hconfig : (p.only k asked).config = p.config := rfl
    dsimp only
    rw [hconfig]
    cases p.config.sweepInterval.isSome <;> simp [Effect.renumber, names, rank_sites k asked p]

/-- `siteFor` of another destination is not seen. -/
theorem only_siteFor_of_ne (h : Placed asked p) {d : Destination} (hd : d ≠ k) :
    (p.siteFor d).2.1.only k asked = p.only k asked := by
  obtain ⟨site, -, heq⟩ | ⟨-, heq⟩ := siteFor_eq d p <;> rw [heq]
  have hfound := found_only h k d
  rwa [if_neg hd] at hfound

/-- `unregister` of a site of the destination is seen. -/
theorem only_unregister (h : Placed asked p) (hsite : p.destinations[site]? = some k) :
    (p.only k asked).unregister (rank k p.destinations site) =
      (p.unregister site).only k asked := by
  have herase : (p.only k asked).registry.eraseP (·.2 == rank k p.destinations site) =
      ((p.registry.eraseP (·.2 == site)).filter fun x => x.1 = k).map
        fun x => (x.1, rank k p.destinations x.2) := by
    refine eraseP_filter_map _ _ (fun x hx htest => ?_) fun x hx hkeep => ?_
    · have hregistered := h.registered x.1 x.2 hx
      rw [beq_iff_eq.1 htest, hsite] at hregistered
      simpa using (Option.some.inj hregistered).symm
    · have hregistered := h.registered x.1 x.2 hx
      rw [of_decide_eq_true hkeep] at hregistered
      rw [Bool.eq_iff_iff, beq_iff_eq, beq_iff_eq]
      exact ⟨rank_injective hregistered hsite, fun heq => by rw [heq]⟩
  exact congrArg (fun registry => { p.only k asked with registry }) herase

/-- `unregister` of a site of another destination is not seen. -/
theorem only_unregister_of_ne (h : Placed asked p) (hsite : p.destinations[site]? ≠ some k) :
    (p.unregister site).only k asked = p.only k asked := by
  have herase : (p.registry.eraseP (·.2 == site)).filter (fun x => x.1 = k) =
      p.registry.filter fun x => x.1 = k := by
    refine filter_eraseP_of_not _ fun x hx htest => decide_eq_false ?_
    rintro rfl
    have hregistered := h.registered x.1 x.2 hx
    rw [beq_iff_eq.1 htest] at hregistered
    exact hsite hregistered
  have hregistry := congrArg (List.map fun x : Destination × Nat =>
    (x.1, rank k p.destinations x.2)) herase
  exact congrArg (fun registry => { p.only k asked with registry }) hregistry

/-- `unregister` keeps everything `Placed`. -/
theorem Placed.unregister (h : Placed asked p) (site : Nat) : Placed asked (p.unregister site) :=
  ⟨h.numbered, h.known, fun d other hmem => h.registered d other (List.mem_of_mem_eraseP hmem),
    h.disposals, h.accepting⟩

end Sites

/-! ## Disposals of single destinations -/

section Disposals

variable {site index : Nat} {m : Moment}

/-- `pollDrain` leaves the destination of the site. -/
theorem pollDrain_destination (config : Config) (m : Moment) (s : Site) :
    (s.pollDrain config m).1.destination = s.destination :=
  (Site.step_frame config (.pollDrain m) s).destination

theorem shutDown_destination (s : Site) : s.shutDown.1.destination = s.destination := by
  obtain ⟨-, heq⟩ | ⟨-, heq⟩ := Site.shutDown_cases s <;> rw [heq]
  rfl

/-- `hasEnded` of a site of the destination is seen. -/
theorem only_hasEnded (asked : List Destination) (hsite : p.destinations[site]? = some k) :
    (p.only k asked).hasEnded (rank k p.destinations site) = p.hasEnded site := by
  rw [hasEnded, only_sites asked hsite, hasEnded]

/-- `awaitEnd` of a site of the destination is seen. -/
theorem only_awaitEnd (h : Placed asked p) (hsite : p.destinations[site]? = some k) (m : Moment)
    (disposal : Disposal) :
    (p.only k asked).awaitEnd m (disposal.renumber (p.names k asked).disposal)
        (rank k p.destinations site) =
      (p.awaitEnd m disposal site).only k asked (p.names k asked) := by
  have hchange : ∀ s : Site, (s.pollDrain p.config m).1.destination = s.destination :=
    pollDrain_destination p.config m
  have hsame := destinations_changeSite hchange site p
  have hpoll := only_changeSite asked (n := p.names k asked) hsite rfl hchange
  have hplaced := h.changeSite hchange site
  have hconfig : (p.only k asked).config = p.config := rfl
  have hended := only_hasEnded asked hsite
  have hsite' : (p.changeSite site (Site.pollDrain p.config m)).1.destinations[site]? = some k := by
    rwa [hsame]
  have hended' := only_hasEnded asked hsite'
  have hunregister := only_unregister hplaced hsite'
  rw [hsame] at hended' hunregister
  unfold awaitEnd
  rw [hended, hconfig]
  split
  · rw [only_unregister h hsite]
    rfl
  · dsimp only [Change.andThen]
    rw [hpoll]
    -- whether the site has ended by the look is the same for both
    generalize p.changeSite site (Site.pollDrain p.config m) = c at hended' hunregister ⊢
    cases hc : c.1.hasEnded site with
    | true => simp [Change.only, hended', hc, hunregister, Effect.renumber, names]
    | false => simp [Change.only, hended', hc, Effect.renumber, names]

/-- `awaitEnd` leaves all `destinations` and all disposals. -/
theorem awaitEnd_keeps (m : Moment) (disposal : Disposal) (site : Nat) (p : Provider) :
    (p.awaitEnd m disposal site).1.destinations = p.destinations ∧
      (p.awaitEnd m disposal site).1.singleDisposals = p.singleDisposals := by
  have hsame := destinations_changeSite (pollDrain_destination p.config m) site p
  have hdisposals := singleDisposals_changeSite site (Site.pollDrain p.config m) p
  unfold awaitEnd
  split
  · exact ⟨rfl, rfl⟩
  · dsimp only [Change.andThen]
    split
    · exact ⟨hsame, hdisposals⟩
    · exact ⟨hsame, hdisposals⟩

/-- A disposal of the destination is found under its new number in `only`. -/
theorem only_singleDisposals (asked : List Destination)
    (h : p.disposedOf[index]? = some (some k)) :
    (p.only k asked).singleDisposals[rank (some k) p.disposedOf index]? =
      p.singleDisposals[index]?.map
        fun disposal => ⟨rank k p.destinations disposal.site, disposal.finished⟩ := by
  have hfilter := getElem?_filter (fun disposal : SingleDisposal =>
    p.destinations[disposal.site]?) h
  rw [← hfilter]
  exact List.getElem?_map

/-- The end of a disposal is seen by its destination. -/
theorem finish_only {site : Nat} (asked : List Destination) (k : Destination)
    (hdisposal : p.singleDisposals[index]? = some ⟨site, false⟩) :
    ({ p with singleDisposals := p.singleDisposals.set index ⟨site, true⟩ } : Provider).only k
        asked =
      if p.destinations[site]? = some k then
        { p.only k asked with
          singleDisposals := (p.only k asked).singleDisposals.set (rank (some k) p.disposedOf index)
            ⟨rank k p.destinations site, true⟩ }
      else p.only k asked := by
  split
  · rename_i hsite
    refine Provider.ext rfl rfl rfl rfl rfl rfl rfl rfl ?_
    have hset := filter_set (fun disposal : SingleDisposal => p.destinations[disposal.site]?)
      (y := ⟨site, true⟩) hdisposal hsite hsite
    have hmap := congrArg (List.map fun disposal : SingleDisposal =>
      (⟨rank k p.destinations disposal.site, disposal.finished⟩ : SingleDisposal)) hset
    rw [List.map_set] at hmap
    exact hmap
  · rename_i hsite
    refine Provider.ext rfl rfl rfl rfl rfl rfl rfl rfl ?_
    have hset := filter_set_of_ne (fun disposal : SingleDisposal =>
      p.destinations[disposal.site]?) (y := ⟨site, true⟩) hdisposal hsite hsite
    exact congrArg (List.map fun disposal : SingleDisposal =>
      (⟨rank k p.destinations disposal.site, disposal.finished⟩ : SingleDisposal)) hset

/-- A new disposal is seen by its destination. -/
theorem dispose_only (asked : List Destination) (k : Destination) (site : Nat) :
    ({ p with singleDisposals := p.singleDisposals ++ [⟨site, false⟩] } : Provider).only k asked =
      if p.destinations[site]? = some k then
        { p.only k asked with
          singleDisposals := (p.only k asked).singleDisposals ++
            [⟨rank k p.destinations site, false⟩] }
      else p.only k asked := by
  have happend : (p.singleDisposals ++ [(⟨site, false⟩ : SingleDisposal)]).filter
      (fun disposal => p.destinations[disposal.site]? = some k) =
        p.singleDisposals.filter (fun disposal => p.destinations[disposal.site]? = some k) ++
          if p.destinations[site]? = some k then [⟨site, false⟩] else [] := by
    rw [List.filter_append, List.filter_singleton]
    simp
  have hmap := congrArg (List.map fun disposal : SingleDisposal =>
    (⟨rank k p.destinations disposal.site, disposal.finished⟩ : SingleDisposal)) happend
  rw [List.map_append] at hmap
  split
  · rename_i hsite
    rw [if_pos hsite] at hmap
    exact Provider.ext rfl rfl rfl rfl rfl rfl rfl rfl hmap
  · rename_i hsite
    rw [if_neg hsite, List.map_nil, List.append_nil] at hmap
    exact Provider.ext rfl rfl rfl rfl rfl rfl rfl rfl hmap

/-- The next disposal gets the next `rank` in its destination. -/
theorem rank_disposals (k : Destination) (asked : List Destination) (p : Provider) :
    rank (some k) p.disposedOf p.singleDisposals.length =
      (p.only k asked).singleDisposals.length := by
  have hlength : p.singleDisposals.length = p.disposedOf.length := by simp [disposedOf]
  rw [hlength, rank_length, disposedOf, List.countP_map, List.countP_eq_length_filter, only,
    List.length_map]
  rfl

end Disposals

end Provider

end ConnectionPool
