import ConnectionPool.Transport
import Mathlib.Algebra.BigOperators.Finprod
import Mathlib.Algebra.BigOperators.Group.Finset.Basic
import Mathlib.Order.Bounds.Basic

/-!
# The books of the in-memory transport

Calls to open and to close connections overlap in any way: a call is begun, and later it ends or is
given up, and meanwhile others begin and end. Between its two ends a call changes nothing, however
long it takes. So what happens is a list of events, one for each beginning and each end.

Beside the transport stands a ledger of what callers have seen: the answers they got, the calls they
gave up, and the connections they have given back. The counters of the transport are what the ledger
says.

Every connection is given back at most once, since whoever gives it back no longer has it. An event
that cannot happen, such as the end of a call that is not in flight, leaves everything as it is.

## Main definitions

* `Answer`: what a caller gets, with the address and whether it was refused at that moment.
* `Ledger`: the transport and what its callers have seen.
* `Ledger.Balanced`: the counters say what the ledger says.

## Main results

* `Ledger.steps`: all that an event can do.
* `Ledger.ordered_run`: ordered failures hit the first calls to addresses that are not refused.
* `Ledger.books_balance`: the counters, the highest count, the numbers and the ordered failures.
-/

namespace ConnectionPool

namespace Transport

/-- An `Answer`: what the caller of a call gets. -/
structure Answer where
  /-- The address of the call. -/
  address : String
  /-- The address is refused at that moment. -/
  refused : Bool
  /-- What is answered. -/
  result : Except ConnectFailure Connection

namespace Answer

/-- The connection that was opened. -/
def opened? (a : Answer) : Option Connection := a.result.toOption

/-- The call was refused. -/
def isRefusal (a : Answer) : Bool :=
  match a.result with
  | .error (.refused _) => true
  | _ => false

/-- The call failed by order. -/
def isInjected (a : Answer) : Bool :=
  match a.result with
  | .error (.injected _) => true
  | _ => false

end Answer

/-- A `Ledger`: a transport and what its callers have seen. -/
structure Ledger where
  /-- The transport. -/
  transport : Transport
  /-- The answers, in order. -/
  answers : List Answer
  /-- How many calls to open a connection were given up. -/
  givenUp : Nat
  /-- The connections whose close is in flight. -/
  closing : List Nat
  /-- The connections whose close has ended. -/
  closed : List Nat
  /-- The connections whose close was given up. -/
  forgotten : List Nat

/-- Something that happens to a transport. -/
inductive Event where
  /-- A call to open a connection is begun. -/
  | begin (address : String)
  /-- A call to open a connection ends with an answer. -/
  | answer (call : Nat)
  /-- A call to open a connection is given up. -/
  | hangUp (call : Nat)
  /-- A call to close a connection is begun. -/
  | beginClose (connection : Nat)
  /-- A call to close a connection ends. -/
  | endClose (connection : Nat)
  /-- A call to close a connection is given up. -/
  | giveUpClose (connection : Nat)
  /-- Failures are ordered. -/
  | failNext (count : Nat)
  /-- An address is to be refused. -/
  | refuse (address : String)
  /-- An address is no longer to be refused. -/
  | accept (address : String)

/-- The event orders failures. -/
def Event.isFailNext : Event → Bool
  | .failNext _ => true
  | _ => false

namespace Ledger

/-- A transport before its first call. -/
def start (connectLatency closeLatency : Duration) (refused : List String) : Ledger :=
  { transport := .ofLatencies connectLatency closeLatency refused
    answers := [], givenUp := 0, closing := [], closed := [], forgotten := [] }

/-- The connections that callers got, in order. -/
def opened (l : Ledger) : List Connection := l.answers.filterMap (·.opened?)

/-- How many callers were refused. -/
def refusals (l : Ledger) : Nat := l.answers.countP (·.isRefusal)

/-- How many callers got a failure by order. -/
def injections (l : Ledger) : Nat := l.answers.countP (·.isInjected)

/-- The connections that callers have given back. -/
def returned (l : Ledger) : List Nat := l.closing ++ l.closed ++ l.forgotten

/-- The ledger after an answer, which leaves the transport as given. -/
def tell (l : Ledger) (known : Call) (refused : Bool) (result : Except ConnectFailure Connection)
    (transport : Transport) : Ledger :=
  { l with transport, answers := l.answers ++ [⟨known.address, refused, result⟩] }

/-- What an event makes of the transport and the ledger. -/
def step (l : Ledger) : Event → Ledger
  | .begin address => { l with transport := (l.transport.begin address).2 }
  | .answer call =>
    match l.transport.calls.find? (·.id == call), l.transport.answer call with
    | some known, (some result, transport) =>
      l.tell known (l.transport.refused.contains known.address) result transport
    | _, _ => l
  | .hangUp call =>
    if l.transport.calls.any (·.id == call) then
      { l with transport := l.transport.hangUp call, givenUp := l.givenUp + 1 }
    else l
  | .beginClose connection =>
    if connection ∈ l.opened.map (·.id) ∧ connection ∉ l.returned then
      { l with closing := connection :: l.closing }
    else l
  | .endClose connection =>
    if connection ∈ l.closing then
      { l with
        transport := l.transport.close
        closing := l.closing.erase connection
        closed := connection :: l.closed }
    else l
  | .giveUpClose connection =>
    if connection ∈ l.closing then
      { l with
        closing := l.closing.erase connection
        forgotten := connection :: l.forgotten }
    else l
  | .failNext count => { l with transport := l.transport.failNext count }
  | .refuse address => { l with transport := l.transport.refuse address }
  | .accept address => { l with transport := l.transport.accept address }

/-- What a list of events makes of the transport and the ledger. -/
def run (l : Ledger) (events : List Event) : Ledger := events.foldl step l

variable {l : Ledger} {event : Event} {call : Nat}

@[simp]
theorem run_nil (l : Ledger) : l.run [] = l := rfl

@[simp]
theorem run_cons (l : Ledger) (event : Event) (rest : List Event) :
    l.run (event :: rest) = (l.step event).run rest := rfl

@[simp]
theorem run_append (l : Ledger) (before after : List Event) :
    l.run (before ++ after) = (l.run before).run after :=
  List.foldl_append

/-! ## All that an event can do -/

/-- `Steps l event l'`: what an event makes of the transport and the ledger, by what happens. -/
inductive Steps (l : Ledger) : Event → Ledger → Prop
  /-- The event cannot happen: the call is not in flight, or the connection cannot be given back. -/
  | idle {event : Event} (hevent : event.isFailNext = false) : Steps l event l
  /-- A call is begun. -/
  | begun (address : String) :
      Steps l (.begin address) { l with transport := (l.transport.begin address).2 }
  /-- A call ends, and its address is refused. -/
  | refused {call : Nat} {known : Call} (hcall : known ∈ l.transport.calls) (hid : known.id = call)
      (hrefused : l.transport.refused.contains known.address = true) :
      Steps l (.answer call)
        (l.tell known true (.error (.refused known.address)) (l.transport.hangUp call))
  /-- A call ends, and a failure was ordered. -/
  | injected {call : Nat} {known : Call} {left : Nat} (hcall : known ∈ l.transport.calls)
      (hid : known.id = call) (hrefused : l.transport.refused.contains known.address = false)
      (hpending : l.transport.pendingFailures = left + 1) :
      Steps l (.answer call)
        (l.tell known false (.error (.injected known.address))
          ((l.transport.hangUp call).failNext left))
  /-- A call ends, and a connection is opened. -/
  | opened {call : Nat} {known : Call} (hcall : known ∈ l.transport.calls) (hid : known.id = call)
      (hrefused : l.transport.refused.contains known.address = false)
      (hpending : l.transport.pendingFailures = 0) :
      Steps l (.answer call)
        (l.tell known false (.ok ((l.transport.hangUp call).openTo known.address).1)
          ((l.transport.hangUp call).openTo known.address).2)
  /-- A call is given up. -/
  | hungUp {call : Nat} {known : Call} (hcall : known ∈ l.transport.calls) (hid : known.id = call) :
      Steps l (.hangUp call)
        { l with transport := l.transport.hangUp call, givenUp := l.givenUp + 1 }
  /-- A connection is given back. -/
  | givenBack {connection : Nat} (hopened : connection ∈ l.opened.map (·.id))
      (hnew : connection ∉ l.returned) :
      Steps l (.beginClose connection) { l with closing := connection :: l.closing }
  /-- A connection is closed. -/
  | closed {connection : Nat} (hclosing : connection ∈ l.closing) :
      Steps l (.endClose connection)
        { l with
          transport := l.transport.close
          closing := l.closing.erase connection
          closed := connection :: l.closed }
  /-- The close of a connection is given up. -/
  | forgotten {connection : Nat} (hclosing : connection ∈ l.closing) :
      Steps l (.giveUpClose connection)
        { l with
          closing := l.closing.erase connection
          forgotten := connection :: l.forgotten }
  /-- Failures are ordered. -/
  | ordered (count : Nat) :
      Steps l (.failNext count) { l with transport := l.transport.failNext count }
  /-- Other addresses are refused from now on. -/
  | readdressed {event : Event} (hevent : event.isFailNext = false) (refused : List String) :
      Steps l event { l with transport := { l.transport with refused } }

variable {l' : Ledger} {known : Call} {refused : Bool} {transport : Transport}

theorem steps_answer (l : Ledger) (call : Nat) :
    Steps l (.answer call) (l.step (.answer call)) := by
  rw [step, answer]
  cases hfind : l.transport.calls.find? (·.id == call) with
  | none => exact .idle rfl
  | some known =>
    have hcall : known ∈ l.transport.calls := List.mem_of_find?_eq_some hfind
    have hid : known.id = call := by simpa using List.find?_some hfind
    dsimp only [connect]
    cases hrefused : l.transport.refused.contains known.address with
    | true =>
      -- to hang up does not change which addresses are refused
      have hstill : (l.transport.hangUp call).refused.contains known.address = true := hrefused
      rw [if_pos hstill]
      exact .refused hcall hid hrefused
    | false =>
      have hnot : ¬ (l.transport.hangUp call).refused.contains known.address = true := by
        show ¬ l.transport.refused.contains known.address = true
        rw [hrefused]
        exact Bool.false_ne_true
      rw [if_neg hnot]
      cases hpending : l.transport.pendingFailures with
      | zero =>
        have hnone : (l.transport.hangUp call).pendingFailures = 0 := hpending
        rw [if_neg (not_not.mpr hnone)]
        exact .opened hcall hid hrefused hpending
      | succ left =>
        have hsome : (l.transport.hangUp call).pendingFailures = left + 1 := hpending
        rw [if_pos (by omega), hsome]
        exact .injected hcall hid hrefused hpending

/-- Every `step` is one of the `Steps`. -/
theorem steps (l : Ledger) (event : Event) : Steps l event (l.step event) := by
  -- an event is idle if its call or connection is unknown, or the address is refused already
  cases event with
  | begin address => exact .begun address
  | answer call => exact steps_answer l call
  | hangUp call =>
    rw [step]
    split
    · rename_i hany
      obtain ⟨known, hcall, hid⟩ := List.any_eq_true.mp hany
      exact .hungUp hcall (beq_iff_eq.mp hid)
    · exact .idle rfl
  | beginClose connection =>
    rw [step]
    split
    · rename_i hnew
      exact .givenBack hnew.1 hnew.2
    · exact .idle rfl
  | endClose connection =>
    rw [step]
    split
    · exact .closed ‹_›
    · exact .idle rfl
  | giveUpClose connection =>
    rw [step]
    split
    · exact .forgotten ‹_›
    · exact .idle rfl
  | failNext count => exact .ordered count
  | refuse address =>
    rw [step, refuse]
    split
    · exact .idle rfl
    · exact .readdressed rfl _
  | accept address => exact .readdressed rfl _

/-- What all `Steps` keep holds after a run if it holds before. -/
theorem run_invariant {motive : Ledger → Prop}
    (hstep : ∀ {l event l'}, Steps l event l' → motive l → motive l') (h : motive l)
    (events : List Event) : motive (l.run events) := by
  induction events generalizing l with
  | nil => exact h
  | cons event rest ih => exact ih (hstep (steps l event) h)

/-! ## Openings -/

/-- `Counted l`: the counters of openings say what callers have seen. -/
structure Counted (l : Ledger) : Prop where
  /-- Every call that was begun was answered in one of three ways, or is in flight, or given up. -/
  attempts : l.transport.attempts =
    l.opened.length + l.refusals + l.injections + l.transport.calls.length + l.givenUp
  /-- The connections are numbered in the order of the answers. -/
  numbered : l.opened.map (·.id) = List.range' 1 l.transport.connects
  /-- The next number is the one after the last. -/
  next : l.transport.nextConnection = 1 + l.transport.connects
  /-- The connections to one address are counted. -/
  perAddress : ∀ address, l.transport.connectsTo address =
    (l.opened.map (·.address)).count address

@[simp]
theorem opened_tell_ok {conn : Connection} :
    (l.tell known refused (.ok conn) transport).opened = l.opened ++ [conn] := by
  rw [opened, opened, tell, List.filterMap_append]
  rfl

@[simp]
theorem opened_tell_error {failure : ConnectFailure} :
    (l.tell known refused (.error failure) transport).opened = l.opened := by
  rw [opened, opened, tell, List.filterMap_append]
  exact List.append_nil _

theorem countP_tell (p : Answer → Bool) (result : Except ConnectFailure Connection) :
    (l.tell known refused result transport).answers.countP p =
      l.answers.countP p + if p ⟨known.address, refused, result⟩ then 1 else 0 := by
  rw [tell, List.countP_append, List.countP_singleton]

/-- `hangUp` takes one call out of those in flight, and leaves the others. -/
theorem length_hangUp {t : Transport} (hcall : known ∈ t.calls) (hid : known.id = call) :
    (t.hangUp call).calls.length + 1 = t.calls.length := by
  have hlength := List.length_eraseP_of_mem hcall (p := (·.id == call)) (by simpa using hid)
  have hpos := List.length_pos_of_mem hcall
  show (t.calls.eraseP (·.id == call)).length + 1 = t.calls.length
  omega

theorem getD_lookup_cons (known other : String) (count : Nat) (rest : List (String × Nat)) :
    (((known, count) :: rest).lookup other).getD 0 =
      if other = known then count else (rest.lookup other).getD 0 := by
  rw [List.lookup_cons]
  by_cases h : other = known
  · rw [if_pos h, beq_iff_eq.mpr h]
    rfl
  · rw [if_neg h, beq_false_of_ne h]

/-- `countAddress` lets the count of one address go up, and those of the others stay. -/
theorem lookup_countAddress (address other : String) (counts : List (String × Nat)) :
    ((countAddress address counts).lookup other).getD 0 =
      (counts.lookup other).getD 0 + if other = address then 1 else 0 := by
  induction counts with
  | nil =>
    rw [countAddress, getD_lookup_cons, List.lookup_nil, Option.getD_none, Nat.zero_add]
  | cons entry rest ih =>
    obtain ⟨known, count⟩ := entry
    rw [countAddress]
    split
    · rename_i hknown
      obtain rfl : known = address := by simpa using hknown
      rw [getD_lookup_cons, getD_lookup_cons]
      split <;> rfl
    · rename_i hknown
      have hne : known ≠ address := by simpa using hknown
      rw [getD_lookup_cons, getD_lookup_cons]
      by_cases h : other = known
      · -- the address that is passed by is another one
        rw [if_pos h, if_pos h, if_neg (h ▸ hne), Nat.add_zero]
      · rw [if_neg h, if_neg h, ih]

/-- The ledger stays `Counted` at all `Steps`. -/
theorem Counted.of_step (h : Counted l) (hstep : Steps l event l') : Counted l' := by
  have hattempts := h.attempts
  cases hstep with
  | begun address =>
    refine ⟨?_, h.numbered, h.next, h.perAddress⟩
    show l.transport.attempts + 1 =
      l.opened.length + l.refusals + l.injections +
        (l.transport.calls ++ [Call.mk (l.transport.attempts + 1) address]).length + l.givenUp
    rw [List.length_append, List.length_singleton]
    omega
  | @refused call known hcall hid =>
    have hlength := length_hangUp hcall hid
    refine ⟨?_, by rw [opened_tell_error]; exact h.numbered, h.next,
      by rw [opened_tell_error]; exact h.perAddress⟩
    rw [opened_tell_error, refusals, injections, countP_tell, countP_tell]
    show l.transport.attempts = l.opened.length + (l.refusals + 1) + l.injections +
      (l.transport.hangUp call).calls.length + l.givenUp
    omega
  | @injected call known left hcall hid =>
    have hlength := length_hangUp hcall hid
    refine ⟨?_, by rw [opened_tell_error]; exact h.numbered, h.next,
      by rw [opened_tell_error]; exact h.perAddress⟩
    rw [opened_tell_error, refusals, injections, countP_tell, countP_tell]
    show l.transport.attempts = l.opened.length + l.refusals + (l.injections + 1) +
      (l.transport.hangUp call).calls.length + l.givenUp
    omega
  | @opened call known hcall hid =>
    have hlength := length_hangUp hcall hid
    constructor
    · rw [opened_tell_ok, refusals, injections, countP_tell, countP_tell, List.length_append]
      show l.transport.attempts = l.opened.length + 1 + l.refusals + l.injections +
        (l.transport.hangUp call).calls.length + l.givenUp
      omega
    · rw [opened_tell_ok, List.map_append, h.numbered]
      show _ ++ [l.transport.nextConnection] = List.range' 1 (l.transport.connects + 1)
      rw [h.next, List.range'_1_concat]
    · show l.transport.nextConnection + 1 = 1 + (l.transport.connects + 1)
      rw [h.next, Nat.add_assoc]
    · intro address
      rw [opened_tell_ok, List.map_append, List.count_append, ← h.perAddress]
      show ((countAddress known.address l.transport.perAddress).lookup address).getD 0 =
        (l.transport.perAddress.lookup address).getD 0 + [known.address].count address
      rw [lookup_countAddress, List.count_singleton]
      by_cases hother : address = known.address
      · rw [if_pos hother, if_pos (beq_iff_eq.mpr hother.symm)]
      · rw [if_neg hother, if_neg fun heq => hother (beq_iff_eq.mp heq).symm]
  | @hungUp call known hcall hid =>
    have hlength := length_hangUp hcall hid
    refine ⟨?_, h.numbered, h.next, h.perAddress⟩
    show l.transport.attempts = l.opened.length + l.refusals + l.injections +
      (l.transport.hangUp call).calls.length + (l.givenUp + 1)
    omega
  | idle | givenBack | closed | forgotten | ordered | readdressed =>
    -- these are no calls to open a connection
    exact ⟨h.attempts, h.numbered, h.next, h.perAddress⟩

theorem Counted.length_opened (h : Counted l) : l.opened.length = l.transport.connects := by
  simpa using congrArg List.length h.numbered

/-- The connections to each address, `connectsTo`, add up to the connections that were opened. -/
theorem Counted.sum_connectsTo (h : Counted l) :
    ∑ᶠ address, l.transport.connectsTo address = l.transport.connects := by
  calc ∑ᶠ address, l.transport.connectsTo address
      = ∑ᶠ address, (l.opened.map (·.address)).count address := finsum_congr h.perAddress
    _ = ∑ address ∈ (l.opened.map (·.address)).toFinset, (l.opened.map (·.address)).count address :=
        finsum_eq_sum_of_support_subset _ fun address hcount => by
          rw [List.coe_toFinset, Set.mem_ofPred_eq, ← List.count_pos_iff]
          exact Nat.pos_of_ne_zero hcount
    _ = (l.opened.map (·.address)).length := List.sum_toFinset_count_eq_length _
    _ = l.transport.connects := by rw [List.length_map, h.length_opened]

/-! ## Connections that are open -/

/-- `Kept l`: the count of connections that are open says what callers have given back. -/
structure Kept (l : Ledger) : Prop where
  /-- A connection that was opened is open or closed. -/
  openNow : l.transport.openNow + l.transport.closes = l.opened.length
  /-- What is closed is what was given back until the end. -/
  closes : l.transport.closes = l.closed.length
  /-- No connection was given back twice. -/
  returned : l.returned.Nodup
  /-- What was given back had been opened. -/
  returned_subset : l.returned ⊆ l.opened.map (·.id)
  /-- No more connections are open than the highest count so far. -/
  peakOpen : l.transport.openNow ≤ l.transport.peakOpen

/-- A connection is open until its close has ended. -/
theorem Kept.closing_le (h : Kept l) : l.closing.length ≤ l.transport.openNow := by
  have hreturned : l.returned.length ≤ (l.opened.map (·.id)).length :=
    (List.subperm_of_subset h.returned h.returned_subset).length_le
  rw [Ledger.returned, List.length_append, List.length_append, ← h.closes, List.length_map,
    ← h.openNow] at hreturned
  omega

/-- A close that ends or is given up is still the close of a connection that was given back. -/
theorem Kept.of_perm (h : Kept l) (l' : Ledger) (hperm : l'.returned.Perm l.returned)
    (hopened : l'.opened = l.opened) :
    l'.returned.Nodup ∧ l'.returned ⊆ l'.opened.map (·.id) := by
  refine ⟨hperm.nodup_iff.mpr h.returned, ?_⟩
  rw [hopened]
  exact List.Subset.trans hperm.subset h.returned_subset

/-- The ledger stays `Kept` at all `Steps`. -/
theorem Kept.of_step (h : Kept l) (hstep : Steps l event l') : Kept l' := by
  have hopen := h.openNow
  cases hstep with
  | refused | injected =>
    refine ⟨?_, h.closes, h.returned, ?_, h.peakOpen⟩
    · rw [opened_tell_error]
      exact hopen
    · rw [opened_tell_error]
      exact h.returned_subset
  | opened =>
    refine ⟨?_, h.closes, h.returned, ?_, Nat.le_max_right _ _⟩
    · rw [opened_tell_ok, List.length_append, List.length_singleton, ← hopen]
      show l.transport.openNow + 1 + l.transport.closes = _
      omega
    · rw [opened_tell_ok, List.map_append]
      exact List.subset_append_of_subset_left _ h.returned_subset
  | givenBack hopened hnew =>
    exact ⟨hopen, h.closes, List.nodup_cons.mpr ⟨hnew, h.returned⟩,
      List.cons_subset.mpr ⟨hopened, h.returned_subset⟩, h.peakOpen⟩
  | @closed connection hclosing =>
    -- the connection is among the closing ones, so it is open
    have hpos : 0 < l.transport.openNow :=
      Nat.lt_of_lt_of_le (List.length_pos_of_mem hclosing) h.closing_le
    have hperm : (l.closing.erase connection ++ connection :: l.closed).Perm
        (l.closing ++ l.closed) :=
      List.perm_middle.trans ((List.perm_cons_erase hclosing).symm.append_right _)
    obtain ⟨hreturned, hsubset⟩ :=
      h.of_perm { l with closing := l.closing.erase connection, closed := connection :: l.closed }
        (hperm.append_right l.forgotten) rfl
    refine ⟨?_, congrArg (· + 1) h.closes, hreturned, hsubset,
      (Nat.sub_le _ _).trans h.peakOpen⟩
    show l.transport.openNow - 1 + (l.transport.closes + 1) = l.opened.length
    omega
  | @forgotten connection hclosing =>
    have hperm : (l.closing.erase connection ++ l.closed ++ connection :: l.forgotten).Perm
        (l.closing ++ l.closed ++ l.forgotten) :=
      List.perm_middle.trans
        (((List.perm_cons_erase hclosing).symm.append_right _).append_right _)
    obtain ⟨hreturned, hsubset⟩ :=
      h.of_perm
        { l with closing := l.closing.erase connection, forgotten := connection :: l.forgotten }
        hperm rfl
    exact ⟨hopen, h.closes, hreturned, hsubset, h.peakOpen⟩
  | idle | begun | hungUp | ordered | readdressed =>
    exact ⟨hopen, h.closes, h.returned, h.returned_subset, h.peakOpen⟩

/-- `peakOpen` is kept up with at all `Steps`. -/
theorem Kept.peakOpen_step (h : Kept l) (hstep : Steps l event l') :
    l'.transport.peakOpen = max l.transport.peakOpen l'.transport.openNow := by
  -- nothing but an answer lets the count of open connections rise
  have hpeak := h.peakOpen
  cases hstep with
  | opened => rfl
  | closed => exact (Nat.max_eq_left ((Nat.sub_le _ _).trans hpeak)).symm
  | _ => exact (Nat.max_eq_left hpeak).symm

/-! ## Ordered failures -/

/-- `Ordered pending left answers`: of the calls that are not refused, the first ones fail, as many
as were ordered, and the order is used up to that extent. -/
structure Ordered (pending left : Nat) (answers : List Answer) : Prop where
  /-- The first calls fail, and no others. -/
  injected : answers.filter (·.isInjected) = (answers.filter (!·.refused)).take pending
  /-- What is left of the order. -/
  left_eq : left = pending - (answers.filter (!·.refused)).length

variable {pending between left : Nat} {earlier later : List Answer}

theorem Ordered.nil : Ordered pending pending [] :=
  ⟨List.take_nil.symm, rfl⟩

theorem Ordered.append (h : Ordered pending between earlier) (h' : Ordered between left later) :
    Ordered pending left (earlier ++ later) := by
  constructor
  · rw [List.filter_append, List.filter_append, List.take_append, h.injected, h'.injected,
      h.left_eq]
  · rw [List.filter_append, List.length_append, h'.left_eq, h.left_eq, Nat.sub_sub]

/-- What happens without a new order leaves the answers `Ordered` by the last one. -/
theorem ordered_step (h : event.isFailNext = false) (hstep : Steps l event l') :
    ∃ answers, l'.answers = l.answers ++ answers ∧
      Ordered l.transport.pendingFailures l'.transport.pendingFailures answers := by
  cases hstep with
  | refused => exact ⟨_, rfl, List.take_nil.symm, rfl⟩
  | injected hcall hid hrefused hpending =>
    refine ⟨_, rfl, ?_, ?_⟩
    · rw [hpending]
      exact (List.take_of_length_le (Nat.le_add_left 1 _)).symm
    · rw [hpending]
      rfl
  | opened hcall hid hrefused hpending =>
    refine ⟨_, rfl, ?_, ?_⟩
    · rw [hpending]
      rfl
    · show l.transport.pendingFailures = _
      rw [hpending, Nat.zero_sub]
  | ordered => cases h
  | _ => exact ⟨[], (List.append_nil _).symm, .nil⟩

/-- Until failures are ordered again, the answers of a `run` are `Ordered`: the first calls to
addresses that are not refused fail. -/
theorem ordered_run (l : Ledger) (events : List Event) (h : ∀ e ∈ events, e.isFailNext = false) :
    ∃ answers, (l.run events).answers = l.answers ++ answers ∧
      Ordered l.transport.pendingFailures (l.run events).transport.pendingFailures answers := by
  -- the rest of the run obeys what the first event has left of the order
  induction events generalizing l with
  | nil => exact ⟨[], (List.append_nil _).symm, .nil⟩
  | cons event rest ih =>
    rw [List.forall_mem_cons] at h
    obtain ⟨first, hfirst, hordered⟩ := ordered_step h.1 (steps l event)
    obtain ⟨others, hothers, hordered'⟩ := ih (l.step event) h.2
    refine ⟨first ++ others, ?_, hordered.append hordered'⟩
    rw [run_cons, hothers, hfirst, List.append_assoc]

/-! ## The whole books -/

section

variable (connectLatency closeLatency : Duration) (refusedAtFirst : List String)

theorem counted_start : Counted (start connectLatency closeLatency refusedAtFirst) :=
  ⟨rfl, rfl, rfl, fun _ => rfl⟩

theorem kept_start : Kept (start connectLatency closeLatency refusedAtFirst) :=
  ⟨rfl, rfl, List.nodup_nil, List.nil_subset _, Nat.le_refl 0⟩

end

theorem Counted.run (h : Counted l) (events : List Event) : Counted (l.run events) :=
  run_invariant (fun hstep hcounted => hcounted.of_step hstep) h events

theorem Kept.run (h : Kept l) (events : List Event) : Kept (l.run events) :=
  run_invariant (fun hstep hkept => hkept.of_step hstep) h events

/-- `peakOpen` is the greatest `openNow` so far. -/
theorem Kept.isGreatest_run (h : Kept l) (hstart : l.transport.peakOpen = l.transport.openNow)
    (events : List Event) :
    IsGreatest {count | ∃ before, before <+: events ∧ (l.run before).transport.openNow = count}
      (l.run events).transport.peakOpen := by
  -- from the end, since what the last event adds to the prefixes is the whole run
  induction events using List.reverseRecOn with
  | nil =>
    refine ⟨⟨[], List.prefix_rfl, hstart.symm⟩, ?_⟩
    rintro count ⟨before, hbefore, rfl⟩
    rw [List.prefix_nil.mp hbefore, run_nil, hstart]
  | append_singleton events event ih =>
    obtain ⟨⟨highest, hhighest, hreached⟩, hbound⟩ := ih
    have hpeak := (h.run events).peakOpen_step (steps (l.run events) event)
    have hlast : l.run (events ++ [event]) = (l.run events).step event :=
      run_append l events [event]
    rw [hlast, hpeak]
    constructor
    · obtain hmax | hmax := max_choice (l.run events).transport.peakOpen
        ((l.run events).step event).transport.openNow
      · exact ⟨highest, hhighest.trans (List.prefix_append _ _), by rw [hreached, hmax]⟩
      · exact ⟨events ++ [event], List.prefix_rfl, by rw [hlast, hmax]⟩
    · rintro count ⟨before, hbefore, rfl⟩
      obtain rfl | hearlier := List.prefix_concat_iff.mp hbefore
      · rw [hlast]
        exact Nat.le_max_right _ _
      · exact (hbound ⟨before, hearlier, rfl⟩).trans (Nat.le_max_left _ _)

/-- `Balanced l`: the counters of the transport and what its callers have seen agree. -/
structure Balanced (l : Ledger) : Prop where
  /-- A call that was begun has opened a connection, is among the `refusals` or the `injections`, is
  in flight, or was given up. -/
  attempts : l.transport.attempts =
    l.opened.length + l.refusals + l.injections + l.transport.calls.length + l.givenUp
  /-- A connection that was opened is open or closed; the count does not stop at zero on its way
  down. -/
  openNow : l.transport.openNow + l.transport.closes = l.transport.connects
  /-- A connection that is being closed is open. -/
  closing : l.closing.length ≤ l.transport.openNow
  /-- The transport counts as `closes` what is `closed`. -/
  closes : l.transport.closes = l.closed.length
  /-- Every connection was opened to one address. -/
  perAddress : ∑ᶠ address, l.transport.connectsTo address = l.transport.connects
  /-- The connections are numbered from one on, in the order in which they were opened. -/
  numbered : l.opened.map (·.id) = List.range' 1 l.transport.connects

/-- Whatever order calls begin and end in, the books are `Balanced` at any time. `peakOpen` is the
greatest `openNow` so far. When failures are ordered, the answers are `Ordered`: they hit the first
calls whose address is not refused at that moment, until the order is used up or replaced. -/
theorem books_balance (connectLatency closeLatency : Duration) (refused : List String)
    (events : List Event) :
    Balanced ((start connectLatency closeLatency refused).run events) ∧
    IsGreatest
      {count | ∃ before, before <+: events ∧
        ((start connectLatency closeLatency refused).run before).transport.openNow = count}
      ((start connectLatency closeLatency refused).run events).transport.peakOpen ∧
    ∀ before count later, events = before ++ .failNext count :: later →
      (∀ e ∈ later, e.isFailNext = false) →
      ∃ answers, ((start connectLatency closeLatency refused).run events).answers =
          ((start connectLatency closeLatency refused).run before).answers ++ answers ∧
        answers.filter (·.isInjected) = (answers.filter (!·.refused)).take count := by
  have hcounted := (counted_start connectLatency closeLatency refused).run events
  have hkept := (kept_start connectLatency closeLatency refused).run events
  refine ⟨?_, ?_, ?_⟩
  · exact
      { attempts := hcounted.attempts
        openNow := hkept.openNow.trans hcounted.length_opened
        closing := hkept.closing_le
        closes := hkept.closes
        perAddress := hcounted.sum_connectsTo
        numbered := hcounted.numbered }
  · exact (kept_start connectLatency closeLatency refused).isGreatest_run rfl events
  · rintro before count later rfl hlater
    rw [run_append, run_cons]
    obtain ⟨answers, hanswers, hordered⟩ := ordered_run
      (((start connectLatency closeLatency refused).run before).step (.failNext count)) later hlater
    exact ⟨answers, hanswers, hordered.injected⟩

/-- Three calls end: the first is refused, the second fails by order, and the third opens a
connection, which is then closed. A fourth call is given up. -/
def failingOnce : List Event :=
  [.begin "down:1", .begin "db:1", .refuse "down:1", .answer 2, .answer 1, .answer 3, .beginClose 1,
    .begin "db:1", .hangUp 4, .endClose 1]

/-- The order of one failure is used up by a call that was begun before it. -/
theorem books_balance_failingOnce :
    ((start .zero .zero []).run
      ([.begin "db:1"] ++ .failNext 1 :: failingOnce)).transport.attempts = 1 + 1 + 1 + 0 + 1 ∧
    ∃ answers,
      ((start .zero .zero []).run ([.begin "db:1"] ++ .failNext 1 :: failingOnce)).answers =
        ((start .zero .zero []).run [.begin "db:1"]).answers ++ answers ∧
      answers.filter (·.isInjected) = (answers.filter (!·.refused)).take 1 := by
  obtain ⟨hbalanced, -, hordered⟩ :=
    books_balance .zero .zero [] ([.begin "db:1"] ++ .failNext 1 :: failingOnce)
  exact ⟨hbalanced.attempts.trans (by decide +kernel), hordered _ _ _ rfl (by decide)⟩

end Ledger

end Transport

end ConnectionPool
