import Mathlib.Data.List.Basic

/-!
# Members of one kind

Lists that only grow give each member an index that it keeps. Among the members of one kind alone, a
member has an index as well, which is its `rank`: the number of members of that kind before it.
Restricting such a list to one kind and numbering anew commutes with everything that is done to the
list by index or by number, and what is done to members of other kinds leaves the restriction as it
is.

## Main definitions

* `rank`: the index of a member among those of its kind.

## Main results

* `rank_injective`: members of one kind have different ranks.
* `getElem?_filter`, `filter_set`: access by index.
* `lookup_filter_map`, `eraseP_filter_map`, `update_filter_map`: access by number.
-/

namespace ConnectionPool

variable {α β γ κ : Type} [DecidableEq κ]

/-- A member of a list that grows keeps its index. -/
theorem getElem?_of_grown {l grown : List α} {i : Nat} {x : α} (h : l <+: grown)
    (hx : l[i]? = some x) : grown[i]? = some x := by
  obtain ⟨more, rfl⟩ := h
  exact (List.getElem?_append_left (List.getElem?_eq_some_iff.1 hx).1).trans hx

/-- `rank a kinds i`: the number of members of `kinds` before the index `i` that are `a`. -/
def rank (a : κ) (kinds : List κ) (i : Nat) : Nat := (kinds.take i).countP (· = a)

section Rank

variable {a : κ} {kinds more : List κ} {i j : Nat}

/-- The next index has as its `rank` the number of members of the kind. -/
@[simp]
theorem rank_length (a : κ) (kinds : List κ) :
    rank a kinds kinds.length = kinds.countP (· = a) := by
  rw [rank, List.take_length]

/-- A `rank` stays while the list grows. -/
theorem rank_append (h : i ≤ kinds.length) : rank a (kinds ++ more) i = rank a kinds i := by
  rw [rank, rank, List.take_append_of_le_length h]

/-- A member comes before all that have a later index. -/
theorem rank_lt (hi : kinds[i]? = some a) (hlt : i < j) : rank a kinds i < rank a kinds j := by
  have hnext : rank a kinds (i + 1) = rank a kinds i + 1 := by
    rw [rank, rank, List.take_add_one, hi, List.countP_append]
    simp
  have hprefix : (kinds.take (i + 1)).Sublist (kinds.take j) :=
    (List.take_prefix_take_left (by omega)).sublist
  have hmono : rank a kinds (i + 1) ≤ rank a kinds j := hprefix.countP_le
  omega

/-- Members of one kind have different `rank`s. -/
theorem rank_injective (hi : kinds[i]? = some a) (hj : kinds[j]? = some a)
    (h : rank a kinds i = rank a kinds j) : i = j := by
  by_contra hne
  rcases Nat.lt_or_gt_of_ne hne with hlt | hlt
  · have := rank_lt hi hlt
    omega
  · have := rank_lt hj hlt
    omega

end Rank

section Filter

variable (kind : α → κ) {a : κ} {l : List α} {i : Nat} {x y : α}

/-- A member of the kind is found at its `rank` when the list is filtered. -/
theorem getElem?_filter (h : (l.map kind)[i]? = some a) :
    (l.filter (kind · = a))[rank a (l.map kind) i]? = l[i]? := by
  induction l generalizing i with
  | nil => simp at h
  | cons b l ih =>
    cases i with
    | zero =>
      obtain rfl : kind b = a := by simpa using h
      simp [rank]
    | succ i =>
      have hrest := ih (i := i) (by simpa using h)
      by_cases hb : kind b = a
      · simpa [rank, hb] using hrest
      · simpa [rank, hb] using hrest

/-- Changing a member of the kind changes the member at its `rank`. -/
theorem filter_set (hx : l[i]? = some x) (hkind : kind x = a) (hy : kind y = a) :
    (l.set i y).filter (kind · = a) = (l.filter (kind · = a)).set (rank a (l.map kind) i) y := by
  induction l generalizing i with
  | nil => simp at hx
  | cons b l ih =>
    cases i with
    | zero =>
      obtain rfl : b = x := by simpa using hx
      simp [rank, hkind, hy]
    | succ i =>
      have hrest := ih (i := i) (by simpa using hx)
      by_cases hb : kind b = a
      · simpa [rank, hb] using hrest
      · simpa [rank, hb] using hrest

/-- Changing a member of another kind changes no member of the kind. -/
theorem filter_set_of_ne (hx : l[i]? = some x) (hkind : kind x ≠ a) (hy : kind y ≠ a) :
    (l.set i y).filter (kind · = a) = l.filter (kind · = a) := by
  induction l generalizing i with
  | nil => rfl
  | cons b l ih =>
    cases i with
    | zero =>
      obtain rfl : b = x := by simpa using hx
      simp [hkind, hy]
    | succ i =>
      have hrest := ih (i := i) (by simpa using hx)
      by_cases hb : kind b = a
      · simpa [hb] using hrest
      · simpa [hb] using hrest

end Filter

/-- The kinds of the members stay when a member is replaced by one of its kind. -/
theorem map_set_of_eq {kind : α → β} {l : List α} {i : Nat} {x y : α} (hx : l[i]? = some x)
    (hy : kind y = kind x) : (l.set i y).map kind = l.map kind := by
  obtain ⟨hlt, rfl⟩ := List.getElem?_eq_some_iff.1 hx
  rw [List.map_set, hy, ← List.getElem_map kind (h := by simpa using hlt), List.set_getElem_self]

section Numbered

variable (keep : α → Bool) (change : α → β) {test : α → Bool} {test' : β → Bool} {l : List α}

/-- When all that passes `test` is kept, removing it commutes with keeping and changing. -/
theorem eraseP_filter_map (hkept : ∀ x ∈ l, test x = true → keep x = true)
    (hsame : ∀ x ∈ l, keep x = true → test' (change x) = test x) :
    ((l.filter keep).map change).eraseP test' = ((l.eraseP test).filter keep).map change := by
  induction l with
  | nil => rfl
  | cons x l ih =>
    obtain ⟨hkept, hkeptRest⟩ := List.forall_mem_cons.1 hkept
    obtain ⟨hsame, hsameRest⟩ := List.forall_mem_cons.1 hsame
    have hrest := ih hkeptRest hsameRest
    by_cases hx : test x = true
    · have hkeep := hkept hx
      simp [hx, hkeep, hsame hkeep]
    · by_cases hkeep : keep x = true
      · simpa [hx, hkeep, hsame hkeep] using hrest
      · simpa [hx, hkeep] using hrest

/-- Removing what passes `test` and is not kept changes nothing that is kept. -/
theorem filter_eraseP_of_not (hlost : ∀ x ∈ l, test x = true → keep x = false) :
    (l.eraseP test).filter keep = l.filter keep := by
  induction l with
  | nil => rfl
  | cons x l ih =>
    obtain ⟨hlost, hlostRest⟩ := List.forall_mem_cons.1 hlost
    have hrest := ih hlostRest
    by_cases hx : test x = true
    · simp [hx, hlost hx]
    · by_cases hkeep : keep x = true
      · simpa [hx, hkeep] using hrest
      · simpa [hx, hkeep] using hrest

end Numbered

section Keyed

variable {ι : Type} [BEq ι] [LawfulBEq ι] (keep : ι → Bool) (rename : ι → ι) (change : β → γ)
  {l : List (ι × β)} {key : ι}

/-- What is kept under `key` is found under `rename key`. -/
theorem lookup_filter_map (hkey : keep key = true)
    (hrename : ∀ x ∈ l, keep x.1 = true → rename x.1 = rename key → x.1 = key) :
    ((l.filter fun x => keep x.1).map fun x => (rename x.1, change x.2)).lookup (rename key) =
      (l.lookup key).map change := by
  induction l with
  | nil => rfl
  | cons x l ih =>
    obtain ⟨other, b⟩ := x
    obtain ⟨hrename, hrenameRest⟩ := List.forall_mem_cons.1 hrename
    have hrest := ih hrenameRest
    by_cases hother : other = key
    · subst hother
      simp [hkey]
    · have hne : (key == other) = false := by simpa using Ne.symm hother
      by_cases hkeep : keep other = true
      · have hne' : (rename key == rename other) = false := by
          simpa using fun heq => hother (hrename hkeep heq.symm)
        simpa [hkeep, List.lookup_cons, hne, hne'] using hrest
      · simpa [hkeep, List.lookup_cons, hne] using hrest

/-- Removing what is kept under `key` commutes with keeping. -/
theorem eraseP_key_filter_map (hkey : keep key = true)
    (hrename : ∀ x ∈ l, keep x.1 = true → rename x.1 = rename key → x.1 = key) :
    ((l.filter fun x => keep x.1).map fun x => (rename x.1, change x.2)).eraseP
        (·.1 == rename key) =
      ((l.eraseP (·.1 == key)).filter fun x => keep x.1).map
        fun x => (rename x.1, change x.2) := by
  refine eraseP_filter_map _ _ (fun x _ hx => ?_) fun x hmem hx => ?_
  · rwa [beq_iff_eq.1 hx]
  · rw [Bool.eq_iff_iff, beq_iff_eq, beq_iff_eq]
    exact ⟨hrename x hmem hx, fun heq => by rw [heq]⟩

/-- Changing what is kept under `key` commutes with keeping. -/
theorem update_filter_map (b : β) (hkey : keep key = true)
    (hrename : ∀ x ∈ l, keep x.1 = true → rename x.1 = rename key → x.1 = key) :
    ((l.filter fun x => keep x.1).map fun x => (rename x.1, change x.2)).map
        (fun (other, old) => (other, if other == rename key then change b else old)) =
      ((l.map fun (other, old) => (other, if other == key then b else old)).filter
        fun x => keep x.1).map fun x => (rename x.1, change x.2) := by
  induction l with
  | nil => rfl
  | cons x l ih =>
    obtain ⟨other, old⟩ := x
    obtain ⟨hrename, hrenameRest⟩ := List.forall_mem_cons.1 hrename
    have hrest := ih hrenameRest
    by_cases hother : other = key
    · subst hother
      simpa [hkey] using hrest
    · by_cases hkeep : keep other = true
      · have hne : rename other ≠ rename key := fun heq => hother (hrename hkeep heq)
        simpa [hkeep, hother, hne] using hrest
      · simpa [hkeep] using hrest

/-- Changing what is not kept under a key changes nothing that is kept. -/
theorem filter_update_of_not (b : β) (hkey : keep key = false) :
    ((l.map fun (other, old) => (other, if other == key then b else old)).filter
      fun x => keep x.1) = l.filter fun x => keep x.1 := by
  induction l with
  | nil => rfl
  | cons x l ih =>
    obtain ⟨other, old⟩ := x
    by_cases hkeep : keep other = true
    · have hne : other ≠ key := by
        rintro rfl
        rw [hkey] at hkeep
        cases hkeep
      simpa [hkeep, hne] using ih
    · simpa [hkeep] using ih

end Keyed

end ConnectionPool
