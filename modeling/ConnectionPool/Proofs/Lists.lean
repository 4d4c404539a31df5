import Mathlib.Algebra.GroupWithZero.Nat
import Mathlib.Data.List.Perm.Basic
import Mathlib.Data.List.Nodup

/-!
# Removing from lists

Sites and providers keep what is under way in lists and find it by its number. A search and the
removal that follows it stop at the same member, so nothing else is lost.
-/

namespace ConnectionPool

variable {α β κ : Type}

/-- What `find?` finds is what `eraseP` with the same test takes away. -/
theorem perm_cons_eraseP_of_find? {p : α → Bool} {l : List α} {a : α} (h : l.find? p = some a) :
    l.Perm (a :: l.eraseP p) := by
  obtain ⟨ha, before, after, rfl, hbefore⟩ := List.find?_eq_some_iff_append.1 h
  rw [List.eraseP_append_right _ (by simpa using hbefore), List.eraseP_cons_of_pos ha]
  exact List.perm_middle

/-- Where no two members have the same number, each is found by its number. -/
theorem find?_of_mem {number : α → Nat} {l : List α} {a : α} (hnumbers : (l.map number).Nodup)
    (h : a ∈ l) : l.find? (number · == number a) = some a := by
  obtain ⟨before, after, rfl⟩ := List.append_of_mem h
  rw [List.map_append, List.map_cons, List.nodup_append] at hnumbers
  refine List.find?_eq_some_iff_append.2 ⟨by simp, before, after, rfl, fun x hx => ?_⟩
  have := hnumbers.2.2 (number x) (List.mem_map_of_mem hx) (number a) (by simp)
  simpa using this

/-- Where no two members have the same number, a member is the only one with its number. -/
theorem filter_of_mem {number : α → Nat} {l : List α} {a : α} (hnumbers : (l.map number).Nodup)
    (h : a ∈ l) : l.filter (number · == number a) = [a] := by
  obtain ⟨before, after, rfl⟩ := List.append_of_mem h
  rw [List.map_append, List.map_cons, List.nodup_append, List.nodup_cons] at hnumbers
  obtain ⟨-, ⟨hafter, -⟩, hbefore⟩ := hnumbers
  have hleft : before.filter (number · == number a) = [] := by
    refine List.filter_eq_nil_iff.2 fun x hx => ?_
    have := hbefore (number x) (List.mem_map_of_mem hx) (number a) (by simp)
    simpa using this
  have hright : after.filter (number · == number a) = [] := by
    refine List.filter_eq_nil_iff.2 fun x hx heq => hafter ?_
    exact List.mem_map.2 ⟨x, hx, by simpa using heq⟩
  rw [List.filter_append, List.filter_cons_of_pos (by simp), hleft, hright, List.nil_append]

/-- A number is found as often as members have it. -/
theorem count_map_eq_length_filter (number : α → Nat) (l : List α) (n : Nat) :
    (l.map number).count n = (l.filter (number · == n)).length := by
  rw [List.count, List.countP_map, List.countP_eq_length_filter]
  rfl

/-- Where no two members have the same number, changing the one with a number leaves all others as
they are. -/
theorem perm_map_of_mem {number : α → Nat} {l : List α} {a : α} (change : α → α)
    (hnumbers : (l.map number).Nodup) (h : a ∈ l) :
    (l.map fun x => if number x == number a then change x else x).Perm
      (change a :: l.eraseP (number · == number a)) := by
  -- the members before and after have other numbers, so they stay as they are
  obtain ⟨before, after, rfl⟩ := List.append_of_mem h
  rw [List.map_append, List.map_cons, List.nodup_append, List.nodup_cons] at hnumbers
  obtain ⟨-, ⟨hafter, -⟩, hbefore⟩ := hnumbers
  have hother : ∀ x ∈ before, (number x == number a) = false := by
    intro x hx
    have := hbefore (number x) (List.mem_map_of_mem hx) (number a) (by simp)
    simpa using this
  have hbefore' : before.map (fun x => if number x == number a then change x else x) = before := by
    rw [List.map_congr_left (g := id), List.map_id]
    intro x hx
    simp [hother x hx]
  have hafter' : after.map (fun x => if number x == number a then change x else x) = after := by
    rw [List.map_congr_left (g := id), List.map_id]
    intro x hx
    have : number x ≠ number a := fun heq => hafter (heq ▸ List.mem_map_of_mem hx)
    simp [this]
  have herase : (before ++ a :: after).eraseP (number · == number a) = before ++ after := by
    rw [List.eraseP_append_right _ (by simpa using hother), List.eraseP_cons_of_pos (by simp)]
  rw [List.map_append, List.map_cons, hbefore', hafter', herase, if_pos (by simp)]
  exact List.perm_middle

/-- Where no two members give the same number, a number is given by one member. -/
theorem eq_of_nodup_filterMap {number : α → Option β} {l : List α} {a b : α} {n : β}
    (hnumbers : (l.filterMap number).Nodup) (ha : a ∈ l) (hb : b ∈ l) (hna : number a = some n)
    (hnb : number b = some n) : a = b := by
  -- of two members, the second would add the same number once more
  by_contra hne
  obtain ⟨before, after, rfl⟩ := List.append_of_mem ha
  rw [List.filterMap_append, List.filterMap_cons_some hna, List.nodup_append,
    List.nodup_cons] at hnumbers
  obtain ⟨-, ⟨hafter, -⟩, hbefore⟩ := hnumbers
  rcases List.mem_append.1 hb with hb | hb
  · have hmem := List.mem_filterMap.2 ⟨b, hb, hnb⟩
    exact hbefore n hmem n (List.mem_cons_self ..) rfl
  · rcases List.mem_cons.1 hb with rfl | hb
    · exact hne rfl
    · exact hafter (List.mem_filterMap.2 ⟨b, hb, hnb⟩)

/-- A key that `lookup` finds is found by the test for it. -/
theorem find?_of_lookup [BEq κ] [LawfulBEq κ] {l : List (κ × β)} {k : κ} {b : β}
    (h : l.lookup k = some b) : l.find? (·.1 == k) = some (k, b) := by
  obtain ⟨before, after, rfl, hbefore⟩ := List.lookup_eq_some_iff.1 h
  rw [List.find?_append, List.find?_eq_none.2, Option.none_or, List.find?_cons_of_pos (by simp)]
  intro x hx
  have := hbefore x hx
  simp only [bne_iff_ne, ne_eq] at this
  simpa using fun heq => this heq.symm

/-- `lookup` and `eraseP` of a key concern the same member. -/
theorem perm_cons_eraseP_of_lookup [BEq κ] [LawfulBEq κ] {l : List (κ × β)} {k : κ} {b : β}
    (h : l.lookup k = some b) : l.Perm ((k, b) :: l.eraseP (·.1 == k)) :=
  perm_cons_eraseP_of_find? (find?_of_lookup h)

/-- What `lookup` finds is in the list. -/
theorem mem_of_lookup [BEq κ] [LawfulBEq κ] {l : List (κ × β)} {k : κ} {b : β}
    (h : l.lookup k = some b) : (k, b) ∈ l :=
  List.mem_of_find?_eq_some (find?_of_lookup h)

/-- A key that `lookup` does not find is the key of no member. -/
theorem notMem_keys_of_lookup [BEq κ] [LawfulBEq κ] {l : List (κ × β)} {k : κ}
    (h : l.lookup k = none) : k ∉ l.map Prod.fst := by
  intro hk
  obtain ⟨x, hx, rfl⟩ := List.mem_map.1 hk
  simpa using List.lookup_eq_none_iff.1 h x hx

/-- `lookup` does not find the key of no member. -/
theorem lookup_of_notMem_keys [BEq κ] [LawfulBEq κ] {l : List (κ × β)} {k : κ}
    (h : k ∉ l.map Prod.fst) : l.lookup k = none := by
  refine List.lookup_eq_none_iff.2 fun x hx => ?_
  have hne : k ≠ x.1 := by
    rintro rfl
    exact h (List.mem_map_of_mem hx)
  simpa using hne

/-- `eraseP` of a key that is not found removes nothing. -/
theorem eraseP_of_lookup_none [BEq κ] [LawfulBEq κ] {l : List (κ × β)} {k : κ}
    (h : l.lookup k = none) : l.eraseP (·.1 == k) = l := by
  refine List.eraseP_of_forall_not fun x hx hk => ?_
  exact notMem_keys_of_lookup h (List.mem_map.2 ⟨x, hx, by simpa using hk⟩)

/-- Where no key occurs twice, `lookup` of a member's key finds the member. -/
theorem lookup_of_mem [BEq κ] [LawfulBEq κ] {l : List (κ × β)} {k : κ} {b : β}
    (hkeys : (l.map Prod.fst).Nodup) (h : (k, b) ∈ l) : l.lookup k = some b := by
  obtain ⟨before, after, rfl⟩ := List.append_of_mem h
  refine List.lookup_eq_some_iff.2 ⟨before, after, rfl, fun x hx => ?_⟩
  rw [List.map_append, List.map_cons, List.nodup_append] at hkeys
  have := hkeys.2.2 x.1 (List.mem_map_of_mem hx) k (by simp)
  simpa using fun heq => this heq.symm

/-- Removing a key leaves what other keys find. -/
theorem lookup_eraseP_of_ne [BEq κ] [LawfulBEq κ] (l : List (κ × β)) {k other : κ}
    (hne : k ≠ other) : (l.eraseP (·.1 == other)).lookup k = l.lookup k := by
  induction l with
  | nil => rfl
  | cons x l ih =>
    by_cases hother : x.1 = other
    · have hmiss : (k == x.1) = false := by simpa [hother] using hne
      rw [List.eraseP_cons_of_pos (by simpa using hother), List.lookup_cons, hmiss]
    · rw [List.eraseP_cons_of_neg (by simpa using hother), List.lookup_cons, List.lookup_cons, ih]

/-- Changing what a key finds leaves what other keys find. -/
theorem lookup_map_update_of_ne [BEq κ] [LawfulBEq κ] (l : List (κ × β)) {k other : κ}
    (hne : k ≠ other) (b : β) :
    (l.map fun (known, old) => (known, if known == other then b else old)).lookup k =
      l.lookup k := by
  induction l with
  | nil => rfl
  | cons x l ih =>
    obtain ⟨known, old⟩ := x
    rw [List.map_cons, List.lookup_cons, List.lookup_cons, ih]
    by_cases hknown : known = other
    · have hmiss : (k == known) = false := by simpa [hknown] using hne
      rw [hmiss]
    · rw [if_neg (by simpa using hknown)]

/-- What was changed under a key is found there. -/
theorem lookup_map_update [BEq κ] [LawfulBEq κ] (l : List (κ × β)) (k : κ) (b : β) :
    (l.map fun (other, old) => (other, if other == k then b else old)).lookup k =
      (l.lookup k).map fun _ => b := by
  -- the first pair with the key is the one that is found, before and after
  induction l with
  | nil => rfl
  | cons x l ih =>
    obtain ⟨other, old⟩ := x
    by_cases hother : other = k
    · subst hother
      simp
    · have hne : (k == other) = false := by simpa using Ne.symm hother
      simpa [List.lookup_cons, hne] using ih

/-- Setting one member of a list of lists changes only its own part of what is collected. -/
theorem exists_perm_flatMap_set {f : α → List β} {l : List α} {i : Nat} {a : α}
    (h : l[i]? = some a) :
    ∃ others, (l.flatMap f).Perm (f a ++ others) ∧
      ∀ b, ((l.set i b).flatMap f).Perm (f b ++ others) := by
  -- the others are the lists of all members but the one at the index
  obtain ⟨hlt, rfl⟩ := List.getElem?_eq_some_iff.1 h
  refine ⟨(l.take i).flatMap f ++ (l.drop (i + 1)).flatMap f, ?_, fun b => ?_⟩
  · have hsplit := (List.take_append_drop i l).symm
    rw [List.drop_eq_getElem_cons hlt] at hsplit
    have hflat := congrArg (List.flatMap f) hsplit
    rw [List.flatMap_append, List.flatMap_cons] at hflat
    rw [hflat, ← List.append_assoc, ← List.append_assoc]
    exact List.perm_append_comm.append_right _
  · rw [List.set_eq_take_append_cons_drop, if_pos hlt, List.flatMap_append, List.flatMap_cons,
      ← List.append_assoc, ← List.append_assoc]
    exact List.perm_append_comm.append_right _

/-! ## Sums of which one term is left -/

/-- Where all terms but the last are zero, the sum is no more than one of them may be. -/
theorem sum_map_le_of_pairwise {f : α → Nat} {bound : Nat} {l : List α}
    (hzero : l.Pairwise fun a _ => f a = 0) (hbound : ∀ a ∈ l, f a ≤ bound) :
    (l.map f).sum ≤ bound := by
  induction l with
  | nil => exact Nat.zero_le bound
  | cons a rest ih =>
    obtain ⟨hhead, htail⟩ := List.pairwise_cons.1 hzero
    have hrest := ih htail fun b hb => hbound b (List.mem_cons_of_mem _ hb)
    rw [List.map_cons, List.sum_cons]
    cases rest with
    | nil => simpa using hbound a List.mem_cons_self
    | cons b rest =>
      rw [hhead b List.mem_cons_self, Nat.zero_add]
      exact hrest

/-! ## Numbers given out in order -/

/-- `Numbered next numbers`: numbers given out in order, of which some were given back. No two are
alike, and `next` is not among them. -/
structure Numbered (next : Nat) (numbers : List Nat) : Prop where
  /-- No number is given out twice. -/
  nodup : numbers.Nodup
  /-- Every number was given out before the next one. -/
  lt : ∀ number ∈ numbers, number < next

namespace Numbered

variable {next : Nat} {numbers fewer : List Nat}

/-- At first no number is given out. -/
theorem nil (next : Nat) : Numbered next [] := ⟨List.nodup_nil, by simp⟩

/-- Numbers may be given back, and listed in another order. -/
theorem of_subperm (h : Numbered next numbers) (hsub : fewer.Subperm numbers) :
    Numbered next fewer := by
  obtain ⟨listed, hperm, hsublist⟩ := hsub
  exact ⟨hperm.nodup_iff.1 (h.nodup.sublist hsublist),
    fun number hnumber => h.lt number (hsublist.subset (hperm.mem_iff.2 hnumber))⟩

/-- Numbers may be listed in another order. -/
theorem of_perm (h : Numbered next numbers) (hperm : fewer.Perm numbers) : Numbered next fewer :=
  h.of_subperm hperm.subperm

/-- The next `count` numbers may be given out. -/
theorem append_range' (h : Numbered next numbers) (count : Nat) :
    Numbered (next + count) (numbers ++ List.range' next count) := by
  refine ⟨List.nodup_append.2 ⟨h.nodup, List.nodup_range', ?_⟩, ?_⟩
  · intro a ha b hb
    have := h.lt a ha
    have := List.mem_range'_1.1 hb
    omega
  · intro number hnumber
    obtain hnumber | hnumber := List.mem_append.1 hnumber
    · have := h.lt number hnumber
      omega
    · exact (List.mem_range'_1.1 hnumber).2

/-- The next number may be given out. -/
theorem append_next (h : Numbered next numbers) : Numbered (next + 1) (numbers ++ [next]) :=
  h.append_range' 1

end Numbered

end ConnectionPool
