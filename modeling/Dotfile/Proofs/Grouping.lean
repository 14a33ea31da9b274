/-
Lists without repetitions, and lists grouped by a key.

Both keep the order of first appearance.  Grouping goes item by item, and finds
the group of an item through an index; what comes out can be said without that:

* `eraseDups_concat`, `nodup_eraseDups` — an item that comes again is left out,
  and a new one comes last;
* `firstAppearances_filter` — so the items with a property are left in the order
  in which they first appear;
* `Indexed`, `Indexed.add`, `indexed_ofList` — the index says where the group of
  each key stands, which one more item does not change;
* `groupBy_eq` — the groups are those of the different keys in order, and the
  group of a key holds the items with that key in order;
* `countP_groupBy` — so counting groups counts keys;
* `groupBy_stable` — so each item is in one group, and no group is empty.
-/
import Dotfile.Lint.Group
import Mathlib.Data.Finset.Card

namespace Dotfile

variable {α κ : Type} [DecidableEq κ]

/-! ### First appearances -/

/-- An item that comes again is left out, and a new one comes last. -/
theorem eraseDups_concat (ks : List κ) (k : κ) :
    (ks ++ [k]).eraseDups = if k ∈ ks then ks.eraseDups else ks.eraseDups ++ [k] := by
  rw [List.eraseDups_append]
  by_cases h : k ∈ ks
  · simp [h, List.removeAll]
  · simp [h, List.removeAll, List.eraseDups_cons]

theorem nodup_eraseDups (ks : List κ) : ks.eraseDups.Nodup := by
  induction ks using List.reverseRecOn with
  | nil => exact List.nodup_nil
  | append_singleton ks k ih =>
    rw [eraseDups_concat]
    split
    · exact ih
    · rename_i hk
      rw [← List.concat_eq_append]
      exact ih.concat (by rwa [List.mem_eraseDups])

theorem countP_eraseDups (p : κ → Bool) (ks : List κ) :
    ks.eraseDups.countP p = (ks.toFinset.filter fun k => p k = true).card := by
  have hset : ks.toFinset.filter (fun k => p k = true) = (ks.eraseDups.filter p).toFinset := by
    ext k
    simp
  rw [hset, List.toFinset_card_of_nodup ((nodup_eraseDups ks).filter p),
    List.countP_eq_length_filter]

/-- Leaving out repetitions commutes with leaving out items. -/
theorem eraseDups_filter (ks : List κ) (q : κ → Bool) :
    (ks.filter q).eraseDups = ks.eraseDups.filter q := by
  induction ks using List.reverseRecOn with
  | nil => rfl
  | append_singleton ks k ih =>
    rw [List.filter_append, eraseDups_concat]
    by_cases hq : q k = true
    · have hone : [k].filter q = [k] := List.filter_cons_of_pos hq
      have hmem : k ∈ ks.filter q ↔ k ∈ ks := by simp [hq]
      rw [hone, eraseDups_concat, ih]
      by_cases hk : k ∈ ks
      · rw [if_pos hk, if_pos (hmem.mpr hk)]
      · rw [if_neg hk, if_neg (mt hmem.mp hk), List.filter_append, hone]
    · have hnone : [k].filter q = [] := List.filter_cons_of_neg hq
      rw [hnone, List.append_nil, ih]
      split
      · rfl
      · rw [List.filter_append, hnone, List.append_nil]

theorem pairwise_idxOf_eraseDups (ks : List κ) :
    ks.eraseDups.Pairwise fun j k => ks.idxOf j < ks.idxOf k := by
  induction ks using List.reverseRecOn with
  | nil => exact .nil
  | append_singleton ks k ih =>
    -- an item that was there before is found where it was before
    have hold : ∀ j ∈ ks.eraseDups, (ks ++ [k]).idxOf j = ks.idxOf j :=
      fun j hj => List.idxOf_append_of_mem (List.mem_eraseDups.mp hj)
    have hpairs : ks.eraseDups.Pairwise fun i j => (ks ++ [k]).idxOf i < (ks ++ [k]).idxOf j := by
      refine ih.imp_of_mem ?_
      intro i j hi hj hlt
      rw [hold i hi, hold j hj]
      exact hlt
    rw [eraseDups_concat]
    split
    · exact hpairs
    · rename_i hk
      refine List.pairwise_append.mpr ⟨hpairs, List.pairwise_singleton _ _, ?_⟩
      intro j hj i hi
      obtain rfl := List.mem_singleton.mp hi
      have hlt : ks.idxOf j < ks.length := List.idxOf_lt_length_of_mem (List.mem_eraseDups.mp hj)
      rw [hold j hj, List.idxOf_append_of_notMem hk]
      omega

/-- Are `firsts` the items of `ks` with the property `p`, each of them once, in
the order in which they first appear in `ks`? -/
structure FirstAppearances (ks : List κ) (p : κ → Prop) (firsts : List κ) : Prop where
  mem_iff : ∀ k, k ∈ firsts ↔ k ∈ ks ∧ p k
  pairwise : firsts.Pairwise fun j k => ks.idxOf j < ks.idxOf k

theorem firstAppearances_filter {ks : List κ} {p : κ → Prop} {q : κ → Bool}
    (h : ∀ k ∈ ks, q k = true ↔ p k) : FirstAppearances ks p (ks.eraseDups.filter q) := by
  refine ⟨?_, (pairwise_idxOf_eraseDups ks).filter q⟩
  intro k
  rw [List.mem_filter, List.mem_eraseDups]
  exact and_congr_right (h k)

/-! ### Groups -/

namespace Lint

namespace Grouping

/-- The keys of the groups, in order. -/
def keys (g : Grouping α κ) : List κ :=
  g.groups.map Prod.fst

/-- Does the index say for each key where its group stands, and for no other? -/
def Indexed (g : Grouping α κ) : Prop :=
  ∀ k i, g.index.lookup k = some i ↔ g.keys[i]? = some k

theorem indexed_empty : (empty : Grouping α κ).Indexed := by
  intro k i
  simp [empty, keys]

variable {g : Grouping α κ}

theorem Indexed.lookup_eq_none_iff (h : g.Indexed) (k : κ) :
    g.index.lookup k = none ↔ k ∉ g.keys := by
  rw [List.mem_iff_getElem?, Option.eq_none_iff_forall_ne_some]
  simp only [ne_eq, h k, not_exists]

theorem Indexed.mem_keys (h : g.Indexed) {k : κ} {i : Nat} (hlookup : g.index.lookup k = some i) :
    k ∈ g.keys :=
  List.mem_iff_getElem?.mpr ⟨i, (h k i).mp hlookup⟩

theorem add_of_lookup_eq_some {k : κ} {i : Nat} (h : g.index.lookup k = some i) (a : α) :
    g.add k a =
      ⟨g.index, g.groups.modify i fun group => (group.1, group.2 ++ [a])⟩ := by
  rw [add, h]

theorem add_of_lookup_eq_none {k : κ} (h : g.index.lookup k = none) (a : α) :
    g.add k a = ⟨(k, g.groups.length) :: g.index, g.groups ++ [(k, [a])]⟩ := by
  rw [add, h]

/-- An item comes last in the one group of its key, or makes a group at the end. -/
theorem Indexed.groups_add (h : g.Indexed) (k : κ) (a : α) :
    (g.add k a).groups =
      if k ∈ g.keys then
        g.groups.map fun group => if group.1 = k then (group.1, group.2 ++ [a]) else group
      else g.groups ++ [(k, [a])] := by
  cases hlookup : g.index.lookup k with
  | none =>
    rw [add_of_lookup_eq_none hlookup, if_neg ((h.lookup_eq_none_iff k).mp hlookup)]
  | some i =>
    rw [add_of_lookup_eq_some hlookup, if_pos (h.mem_keys hlookup)]
    apply List.ext_getElem?
    intro j
    simp only [List.getElem?_map, List.getElem?_modify]
    cases hgroup : g.groups[j]? with
    | none => rfl
    | some group =>
      -- the group at `j` has the key exactly if the index says so
      have hkey : group.1 = k ↔ i = j := by
        have hj : g.keys[j]? = some group.1 := by simp [keys, hgroup]
        constructor
        · rintro rfl
          exact Option.some.inj (hlookup.symm.trans ((h group.1 j).mpr hj))
        · rintro rfl
          exact Option.some.inj (hj.symm.trans ((h k i).mp hlookup))
      simp [hkey]

/-- A key that has a group already keeps its place, and a new one comes last. -/
theorem Indexed.keys_add (h : g.Indexed) (k : κ) (a : α) :
    (g.add k a).keys = if k ∈ g.keys then g.keys else g.keys ++ [k] := by
  rw [keys, h.groups_add]
  split
  · rw [List.map_map, keys]
    apply List.map_congr_left
    intro group _
    by_cases hkey : group.1 = k
    · simp [hkey]
    · simp [hkey]
  · rw [List.map_append]
    rfl

/-- **Step**: the index stays in step with the groups. -/
theorem Indexed.add (h : g.Indexed) (k : κ) (a : α) : (g.add k a).Indexed := by
  intro j i
  rw [h.keys_add]
  cases hlookup : g.index.lookup k with
  | some n =>
    rw [add_of_lookup_eq_some hlookup, if_pos (h.mem_keys hlookup)]
    exact h j i
  | none =>
    have hk : k ∉ g.keys := (h.lookup_eq_none_iff k).mp hlookup
    have hlength : g.groups.length = g.keys.length := by simp [keys]
    rw [add_of_lookup_eq_none hlookup, if_neg hk, List.lookup_cons]
    by_cases hjk : j = k
    · -- the new key stands behind all others, and nowhere else
      subst hjk
      simp only [beq_self_eq_true, Option.some_inj, hlength]
      rcases lt_trichotomy i g.keys.length with hi | hi | hi
      · have hne : g.keys[i]? ≠ some j := fun hget => hk (List.mem_iff_getElem?.mpr ⟨i, hget⟩)
        rw [List.getElem?_append_left hi]
        exact iff_of_false (by omega) hne
      · simp [hi]
      · have hnone : (g.keys ++ [j])[i]? = none := by simp; omega
        rw [hnone]
        exact iff_of_false (by omega) (by simp)
    · rw [beq_false_of_ne hjk, h j i]
      by_cases hi : i < g.keys.length
      · rw [List.getElem?_append_left hi]
      · have hnone : g.keys[i]? = none := List.getElem?_eq_none (by omega)
        rw [hnone, List.getElem?_append_right (by omega)]
        simp [List.getElem?_singleton, Ne.symm hjk]

theorem ofList_concat (key : α → κ) (items : List α) (a : α) :
    ofList key (items ++ [a]) = (ofList key items).add (key a) a := by
  rw [ofList, List.foldl_append]
  rfl

/-- **Run**: the index is in step with the groups whatever was put into them. -/
theorem indexed_ofList (key : α → κ) (items : List α) : (ofList key items).Indexed := by
  induction items using List.reverseRecOn with
  | nil => exact indexed_empty
  | append_singleton items a ih =>
    rw [ofList_concat]
    exact ih.add (key a) a

theorem keys_ofList (key : α → κ) (items : List α) :
    (ofList key items).keys = (items.map key).eraseDups := by
  induction items using List.reverseRecOn with
  | nil => rfl
  | append_singleton items a ih =>
    rw [ofList_concat, (indexed_ofList key items).keys_add, ih, List.map_append, List.map_singleton,
      eraseDups_concat]
    simp only [List.mem_eraseDups]

end Grouping

theorem groupBy_concat (key : α → κ) (items : List α) (a : α) :
    groupBy key (items ++ [a]) =
      if key a ∈ items.map key then
        (groupBy key items).map fun group =>
          if group.1 = key a then (group.1, group.2 ++ [a]) else group
      else groupBy key items ++ [(key a, [a])] := by
  rw [groupBy, Grouping.ofList_concat, (Grouping.indexed_ofList key items).groups_add,
    Grouping.keys_ofList]
  simp only [List.mem_eraseDups]
  rfl

/-- **Groups**: one for each key, in order of first appearance, with the items
of that key in their order. -/
theorem groupBy_eq (key : α → κ) (items : List α) :
    groupBy key items =
      (items.map key).eraseDups.map fun k => (k, items.filter fun a => key a = k) := by
  induction items using List.reverseRecOn with
  | nil => rfl
  | append_singleton items a ih =>
    rw [groupBy_concat, ih, List.map_append, List.map_singleton, eraseDups_concat]
    have hold : ∀ k, key a ≠ k →
        (items ++ [a]).filter (fun b => key b = k) = items.filter fun b => key b = k := by
      intro k hk
      simp [List.filter_append, hk]
    have hnew : (items ++ [a]).filter (fun b => key b = key a) =
        (items.filter fun b => key b = key a) ++ [a] := by
      simp [List.filter_append]
    by_cases ha : key a ∈ items.map key
    · rw [if_pos ha, if_pos ha, List.map_map]
      apply List.map_congr_left
      intro k _
      by_cases hk : k = key a
      · simp only [Function.comp_apply, if_pos hk]
        rw [hk, hnew]
      · simp only [Function.comp_apply, if_neg hk]
        rw [hold k (Ne.symm hk)]
    · rw [if_neg ha, if_neg ha, List.map_append, List.map_singleton, hnew]
      have hnone : items.filter (fun b => key b = key a) = [] := by
        rw [List.filter_eq_nil_iff]
        intro b hb hkey
        exact ha (List.mem_map.mpr ⟨b, hb, by simpa using hkey⟩)
      rw [hnone]
      congr 1
      apply List.map_congr_left
      intro k hk
      have hne : key a ≠ k := by
        rintro rfl
        exact ha (List.mem_eraseDups.mp hk)
      rw [hold k hne]

/-- Counting groups counts the keys whose items are such. -/
theorem countP_groupBy (key : α → κ) (items : List α) (p : List α → Bool) :
    (groupBy key items).countP (fun g => p g.2) =
      ((items.map key).toFinset.filter fun k => p (items.filter fun a => key a = k) = true).card := by
  rw [groupBy_eq, List.countP_map]
  exact countP_eraseDups (fun k => p (items.filter fun a => key a = k)) (items.map key)

/-! ### Every item in its group -/

theorem mem_groupBy_iff (key : α → κ) (items : List α) (k : κ) (group : List α) :
    (k, group) ∈ groupBy key items ↔
      k ∈ items.map key ∧ group = items.filter fun a => key a = k := by
  rw [groupBy_eq, List.mem_map]
  constructor
  · rintro ⟨j, hj, hpair⟩
    obtain ⟨rfl, rfl⟩ := Prod.mk.inj hpair
    exact ⟨List.mem_eraseDups.mp hj, rfl⟩
  · rintro ⟨hk, rfl⟩
    exact ⟨k, List.mem_eraseDups.mpr hk, rfl⟩

/-- Going through different keys, and through the items of each, meets every item
that has one of the keys once. -/
theorem perm_flatMap_filter (key : α → κ) (items : List α) {ks : List κ} (hnodup : ks.Nodup) :
    (ks.flatMap fun k => items.filter fun a => key a = k).Perm
      (items.filter fun a => key a ∈ ks) := by
  induction ks with
  | nil => simp
  | cons k ks ih =>
    obtain ⟨hk, hks⟩ := List.nodup_cons.mp hnodup
    -- the items with a key of the longer list are those with the first key and the others
    have hfirst : (items.filter fun a => key a ∈ k :: ks).filter (fun a => key a = k) =
        items.filter fun a => key a = k := by
      rw [List.filter_filter]
      apply List.filter_congr
      intro a _
      by_cases ha : key a = k
      · simp [ha]
      · simp [ha]
    have hothers : (items.filter fun a => key a ∈ k :: ks).filter (fun a => !decide (key a = k)) =
        items.filter fun a => key a ∈ ks := by
      rw [List.filter_filter]
      apply List.filter_congr
      intro a _
      by_cases ha : key a = k
      · simp [ha, hk]
      · simp [ha]
    have hparts := List.filter_append_perm (fun a => decide (key a = k))
      (items.filter fun a => key a ∈ k :: ks)
    rw [hfirst, hothers] at hparts
    rw [List.flatMap_cons]
    exact ((ih hks).append_left _).trans hparts

theorem perm_flatMap_groupBy (key : α → κ) (items : List α) :
    ((groupBy key items).flatMap Prod.snd).Perm items := by
  have hall : items.filter (fun a => key a ∈ (items.map key).eraseDups) = items := by
    rw [List.filter_eq_self]
    intro a ha
    simpa using ⟨a, ha, rfl⟩
  have hperm := perm_flatMap_filter key items (nodup_eraseDups (items.map key))
  rw [hall] at hperm
  rw [groupBy_eq, List.flatMap_map]
  exact hperm

/-- **Grouping is stable.**  The keys of the groups are those of the items, each
once and in the order in which they first appear.  The group of a key holds the
items with that key in the order of the list, so it is not empty, every item is
in the one group of its key, and no item is lost or doubled.  After any number
of the items, the position that the index has for a key is that of the group of
the key, and the index has one for every group. -/
theorem groupBy_stable (key : α → κ) (items : List α) :
    (∃ keys : List κ, FirstAppearances (items.map key) (fun _ => True) keys ∧ keys.Nodup ∧
      groupBy key items = keys.map fun k => (k, items.filter fun a => key a = k)) ∧
    (∀ a ∈ items, ∃! group, group ∈ groupBy key items ∧ a ∈ group.2) ∧
    ((groupBy key items).flatMap Prod.snd).Perm items ∧
    (∀ group ∈ groupBy key items, group.2 ≠ []) ∧
    ∀ seen, seen <+: items → ∀ k i,
      (Grouping.ofList key seen).index.lookup k = some i ↔
        ∃ group, (Grouping.ofList key seen).groups[i]? = some (k, group) := by
  have hfirst : FirstAppearances (items.map key) (fun _ => True)
      ((items.map key).eraseDups.filter fun _ => true) := firstAppearances_filter (by simp)
  rw [List.filter_true] at hfirst
  refine ⟨⟨(items.map key).eraseDups, hfirst, nodup_eraseDups _, groupBy_eq key items⟩, ?_,
    perm_flatMap_groupBy key items, ?_, ?_⟩
  · intro a ha
    refine ⟨(key a, items.filter fun b => key b = key a), ⟨?_, ?_⟩, ?_⟩
    · exact (mem_groupBy_iff key items _ _).mpr ⟨List.mem_map_of_mem ha, rfl⟩
    · simpa using ha
    · rintro ⟨k, group⟩ ⟨hgroup, hmem⟩
      obtain ⟨-, rfl⟩ := (mem_groupBy_iff key items k group).mp hgroup
      obtain rfl : key a = k := by simpa using (List.mem_filter.mp hmem).2
      rfl
  · rintro ⟨k, group⟩ hgroup
    obtain ⟨hk, rfl⟩ := (mem_groupBy_iff key items k group).mp hgroup
    obtain ⟨a, ha, rfl⟩ := List.mem_map.mp hk
    exact List.ne_nil_of_mem (a := a) (by simpa using ha)
  · intro seen _ k i
    rw [Grouping.indexed_ofList key seen k i, Grouping.keys, List.getElem?_map]
    simp

/-- Five numbers by their remainder; after three of them, the group of 2 stands
at position 1. -/
theorem groupBy_stable_sample :
    groupBy (· % 3) [4, 2, 7, 3, 5] = [(1, [4, 7]), (2, [2, 5]), (0, [3])] ∧
    (∃! group, group ∈ groupBy (· % 3) [4, 2, 7, 3, 5] ∧ 5 ∈ group.2) ∧
    [4, 2, 7] <+: [4, 2, 7, 3, 5] ∧
    (Grouping.ofList (· % 3) [4, 2, 7]).index.lookup 2 = some 1 := by
  obtain ⟨-, hone, -, -, hindex⟩ := groupBy_stable (· % 3) [4, 2, 7, 3, 5]
  have hseen : [4, 2, 7] <+: [4, 2, 7, 3, 5] := ⟨[3, 5], rfl⟩
  exact ⟨rfl, hone 5 (by simp), hseen, (hindex _ hseen 2 1).mpr ⟨[2], rfl⟩⟩

end Lint

end Dotfile
