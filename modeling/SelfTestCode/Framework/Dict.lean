import Mathlib.Data.List.AList
import Mathlib.Data.Multiset.Bind

/-!
# Dictionaries and the multiset of their values

A dictionary is Mathlib's `AList` with a constant value type: a list of entries with distinct
keys.  What a table *contains*, as opposed to how it is keyed, is the multiset `Dict.vals` of
its values; for a dictionary of lists it is the multiset `Dict.items` of everything in them.
The equations below say how the two views change under `insert` and `erase`, with the entry
that was there split off, so that a sum or a duplicate-freeness over the contents is handled
by `Multiset` arithmetic.

The order of the entries is the order in which an iteration visits them.  Neither view depends
on it.
-/

namespace SelfTestCode

/-- A finite map from `κ` to `α`. -/
abbrev Dict (κ : Type*) (α : Type*) := AList (fun _ : κ => α)

namespace Dict

variable {κ α : Type*}

/-- The values of a dictionary, with multiplicity. -/
def vals (d : Dict κ α) : Multiset α := ↑(d.entries.map Sigma.snd)

@[simp] lemma vals_empty : vals (∅ : Dict κ α) = 0 := rfl

/-- Everything in the lists of a dictionary of lists, with multiplicity. -/
def items (d : Dict κ (List α)) : Multiset α := (vals d).bind fun l => (l : Multiset α)

@[simp] lemma items_empty : items (∅ : Dict κ (List α)) = 0 := rfl

variable [DecidableEq κ]

/-- `dictAdd`: a key that is present keeps its value. -/
def add (k : κ) (v : α) (d : Dict κ α) : Dict κ α :=
  if k ∈ d then d else d.insert k v

/-- The entry found under `k` splits off, leaving the dictionary without `k`. -/
lemma vals_of_lookup {d : Dict κ α} {k : κ} {v : α} (h : d.lookup k = some v) :
    vals d = v ::ₘ vals (d.erase k) := by
  have hmem : k ∈ d.entries.keys := by
    have : (d.lookup k).isSome := by simp [h]
    exact AList.lookup_isSome.mp this
  obtain ⟨b, l₁, l₂, hnot, hl, he⟩ := List.exists_of_kerase hmem
  have hb : b = v := by
    have : (⟨k, b⟩ : Sigma fun _ : κ => α) ∈ d.entries := by rw [hl]; simp
    have hlook : d.lookup k = some b := AList.mem_lookup_iff.mpr this
    rw [h] at hlook
    exact (Option.some.inj hlook).symm
  subst hb
  have herase : (d.erase k).entries = l₁ ++ l₂ := he
  simp only [vals, hl, herase, List.map_append, List.map_cons, Multiset.cons_coe]
  exact Multiset.coe_eq_coe.mpr List.perm_middle

@[simp] lemma vals_insert (d : Dict κ α) (k : κ) (v : α) :
    vals (d.insert k v) = v ::ₘ vals (d.erase k) := rfl

lemma erase_of_lookup_none {d : Dict κ α} {k : κ} (h : d.lookup k = none) : d.erase k = d := by
  apply AList.ext
  exact List.kerase_of_notMem_keys (AList.lookup_eq_none.mp h)

/-- A value is in the dictionary exactly when some key finds it. -/
lemma mem_vals {d : Dict κ α} {v : α} : v ∈ vals d ↔ ∃ k, d.lookup k = some v := by
  simp only [vals, Multiset.mem_coe, List.mem_map, Sigma.exists]
  constructor
  · rintro ⟨k, b, hmem, rfl⟩
    exact ⟨k, AList.mem_lookup_iff.mpr hmem⟩
  · rintro ⟨k, hk⟩
    exact ⟨k, v, AList.mem_lookup_iff.mp hk, rfl⟩

lemma lookup_insert_if (d : Dict κ α) (k k' : κ) (v : α) :
    (d.insert k v).lookup k' = if k' = k then some v else d.lookup k' := by
  by_cases h : k' = k
  · subst h; simp
  · rw [if_neg h]; exact AList.lookup_insert_ne h

lemma lookup_erase_if (d : Dict κ α) (k k' : κ) :
    (d.erase k).lookup k' = if k' = k then none else d.lookup k' := by
  by_cases h : k' = k
  · subst h; simp
  · rw [if_neg h]; exact AList.lookup_erase_ne h

/-! ## Dictionaries of lists -/

@[simp] lemma items_insert (d : Dict κ (List α)) (k : κ) (l : List α) :
    items (d.insert k l) = (l : Multiset α) + items (d.erase k) := by
  simp [items]

lemma items_of_lookup {d : Dict κ (List α)} {k : κ} {l : List α} (h : d.lookup k = some l) :
    items d = (l : Multiset α) + items (d.erase k) := by
  simp [items, vals_of_lookup h]

/-- The same, with a missing list read as the empty one. -/
lemma items_getD (d : Dict κ (List α)) (k : κ) :
    items d = ((d.lookup k).getD [] : Multiset α) + items (d.erase k) := by
  cases h : d.lookup k with
  | none => simp [erase_of_lookup_none h]
  | some l => simpa using items_of_lookup h

lemma mem_items {d : Dict κ (List α)} {a : α} :
    a ∈ items d ↔ ∃ k l, d.lookup k = some l ∧ a ∈ l := by
  simp only [items, Multiset.mem_bind, mem_vals, Multiset.mem_coe]
  constructor
  · rintro ⟨l, ⟨k, hk⟩, ha⟩
    exact ⟨k, l, hk, ha⟩
  · rintro ⟨k, l, hk, ha⟩
    exact ⟨l, ⟨k, hk⟩, ha⟩

/-- The element a search finds splits off the list. -/
lemma coe_of_find? {p : α → Bool} {l : List α} {a : α} (h : l.find? p = some a) :
    (l : Multiset α) = a ::ₘ (l.eraseP p : Multiset α) := by
  obtain ⟨hpa, l₁, l₂, rfl, hl₁⟩ := List.find?_eq_some_iff_append.mp h
  have hnone : ∀ b ∈ l₁, ¬ p b = true := fun b hb => by simpa using hl₁ b hb
  rw [List.eraseP_append_right _ hnone, List.eraseP_cons_of_pos hpa, Multiset.cons_coe]
  exact Multiset.coe_eq_coe.mpr List.perm_middle

end Dict

end SelfTestCode
