import ObjectAssembly.Resources

/-!
# Cells — what a container holds under its keys

An operation on one key changes the cell of that key and no other.
-/

namespace ObjectAssembly

/-! ### Entries -/

section Entries

variable {κ : Type} {α : Type} [DecidableEq κ] {k k' : κ} {c : α} {entries : List (κ × α)}

theorem findEntry_putEntry_self : findEntry k (putEntry k c entries) = some c := by
  induction entries with
  | nil => exact if_pos rfl
  | cons e rest ih =>
    rw [putEntry]
    by_cases he : e.1 = k
    · rw [if_pos he]
      exact if_pos rfl
    · rw [if_neg he, findEntry, if_neg he, ih]

theorem findEntry_putEntry_of_ne (hk : k ≠ k') :
    findEntry k' (putEntry k c entries) = findEntry k' entries := by
  induction entries with
  | nil => exact if_neg hk
  | cons e rest ih =>
    rw [putEntry]
    by_cases he : e.1 = k
    · have hne : ¬ e.1 = k' := fun h => hk (he.symm.trans h)
      rw [if_pos he, findEntry, findEntry, if_neg hk, if_neg hne]
    · rw [if_neg he, findEntry, findEntry, ih]

theorem mem_keys_iff : k ∈ entries.map (·.1) ↔ (findEntry k entries).isSome := by
  induction entries with
  | nil => simp [findEntry]
  | cons e rest ih =>
    rw [List.map_cons, List.mem_cons, ih, findEntry]
    by_cases he : e.1 = k
    · simp [he]
    · simp [he, Ne.symm he]

theorem findEntry_dropEntry_self : findEntry k (dropEntry k entries) = none := by
  induction entries with
  | nil => rfl
  | cons e rest ih =>
    by_cases he : e.1 = k
    · rw [dropEntry, List.filter_cons_of_neg (by simp [he])]
      exact ih
    · rw [dropEntry, List.filter_cons_of_pos (by simp [he]), findEntry, if_neg he]
      exact ih

theorem findEntry_dropEntry_of_ne (hk : k ≠ k') :
    findEntry k' (dropEntry k entries) = findEntry k' entries := by
  induction entries with
  | nil => rfl
  | cons e rest ih =>
    by_cases he : e.1 = k
    · have hne : ¬ e.1 = k' := fun h => hk (he.symm.trans h)
      rw [dropEntry, List.filter_cons_of_neg (by simp [he]), findEntry, if_neg hne]
      exact ih
    · rw [dropEntry, List.filter_cons_of_pos (by simp [he]), findEntry, findEntry]
      exact congrArg _ ih

end Entries

/-! ### Cells -/

namespace Resources

variable {κ : Type} {V : κ → Type} [DecidableEq κ] {k k' : κ} {cell : Cell (V k)} {v : V k}
  {e : Cell (Boxed κ V)} {r r' : Resources κ V}

theorem cell?_of_stored? (h : r.stored? k = some e) :
    r.cell? k = some ⟨e.value.unbox (r.key_of_stored? h), e.lock⟩ := by
  unfold cell?
  split
  · next hnone =>
    rw [h] at hnone
    cases hnone
  · next e' hsome =>
    cases h.symm.trans hsome
    rfl

theorem cell?_eq_none_iff : r.cell? k = none ↔ r.stored? k = none := by
  cases h : r.stored? k with
  | none =>
    unfold cell?
    split
    · simp
    · next hsome =>
      rw [h] at hsome
      cases hsome
  | some e => simp [cell?_of_stored? h]

theorem cell?_congr (h : r'.stored? k = r.stored? k) : r'.cell? k = r.cell? k := by
  cases he : r.stored? k with
  | none => rw [cell?_eq_none_iff.mpr he, cell?_eq_none_iff.mpr (h.trans he)]
  | some e => rw [cell?_of_stored? he, cell?_of_stored? (h.trans he)]

/-- A value comes out of its box as what it is. -/
theorem downcast?_stored? : (r.stored? k).bind (·.value.downcast? k) = r.value? k := by
  cases h : r.stored? k with
  | none => rw [value?, cell?_eq_none_iff.mpr h]; rfl
  | some e =>
    rw [value?, cell?_of_stored? h]
    exact Boxed.downcast?_eq_some (r.key_of_stored? h)

@[simp]
theorem cell?_setCell_self : (r.setCell k cell).cell? k = some cell := by
  have hentry : (r.setCell k cell).stored? k = some ⟨⟨k, cell.value⟩, cell.lock⟩ :=
    findEntry_putEntry_self
  exact cell?_of_stored? hentry

theorem cell?_setCell_of_ne (hk : k ≠ k') : (r.setCell k cell).cell? k' = r.cell? k' :=
  cell?_congr (findEntry_putEntry_of_ne hk)

theorem cell?_insert_self : (r.insert k v).1.cell? k = some ⟨v, .free⟩ := cell?_setCell_self

theorem insert_snd : (r.insert k v).2 = r.value? k := downcast?_stored?

theorem cell?_remove_self : (r.remove k).1.cell? k = none :=
  cell?_eq_none_iff.mpr findEntry_dropEntry_self

theorem cell?_remove_of_ne (hk : k ≠ k') : (r.remove k).1.cell? k' = r.cell? k' :=
  cell?_congr (findEntry_dropEntry_of_ne hk)

theorem remove_snd : (r.remove k).2 = r.value? k := downcast?_stored?

/-! What an operation does under a key depends on its cell. -/

theorem value?_congr (h : r'.cell? k = r.cell? k) : r'.value? k = r.value? k := by
  rw [value?, h, value?]

theorem cell?_release_congr (h : r'.cell? k = r.cell? k) :
    (r'.release k).cell? k = (r.release k).cell? k := by
  unfold release
  rw [h]
  split
  · rw [cell?_setCell_self, cell?_setCell_self]
  · exact h

theorem cell?_releaseMut_congr (h : r'.cell? k = r.cell? k) :
    (r'.releaseMut k).cell? k = (r.releaseMut k).cell? k := by
  unfold releaseMut
  rw [h]
  split
  · rw [cell?_setCell_self, cell?_setCell_self]
  · exact h

theorem cell?_write_congr (h : r'.cell? k = r.cell? k) :
    (r'.write k v).cell? k = (r.write k v).cell? k := by
  unfold write
  rw [h]
  split
  · rw [cell?_setCell_self, cell?_setCell_self]
  · exact h

theorem lend_congr (h : r'.cell? k = r.cell? k) :
    (r'.lend k).map (·.2.cell? k) = (r.lend k).map (·.2.cell? k) := by
  rw [lend, lend, h]
  split
  · rfl
  · simp [Except.map]
  · rfl

theorem lendMut_congr (h : r'.cell? k = r.cell? k) :
    (r'.lendMut k).map (·.2.cell? k) = (r.lendMut k).map (·.2.cell? k) := by
  rw [lendMut, lendMut, h]
  split
  · rfl
  · simp [Except.map]
  · rfl

theorem read_congr (h : r'.cell? k = r.cell? k) : r'.read k = r.read k := by
  rw [read, read, lend, lend, h]
  rcases r.cell? k with - | ⟨v, n | -⟩
  · rfl
  · rfl
  · rfl

/-! ### Guards -/

/-- A shared guard is granted on a value that is not lent exclusively. -/
theorem of_lend_eq_ok (h : r.lend k = .ok (v, r')) :
    ∃ n, r.cell? k = some ⟨v, .shared n⟩ ∧ r' = r.setCell k ⟨v, .shared (n + 1)⟩ := by
  rw [lend] at h
  split at h
  · cases h
  · next w n hcell =>
    cases h
    exact ⟨n, hcell, rfl⟩
  · cases h

/-- An exclusive guard is granted on a value that is not lent at all. -/
theorem of_lendMut_eq_ok (h : r.lendMut k = .ok (v, r')) :
    r.cell? k = some ⟨v, .free⟩ ∧ r' = r.setCell k ⟨v, .exclusive⟩ := by
  rw [lendMut] at h
  split at h
  · cases h
  · next w hcell =>
    cases h
    exact ⟨hcell, rfl⟩
  · cases h

theorem exists_lend_eq_ok_iff :
    (∃ lent, r.lend k = .ok (v, lent)) ↔ ∃ n, r.cell? k = some ⟨v, .shared n⟩ := by
  rw [lend]
  rcases r.cell? k with - | ⟨w, n | -⟩
  · simp
  · simp
  · simp

theorem lend_eq_notFound_iff : r.lend k = .error .notFound ↔ r.cell? k = none := by
  rw [lend]
  rcases r.cell? k with - | ⟨w, n | -⟩
  · simp
  · simp
  · simp

theorem lend_eq_conflict_iff :
    r.lend k = .error .conflict ↔ ∃ w, r.cell? k = some ⟨w, .exclusive⟩ := by
  rw [lend]
  rcases r.cell? k with - | ⟨w, n | -⟩
  · simp
  · simp
  · simp

theorem exists_lendMut_eq_ok_iff :
    (∃ lent, r.lendMut k = .ok (v, lent)) ↔ r.cell? k = some ⟨v, .free⟩ := by
  rw [lendMut]
  rcases r.cell? k with - | ⟨w, (- | n) | -⟩
  · simp
  · simp
  · simp
  · simp

theorem lendMut_eq_notFound_iff : r.lendMut k = .error .notFound ↔ r.cell? k = none := by
  rw [lendMut]
  rcases r.cell? k with - | ⟨w, (- | n) | -⟩
  · simp
  · simp
  · simp
  · simp

theorem lendMut_eq_conflict_iff :
    r.lendMut k = .error .conflict ↔ ∃ c, r.cell? k = some c ∧ c.lock ≠ .free := by
  rw [lendMut]
  rcases r.cell? k with - | ⟨w, (- | n) | -⟩
  · simp
  · simp [Lock.free]
  · simp [Lock.free]
  · simp [Lock.free]

theorem cell?_release_of_ne (hk : k ≠ k') : (r.release k).cell? k' = r.cell? k' := by
  unfold release
  split
  · exact cell?_setCell_of_ne hk
  · rfl

theorem cell?_releaseMut_of_ne (hk : k ≠ k') : (r.releaseMut k).cell? k' = r.cell? k' := by
  unfold releaseMut
  split
  · exact cell?_setCell_of_ne hk
  · rfl

theorem cell?_write_of_ne (hk : k ≠ k') : (r.write k v).cell? k' = r.cell? k' := by
  unfold write
  split
  · exact cell?_setCell_of_ne hk
  · rfl

/-! ### Values that are not lent -/

/-- A value that is not lent exclusively can be read. -/
theorem read_of_shared {n : Nat} (h : r.cell? k = some ⟨v, .shared n⟩) : r.read k = .ok v := by
  rw [read, lend, h]
  rfl

/-- A value that is not lent at all can be replaced through a guard, and is free again afterwards. -/
theorem cell?_write_lendMut {w : V k} (h : r.cell? k = some ⟨v, .free⟩) :
    ∃ lent, r.lendMut k = .ok (v, lent) ∧
      ((lent.write k w).releaseMut k).cell? k = some ⟨w, .free⟩ := by
  refine ⟨r.setCell k ⟨v, .exclusive⟩, by rw [lendMut, h]; rfl, ?_⟩
  rw [write, cell?_setCell_self]
  show (releaseMut _ k).cell? k = _
  rw [releaseMut, cell?_setCell_self]
  exact cell?_setCell_self

end Resources

end ObjectAssembly
