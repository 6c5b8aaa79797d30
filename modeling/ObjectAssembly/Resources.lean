/-!
# Resources — one value per type, many readers or one writer

A container holds at most one value for each key, and with it the guards that are out on it.  Values
are stored in boxes that hide their types; the container keeps under each key a value of the type that
belongs to it, so that taking a value out of its box does not fail.  A shared guard is refused while
the value is lent exclusively, an exclusive one while it is lent at all.
-/

namespace ObjectAssembly

/-- The guards that are out on a value. -/
inductive Lock
  | shared (readers : Nat)
  | exclusive
  deriving DecidableEq, Repr

/-- No guard is out. -/
abbrev Lock.free : Lock := .shared 0

/-- A stored value and the guards on it. -/
structure Cell (α : Type) where
  value : α
  lock : Lock

/-- Why a guard is refused. -/
inductive AccessError
  | notFound
  | conflict
  deriving DecidableEq, Repr

/-- The complaint about a value of the named type. -/
def AccessError.message (typeName : String) : AccessError → String
  | notFound => "resource not found: " ++ typeName
  | conflict => "resource already borrowed: " ++ typeName

/-! ### Boxes -/

/-- A value of a hidden type, and the key that this type belongs to. -/
structure Boxed (κ : Type) (V : κ → Type) where
  key : κ
  value : V key

namespace Boxed

variable {κ : Type} {V : κ → Type}

/-- The value, if its type belongs to `k`. -/
def downcast? [DecidableEq κ] (b : Boxed κ V) (k : κ) : Option (V k) :=
  if h : b.key = k then some (h ▸ b.value) else none

/-- The value, whose type is known to belong to `k`. -/
def unbox (b : Boxed κ V) {k : κ} (h : b.key = k) : V k := h ▸ b.value

theorem downcast?_eq_some [DecidableEq κ] {b : Boxed κ V} {k : κ} (h : b.key = k) :
    b.downcast? k = some (b.unbox h) :=
  dif_pos h

end Boxed

/-! ### Entries -/

section Entries

variable {κ : Type} {α : Type} [DecidableEq κ] {k k' : κ} {c : α} {e : κ × α} {entries : List (κ × α)}

/-- Finds what stands under a key. -/
def findEntry (k : κ) : List (κ × α) → Option α
  | [] => none
  | e :: rest => if e.1 = k then some e.2 else findEntry k rest

/-- Puts something in the place of what stands under the key, or at the end. -/
def putEntry (k : κ) (c : α) : List (κ × α) → List (κ × α)
  | [] => [(k, c)]
  | e :: rest => if e.1 = k then (k, c) :: rest else e :: putEntry k c rest

/-- Drops what stands under a key. -/
def dropEntry (k : κ) (entries : List (κ × α)) : List (κ × α) :=
  entries.filter fun e => decide (e.1 ≠ k)

theorem mem_of_findEntry (h : findEntry k entries = some c) : (k, c) ∈ entries := by
  induction entries with
  | nil => cases h
  | cons e rest ih =>
    rw [findEntry] at h
    split at h
    · next hk =>
      cases h
      exact hk ▸ List.mem_cons_self
    · exact List.mem_cons_of_mem _ (ih h)

theorem mem_putEntry (h : e ∈ putEntry k c entries) : e = (k, c) ∨ e ∈ entries := by
  induction entries with
  | nil => exact .inl (List.mem_singleton.mp h)
  | cons first rest ih =>
    rw [putEntry] at h
    split at h
    · exact (List.mem_cons.mp h).imp id fun h => List.mem_cons_of_mem _ h
    · rcases List.mem_cons.mp h with rfl | h
      · exact .inr List.mem_cons_self
      · exact (ih h).imp id fun h => List.mem_cons_of_mem _ h

theorem nodup_keys_putEntry (h : (entries.map (·.1)).Nodup) :
    ((putEntry k c entries).map (·.1)).Nodup := by
  induction entries with
  | nil => simp [putEntry]
  | cons e rest ih =>
    obtain ⟨hfresh, hrest⟩ := List.nodup_cons.mp h
    rw [putEntry]
    split
    · next he => exact List.nodup_cons.mpr ⟨he ▸ hfresh, hrest⟩
    · next he =>
      refine List.nodup_cons.mpr ⟨fun hmem => ?_, ih hrest⟩
      obtain ⟨x, hx, hkey⟩ := List.mem_map.mp hmem
      rcases mem_putEntry hx with rfl | hx
      · exact he hkey.symm
      · exact hfresh (List.mem_map.mpr ⟨x, hx, hkey⟩)

theorem nodup_keys_dropEntry (h : (entries.map (·.1)).Nodup) :
    ((dropEntry k entries).map (·.1)).Nodup :=
  h.sublist (List.filter_sublist.map _)

end Entries

/-! ### Containers -/

/-- A typed container: under each of its keys a boxed value of the type that belongs to the key. -/
structure Resources (κ : Type) (V : κ → Type) where
  entries : List (κ × Cell (Boxed κ V))
  distinct : (entries.map (·.1)).Nodup
  typed : ∀ e ∈ entries, e.2.value.key = e.1

namespace Resources

variable {κ : Type} {V : κ → Type} [DecidableEq κ]

def empty : Resources κ V := ⟨[], List.nodup_nil, nofun⟩

variable (r : Resources κ V)

/-- The entry of a key. -/
def stored? (k : κ) : Option (Cell (Boxed κ V)) := findEntry k r.entries

theorem key_of_stored? {k : κ} {e : Cell (Boxed κ V)} (h : r.stored? k = some e) : e.value.key = k :=
  r.typed (k, e) (mem_of_findEntry h)

/-- The cell of a key: its entry, with the value out of the box. -/
def cell? (k : κ) : Option (Cell (V k)) :=
  match h : r.stored? k with
  | none => none
  | some e => some ⟨e.value.unbox (r.key_of_stored? h), e.lock⟩

/-- The value of a key, whatever guards are out. -/
def value? (k : κ) : Option (V k) := (r.cell? k).map (·.value)

/-- Changes the cell of a key. -/
def setCell (k : κ) (cell : Cell (V k)) : Resources κ V where
  entries := putEntry k ⟨⟨k, cell.value⟩, cell.lock⟩ r.entries
  distinct := nodup_keys_putEntry r.distinct
  typed e he := by
    rcases mem_putEntry he with rfl | he
    · rfl
    · exact r.typed e he

/-- Stores a value and answers the one it replaces. -/
def insert (k : κ) (v : V k) : Resources κ V × Option (V k) :=
  (r.setCell k ⟨v, .free⟩, (r.stored? k).bind (·.value.downcast? k))

/-- Takes a value out. -/
def remove (k : κ) : Resources κ V × Option (V k) :=
  (⟨dropEntry k r.entries, nodup_keys_dropEntry r.distinct,
      fun e he => r.typed e (List.mem_filter.mp he).1⟩,
    (r.stored? k).bind (·.value.downcast? k))

def contains (k : κ) : Bool := (r.cell? k).isSome

/-- The number of stored values. -/
def size : Nat := r.entries.length

/-! ### Guards -/

/-- Takes a shared guard: the value, and the container with the guard out. -/
def lend (k : κ) : Except AccessError (V k × Resources κ V) :=
  match r.cell? k with
  | none => .error .notFound
  | some ⟨v, .shared n⟩ => .ok (v, r.setCell k ⟨v, .shared (n + 1)⟩)
  | some ⟨_, .exclusive⟩ => .error .conflict

/-- Takes an exclusive guard: the value, and the container with the guard out. -/
def lendMut (k : κ) : Except AccessError (V k × Resources κ V) :=
  match r.cell? k with
  | none => .error .notFound
  | some ⟨v, .shared 0⟩ => .ok (v, r.setCell k ⟨v, .exclusive⟩)
  | some ⟨_, _⟩ => .error .conflict

/-- Gives a shared guard back. -/
def release (k : κ) : Resources κ V :=
  match r.cell? k with
  | some ⟨v, .shared (n + 1)⟩ => r.setCell k ⟨v, .shared n⟩
  | _ => r

/-- Gives the exclusive guard back. -/
def releaseMut (k : κ) : Resources κ V :=
  match r.cell? k with
  | some ⟨v, .exclusive⟩ => r.setCell k ⟨v, .free⟩
  | _ => r

/-- Writes through the exclusive guard. -/
def write (k : κ) (v : V k) : Resources κ V :=
  match r.cell? k with
  | some ⟨_, .exclusive⟩ => r.setCell k ⟨v, .exclusive⟩
  | _ => r

/-- Reads a value through a guard that is given back at once. -/
def read (k : κ) : Except AccessError (V k) := (r.lend k).map (·.1)

/-- Changes a value through a guard that is given back at once, and answers the old one. -/
def update (k : κ) (f : V k → V k) : Except AccessError (V k × Resources κ V) :=
  (r.lendMut k).map fun p => (p.1, (p.2.write k (f p.1)).releaseMut k)

end Resources

end ObjectAssembly
