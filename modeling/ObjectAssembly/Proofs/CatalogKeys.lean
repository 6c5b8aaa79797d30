import ObjectAssembly.Catalog
import ObjectAssembly.Proofs.Consumption
import ObjectAssembly.Proofs.FieldReplay
import Mathlib.Data.List.Induction

/-!
# CatalogKeys — a catalog stays keyed by the names of its definitions

The key of an entry is the name that its definition had when it was inserted, and the definition goes
on being edited and consumed where it stands.  Since nothing that is done with a definition changes its
name, the keys remain the names, each once, in the order in which they were first inserted.  Each
definition is what the operations on its own name make of the first one inserted under it.
-/

namespace ObjectAssembly

theorem Definition.perform_name (d : Definition) (op : Operation) :
    (d.perform op).definition.name = d.name := by
  cases op with
  | edit e =>
    cases h : d.frozen with
    | true => rw [perform_edit_of_frozen h]
    | false =>
      rw [perform_edit_of_not_frozen h]
      exact apply_name d e
  | _ => rw [perform_consume rfl]

/-! ### Operations -/

/-- What is done with a catalog: a definition is inserted, or something is done with the one of a
name. -/
inductive CatalogOperation
  | insert (d : Definition)
  | on (name : String) (op : Operation)

/-- What that leaves behind: the catalog, the log, and whether it has failed; there is no outcome if
the catalog has no definition of the name. -/
structure CatalogResponse where
  catalog : Catalog
  log : List LogEntry
  outcome : Option (Except ConfigurationError Unit)

namespace CatalogOperation

/-- The name of the definition that an operation inserts. -/
def inserted? : CatalogOperation → Option String
  | insert d => some d.name
  | on _ _ => none

/-- What an operation makes of the definition of a name: the first one inserted is taken, and operations
on its name are done with it. -/
def follow (name : String) : Option Definition → CatalogOperation → Option Definition
  | none, insert d => if d.name = name then some d else none
  | some d, on other op => some (if other = name then (d.perform op).definition else d)
  | found, _ => found

end CatalogOperation

namespace Catalog

/-- Does something with a catalog. -/
def perform (c : Catalog) : CatalogOperation → CatalogResponse
  | .insert d =>
    match c.insert d with
    | .error e => ⟨c, [], some (.error e)⟩
    | .ok c' => ⟨c', [], some (.ok ())⟩
  | .on name op =>
    match c.get? name with
    | none => ⟨c, [], none⟩
    | some d =>
      let r := d.perform op
      ⟨c.update name r.definition, r.log, some r.outcome⟩

/-- The catalog after operations. -/
def after (c : Catalog) (ops : List CatalogOperation) : Catalog :=
  ops.foldl (fun c op => (c.perform op).catalog) c

/-! ### One operation -/

section Step

variable {c : Catalog} {d : Definition} {name other : String} {op : Operation}

/-- Each name is there once, and it is the name of the definition under it. -/
structure Keyed (c : Catalog) : Prop where
  nodup : c.names.Nodup
  named : ∀ e ∈ c.entries, e.2.name = e.1

theorem insert_eq (c : Catalog) (d : Definition) :
    c.insert d = if d.name ∈ c.names then .error (.duplicateDefinition d.name)
      else .ok ⟨c.entries ++ [(d.name, d)]⟩ := by
  unfold insert names
  by_cases h : d.name ∈ c.entries.map (·.1)
  · rw [if_pos h, if_pos]
    simpa using h
  · rw [if_neg h, if_neg]
    simpa using h

/-- An insertion is refused iff the name is there, and changes nothing then. -/
theorem perform_insert (c : Catalog) (d : Definition) :
    c.perform (.insert d) =
      if d.name ∈ c.names then ⟨c, [], some (.error (.duplicateDefinition d.name))⟩
      else ⟨⟨c.entries ++ [(d.name, d)]⟩, [], some (.ok ())⟩ := by
  rw [perform, insert_eq]
  by_cases h : d.name ∈ c.names
  · rw [if_pos h, if_pos h]
  · rw [if_neg h, if_neg h]

theorem get?_eq_none_iff : c.get? name = none ↔ name ∉ c.names := by
  rw [get?, Option.map_eq_none_iff, List.find?_eq_none, names, List.mem_map]
  constructor
  · rintro h ⟨e, he, rfl⟩
    exact h e he (beq_self_eq_true _)
  · intro h e he heq
    exact h ⟨e, he, eq_of_beq heq⟩

/-- What stands under a name is found by it. -/
theorem Keyed.get?_of_mem (h : c.Keyed) {e : String × Definition} (he : e ∈ c.entries) :
    c.get? e.1 = some e.2 := by
  have hn : (c.entries.map (·.1)).Nodup := h.nodup
  rw [get?, find?_of_nodup hn he]
  rfl

/-- What is inserted is found under its name unless something has stood there. -/
theorem get?_concat (entries : List (String × Definition)) (d : Definition) (name : String) :
    get? ⟨entries ++ [(d.name, d)]⟩ name =
      (get? ⟨entries⟩ name).or (if d.name = name then some d else none) := by
  unfold get?
  rw [List.find?_append, Option.map_or]
  by_cases h : d.name = name <;> simp [h]

theorem get?_map (c : Catalog) (f : String → Definition → Definition) (name : String) :
    get? ⟨c.entries.map fun e => (e.1, f e.1 e.2)⟩ name = (c.get? name).map (f name) := by
  unfold get?
  rw [List.find?_map, Option.map_map, Option.map_map]
  refine Option.map_congr fun e he => ?_
  have hname : e.1 = name := by simpa using List.find?_some he
  exact congrArg (f · e.2) hname

/-- An operation reaches the definition of its name and no other. -/
theorem Keyed.perform_on (h : c.Keyed) (name : String) (op : Operation) :
    (c.perform (.on name op)).catalog.entries =
      c.entries.map fun e =>
        (e.1, if e.1 = name then (e.2.perform op).definition else e.2) := by
  cases hd : c.get? name with
  | none =>
    have hsame : ∀ e ∈ c.entries,
        (e.1, if e.1 = name then (e.2.perform op).definition else e.2) = e := by
      intro e he
      have hne : ¬ e.1 = name := fun heq =>
        get?_eq_none_iff.mp hd (heq ▸ List.mem_map_of_mem he)
      rw [if_neg hne]
    simp only [perform, hd]
    exact ((List.map_congr_left hsame).trans (List.map_id _)).symm
  | some d =>
    simp only [perform, hd]
    refine List.map_congr_left fun e he => ?_
    by_cases heq : e.1 = name
    · have hfound := h.get?_of_mem he
      rw [heq, hd, Option.some.injEq] at hfound
      rw [if_pos heq, if_pos heq, hfound]
    · rw [if_neg heq, if_neg heq]

theorem Keyed.names_perform_on (h : c.Keyed) (name : String) (op : Operation) :
    (c.perform (.on name op)).catalog.names = c.names := by
  rw [names, h.perform_on, names, List.map_map]
  rfl

/-- The keys remain the names, whatever is done. -/
theorem Keyed.perform (h : c.Keyed) (op : CatalogOperation) : (c.perform op).catalog.Keyed := by
  cases op with
  | insert d =>
    rw [perform_insert]
    split
    · exact h
    · next hnew =>
      refine ⟨?_, ?_⟩
      · show ((c.entries ++ [(d.name, d)]).map (·.1)).Nodup
        rw [List.map_append, List.map_singleton, ← List.concat_eq_append]
        exact h.nodup.concat hnew
      · rintro e he
        rcases List.mem_append.mp he with he | he
        · exact h.named e he
        · rw [List.mem_singleton.mp he]
  | on name op =>
    refine ⟨by rw [h.names_perform_on]; exact h.nodup, fun e he => ?_⟩
    rw [h.perform_on] at he
    obtain ⟨old, hold, rfl⟩ := List.mem_map.mp he
    dsimp only
    split
    · exact (old.2.perform_name op).trans (h.named old hold)
    · exact h.named old hold

/-- An operation makes of the definition of a name what `follow` says. -/
theorem Keyed.get?_perform (h : c.Keyed) (op : CatalogOperation) :
    (c.perform op).catalog.get? name = op.follow name (c.get? name) := by
  cases op with
  | insert d =>
    rw [perform_insert]
    cases hd : c.get? name with
    | none =>
      have hnew := get?_eq_none_iff.mp hd
      split
      · next hmem =>
        have hne : ¬ d.name = name := fun heq => hnew (heq ▸ hmem)
        rw [CatalogOperation.follow, if_neg hne]
        exact hd
      · rw [get?_concat, hd]
        rfl
    | some found =>
      split
      · exact hd
      · rw [get?_concat, hd]
        rfl
  | on other op =>
    have hentries := h.perform_on other op
    have hmap := c.get?_map (fun key d => if key = other then (d.perform op).definition else d) name
    rw [← hentries] at hmap
    rw [hmap]
    cases c.get? name with
    | none => rfl
    | some d => simp only [CatalogOperation.follow, Option.map_some, eq_comm]

end Step

/-! ### Operations in a row -/

section Run

variable {ops : List CatalogOperation} {name : String}

theorem keyed_after (ops : List CatalogOperation) : (empty.after ops).Keyed := by
  have hkeeps : ∀ {c : Catalog}, c.Keyed → (c.after ops).Keyed := by
    induction ops with
    | nil => exact fun h => h
    | cons op ops ih => exact fun h => ih (h.perform op)
  exact hkeeps ⟨List.nodup_nil, nofun⟩

theorem after_concat (c : Catalog) (ops : List CatalogOperation) (op : CatalogOperation) :
    c.after (ops ++ [op]) = ((c.after ops).perform op).catalog := by
  simp [after]

/-- A name that comes last is dropped iff it has come before. -/
theorem eraseDups_concat (names : List String) (name : String) :
    (names ++ [name]).eraseDups =
      if name ∈ names then names.eraseDups else names.eraseDups ++ [name] := by
  rw [List.eraseDups_append]
  by_cases h : name ∈ names <;> simp [List.removeAll, List.eraseDups_cons, h]

/-- The names are those of the insertions, in the order of the first ones. -/
theorem names_after (ops : List CatalogOperation) :
    (empty.after ops).names = (ops.filterMap CatalogOperation.inserted?).eraseDups := by
  induction ops using List.reverseRecOn with
  | nil => rfl
  | append_singleton ops op ih =>
    rw [after_concat, List.filterMap_append]
    cases op with
    | insert d =>
      have hmem : d.name ∈ (empty.after ops).names ↔
          d.name ∈ ops.filterMap CatalogOperation.inserted? := by
        rw [ih, List.mem_eraseDups]
      rw [show [CatalogOperation.insert d].filterMap CatalogOperation.inserted? = [d.name] from rfl,
        eraseDups_concat, perform_insert]
      by_cases h : d.name ∈ (empty.after ops).names
      · rw [if_pos h, if_pos (hmem.mp h), ih]
      · rw [if_neg h, if_neg (mt hmem.mpr h), names, List.map_append, ← names, ih]
        rfl
    | on name op =>
      rw [show [CatalogOperation.on name op].filterMap CatalogOperation.inserted? = [] from rfl,
        List.append_nil, (keyed_after ops).names_perform_on, ih]

/-- A definition is what the operations on its name make of the first one inserted under it. -/
theorem get?_after (ops : List CatalogOperation) (name : String) :
    (empty.after ops).get? name = ops.foldl (CatalogOperation.follow name) none := by
  induction ops using List.reverseRecOn with
  | nil => rfl
  | append_singleton ops op ih =>
    have hkeyed := keyed_after ops
    rw [after_concat, List.foldl_append, ← ih]
    exact hkeyed.get?_perform op

end Run

/-- **A catalog stays keyed by the names of its definitions.**  Whatever operations it has been through,
its names are distinct, they are those of the insertions in the order of the first ones, and each is the
name of the definition under it.  An insertion is refused iff the name is there, and changes nothing
then; any other operation changes at most the definition of its own name.  So each definition is what the
operations on its name have made of it. -/
theorem catalog_keyed_by_names (ops : List CatalogOperation) :
    let c := empty.after ops
    c.names.Nodup ∧
    c.names = (ops.filterMap CatalogOperation.inserted?).eraseDups ∧
    c.definitions.map (·.name) = c.names ∧
    (∀ d, c.perform (.insert d) =
      if d.name ∈ c.names then ⟨c, [], some (.error (.duplicateDefinition d.name))⟩
      else ⟨⟨c.entries ++ [(d.name, d)]⟩, [], some (.ok ())⟩) ∧
    (∀ name op,
      (c.perform (.on name op)).catalog.entries =
        (c.entries.map fun e =>
          (e.1, if e.1 = name then (e.2.perform op).definition else e.2)) ∧
      (c.perform (.on name op)).outcome = (c.get? name).map fun d => (d.perform op).outcome) ∧
    ∀ name, c.get? name = ops.foldl (CatalogOperation.follow name) none := by
  intro c
  have hkeyed : c.Keyed := keyed_after ops
  refine ⟨hkeyed.nodup, names_after ops, ?_, c.perform_insert, fun name op => ⟨?_, ?_⟩,
    get?_after ops⟩
  · rw [definitions, names, List.map_map]
    exact List.map_congr_left fun e he => hkeyed.named e he
  · exact hkeyed.perform_on name op
  · rw [Catalog.perform]
    cases c.get? name <;> rfl

end Catalog

end ObjectAssembly
