import ObjectAssembly.Application
import ObjectAssembly.Proofs.Lending
import Mathlib.Data.Finset.Card

/-!
# LentValues — what a container answers after a history

Whatever the history, the lock of each cell stands for exactly the guards that are out on it, so what an
access answers can be read off the history: the value last put there, and the guards that have not been
given back.
-/

namespace ObjectAssembly

variable {κ : Type} {V : κ → Type} [DecidableEq κ]

/-! ### What a history says -/

namespace Access

/-- Changes what is stored. -/
def record (value : ∀ k, Option (V k)) : Access κ V → ∀ k, Option (V k)
  | insert k v => Function.update value k (some v)
  | write k v => Function.update value k (some v)
  | remove k => Function.update value k none
  | lend _ => value
  | lendMut _ => value
  | release _ => value

/-- Changes what has been handed in.  What is written changes the value that was handed in last. -/
def collect (given : ∀ k, List (V k)) : Access κ V → ∀ k, List (V k)
  | insert k v => Function.update given k (given k ++ [v])
  | write k v => Function.update given k ((given k).dropLast ++ [v])
  | remove _ => given
  | lend _ => given
  | lendMut _ => given
  | release _ => given

end Access

/-- The value last put under each key, unless it has been taken out since. -/
def lastValue (history : List (Access κ V)) : ∀ k, Option (V k) :=
  history.foldl Access.record fun _ => none

/-- The values handed in under each key, in order, each as it was last written. -/
def handedIn (history : List (Access κ V)) : ∀ k, List (V k) :=
  history.foldl Access.collect fun _ => []

/-- The keys under which there is a value. -/
def storedKeys (history : List (Access κ V)) : Finset κ :=
  (history.map Access.key).toFinset.filter fun k => (lastValue history k).isSome

section Records

variable {a : Access κ V} {k : κ} {history : List (Access κ V)}

theorem Access.record_of_ne {value : ∀ k, Option (V k)} (h : a.key ≠ k) :
    a.record value k = value k := by
  cases a with
  | insert | write | remove => exact Function.update_of_ne (Ne.symm h) _ _
  | lend | lendMut | release => rfl

theorem Access.collect_of_ne {given : ∀ k, List (V k)} (h : a.key ≠ k) :
    a.collect given k = given k := by
  cases a with
  | insert | write => exact Function.update_of_ne (Ne.symm h) _ _
  | remove | lend | lendMut | release => rfl

/-- Nothing is stored under a key that has not been accessed. -/
theorem foldl_record_of_forall_ne {value : ∀ k, Option (V k)} (h : ∀ a ∈ history, a.key ≠ k) :
    history.foldl Access.record value k = value k := by
  induction history generalizing value with
  | nil => rfl
  | cons a rest ih =>
    obtain ⟨ha, hrest⟩ := List.forall_mem_cons.mp h
    exact (ih hrest).trans (Access.record_of_ne ha)

theorem mem_storedKeys : k ∈ storedKeys history ↔ (lastValue history k).isSome := by
  rw [storedKeys, Finset.mem_filter, List.mem_toFinset, and_iff_right_iff_imp]
  intro hsome
  by_contra hmem
  have hnone : lastValue history k = none :=
    foldl_record_of_forall_ne fun a ha hk => hmem (List.mem_map.mpr ⟨a, ha, hk⟩)
  rw [hnone] at hsome
  cases hsome

end Records

/-! ### Locks and guards -/

/-- The guards that a lock stands for. -/
def Lock.guards (k : κ) : Lock → List (Guard κ)
  | shared n => List.replicate n (.shared k)
  | exclusive => [.exclusive k]

section Locks

variable {k : κ} {lock : Lock}

omit [DecidableEq κ]

theorem Lock.exclusive_mem_guards : .exclusive k ∈ lock.guards k ↔ lock = .exclusive := by
  cases lock with
  | shared n => simp [guards, List.mem_replicate]
  | exclusive => simp [guards]

theorem Lock.shared_mem_guards : .shared k ∈ lock.guards k ↔ ∃ n, lock = .shared (n + 1) := by
  rcases lock with (- | n) | -
  · simp [guards]
  · simp [guards]
  · simp [guards]

theorem Lock.guards_eq_nil_iff : lock.guards k = [] ↔ lock = .free := by
  cases lock with
  | shared n => simp [guards, free]
  | exclusive => simp [guards, free]

end Locks

namespace Lending

variable {s : Lending κ V} {a : Access κ V} {history : List (Access κ V)} {k : κ}
  {value : Option (V k)} {given : List (V k)}

/-- What is stored under a key is this value, its lock stands for the guards that are out on it, and
of what has been handed in all but this value has been given back. -/
inductive Tracks (s : Lending κ V) (k : κ) : Option (V k) → List (V k) → Prop
  | absent {given : List (V k)} (cell : s.container.cell? k = none) (guards : s.guardsOn k = [])
      (returned : given = s.returned k) : Tracks s k none given
  | stored {given : List (V k)} {v : V k} {lock : Lock}
      (cell : s.container.cell? k = some ⟨v, lock⟩) (guards : s.guardsOn k = lock.guards k)
      (returned : given = s.returned k ++ [v]) : Tracks s k (some v) given

theorem start_tracks (k : κ) : (start : Lending κ V).Tracks k none [] := .absent rfl rfl rfl

theorem Tracks.value_eq (h : s.Tracks k value given) : s.container.value? k = value := by
  cases h with
  | absent cell => rw [Resources.value?, cell]; rfl
  | stored cell => rw [Resources.value?, cell]; rfl

theorem Tracks.given_eq (h : s.Tracks k value given) : given = s.returned k ++ value.toList := by
  cases h with
  | absent _ _ returned => exact returned.trans (List.append_nil _).symm
  | stored _ _ returned => exact returned

theorem Tracks.congr {t : Lending κ V} (h : s.Tracks k value given) (hagree : AgreeAt k s t) :
    t.Tracks k value given := by
  cases h with
  | absent cell guards returned =>
    exact .absent (hagree.cell.trans cell) (hagree.guards.trans guards)
      (by rw [hagree.returned, returned])
  | stored cell guards returned =>
    exact .stored (hagree.cell.trans cell) (hagree.guards.trans guards)
      (by rw [hagree.returned, returned])

/-- Under an exclusive guard the cell is locked exclusively. -/
theorem Tracks.of_exclusive_mem (h : s.Tracks k value given) (hg : .exclusive k ∈ s.alive) :
    ∃ w, s.container.cell? k = some ⟨w, .exclusive⟩ ∧ s.guardsOn k = Lock.exclusive.guards k ∧
      value = some w ∧ given = s.returned k ++ [w] := by
  have hmem : .exclusive k ∈ s.guardsOn k := exclusive_mem_guardsOn.mpr hg
  cases h with
  | absent _ guards =>
    rw [guards] at hmem
    cases hmem
  | stored cell guards returned =>
    rw [guards] at hmem
    cases Lock.exclusive_mem_guards.mp hmem
    exact ⟨_, cell, guards, rfl, returned⟩

/-- Under a shared guard the cell counts at least that one. -/
theorem Tracks.of_shared_mem (h : s.Tracks k value given) (hg : .shared k ∈ s.alive) :
    ∃ w n, s.container.cell? k = some ⟨w, .shared (n + 1)⟩ ∧
      s.guardsOn k = (Lock.shared (n + 1)).guards k ∧ value = some w ∧
      given = s.returned k ++ [w] := by
  have hmem : .shared k ∈ s.guardsOn k := mem_guardsOn.mpr ⟨hg, rfl⟩
  cases h with
  | absent _ guards =>
    rw [guards] at hmem
    cases hmem
  | stored cell guards returned =>
    rw [guards] at hmem
    obtain ⟨n, rfl⟩ := Lock.shared_mem_guards.mp hmem
    exact ⟨_, n, cell, guards, rfl, returned⟩

theorem Tracks.insert (h : s.Tracks k value given) (hfree : s.alive = []) (v : V k) :
    (s.perform (.insert k v)).Tracks k (some v) (given ++ [v]) := by
  refine .stored Resources.cell?_insert_self (guardsOn_of_alive_eq_nil hfree) ?_
  simp only [perform, Function.update_self, Resources.insert_snd, h.value_eq, h.given_eq]

theorem Tracks.remove (h : s.Tracks k value given) (hfree : s.alive = []) :
    (s.perform (.remove k)).Tracks k none given := by
  refine .absent Resources.cell?_remove_self (guardsOn_of_alive_eq_nil hfree) ?_
  simp only [perform, Function.update_self, Resources.remove_snd, h.value_eq, h.given_eq]

/-- A guard that is granted joins those that the lock stands for. -/
theorem Tracks.grant {g : Guard κ} {v : V k} {lock lock' : Lock} (h : s.Tracks k value given)
    (hcell : s.container.cell? k = some ⟨v, lock⟩) (hg : g.key = k)
    (hlock : g :: lock.guards k = lock'.guards k) :
    (s.grant g (.ok (v, s.container.setCell k ⟨v, lock'⟩))).Tracks k value given := by
  cases h with
  | absent cell => cases hcell.symm.trans cell
  | stored cell guards returned =>
    cases hcell.symm.trans cell
    refine .stored Resources.cell?_setCell_self ?_ returned
    exact (guardsOn_cons hg).trans ((congrArg (g :: ·) guards).trans hlock)

theorem Tracks.lend (h : s.Tracks k value given) :
    (s.perform (.lend k)).Tracks k value given := by
  rw [perform]
  rcases hlend : s.container.lend k with e | ⟨v, lent⟩
  · exact h
  · obtain ⟨n, hcell, rfl⟩ := Resources.of_lend_eq_ok hlend
    exact h.grant hcell rfl rfl

theorem Tracks.lendMut (h : s.Tracks k value given) :
    (s.perform (.lendMut k)).Tracks k value given := by
  rw [perform]
  rcases hlend : s.container.lendMut k with e | ⟨v, lent⟩
  · exact h
  · obtain ⟨hcell, rfl⟩ := Resources.of_lendMut_eq_ok hlend
    exact h.grant hcell rfl rfl

theorem Tracks.write (h : s.Tracks k value given) (hg : .exclusive k ∈ s.alive) (v : V k) :
    (s.perform (.write k v)).Tracks k (some v) (given.dropLast ++ [v]) := by
  obtain ⟨w, hcell, hguards, rfl, rfl⟩ := h.of_exclusive_mem hg
  refine .stored ?_ hguards (congrArg (· ++ [v]) List.dropLast_concat)
  simp only [perform, Resources.write, hcell]
  exact Resources.cell?_setCell_self

theorem Tracks.release {g : Guard κ} {value : Option (V g.key)} {given : List (V g.key)}
    (h : s.Tracks g.key value given) (hg : g ∈ s.alive) :
    (s.perform (.release g)).Tracks g.key value given := by
  cases g with
  | shared k =>
    obtain ⟨w, n, hcell, hguards, rfl, rfl⟩ := h.of_shared_mem hg
    have hreleased : (s.container.release k).cell? k = some ⟨w, .shared n⟩ := by
      simp only [Guard.key] at hcell
      simp only [Resources.release, hcell, Resources.cell?_setCell_self]
    refine .stored hreleased ?_ rfl
    rw [perform, guardsOn_erase, hguards]
    exact List.erase_cons_head ..
  | exclusive k =>
    obtain ⟨w, hcell, hguards, rfl, rfl⟩ := h.of_exclusive_mem hg
    have hreleased : (s.container.releaseMut k).cell? k = some ⟨w, .free⟩ := by
      simp only [Guard.key] at hcell
      simp only [Resources.releaseMut, hcell, Resources.cell?_setCell_self]
    refine .stored hreleased ?_ rfl
    rw [perform, guardsOn_erase, hguards]
    exact List.erase_cons_head ..

/-- A permitted access does at its key what the records say. -/
theorem Tracks.perform_self {value : ∀ k, Option (V k)} {given : ∀ k, List (V k)}
    (h : s.Tracks a.key (value a.key) (given a.key)) (ha : s.Permits a) :
    (s.perform a).Tracks a.key (a.record value a.key) (a.collect given a.key) := by
  cases a with
  | insert k v =>
    simp only [Access.record, Access.collect, Access.key, Function.update_self]
    exact h.insert ha v
  | remove k =>
    simp only [Access.record, Access.collect, Access.key, Function.update_self]
    exact h.remove ha
  | lend k => exact h.lend
  | lendMut k => exact h.lendMut
  | write k v =>
    simp only [Access.record, Access.collect, Access.key, Function.update_self]
    exact h.write ha v
  | release g => exact h.release ha

theorem Tracks.perform {value : ∀ k, Option (V k)} {given : ∀ k, List (V k)}
    (h : ∀ k, s.Tracks k (value k) (given k)) (ha : s.Permits a) (k : κ) :
    (s.perform a).Tracks k (a.record value k) (a.collect given k) := by
  by_cases hk : a.key = k
  · subst hk
    exact (h _).perform_self ha
  · rw [Access.record_of_ne hk, Access.collect_of_ne hk]
    exact (h k).congr (perform_of_ne hk)

/-! ### Histories -/

/-- Whatever is performed, the records and the container keep in step. -/
theorem Tracks.run {value : ∀ k, Option (V k)} {given : ∀ k, List (V k)}
    (h : ∀ k, s.Tracks k (value k) (given k)) (hlegal : s.Legal history) (k : κ) :
    (s.run history).Tracks k (history.foldl Access.record value k)
      (history.foldl Access.collect given k) := by
  induction history generalizing s value given with
  | nil => exact h k
  | cons a rest ih => exact ih (fun k => Tracks.perform h hlegal.1 k) hlegal.2

theorem tracks_run (hlegal : start.Legal history) (k : κ) :
    (start.run history).Tracks k (lastValue history k) (handedIn history k) :=
  Tracks.run (fun k => start_tracks k) hlegal k

/-! ### What a container answers -/

/-- The answers of a container at a key under which this value is stored. -/
structure Serves (s : Lending κ V) (k : κ) (value : Option (V k)) : Prop where
  insert : ∀ v, (s.container.insert k v).2 = value
  remove : (s.container.remove k).2 = value
  contains : s.container.contains k = value.isSome
  lend : ∀ v, (∃ lent, s.container.lend k = .ok (v, lent)) ↔
    value = some v ∧ .exclusive k ∉ s.alive
  lend_notFound : s.container.lend k = .error .notFound ↔ value = none
  lend_conflict : s.container.lend k = .error .conflict ↔
    value.isSome ∧ .exclusive k ∈ s.alive
  lendMut : ∀ v, (∃ lent, s.container.lendMut k = .ok (v, lent)) ↔
    value = some v ∧ ∀ g ∈ s.alive, g.key ≠ k
  lendMut_notFound : s.container.lendMut k = .error .notFound ↔ value = none
  lendMut_conflict : s.container.lendMut k = .error .conflict ↔
    value.isSome ∧ ∃ g ∈ s.alive, g.key = k
  downcast : ∀ e, s.container.stored? k = some e → value.isSome ∧ e.value.downcast? k = value

/-- The cell of a value that is stored, and what its lock tells about the guards on it. -/
theorem Tracks.of_some {v : V k} (h : s.Tracks k (some v) given) :
    ∃ lock, s.container.cell? k = some ⟨v, lock⟩ ∧ (.exclusive k ∈ s.alive ↔ lock = .exclusive) ∧
      ((∀ g ∈ s.alive, g.key ≠ k) ↔ lock = .free) := by
  cases h with
  | stored cell guards =>
    refine ⟨_, cell, ?_, ?_⟩
    · rw [← exclusive_mem_guardsOn, guards, Lock.exclusive_mem_guards]
    · rw [← guardsOn_eq_nil_iff, guards, Lock.guards_eq_nil_iff]

theorem Tracks.cell_eq_none_iff (h : s.Tracks k value given) :
    s.container.cell? k = none ↔ value = none := by
  rw [← h.value_eq, Resources.value?, Option.map_eq_none_iff]

/-- What is stored comes out of its box. -/
theorem Tracks.downcast {e : Cell (Boxed κ V)} (h : s.Tracks k value given)
    (he : s.container.stored? k = some e) :
    value.isSome ∧ e.value.downcast? k = value := by
  have hdowncast := Resources.downcast?_stored? (r := s.container) (k := k)
  rw [he, h.value_eq, Option.bind_some] at hdowncast
  refine ⟨?_, hdowncast⟩
  rw [← hdowncast, Boxed.downcast?_eq_some (s.container.key_of_stored? he)]
  rfl

theorem Tracks.serves (h : s.Tracks k value given) : s.Serves k value where
  insert v := Resources.insert_snd.trans h.value_eq
  remove := Resources.remove_snd.trans h.value_eq
  contains := by rw [Resources.contains, ← h.value_eq, Resources.value?, Option.isSome_map]
  lend v := by
    rw [Resources.exists_lend_eq_ok_iff]
    cases value with
    | none => simp [h.cell_eq_none_iff.mpr rfl]
    | some w =>
      obtain ⟨lock, hcell, hexclusive, -⟩ := h.of_some
      rw [hcell, hexclusive]
      cases lock with
      | shared n => simp
      | exclusive => simp
  lend_notFound := Resources.lend_eq_notFound_iff.trans h.cell_eq_none_iff
  lend_conflict := by
    rw [Resources.lend_eq_conflict_iff]
    cases value with
    | none => simp [h.cell_eq_none_iff.mpr rfl]
    | some w =>
      obtain ⟨lock, hcell, hexclusive, -⟩ := h.of_some
      simp [hcell, hexclusive]
  lendMut v := by
    rw [Resources.exists_lendMut_eq_ok_iff]
    cases value with
    | none => simp [h.cell_eq_none_iff.mpr rfl]
    | some w =>
      obtain ⟨lock, hcell, -, hfree⟩ := h.of_some
      rw [hcell, hfree]
      simp
  lendMut_notFound := Resources.lendMut_eq_notFound_iff.trans h.cell_eq_none_iff
  lendMut_conflict := by
    rw [Resources.lendMut_eq_conflict_iff]
    cases value with
    | none => simp [h.cell_eq_none_iff.mpr rfl]
    | some w =>
      obtain ⟨lock, hcell, -, hfree⟩ := h.of_some
      simp [hcell, ← hfree]
  downcast e he := h.downcast he

/-- A guard that is out reads what is stored. -/
theorem read?_of_mem {g : Guard κ} {value : Option (V g.key)} {given : List (V g.key)}
    (h : s.Tracks g.key value given) (hg : g ∈ s.alive) :
    ∃ v, value = some v ∧ g.read? s.container = some v := by
  have hread : g.read? s.container = value := Resources.downcast?_stored?.trans h.value_eq
  cases value with
  | none =>
    cases h with
    | absent _ guards => exact absurd rfl (guardsOn_eq_nil_iff.mp guards g hg)
  | some v => exact ⟨v, rfl, hread⟩

theorem Serves.read (h : s.Serves k value) (hg : .exclusive k ∉ s.alive) :
    (s.container.read k).toOption = value := by
  cases value with
  | none =>
    rw [Resources.read, h.lend_notFound.mpr rfl]
    rfl
  | some v =>
    obtain ⟨lent, hlend⟩ := (h.lend v).mpr ⟨rfl, hg⟩
    rw [Resources.read, hlend]
    rfl

/-! ### What is left of a history -/

theorem size_run (hlegal : start.Legal history) :
    (start.run history).container.size = (storedKeys history).card := by
  have hkeys : storedKeys history =
      ((start.run history).container.entries.map (·.1)).toFinset := by
    ext k
    have hvalue := (tracks_run hlegal k).value_eq
    rw [mem_storedKeys, List.mem_toFinset, mem_keys_iff, ← hvalue, Resources.value?,
      Option.isSome_map, Option.isSome_iff_ne_none, Option.isSome_iff_ne_none]
    exact not_congr Resources.cell?_eq_none_iff
  rw [hkeys, List.toFinset_card_of_nodup (start.run history).container.distinct, List.length_map]
  rfl

omit [DecidableEq κ] in
theorem exclusive_mem_grant {g : Guard κ} {k' : κ}
    {answer : Except AccessError (V k' × Resources κ V)}
    (h : .exclusive k ∈ (s.grant g answer).alive) : .exclusive k = g ∨ .exclusive k ∈ s.alive := by
  cases answer with
  | error e => exact .inr h
  | ok p => exact List.mem_cons.mp h

/-- Only asking for an exclusive guard brings one out. -/
theorem exclusive_mem_perform (h : .exclusive k ∈ (s.perform a).alive) :
    a = .lendMut k ∨ .exclusive k ∈ s.alive := by
  cases a with
  | insert | remove | write => exact .inr h
  | lend k' =>
    rcases exclusive_mem_grant h with heq | h
    · cases heq
    · exact .inr h
  | lendMut k' =>
    rcases exclusive_mem_grant h with heq | h
    · cases heq
      exact .inl rfl
    · exact .inr h
  | release g => cases g <;> exact .inr (List.mem_of_mem_erase h)

theorem exclusive_notMem_run (hnever : .lendMut k ∉ history) (hfree : .exclusive k ∉ s.alive) :
    .exclusive k ∉ (s.run history).alive := by
  induction history generalizing s with
  | nil => exact hfree
  | cons a rest ih =>
    obtain ⟨ha, hrest⟩ := List.ne_and_not_mem_of_not_mem_cons hnever
    refine ih hrest fun hmem => ?_
    rcases exclusive_mem_perform hmem with rfl | hmem
    · exact ha rfl
    · exact hfree hmem

/-- What is left of a history: what the container answers, what guards that are out read, where the
values are that have been handed in, and how much is stored; and that each key has a history of its
own. -/
structure Accounted (history : List (Access κ V)) : Prop where
  serves : ∀ k, (start.run history).Serves k (lastValue history k)
  reads : ∀ g ∈ (start.run history).alive, ∃ v, lastValue history g.key = some v ∧
    g.read? (start.run history).container = some v
  conserved : ∀ k, handedIn history k =
    (start.run history).returned k ++ (lastValue history k).toList
  size : (start.run history).container.size = (storedKeys history).card
  separate : ∀ k, start.Legal (accessesTo k history) ∧
    AgreeAt k (start.run history) (start.run (accessesTo k history))

end Lending

/-- A container keeps to its discipline over every history.  Globals, which are never lent exclusively,
can always be had. -/
theorem resources_accounted :
    (∀ history : List (Access κ V), Lending.start.Legal history → Lending.Accounted history) ∧
      ∀ (s : Store κ V) (history : List (Access (Key κ) (Key.Value V))) (k : Key κ),
        Lending.start.Legal history → s.globals = (Lending.start.run history).container →
        .lendMut k ∉ history → s.global? k = lastValue history k := by
  refine ⟨fun history hlegal => ?_, fun s history k hlegal hglobals hnever => ?_⟩
  · have htracks := Lending.tracks_run hlegal
    exact {
      serves := fun k => (htracks k).serves
      reads := fun g hg => Lending.read?_of_mem (htracks g.key) hg
      conserved := fun k => (htracks k).given_eq
      size := Lending.size_run hlegal
      separate := fun k => Lending.replay .refl rfl hlegal }
  · rw [Store.global?, hglobals]
    exact (Lending.tracks_run hlegal k).serves.read
      (Lending.exclusive_notMem_run hnever List.not_mem_nil)

/-- Two kinds of values, with guards on both of them out at once. -/
def overlappingGuards : List (Access Bool fun b => cond b Nat String) :=
  [.insert true (1 : Nat), .insert false "a", .lend true, .lend false, .lend true, .lendMut true,
    .release (.shared true), .lendMut true, .release (.shared true), .lendMut true,
    .write true (5 : Nat), .lend true, .lendMut false, .release (.shared false), .lendMut false,
    .write false "b", .release (.exclusive true), .release (.exclusive false),
    .insert true (7 : Nat), .remove false, .lend false, .lend true, .lend true]

/-- A global that is asked for too early, published, and lent twice. -/
def lentCatalog : List (Access (Key Empty) (Key.Value Empty.elim)) :=
  [.lend .catalog, .insert .catalog Demo.catalog, .lend .catalog, .lend .catalog]

theorem resources_accounted_overlapping :
    (Lending.start.Legal overlappingGuards ∧
      (Lending.start.run overlappingGuards).container.lendMut true = .error .conflict ∧
      (Lending.start.run overlappingGuards).container.lend false = .error .notFound ∧
      handedIn overlappingGuards true =
        (Lending.start.run overlappingGuards).returned true ++
          (lastValue overlappingGuards true).toList ∧
      (Lending.start.run overlappingGuards).container.contains true = true ∧
      (Lending.start.run overlappingGuards).container.size = 1) ∧
      Lending.start.Legal lentCatalog ∧
      ∀ s : Store Empty Empty.elim, s.globals = (Lending.start.run lentCatalog).container →
        s.global? .catalog = some Demo.catalog := by
  have hlegal : Lending.start.Legal overlappingGuards := by decide
  have h := resources_accounted.1 overlappingGuards hlegal
  have hlegal' : Lending.start.Legal lentCatalog := by decide
  refine ⟨⟨hlegal, ?_, ?_, h.conserved true, (h.serves true).contains, h.size⟩, hlegal',
    fun s hs => ?_⟩
  · exact (h.serves true).lendMut_conflict.mpr ⟨rfl, .shared true, by decide, rfl⟩
  · exact (h.serves false).lend_notFound.mpr rfl
  · exact resources_accounted.2 s lentCatalog .catalog hlegal' hs (by simp [lentCatalog])

end ObjectAssembly
