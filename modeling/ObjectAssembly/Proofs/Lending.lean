import ObjectAssembly.Proofs.Cells
import Mathlib.Logic.Function.Basic

/-!
# Lending — a container over a history of accesses

A container is accessed in any order that the borrow discipline permits: values go in and out while no
guard is out, guards are asked for at any time, and guards that are out are written through and given
back.  What happens at one key depends on the accesses to that key alone, so it can be replayed without
the others.
-/

namespace ObjectAssembly

/-! ### Accesses -/

/-- A guard that is out. -/
inductive Guard (κ : Type)
  | shared (k : κ)
  | exclusive (k : κ)
  deriving DecidableEq, Repr

/-- The key of the value that is guarded. -/
def Guard.key {κ : Type} : Guard κ → κ
  | shared k => k
  | exclusive k => k

/-- An access to a container. -/
inductive Access (κ : Type) (V : κ → Type)
  | insert (k : κ) (v : V k)
  | remove (k : κ)
  | lend (k : κ)
  | lendMut (k : κ)
  | write (k : κ) (v : V k)
  | release (g : Guard κ)

/-- A container, the guards that are out on it, and all the values that it has given back. -/
structure Lending (κ : Type) (V : κ → Type) where
  container : Resources κ V
  alive : List (Guard κ)
  returned : ∀ k, List (V k)

variable {κ : Type} {V : κ → Type}

/-- The key of the value that is accessed. -/
def Access.key : Access κ V → κ
  | insert k _ => k
  | remove k => k
  | lend k => k
  | lendMut k => k
  | write k _ => k
  | release g => g.key

variable [DecidableEq κ]

/-- What a guard reads: the value out of the box in its entry. -/
def Guard.read? (g : Guard κ) (r : Resources κ V) : Option (V g.key) :=
  (r.stored? g.key).bind (·.value.downcast? g.key)

namespace Lending

/-- An empty container. -/
def start : Lending κ V := ⟨.empty, [], fun _ => []⟩

variable (s : Lending κ V)

/-- The guards that are out on one value. -/
def guardsOn (k : κ) : List (Guard κ) := s.alive.filter fun g => decide (g.key = k)

/-- Whether an access is permitted.  Values go in and out of a container that nothing is borrowed from,
and only guards that are out are used. -/
def Permits : Access κ V → Prop
  | .insert _ _ => s.alive = []
  | .remove _ => s.alive = []
  | .lend _ => True
  | .lendMut _ => True
  | .write k _ => .exclusive k ∈ s.alive
  | .release g => g ∈ s.alive

instance : (a : Access κ V) → Decidable (s.Permits a)
  | .insert _ _ => inferInstanceAs (Decidable (s.alive = []))
  | .remove _ => inferInstanceAs (Decidable (s.alive = []))
  | .lend _ => isTrue trivial
  | .lendMut _ => isTrue trivial
  | .write k _ => inferInstanceAs (Decidable (.exclusive k ∈ s.alive))
  | .release g => inferInstanceAs (Decidable (g ∈ s.alive))

/-- The guard is out if the container has granted it. -/
def grant (g : Guard κ) {k : κ} : Except AccessError (V k × Resources κ V) → Lending κ V
  | .ok (_, lent) => { s with container := lent, alive := g :: s.alive }
  | .error _ => s

/-- Performs an access. -/
def perform : Access κ V → Lending κ V
  | .insert k v =>
    { s with
      container := (s.container.insert k v).1
      returned := Function.update s.returned k
        (s.returned k ++ (s.container.insert k v).2.toList) }
  | .remove k =>
    { s with
      container := (s.container.remove k).1
      returned := Function.update s.returned k (s.returned k ++ (s.container.remove k).2.toList) }
  | .lend k => s.grant (.shared k) (s.container.lend k)
  | .lendMut k => s.grant (.exclusive k) (s.container.lendMut k)
  | .write k v => { s with container := s.container.write k v }
  | .release (.shared k) =>
    { s with container := s.container.release k, alive := s.alive.erase (.shared k) }
  | .release (.exclusive k) =>
    { s with container := s.container.releaseMut k, alive := s.alive.erase (.exclusive k) }

/-- Performs accesses in order. -/
def run (history : List (Access κ V)) : Lending κ V := history.foldl perform s

/-- Each access is permitted when its turn comes. -/
def Legal : Lending κ V → List (Access κ V) → Prop
  | _, [] => True
  | s, a :: rest => s.Permits a ∧ Legal (s.perform a) rest

instance decidableLegal : (s : Lending κ V) → (history : List (Access κ V)) →
    Decidable (s.Legal history)
  | _, [] => isTrue trivial
  | s, a :: rest =>
    have := decidableLegal (s.perform a) rest
    inferInstanceAs (Decidable (s.Permits a ∧ (s.perform a).Legal rest))

end Lending

/-! ### One access -/

namespace Lending

variable {s t : Lending κ V} {a : Access κ V} {k : κ} {g : Guard κ} {history : List (Access κ V)}
  {container : Resources κ V} {returned : ∀ k, List (V k)}

/-- Two containers cannot be told apart at one key. -/
structure AgreeAt (k : κ) (s t : Lending κ V) : Prop where
  cell : t.container.cell? k = s.container.cell? k
  guards : t.guardsOn k = s.guardsOn k
  returned : t.returned k = s.returned k

theorem AgreeAt.refl : AgreeAt k s s := ⟨rfl, rfl, rfl⟩

theorem AgreeAt.symm (h : AgreeAt k s t) : AgreeAt k t s :=
  ⟨h.cell.symm, h.guards.symm, h.returned.symm⟩

theorem AgreeAt.trans {u : Lending κ V} (h : AgreeAt k s t) (h' : AgreeAt k t u) : AgreeAt k s u :=
  ⟨h'.cell.trans h.cell, h'.guards.trans h.guards, h'.returned.trans h.returned⟩

theorem mem_guardsOn : g ∈ s.guardsOn k ↔ g ∈ s.alive ∧ g.key = k := by
  simp [guardsOn]

theorem exclusive_mem_guardsOn : .exclusive k ∈ s.guardsOn k ↔ .exclusive k ∈ s.alive :=
  mem_guardsOn.trans (and_iff_left rfl)

theorem guardsOn_eq_nil_iff : s.guardsOn k = [] ↔ ∀ g ∈ s.alive, g.key ≠ k := by
  simp [guardsOn, List.filter_eq_nil_iff]

theorem guardsOn_of_alive_eq_nil (h : s.alive = []) : s.guardsOn k = [] := by
  rw [guardsOn, h]
  rfl

theorem guardsOn_cons (h : g.key = k) :
    (mk container (g :: s.alive) returned).guardsOn k = g :: s.guardsOn k :=
  List.filter_cons_of_pos (by simpa using h)

theorem guardsOn_cons_of_ne (h : g.key ≠ k) :
    (mk container (g :: s.alive) returned).guardsOn k = s.guardsOn k :=
  List.filter_cons_of_neg (by simpa using h)

theorem guardsOn_erase :
    (mk container (s.alive.erase g) returned).guardsOn k = (s.guardsOn k).erase g :=
  List.erase_filter.symm

theorem guardsOn_erase_of_ne (h : g.key ≠ k) :
    (mk container (s.alive.erase g) returned).guardsOn k = s.guardsOn k :=
  guardsOn_erase.trans (List.erase_of_not_mem fun hmem => h (mem_guardsOn.mp hmem).2)

theorem guardsOn_erase_congr {container' : Resources κ V} {returned' : ∀ k, List (V k)}
    (h : t.guardsOn k = s.guardsOn k) :
    (mk container' (t.alive.erase g) returned').guardsOn k =
      (mk container (s.alive.erase g) returned).guardsOn k := by
  rw [guardsOn_erase, guardsOn_erase, h]

theorem grant_of_ne {k' : κ} {answer : Except AccessError (V k' × Resources κ V)} (h : g.key ≠ k)
    (hlent : ∀ v lent, answer = .ok (v, lent) → lent.cell? k = s.container.cell? k) :
    AgreeAt k s (s.grant g answer) := by
  rcases answer with e | ⟨v, lent⟩
  · exact .refl
  · exact ⟨hlent v lent rfl, guardsOn_cons_of_ne h, rfl⟩

/-- An access changes nothing at another key. -/
theorem perform_of_ne (h : a.key ≠ k) : AgreeAt k s (s.perform a) := by
  cases a with
  | insert k' v =>
    exact ⟨Resources.cell?_setCell_of_ne h, rfl, Function.update_of_ne (Ne.symm h) _ _⟩
  | remove k' => exact ⟨Resources.cell?_remove_of_ne h, rfl, Function.update_of_ne (Ne.symm h) _ _⟩
  | lend k' =>
    refine grant_of_ne h fun v lent hlend => ?_
    obtain ⟨n, -, rfl⟩ := Resources.of_lend_eq_ok hlend
    exact Resources.cell?_setCell_of_ne h
  | lendMut k' =>
    refine grant_of_ne h fun v lent hlend => ?_
    obtain ⟨-, rfl⟩ := Resources.of_lendMut_eq_ok hlend
    exact Resources.cell?_setCell_of_ne h
  | write k' v => exact ⟨Resources.cell?_write_of_ne h, rfl, rfl⟩
  | release g =>
    cases g with
    | shared k' => exact ⟨Resources.cell?_release_of_ne h, guardsOn_erase_of_ne h, rfl⟩
    | exclusive k' => exact ⟨Resources.cell?_releaseMut_of_ne h, guardsOn_erase_of_ne h, rfl⟩

/-- An access that is granted or refused alike changes the same. -/
theorem AgreeAt.grant {answer answer' : Except AccessError (V k × Resources κ V)}
    (h : AgreeAt k s t) (hg : g.key = k)
    (hanswer : answer.map (·.2.cell? k) = answer'.map (·.2.cell? k)) :
    AgreeAt k (s.grant g answer) (t.grant g answer') := by
  rcases answer with e | ⟨v, lent⟩ <;> rcases answer' with e' | ⟨v', lent'⟩
  · exact h
  · cases hanswer
  · cases hanswer
  · have hcell : lent.cell? k = lent'.cell? k := Except.ok.inj hanswer
    refine ⟨hcell.symm, ?_, h.returned⟩
    rw [Lending.grant, Lending.grant, guardsOn_cons hg, guardsOn_cons hg, h.guards]

/-- What an access does at its key depends on what is there. -/
theorem AgreeAt.perform (h : AgreeAt a.key s t) : AgreeAt a.key (s.perform a) (t.perform a) := by
  have hvalue := Resources.value?_congr h.cell
  have hreturned := h.returned
  cases a with
  | insert k v =>
    refine ⟨Resources.cell?_insert_self.trans Resources.cell?_insert_self.symm, h.guards, ?_⟩
    simp only [Access.key] at hvalue hreturned
    simp only [Lending.perform, Access.key, Function.update_self, Resources.insert_snd, hvalue,
      hreturned]
  | remove k =>
    refine ⟨Resources.cell?_remove_self.trans Resources.cell?_remove_self.symm, h.guards, ?_⟩
    simp only [Access.key] at hvalue hreturned
    simp only [Lending.perform, Access.key, Function.update_self, Resources.remove_snd, hvalue,
      hreturned]
  | lend k => exact h.grant rfl (Resources.lend_congr h.cell).symm
  | lendMut k => exact h.grant rfl (Resources.lendMut_congr h.cell).symm
  | write k v => exact ⟨Resources.cell?_write_congr h.cell, h.guards, h.returned⟩
  | release g =>
    cases g with
    | shared k =>
      exact ⟨Resources.cell?_release_congr h.cell, guardsOn_erase_congr h.guards, h.returned⟩
    | exclusive k =>
      exact ⟨Resources.cell?_releaseMut_congr h.cell, guardsOn_erase_congr h.guards, h.returned⟩

/-! ### One key -/

/-- All guards are out on this key. -/
def OnlyAt (k : κ) (s : Lending κ V) : Prop := s.guardsOn k = s.alive

theorem OnlyAt.permits (h : OnlyAt a.key t) (hagree : AgreeAt a.key s t) (ha : s.Permits a) :
    t.Permits a := by
  have halive : t.alive = s.guardsOn a.key := h.symm.trans hagree.guards
  cases a with
  | insert k v => exact halive.trans (guardsOn_of_alive_eq_nil ha)
  | remove k => exact halive.trans (guardsOn_of_alive_eq_nil ha)
  | lend k => trivial
  | lendMut k => trivial
  | write k v =>
    rw [Permits, halive]
    exact mem_guardsOn.mpr ⟨ha, rfl⟩
  | release g =>
    rw [Permits, halive]
    exact mem_guardsOn.mpr ⟨ha, rfl⟩

theorem OnlyAt.grant {g : Guard κ} {answer : Except AccessError (V k × Resources κ V)}
    (h : OnlyAt k s) (hg : g.key = k) : OnlyAt k (s.grant g answer) := by
  cases answer with
  | error e => exact h
  | ok p => exact (guardsOn_cons hg).trans (congrArg (g :: ·) h)

theorem OnlyAt.perform (h : OnlyAt a.key s) : OnlyAt a.key (s.perform a) := by
  cases a with
  | insert k v => exact h
  | remove k => exact h
  | lend k => exact OnlyAt.grant h rfl
  | lendMut k => exact OnlyAt.grant h rfl
  | write k v => exact h
  | release g =>
    cases g with
    | shared k => exact guardsOn_erase.trans (congrArg (List.erase · _) h)
    | exclusive k => exact guardsOn_erase.trans (congrArg (List.erase · _) h)

/-- The accesses to one key. -/
def accessesTo (k : κ) (history : List (Access κ V)) : List (Access κ V) :=
  history.filter fun a => decide (a.key = k)

theorem replay (hagree : AgreeAt k s t) (honly : OnlyAt k t) (hlegal : s.Legal history) :
    t.Legal (accessesTo k history) ∧ AgreeAt k (s.run history) (t.run (accessesTo k history)) := by
  induction history generalizing s t with
  | nil => exact ⟨trivial, hagree⟩
  | cons a rest ih =>
    by_cases hk : a.key = k
    · subst hk
      rw [accessesTo, List.filter_cons_of_pos (by simp)]
      have ⟨hlegal', hagree'⟩ := ih hagree.perform honly.perform hlegal.2
      exact ⟨⟨honly.permits hagree hlegal.1, hlegal'⟩, hagree'⟩
    · rw [accessesTo, List.filter_cons_of_neg (by simpa using hk)]
      exact ih (AgreeAt.trans (perform_of_ne hk).symm hagree) honly hlegal.2

end Lending

end ObjectAssembly
