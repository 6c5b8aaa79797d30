import ObjectAssembly.Proofs.Plugin.Finish
import ObjectAssembly.Proofs.Plugin.Sorting

/-!
# Dependencies — which dependencies a finished server has met

The sort looks a dependency up by the name of its type among the names that the waiting plugins bear.
So a build that is not inside another one begins after the last waiting plugin of that name, which may
be a plugin of another type.  Nothing is looked up for a plugin that is added while another one builds.
-/

namespace ObjectAssembly

variable {ι σ ρ : Type} {family : ι → Plugin ι σ ρ} {pending built sorted first rest : List ι}
  {p : ι} {d : PluginId} {name : String} {i : Nat}

/-! ### What the sort looks up -/

/-- The last waiting plugin that bears a name. -/
def LastNamed (family : ι → Plugin ι σ ρ) (pending : List ι) (name : String) (q : ι) : Prop :=
  ∃ before after, pending = before ++ q :: after ∧ (family q).name = name ∧
    ∀ x ∈ after, (family x).name ≠ name

/-- The last of these plugins that bears a name stands at this position. -/
def LastAt (family : ι → Plugin ι σ ρ) (plugins : List ι) (name : String) (i : Nat) : Prop :=
  ∃ before q after, plugins = before ++ q :: after ∧ before.length = i ∧ (family q).name = name ∧
    ∀ x ∈ after, (family x).name ≠ name

theorem lastIndex?_eq_some_iff :
    Order.lastIndex? name 0 (pending.map (Server.node family)) = some i ↔
      LastAt family pending name i := by
  constructor
  · intro h
    obtain ⟨before, n, after, hsplit, rfl, hn, hlast⟩ := Order.exists_of_lastIndex? h
    obtain ⟨before, tail, rfl, rfl, htail⟩ := List.map_eq_append_iff.mp hsplit
    obtain ⟨q, after, rfl, rfl, rfl⟩ := List.map_eq_cons_iff.mp htail
    refine ⟨before, q, after, rfl, ?_, hn, fun x hx => hlast _ (List.mem_map_of_mem hx)⟩
    rw [List.length_map, Nat.zero_add]
  · rintro ⟨before, q, after, rfl, rfl, hq, hlast⟩
    rw [List.map_append, List.map_cons, Order.lastIndex?_append hq (List.forall_mem_map.mpr hlast),
      List.length_map, Nat.zero_add]

instance : Decidable (LastAt family pending name i) :=
  decidable_of_iff _ lastIndex?_eq_some_iff

theorem LastAt.exists_getElem? (h : LastAt family pending name i) :
    ∃ q, pending[i]? = some q ∧ LastNamed family pending name q := by
  obtain ⟨before, q, after, rfl, rfl, hq, hlast⟩ := h
  exact ⟨q, by simp, before, after, rfl, hq, hlast⟩

theorem exists_lastAt (hp : p ∈ pending) (hname : (family p).name = name) :
    ∃ i, LastAt family pending name i := by
  cases hfound : Order.lastIndex? name 0 (pending.map (Server.node family)) with
  | none =>
    exact absurd hname (Order.lastIndex?_eq_none_iff.mp hfound _ (List.mem_map_of_mem hp))
  | some i => exact ⟨i, lastIndex?_eq_some_iff.mp hfound⟩

/-- A sorted plugin stands behind the last waiting plugin of the name of each dependency, unless a
built plugin bears that name. -/
theorem lastNamed_before_of_sortPlugins (h : Server.sortPlugins family pending built = .ok sorted)
    (hs : sorted = first ++ p :: rest) (hd : d ∈ (family p).dependencies) :
    (∃ q ∈ first, LastNamed family pending d.typeName q) ∨
      ∃ q ∈ built, (family q).name = d.typeName := by
  obtain ⟨order, hsort, rfl⟩ := Order.map_ok_iff.mp h
  obtain ⟨-, es, hedges, hordered⟩ := Order.sort_ok hsort
  obtain ⟨l, l', rfl, hfirst, htail⟩ := List.filterMap_eq_append_iff.mp hs
  obtain ⟨skipped, i, l'', rfl, hskip, hi, -⟩ := List.filterMap_eq_cons_iff.mp htail
  have hnode : (pending.map (Server.node family))[i]? = some (Server.node family p) := by
    rw [List.getElem?_map, hi]
    rfl
  have hdep : d.typeName ∈ (Server.node family p).dependencies := List.mem_map_of_mem hd
  rcases Order.edge_of_dependency hedges hnode hdep with ⟨source, hl, he⟩ | ⟨-, hb⟩
  · left
    obtain ⟨q, hq, hnamed⟩ := (lastIndex?_eq_some_iff.mp hl).exists_getElem?
    have hmem : source ∈ l := by
      have hin := hordered (l ++ skipped) i l'' (List.append_assoc _ _ _).symm _ he rfl
      rcases List.mem_append.mp hin with hin | hin
      · exact hin
      · rw [hskip source hin] at hq
        cases hq
    refine ⟨q, ?_, hnamed⟩
    rw [← hfirst]
    exact List.mem_filterMap.mpr ⟨source, hmem, hq⟩
  · right
    obtain ⟨q, hq, hname⟩ := List.mem_map.mp hb
    exact ⟨q, hq, hname⟩

/-! ### Dependencies in a trace -/

/-- A plugin of this type has completed its build. -/
def Completed (family : ι → Plugin ι σ ρ) (steps : List (TraceEntry ι ρ)) (d : PluginId) : Prop :=
  ∃ q, .ended .build q ∈ steps ∧ (family q).id = d

/-- Whenever a plugin begins to build, plugins of all types that it depends on have completed their
builds. -/
def DependenciesMet (family : ι → Plugin ι σ ρ) (trace : List (TraceEntry ι ρ)) : Prop :=
  ∀ before p, Begins trace before p → ∀ d ∈ (family p).dependencies, Completed family before d

/-- The last waiting plugin that bears the name of a type is of another type. -/
def Disguised (family : ι → Plugin ι σ ρ) (pending : List ι) (d : PluginId) : Prop :=
  ∃ q, LastNamed family pending d.typeName q ∧ (family q).id ≠ d

/-- No dependency is disguised: the last plugin that bears the name of its type, if there is one, is of
that type. -/
def Undisguised (family : ι → Plugin ι σ ρ) (plugins : List ι) : Prop :=
  ∀ p ∈ plugins, ∀ d ∈ (family p).dependencies, ¬ Disguised family plugins d

/-- The names of plugins tell which of them are of the types that are depended on. -/
def NamesTell (family : ι → Plugin ι σ ρ) (plugins : List ι) : Prop :=
  ∀ p ∈ plugins, ∀ d ∈ (family p).dependencies, ∀ q ∈ plugins,
    (family q).name = d.typeName ↔ (family q).id = d

theorem NamesTell.undisguised (h : NamesTell family pending) : Undisguised family pending := by
  rintro p hp d hd ⟨q, ⟨before, after, rfl, hname, -⟩, hid⟩
  exact hid ((h p hp d hd q (by simp)).mp hname)

theorem LastNamed.id_eq (h : LastNamed family pending d.typeName p)
    (hd : ¬ Disguised family pending d) : (family p).id = d := by
  by_contra hid
  exact hd ⟨p, h, hid⟩

theorem finish_of_perform {fuel : Nat} {s s' : Server ι σ ρ} {reply : Option ρ}
    (h : Server.perform family fuel .finish s = (.done reply, s')) :
    ∃ fuel', Server.finish family (Server.perform family fuel') s = (.done (), s') := by
  cases fuel with
  | zero => cases h
  | succ fuel =>
    obtain ⟨_, mid, hf, hmid⟩ := Result.andThen_eq_done_iff.mp h
    cases hmid
    exact ⟨fuel, hf⟩

/-- A build that is not inside another one begins after that of the last waiting plugin of the name of
each dependency. -/
theorem ended_lastNamed_of_begins {fuel : Nat} {s s' : Server ι σ ρ} {reply : Option ρ}
    (hs : Reachable family s) (hf : Server.perform family fuel .finish s = (.done reply, s'))
    {before : List (TraceEntry ι ρ)} (hb : Begins s'.trace before p) (hout : underWay [] before = [])
    (hd : d ∈ (family p).dependencies) :
    ∃ q, LastNamed family s.pending d.typeName q ∧ .ended .build q ∈ before := by
  obtain ⟨fuel', hf⟩ := finish_of_perform hf
  obtain ⟨sorted, hsort, horder⟩ := Server.inOrder_of_finish
    (fun _ hstate => Server.perform_steady family hstate fuel') (Server.fresh_of_reachable hs) hf
  obtain ⟨after, htrace⟩ := hb
  obtain ⟨first, rest, hsplit, hended⟩ := horder before p after htrace hout
  rcases lastNamed_before_of_sortPlugins hsort hsplit hd with ⟨q, hq, hnamed⟩ | ⟨q, hq, -⟩
  · exact ⟨q, hnamed, hended q hq⟩
  · cases hq

/-- **Which dependencies a finished server has met.**  A build that is not inside another one begins
after that of the last waiting plugin of the name of each dependency.  So all dependencies are met iff
they are met for the builds inside other builds, and for the types whose name another plugin bears. -/
theorem finish_meets_dependencies_iff (family : ι → Plugin ι σ ρ) (fuel : Nat)
    (s s' : Server ι σ ρ) (reply : Option ρ) (hs : Reachable family s)
    (hf : Server.perform family fuel .finish s = (.done reply, s')) :
    (∀ before p, Begins s'.trace before p → underWay [] before = [] →
      ∀ d ∈ (family p).dependencies, ∃ q, LastNamed family s.pending d.typeName q ∧
        .ended .build q ∈ before) ∧
    (DependenciesMet family s'.trace ↔
      ∀ before p, Begins s'.trace before p → ∀ d ∈ (family p).dependencies,
        underWay [] before ≠ [] ∨ Disguised family s.pending d → Completed family before d) := by
  refine ⟨fun before p hb hout d hd => ended_lastNamed_of_begins hs hf hb hout hd, ?_, ?_⟩
  · intro h before p hb d hd _
    exact h before p hb d hd
  · intro h before p hb d hd
    by_cases hout : underWay [] before ≠ [] ∨ Disguised family s.pending d
    · exact h before p hb d hd hout
    · rw [not_or, not_not] at hout
      obtain ⟨q, hq, hended⟩ := ended_lastNamed_of_begins hs hf hb hout.1 hd
      exact ⟨q, hended, hq.id_eq hout.2⟩

section Sample

/-- Two plugins, one that adds others while it builds, and one that has dependencies. -/
def pairFamily (added : List Bool) (dependencies : List PluginId) : Bool → Plugin Bool Unit Unit
  | false => ⟨⟨0, "A"⟩, "A", true, [], fun | .build => [.add added] | _ => []⟩
  | true => ⟨⟨1, "B"⟩, "B", true, dependencies, fun _ => []⟩

/-- The second plugin depends on the first. -/
def dependentPair : Bool → Plugin Bool Unit Unit := pairFamily [] [⟨0, "A"⟩]

/-- The first plugin adds the second, which depends on a type that is never added. -/
def strayPair : Bool → Plugin Bool Unit Unit := pairFamily [true] [⟨2, "C"⟩]

/-- The server to which these plugins have been added. -/
def pairServer (family : Bool → Plugin Bool Unit Unit) (plugins : List Bool) :
    Server Bool Unit Unit :=
  (Server.perform family 1 (.add plugins) (.new ())).2

theorem finish_meets_dependencies_pair :
    ∃ s', Server.perform dependentPair 2 .finish (pairServer dependentPair [true, false]) =
        (.done none, s') ∧
      (DependenciesMet dependentPair s'.trace ↔
        ∀ before p, Begins s'.trace before p → ∀ d ∈ (dependentPair p).dependencies,
          underWay [] before ≠ [] ∨
              Disguised dependentPair (pairServer dependentPair [true, false]).pending d →
            Completed dependentPair before d) := by
  have hf : Server.perform dependentPair 2 .finish (pairServer dependentPair [true, false]) =
      (.done none, _) := rfl
  exact ⟨_, hf, (finish_meets_dependencies_iff _ _ _ _ _ (.perform 1 _ (.new ())) hf).2⟩

/-- A plugin that is added while another one builds may depend on a type that is never added. -/
theorem finish_misses_dependency :
    ∃ s', Server.perform strayPair 3 .finish (pairServer strayPair [false]) = (.done none, s') ∧
      ¬ DependenciesMet strayPair s'.trace := by
  refine ⟨_, rfl, fun h => ?_⟩
  obtain ⟨q, hq, -⟩ := h [.began .build false] true ⟨_, rfl⟩ ⟨2, "C"⟩ (List.mem_singleton_self _)
  cases List.mem_singleton.mp hq

end Sample

end ObjectAssembly
