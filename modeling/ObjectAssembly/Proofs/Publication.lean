import ObjectAssembly.Proofs.Plugin.Accounting
import ObjectAssembly.Proofs.Plugin.DependencyGraph
import ObjectAssembly.Proofs.Plugin.Naming
import ObjectAssembly.Proofs.Registrars

/-!
# Publication — what registrars register is published once all of them have been built

Registrars depend on the plugin that provides the registry, so that one is built first, whatever the
order in which they have been added.  Each build then registers its types, and the provider, which gets
ready first, publishes the lot.  If an identifier is taken, the build that meets it panics, nobody gets
ready, and nothing is ever published.  All this is so if each dependency is found under the name of its
type; registrars that have a name in common may be taken for a cycle.
-/

namespace ObjectAssembly

variable {κ : Type} {V : κ → Type} [DecidableEq κ] {ι ρ : Type}

/-- Plugins of distinct types: the one that provides the registry, and registrars, which depend on it
and perhaps on one another, but not in a cycle. -/
structure RegistrySetup (family : ι → Plugin ι (Store κ V) ρ) (types : ι → List ObjectType)
    (plugins : List ι) : Prop where
  distinct : (plugins.map fun p => (family p).id).Nodup
  provider : ∃ p ∈ plugins, family p = objectsPlugin
  registrar : ∀ p ∈ plugins, family p = objectsPlugin ∧ types p = [] ∨
    Registrar (types p) (family p) ∧ objectsId ∈ (family p).dependencies
  found : ∀ d d', Needs family plugins d d' → ∃ q ∈ plugins, (family q).id = d'
  acyclic : ∀ d, ¬ Relation.TransGen (Needs family plugins) d d

/-! ### The order of the builds -/

section Setup

variable {family : ι → Plugin ι (Store κ V) ρ} {types : ι → List ObjectType}
  {plugins added sorted : List ι} {fuel : Nat} {p : ι} {store : Store κ V}

theorem RegistrySetup.of_perm (h : RegistrySetup family types plugins)
    (hperm : added.Perm plugins) : RegistrySetup family types added := by
  have hneeds : Needs family added = Needs family plugins := by
    funext d d'
    simp only [Needs, hperm.mem_iff]
  refine ⟨(hperm.map _).nodup_iff.mpr h.distinct, ?_, ?_, ?_, hneeds ▸ h.acyclic⟩
  · simpa only [hperm.mem_iff] using h.provider
  · simpa only [hperm.mem_iff] using h.registrar
  · rw [hneeds]
    simpa only [hperm.mem_iff] using h.found

theorem RegistrySetup.namedByType (h : RegistrySetup family types plugins) :
    NamedByType family plugins := by
  intro p hp
  rcases h.registrar p hp with ⟨hprovider, -⟩ | ⟨hregistrar, -⟩
  · rw [hprovider]
    rfl
  · exact hregistrar.name

/-- The provider is built first and registrars after it. -/
theorem RegistrySetup.provider_first (h : RegistrySetup family types plugins)
    (hsort : Server.sortPlugins family plugins [] = .ok sorted) :
    ∃ p rest, sorted = p :: rest ∧ family p = objectsPlugin ∧ types p = [] ∧
      ∀ q ∈ rest, Registrar (types q) (family q) := by
  have hsorted := h.of_perm (Server.sortPlugins_perm hsort)
  cases sorted with
  | nil =>
    obtain ⟨p, hp, -⟩ := hsorted.provider
    cases hp
  | cons p rest =>
    rcases hsorted.registrar p List.mem_cons_self with ⟨hprovider, hnone⟩ | ⟨-, hneeds⟩
    · refine ⟨p, rest, rfl, hprovider, hnone, fun q hq => ?_⟩
      rcases hsorted.registrar q (List.mem_cons_of_mem p hq) with ⟨hprovider', -⟩ | ⟨hregistrar, -⟩
      · have hdistinct := (List.nodup_cons.mp hsorted.distinct).1
        have hsame : (family p).id = (family q).id := by rw [hprovider, hprovider']
        exact absurd (List.mem_map.mpr ⟨q, hq, hsame.symm⟩) hdistinct
      · exact hregistrar
    · -- nothing stands before the first plugin, so it depends on nothing
      have hsplit : p :: rest = [] ++ p :: rest := rfl
      rcases lastNamed_before_of_sortPlugins hsort hsplit hneeds with ⟨q, hq, -⟩ | ⟨q, hq, -⟩
      · cases hq
      · cases hq

/-! ### Adding the plugins -/

theorem RegistrySetup.exists_added (h : RegistrySetup family types added) (store : Store κ V)
    (fuel : Nat) :
    ∃ s, Server.perform family (fuel + 1) (.add added) (.new store) = (.done none, s) ∧
      s.state = .notStarted ∧ s.pending = added ∧ s.built = [] ∧ s.trace = [] ∧ s.store = store := by
  obtain ⟨s, hadded, hstore, htrace⟩ := Server.addPlugins_of_distinct (Server.perform family fuel)
    (s := .new store) rfl h.distinct fun _ _ => List.not_mem_nil
  have hdone : Server.perform family (fuel + 1) (.add added) (.new store) = (.done none, s) := by
    rw [Server.perform, Server.performWith, hadded]
    rfl
  obtain ⟨hstate, hpending, hbuilt⟩ := waiting_of_perform hdone
  exact ⟨s, hdone, hstate, hpending, hbuilt, htrace, hstore⟩

/-! ### Finishing -/

theorem RegistrySetup.unpublishing (h : RegistrySetup family types plugins) :
    ∀ p ∈ plugins, Unpublishing (family p) := by
  intro p hp
  rcases h.registrar p hp with ⟨hprovider, -⟩ | ⟨hregistrar, -⟩
  · exact unpublishing_of_provider hprovider
  · exact hregistrar.unpublishing

theorem RegistrySetup.cleanup_nil (h : RegistrySetup family types plugins) :
    ∀ p ∈ plugins, (family p).callback .cleanup = [] := by
  intro p hp
  rcases h.registrar p hp with ⟨hprovider, -⟩ | ⟨hregistrar, -⟩
  · rw [hprovider]
    rfl
  · exact hregistrar.later .cleanup (by decide)

/-- The server builds, has built only plugins of the list, and this is what is published. -/
structure Unready (plugins : List ι) (published : Option ObjectRegistry)
    (s : Server ι (Store κ V) ρ) : Prop where
  state : s.state = .building
  listed : s.built ⊆ plugins
  published : s.store.publishedRegistry? = published

/-- What `finish` does once the plugins are sorted: it publishes the types of all of them, or panics
about an identifier that is taken. -/
theorem finish_registers {rest : List ι} {s s' : Server ι (Store κ V) ρ} {o : Outcome Unit}
    (hs : s.state = .notStarted) (hempty : s.built = []) (hbegun : buildsBegun s.trace = [])
    (hsort : Server.sortPlugins family s.pending s.built = .ok (p :: rest))
    (hp : family p = objectsPlugin) (hrest : ∀ q ∈ rest, Registrar (types q) (family q))
    (hf : Server.finish family (Server.perform family (fuel + 1)) s = (o, s')) :
    ∃ reg taken, Filled [] (rest.flatMap types) reg taken ∧ buildsBegun s'.trace <+: p :: rest ∧
      match taken with
      | none => o = .done () ∧ buildsBegun s'.trace = p :: rest ∧
          s'.store.resources.cell? (.registry : Key κ) = none ∧
          s'.store.publishedRegistry? = some ⟨reg⟩
      | some id => o = .fault (.raised (ObjectRegistry.duplicateMessage id)) ∧ s'.store.Holds reg ∧
          Unready (p :: rest) s.store.publishedRegistry? s' := by
  have hunpublishing : ∀ q ∈ p :: rest, Unpublishing (family q) :=
    List.forall_mem_cons.mpr
      ⟨unpublishing_of_provider hp, fun q hq => (hrest q hq).unpublishing⟩
  have hsteady : ∀ state, state ≠ .notStarted → Steady state (Server.perform family (fuel + 1)) :=
    fun state hstate => Server.perform_steady family hstate (fuel + 1)
  have hstate : (Server.buildAll family (Server.perform family (fuel + 1)) (p :: rest)
      s.begun).2.state = .building :=
    (Server.buildAll_begun_adds hsteady (p :: rest)).state
  have hbuilding := buildAll_building (fuel + 1) s.begun hunpublishing
  rw [Server.finish_of_sorted hs hsort] at hf
  rcases hbuilds : Server.buildAll family (Server.perform family (fuel + 1)) (p :: rest) s.begun
    with ⟨o', mid⟩
  obtain ⟨reg, taken, hholds, hfilled, hends⟩ := buildAll_fills hp hrest hbuilds
  rw [hbuilds] at hf hstate hbuilding
  obtain ⟨hpublished, ⟨begun, hparts, htrace⟩, hlisted, hdone⟩ := hbuilding
  rw [show buildsBegun s.begun.trace = [] from hbegun, List.nil_append] at htrace hdone
  rw [show s.begun.built = [] from hempty, List.nil_append] at hlisted hdone
  refine ⟨reg, taken, hfilled, ?_⟩
  cases taken with
  | some id =>
    -- nobody gets ready, so the server stays as the builds have left it
    cases hends
    cases hf
    exact ⟨htrace ▸ hparts, rfl, hholds, hstate, hlisted, hpublished⟩
  | none =>
    obtain ⟨a, rfl⟩ := hends
    obtain ⟨hall, hbuilt⟩ := hdone a rfl
    -- the provider has been built first, so it is also the first to get ready
    have hready : ∀ q ∈ rest, (family q).callback .ready = [] := fun q hq =>
      (hrest q hq).later .ready (by decide)
    obtain ⟨last, hruns, hgone, hpublishes, hsame⟩ :=
      ready_publishes fuel mid.awaiting hp hready hholds
    have hbuilt : mid.built = p :: rest := hbuilt
    have hresult : (Server.runCallbacks family (Server.perform family (fuel + 1)) .ready mid.built
        mid.awaiting) = (.done (), last) := hbuilt ▸ hruns
    have hend : buildsBegun last.trace = p :: rest := hsame.trans hall
    simp only [Result.andThen, hresult] at hf
    cases hf
    exact ⟨hend ▸ List.prefix_rfl, rfl, hend, hgone, hpublishes⟩

end Setup

/-! ### Calls after a build has panicked -/

/-- The action adds plugins of this list only, or finishes, or cleans up. -/
inductive Action.Among {σ : Type} (plugins : List ι) : Action ι σ ρ → Prop
  | add {more : List ι} (h : more ⊆ plugins) : Among plugins (.add more)
  | finish : Among plugins .finish
  | cleanup : Among plugins .cleanup

section Unready

variable {family : ι → Plugin ι (Store κ V) ρ} {types : ι → List ObjectType}
  {plugins more : List ι} {fuel : Nat} {p : ι} {a : Action ι (Store κ V) ρ}
  {published : Option ObjectRegistry} {s : Server ι (Store κ V) ρ}

/-- Further plugins are built at once, or refused. -/
theorem addPlugin_unready (h : Unpublishing (family p)) (hp : p ∈ plugins)
    (hs : Unready plugins published s) :
    Unready plugins published
      (Server.addPlugin family (Server.perform family fuel) p s).2 := by
  by_cases hrefused : s.refuses family p = true
  · rw [Server.addPlugin_of_refuses hrefused]
    exact hs
  · rw [Server.addPlugin_of_building hrefused hs.state]
    have hsteady : Steady .building (Server.perform family fuel) :=
      Server.perform_steady family (by decide) fuel
    have henrolled : (s.enrol (family p).id).state = .building := hs.state
    have hstate : (Server.buildPlugin family (Server.perform family fuel) p
        (s.enrol (family p).id)).2.state = (s.enrol (family p).id).state :=
      (Server.buildPlugin_adds hsteady henrolled).state
    obtain ⟨hpublished, -, hlisted, -⟩ :=
      buildPlugin_building fuel (s.enrol (family p).id) h
    refine ⟨hstate.trans henrolled, fun q hq => ?_, hpublished.trans hs.published⟩
    rcases List.mem_append.mp (hlisted hq) with hold | hnew
    · exact hs.listed hold
    · rwa [List.mem_singleton.mp hnew]

theorem addPlugins_unready (h : ∀ p ∈ plugins, Unpublishing (family p)) (hmore : more ⊆ plugins)
    (hs : Unready plugins published s) :
    Unready plugins published
      (Server.addPlugins family (Server.perform family fuel) more s).2 := by
  induction more generalizing s with
  | nil => exact hs
  | cons p rest ih =>
    obtain ⟨hp, hrest⟩ := List.cons_subset.mp hmore
    exact Result.andThen_snd (addPlugin_unready (h p hp) hp hs) fun _ mid hmid => ih hrest hmid

theorem cleanup_unready (h : ∀ p ∈ plugins, (family p).callback .cleanup = [])
    (hs : Unready plugins published s) :
    Unready plugins published (Server.cleanup family (Server.perform family fuel) s).2 := by
  have hnone : ∀ p ∈ s.built.reverse, (family p).callback .cleanup = [] := fun p hp =>
    h p (hs.listed (List.mem_reverse.mp hp))
  have hphase : Phase.cleanup ≠ .build := by decide
  obtain ⟨s', hruns, hstore, hstate, -⟩ := Server.runCallbacks_of_nil
    (Server.perform family fuel) { s with built := [] } hphase hnone
  have hsame := congrArg Store.publishedRegistry? hstore
  rw [Server.cleanup, hruns]
  exact ⟨hstate.trans hs.state, hs.listed, hsame.trans hs.published⟩

/-- No such call publishes a registry. -/
theorem perform_unready (h : RegistrySetup family types plugins) (ha : a.Among plugins)
    (hs : Unready plugins published s) :
    Unready plugins published (Server.perform family fuel a s).2 := by
  cases fuel with
  | zero => exact hs
  | succ fuel =>
    rw [Server.perform]
    cases ha with
    | add hmore =>
      exact Result.andThen_snd (addPlugins_unready h.unpublishing hmore hs) fun _ _ hmid => hmid
    | finish =>
      have hstarted : s.state ≠ .notStarted := by
        rw [hs.state]
        exact BuildState.noConfusion
      rw [Server.performWith, Server.finish_of_started hstarted]
      exact hs
    | cleanup => exact Result.andThen_snd (cleanup_unready h.cleanup_nil hs) fun _ _ hmid => hmid

theorem afterCalls_unready (h : RegistrySetup family types plugins)
    {calls : List (Call ι (Store κ V) ρ)} (hcalls : ∀ c ∈ calls, c.action.Among plugins)
    (hs : Unready plugins published s) :
    Unready plugins published (Server.afterCalls family calls s) :=
  Server.afterCalls_keeps (fun c hc _ => perform_unready h (hcalls c hc)) hs

end Unready

/-! ### The registry -/

/-- **What is published when registrars have been added in any order.**  The provider and registrars
can be added, and if each dependency is found under the name of its type, they are built in an order of
their dependencies.  If the identifiers of all types are distinct, `finish` is done, the registry
resource is gone, and what is published are the types of all registrars, in the order of the builds.  If
not, `finish` panics about the first identifier that is taken; the registry resource holds the types
before it, and nothing is published then or by any calls that follow. -/
theorem registry_published (family : ι → Plugin ι (Store κ V) ρ) (types : ι → List ObjectType)
    (plugins added : List ι) (h : RegistrySetup family types plugins) (hadded : added.Perm plugins)
    (hfound : Undisguised family added) (store : Store κ V) (fuel : Nat) :
    ∃ s order outcome s',
      Server.perform family (fuel + 1) (.add added) (.new store) = (.done none, s) ∧
      Server.perform family (fuel + 2) .finish s = (outcome, s') ∧
      order.Perm plugins ∧ buildsBegun s'.trace <+: order ∧
      (((plugins.flatMap types).map (·.id)).Nodup →
        outcome = .done none ∧ buildsBegun s'.trace = order ∧
        s'.store.resources.contains (.registry : Key κ) = false ∧
        s'.store.publishedRegistry? = some ⟨order.flatMap types⟩ ∧
        (order.flatMap types).Perm (plugins.flatMap types)) ∧
      (¬ ((plugins.flatMap types).map (·.id)).Nodup →
        ∃ before t after, order.flatMap types = before ++ t :: after ∧
          (before.map (·.id)).Nodup ∧ t.id ∈ before.map (·.id) ∧
          outcome = .fault (.raised (ObjectRegistry.duplicateMessage t.id)) ∧
          s'.store.registry? = some ⟨before⟩ ∧
          ∀ calls : List (Call ι (Store κ V) ρ), (∀ c ∈ calls, c.action.Among plugins) →
            (Server.afterCalls family calls s').store.publishedRegistry? =
              store.publishedRegistry?) := by
  have hsetup := h.of_perm hadded
  obtain ⟨s, hdone, hstate, hpending, hbuilt, htrace, hstore⟩ := hsetup.exists_added store fuel
  obtain ⟨sorted, hsort⟩ :=
    sortPlugins_of_acyclic hsetup.namedByType hfound hsetup.found hsetup.acyclic
  obtain ⟨p, rest, rfl, hp, hnone, hrest⟩ := hsetup.provider_first hsort
  have hperm : (p :: rest).Perm plugins := (Server.sortPlugins_perm hsort).trans hadded
  have htypes : ((p :: rest).flatMap types).Perm (plugins.flatMap types) := hperm.flatMap_right types
  have hlist : (p :: rest).flatMap types = rest.flatMap types := by
    rw [List.flatMap_cons, hnone, List.nil_append]
  have hsort : Server.sortPlugins family s.pending s.built = .ok (p :: rest) := by
    rw [hpending, hbuilt, hsort]
  have hbegun : buildsBegun s.trace = [] := by
    rw [htrace]
    rfl
  rcases hf : Server.finish family (Server.perform family (fuel + 1)) s with ⟨o, s'⟩
  obtain ⟨reg, taken, hfilled, hparts, houtcome⟩ :=
    finish_registers hstate hbuilt hbegun hsort hp hrest hf
  have hdistinct : taken = none ↔ ((plugins.flatMap types).map (·.id)).Nodup := by
    rw [hfilled.taken_iff, List.nil_append, ← hlist]
    exact (htypes.map _).nodup_iff
  cases taken with
  | none =>
    obtain ⟨rfl, hbuilds, hgone, hpublished⟩ := houtcome
    have hfinish : Server.perform family (fuel + 2) .finish s = (.done none, s') := by
      rw [Server.perform, Server.performWith, hf]
      rfl
    have hreg : reg = (p :: rest).flatMap types := by
      rw [hlist, hfilled.eq_append, List.nil_append]
    have hcontains : s'.store.resources.contains (.registry : Key κ) = false := by
      rw [Resources.contains, hgone]
      rfl
    refine ⟨s, p :: rest, _, s', hdone, hfinish, hperm, hparts, fun _ => ?_, fun hnot => ?_⟩
    · exact ⟨rfl, hbuilds, hcontains, hreg ▸ hpublished, htypes⟩
    · exact absurd (hdistinct.mp rfl) hnot
  | some id =>
    obtain ⟨rfl, hholds, hstate', hlisted, hpublished⟩ := houtcome
    have hfinish : Server.perform family (fuel + 2) .finish s =
        (.fault (.raised (ObjectRegistry.duplicateMessage id)), s') := by
      rw [Server.perform, Server.performWith, hf]
      rfl
    obtain ⟨before, t, after, hsplit, hreg, rfl, hnodup, ht⟩ := hfilled.exists_taken
    rw [List.nil_append] at hreg hnodup ht
    rw [hreg] at hholds
    have hunready : Unready plugins store.publishedRegistry? s' :=
      ⟨hstate', fun q hq => hperm.mem_iff.mp (hlisted hq), hstore ▸ hpublished⟩
    refine ⟨s, p :: rest, _, s', hdone, hfinish, hperm, hparts, fun hall => ?_, fun _ => ?_⟩
    · exact absurd (hdistinct.mpr hall) (Option.some_ne_none _)
    · exact ⟨before, t, after, hlist.trans hsplit, hnodup, ht, rfl, hholds.registry?,
        fun calls hcalls => (afterCalls_unready h hcalls hunready).published⟩

section Sample

variable {types : Fin 3 → List ObjectType}

/-- The provider, a registrar, and another one that depends on the first. -/
theorem registrySetup_of_chain {family : Fin 3 → Plugin (Fin 3) (Store κ V) ρ}
    (hprovider : family 0 = objectsPlugin) (hnone : types 0 = [])
    (hfirst : Registrar (types 1) (family 1)) (hsecond : Registrar (types 2) (family 2))
    (hneeds : (family 1).dependencies = [objectsId])
    (hneeds' : (family 2).dependencies = [objectsId, (family 1).id])
    (hdistinct : [objectsId, (family 1).id, (family 2).id].Nodup) :
    RegistrySetup family types [0, 1, 2] := by
  have hid : (family 0).id = objectsId := by
    rw [hprovider]
    rfl
  have hfree : (family 0).dependencies = [] := by
    rw [hprovider]
    rfl
  constructor
  case distinct =>
    show [(family 0).id, (family 1).id, (family 2).id].Nodup
    rwa [hid]
  case provider => exact ⟨0, by decide, hprovider⟩
  case registrar =>
    intro p _
    match p with
    | 0 => exact .inl ⟨hprovider, hnone⟩
    | 1 => exact .inr ⟨hfirst, by simp [hneeds]⟩
    | 2 => exact .inr ⟨hsecond, by simp [hneeds']⟩
  case found =>
    rintro d d' ⟨p, -, rfl, hd'⟩
    match p with
    | 0 => simp [hfree] at hd'
    | 1 => exact ⟨0, by decide, by simpa [hneeds, hid, eq_comm] using hd'⟩
    | 2 =>
      rw [hneeds', List.mem_cons, List.mem_singleton] at hd'
      rcases hd' with rfl | rfl
      · exact ⟨0, by decide, hid⟩
      · exact ⟨1, by decide, rfl⟩
  case acyclic =>
    simp only [List.nodup_cons, List.mem_cons, List.not_mem_nil, or_false, not_or] at hdistinct
    obtain ⟨⟨h01, h02⟩, h12, -⟩ := hdistinct
    refine not_transGen_of_rank
      (fun d => if d = objectsId then 0 else if d = (family 1).id then 1 else 2) ?_
    rintro d d' ⟨p, -, rfl, hd'⟩
    match p with
    | 0 => simp [hfree] at hd'
    | 1 =>
      rw [hneeds, List.mem_singleton] at hd'
      simp [hd', Ne.symm h01]
    | 2 =>
      rw [hneeds', List.mem_cons, List.mem_singleton] at hd'
      rcases hd' with rfl | rfl
      · simp [Ne.symm h02, Ne.symm h12]
      · simp [Ne.symm h01, Ne.symm h02, Ne.symm h12]

/-- The provider, the demo plugin, and a plugin that registers these types after it. -/
def extendedDemo (extra : List ObjectType) : Fin 3 → Plugin (Fin 3) (Store Empty fun _ => Unit) Unit
  | 0 => objectsPlugin
  | 1 => demoPlugin
  | 2 => batchPlugin ⟨3, "Extension"⟩ [objectsId, demoId] extra

/-- What its plugins register. -/
def extendedTypes (extra : List ObjectType) : Fin 3 → List ObjectType
  | 0 => []
  | 1 => Demo.types
  | 2 => extra

theorem extendedDemo_setup (extra : List ObjectType) :
    RegistrySetup (extendedDemo extra) (extendedTypes extra) [0, 1, 2] := by
  have hdistinct : [objectsId, demoId, ⟨3, "Extension"⟩].Nodup := by decide
  exact registrySetup_of_chain rfl rfl demoPlugin_registrar (batchPlugin_registrar _ _ extra) rfl rfl
    hdistinct

theorem extendedDemo_undisguised (extra : List ObjectType) :
    Undisguised (extendedDemo extra) [2, 1, 0] := by
  -- The types registered bear on neither names nor dependencies.
  have hid : ∀ p, (extendedDemo extra p).id = (extendedDemo [] p).id
    | 0 | 1 | 2 => rfl
  have hname : ∀ p, (extendedDemo extra p).name = (extendedDemo [] p).name
    | 0 | 1 | 2 => rfl
  have hneeds : ∀ p, (extendedDemo extra p).dependencies = (extendedDemo [] p).dependencies
    | 0 | 1 | 2 => rfl
  refine NamesTell.undisguised ?_
  simp only [NamesTell, hid, hname, hneeds]
  decide

/-- Another type than those of the demo is published with them; the types of the demo are not
registered twice. -/
theorem registry_published_extended :
    [2, 1, 0].Perm [(0 : Fin 3), 1, 2] ∧
      (∃ s s', ∃ order : List (Fin 3),
        Server.perform (extendedDemo [.ofClass "sys.Timer" Demo.systemClock]) 1 (.add [2, 1, 0])
          (.new (.new none)) = (.done none, s) ∧
        Server.perform (extendedDemo [.ofClass "sys.Timer" Demo.systemClock]) 2 .finish s =
          (.done none, s') ∧
        order.Perm [0, 1, 2] ∧ s'.store.publishedRegistry? =
          some ⟨order.flatMap (extendedTypes [.ofClass "sys.Timer" Demo.systemClock])⟩) ∧
      ∃ s s' id,
        Server.perform (extendedDemo Demo.types) 1 (.add [2, 1, 0]) (.new (.new none)) =
          (.done none, s) ∧
        Server.perform (extendedDemo Demo.types) 2 .finish s =
          (.fault (.raised (ObjectRegistry.duplicateMessage id)), s') ∧
        s'.store.publishedRegistry? = none := by
  have hperm : [2, 1, 0].Perm [(0 : Fin 3), 1, 2] := by decide
  have hdistinct : (([0, 1, 2].flatMap
      (extendedTypes [.ofClass "sys.Timer" Demo.systemClock])).map (·.id)).Nodup := by decide
  have htwice : ¬ (([0, 1, 2].flatMap (extendedTypes Demo.types)).map (·.id)).Nodup := by decide
  obtain ⟨s, order, outcome, s', hadded, hfinish, horder, -, hpublish, -⟩ :=
    registry_published _ _ _ _ (extendedDemo_setup _) hperm (extendedDemo_undisguised _) (.new none) 0
  obtain ⟨rfl, -, -, hpublished, -⟩ := hpublish hdistinct
  obtain ⟨t, order', outcome', t', hadded', hfinish', -, -, -, hpanic⟩ :=
    registry_published _ _ _ _ (extendedDemo_setup Demo.types) hperm (extendedDemo_undisguised _)
      (.new none) 0
  obtain ⟨-, type, -, -, -, -, rfl, -, hnever⟩ := hpanic htwice
  exact ⟨hperm, ⟨s, s', order, hadded, hfinish, horder, hpublished⟩,
    t, t', type.id, hadded', hfinish', hnever [] (List.forall_mem_nil _)⟩

/-- The provider, and two registrars of different types of one name, of which the second depends on the
first. -/
def lookalikeRegistrars : Fin 3 → Plugin (Fin 3) (Store Empty fun _ => Unit) Unit
  | 0 => objectsPlugin
  | 1 => batchPlugin ⟨3, "Extension"⟩ [objectsId] [.ofClass "sys.Clock" Demo.systemClock]
  | 2 => batchPlugin ⟨4, "Extension"⟩ [objectsId, ⟨3, "Extension"⟩]
      [.ofClass "sys.Timer" Demo.systemClock]

/-- What they register. -/
def lookalikeTypes : Fin 3 → List ObjectType
  | 0 => []
  | 1 => [.ofClass "sys.Clock" Demo.systemClock]
  | 2 => [.ofClass "sys.Timer" Demo.systemClock]

/-- A registrar that depends on another one of its own name is taken to depend on itself, so nothing is
built and nothing is published. -/
theorem finish_rejects_lookalike_registrars :
    RegistrySetup lookalikeRegistrars lookalikeTypes [0, 1, 2] ∧
      (([0, 1, 2].flatMap lookalikeTypes).map (·.id)).Nodup ∧
      ∃ s s', Server.perform lookalikeRegistrars 1 (.add [0, 1, 2]) (.new (.new none)) =
          (.done none, s) ∧
        Server.perform lookalikeRegistrars 2 .finish s =
          (.fault (.order (.cycle ["Extension"])), s') ∧
        s'.trace = [] ∧ s'.store.publishedRegistry? = none := by
  have hsetup : RegistrySetup lookalikeRegistrars lookalikeTypes [0, 1, 2] :=
    registrySetup_of_chain rfl rfl (batchPlugin_registrar _ _ _) (batchPlugin_registrar _ _ _) rfl rfl
      (by decide)
  exact ⟨hsetup, by decide, _, _, rfl, rfl, rfl, rfl⟩

end Sample

end ObjectAssembly
