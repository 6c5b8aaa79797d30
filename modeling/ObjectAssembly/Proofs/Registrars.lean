import ObjectAssembly.Proofs.Plugin.Lifecycle
import ObjectAssembly.Proofs.Registration

/-!
# Registrars — builds that fill the registry

The provider's build leaves an empty registry.  Each registrar's build then registers its types behind
those that are there, up to one whose identifier is taken, and publishes nothing.  The provider, when
it gets ready, publishes what the registry holds.
-/

namespace ObjectAssembly

variable {κ : Type} {V : κ → Type} [DecidableEq κ] {ι ρ α β : Type}

/-- While it builds a registrar registers these types, by one effect after another.  At other times it
does nothing. -/
structure Registrar (types : List ObjectType) (plugin : Plugin ι (Store κ V) ρ) : Prop where
  name : plugin.name = plugin.id.typeName
  build : ∃ runs : List (Effect (Store κ V) ρ × List ObjectType),
    plugin.callback .build = runs.map (.effect ·.1) ∧ (∀ run ∈ runs, run.1.Registers run.2) ∧
      types = runs.flatMap (·.2)
  later : ∀ phase, phase ≠ .build → plugin.callback phase = []

/-! ### Registrars of one batch -/

theorem demoPlugin_registrar : Registrar Demo.types (demoPlugin : Plugin ι (Store κ V) ρ) where
  name := rfl
  build := by
    obtain ⟨run, hrun, hregisters⟩ := demoPlugin_registers (κ := κ) (V := V) (ρ := ρ) (ι := ι)
    exact ⟨[(run, Demo.types)], hrun, List.forall_mem_singleton.mpr hregisters,
      (List.append_nil _).symm⟩
  later phase hphase := by
    cases phase with
    | build => exact absurd rfl hphase
    | ready => rfl
    | cleanup => rfl

/-- A registrar that registers all its types at once. -/
def batchPlugin (id : PluginId) (dependencies : List PluginId) (types : List ObjectType) :
    Plugin ι (Store κ V) ρ where
  id := id
  name := id.typeName
  unique := true
  dependencies := dependencies
  callback
    | .build => [.effect (registering types)]
    | _ => []

theorem batchPlugin_registrar (id : PluginId) (dependencies : List PluginId)
    (types : List ObjectType) :
    Registrar types (batchPlugin id dependencies types : Plugin ι (Store κ V) ρ) where
  name := rfl
  build := ⟨[(registering types, types)], rfl,
    List.forall_mem_singleton.mpr (registering_registers types), (List.append_nil _).symm⟩
  later phase hphase := by
    cases phase with
    | build => exact absurd rfl hphase
    | ready => rfl
    | cleanup => rfl

/-! ### Builds that publish nothing -/

/-- The call builds these plugins, or some of them if it is not done, and publishes no registry. -/
structure Building (plugins : List ι) (s : Server ι (Store κ V) ρ)
    (r : Result ι (Store κ V) ρ α) : Prop where
  published : r.2.store.publishedRegistry? = s.store.publishedRegistry?
  begun : ∃ begun, begun <+: plugins ∧ buildsBegun r.2.trace = buildsBegun s.trace ++ begun
  listed : r.2.built ⊆ s.built ++ plugins
  done : ∀ a, r.1 = .done a →
    buildsBegun r.2.trace = buildsBegun s.trace ++ plugins ∧ r.2.built = s.built ++ plugins

/-- The plugin's build consists of effects that publish no registry. -/
def Unpublishing (plugin : Plugin ι (Store κ V) ρ) : Prop :=
  ∃ runs : List (Effect (Store κ V) ρ), plugin.callback .build = runs.map .effect ∧
    ∀ run ∈ runs, ∀ view s, (run view s).store.publishedRegistry? = s.publishedRegistry?

section Building

variable {family : ι → Plugin ι (Store κ V) ρ} {fuel n : Nat} {plugins more : List ι} {p : ι}
  {s s' : Server ι (Store κ V) ρ} {r : Result ι (Store κ V) ρ α}

/-- A call that changes other parts of the server. -/
theorem Building.same {o : Outcome α} (hstore : s'.store = s.store) (hbuilt : s'.built = s.built)
    (hbegun : buildsBegun s'.trace = buildsBegun s.trace) : Building [] s (o, s') where
  published := by rw [hstore]
  begun := ⟨[], List.prefix_rfl, by rw [List.append_nil]; exact hbegun⟩
  listed := by
    rw [List.append_nil]
    exact fun q hq => hbuilt ▸ hq
  done _ _ := by
    rw [List.append_nil, List.append_nil]
    exact ⟨hbegun, hbuilt⟩

/-- A call after changes to other parts of the server. -/
theorem Building.of_same (h : Building plugins s' r) (hstore : s'.store = s.store)
    (hbuilt : s'.built = s.built) (hbegun : buildsBegun s'.trace = buildsBegun s.trace) :
    Building plugins s r := by
  obtain ⟨hpublished, htrace, hlisted, hdone⟩ := h
  rw [hstore] at hpublished
  rw [hbegun] at htrace hdone
  rw [hbuilt] at hlisted hdone
  exact ⟨hpublished, htrace, hlisted, hdone⟩

/-- A call goes on after another one. -/
theorem Building.andThen {k : α → Server ι (Store κ V) ρ → Result ι (Store κ V) ρ β}
    (h : Building plugins s r) (hk : ∀ a mid, Building more mid (k a mid)) :
    Building (plugins ++ more) s (r.andThen k) := by
  obtain ⟨o, mid⟩ := r
  obtain ⟨hpublished, ⟨begun, hbegun, htrace⟩, hlisted, hdone⟩ := h
  have hparts : begun <+: plugins ++ more := hbegun.trans (List.prefix_append _ _)
  have hmore : mid.built ⊆ s.built ++ (plugins ++ more) := by
    rw [← List.append_assoc]
    exact List.subset_append_of_subset_left _ hlisted
  cases o with
  | done a =>
    obtain ⟨hpublished', ⟨begun', hbegun', htrace'⟩, hlisted', hdone'⟩ := hk a mid
    obtain ⟨hall, hlist⟩ := hdone a rfl
    have hbegins : buildsBegun mid.trace = buildsBegun s.trace ++ plugins := hall
    have hlists : mid.built = s.built ++ plugins := hlist
    rw [hbegins, List.append_assoc] at htrace'
    rw [hlists, List.append_assoc] at hlisted'
    rw [hbegins, hlists, List.append_assoc, List.append_assoc] at hdone'
    refine ⟨hpublished'.trans hpublished, ⟨plugins ++ begun', ?_, htrace'⟩, hlisted', hdone'⟩
    exact (List.prefix_append_right_inj plugins).mpr hbegun'
  | fault f => exact ⟨hpublished, ⟨begun, hparts, htrace⟩, hmore, nofun⟩
  | exhausted => exact ⟨hpublished, ⟨begun, hparts, htrace⟩, hmore, nofun⟩

/-- A plugin is listed when its callback has ended. -/
theorem Building.build {r : Result ι (Store κ V) ρ Unit}
    (h : Building [] (s.note (.began .build p)) r) :
    Building [p] s
      (r.andThen fun _ mid => (.done (), { mid with built := mid.built ++ [p] })) := by
  obtain ⟨o, mid⟩ := r
  obtain ⟨hpublished, ⟨begun, hbegun, htrace⟩, hlisted, hdone⟩ := h
  rw [List.prefix_nil.mp hbegun, List.append_nil] at htrace
  rw [List.append_nil] at hlisted
  have hbegins : buildsBegun mid.trace = buildsBegun s.trace ++ [p] :=
    htrace.trans buildsBegun_append
  have hlists : mid.built ⊆ s.built ++ [p] := List.subset_append_of_subset_left _ hlisted
  cases o with
  | done u =>
    obtain ⟨-, hlist⟩ := hdone u rfl
    rw [List.append_nil] at hlist
    have hlast : mid.built ++ [p] = s.built ++ [p] := congrArg (· ++ [p]) hlist
    exact ⟨hpublished, ⟨[p], List.prefix_rfl, hbegins⟩, fun q hq => hlast ▸ hq,
      fun _ _ => ⟨hbegins, hlast⟩⟩
  | fault f => exact ⟨hpublished, ⟨[p], List.prefix_rfl, hbegins⟩, hlists, nofun⟩
  | exhausted => exact ⟨hpublished, ⟨[p], List.prefix_rfl, hbegins⟩, hlists, nofun⟩

theorem effect_building {run : Effect (Store κ V) ρ}
    (h : ∀ view s, (run view s).store.publishedRegistry? = s.publishedRegistry?) :
    Building [] s (Server.perform family fuel (.effect run) s) := by
  cases fuel with
  | zero => exact .same rfl rfl rfl
  | succ fuel =>
    rw [Server.perform, Server.performWith_effect]
    refine ⟨h s.view s.store, ⟨[], List.prefix_rfl, (List.append_nil _).symm⟩,
      List.subset_append_left _ _, fun _ _ => ?_⟩
    rw [List.append_nil, List.append_nil]
    exact ⟨rfl, rfl⟩

theorem runActions_building {runs : List (Effect (Store κ V) ρ)}
    (h : ∀ run ∈ runs, ∀ view s, (run view s).store.publishedRegistry? = s.publishedRegistry?) :
    Building [] s
      (Server.runActions (Server.perform family fuel) .build p n (runs.map .effect) s) := by
  induction runs generalizing n s with
  | nil => exact .same rfl rfl rfl
  | cons run rest ih =>
    rw [List.forall_mem_cons] at h
    have hlater : ∀ (reply : Option ρ) (mid : Server ι (Store κ V) ρ), Building [] mid
        (Server.runActions (Server.perform family fuel) .build p (n + 1) (rest.map .effect)
          (mid.note (.did .build p n reply))) := fun reply mid =>
      (ih h.2).of_same rfl rfl (buildsBegun_note rfl)
    exact (effect_building h.1).andThen hlater

theorem buildPlugin_building (fuel : Nat) (s : Server ι (Store κ V) ρ)
    (h : Unpublishing (family p)) :
    Building [p] s (Server.buildPlugin family (Server.perform family fuel) p s) := by
  obtain ⟨runs, hcallback, hruns⟩ := h
  have hended : ∀ mid : Server ι (Store κ V) ρ,
      Building [] mid (Outcome.done (), mid.note (.ended .build p)) := fun mid =>
    .same rfl rfl (buildsBegun_note rfl)
  refine Building.build ?_
  rw [Server.runCallback, hcallback]
  exact (runActions_building hruns).andThen fun _ mid => hended mid

theorem buildAll_building (fuel : Nat) (s : Server ι (Store κ V) ρ)
    (h : ∀ p ∈ plugins, Unpublishing (family p)) :
    Building plugins s (Server.buildAll family (Server.perform family fuel) plugins s) := by
  induction plugins generalizing s with
  | nil => exact .same rfl rfl rfl
  | cons p rest ih =>
    rw [List.forall_mem_cons] at h
    have hfirst : Building [p] s (Server.buildPlugin family (Server.perform family fuel) p
        (s.report (.buildingPlugin (family p).name))) :=
      (buildPlugin_building fuel _ h.1).of_same rfl rfl rfl
    exact hfirst.andThen fun _ mid => ih mid h.2

end Building

/-! ### Builds that register -/

/-- The call is done, or panics about the identifier that is taken. -/
def EndsWith (taken : Option String) (o : Outcome α) : Prop :=
  match taken with
  | none => ∃ a, o = .done a
  | some id => o = .fault (.raised (ObjectRegistry.duplicateMessage id))

/-- If there is a registry to fill, the call registers these types, up to one whose identifier is
taken. -/
def Registering (types : List ObjectType) (s : Server ι (Store κ V) ρ)
    (r : Result ι (Store κ V) ρ α) : Prop :=
  ∀ done, s.store.Holds done →
    ∃ reg taken, r.2.store.Holds reg ∧ Filled done types reg taken ∧ EndsWith taken r.1

theorem endsWith_ending {σ : Type} {taken : Option String} {r : EffectResult σ ρ}
    (h : ∀ message, r.outcome = .error message ↔
      ∃ id, taken = some id ∧ message = ObjectRegistry.duplicateMessage id) :
    EndsWith taken r.ending := by
  unfold EffectResult.ending
  cases taken with
  | some id =>
    rw [(h _).mpr ⟨id, rfl, rfl⟩]
    rfl
  | none =>
    cases houtcome : r.outcome with
    | ok reply => exact ⟨reply, rfl⟩
    | error message =>
      obtain ⟨id, hid, -⟩ := (h message).mp houtcome
      cases hid

section Registering

variable {family : ι → Plugin ι (Store κ V) ρ} {types : ι → List ObjectType} {fuel n : Nat}
  {plugins : List ι} {first last : List ObjectType} {p : ι}
  {s s' : Server ι (Store κ V) ρ} {r : Result ι (Store κ V) ρ α}

/-- A call that leaves the store as it is. -/
theorem Registering.same {a : α} (hstore : s'.store = s.store) :
    Registering [] s (.done a, s') := by
  intro done hs
  have hall : Filled done [] (done ++ []) none := .all (by rw [List.append_nil]; exact hs.nodup)
  rw [List.append_nil] at hall
  exact ⟨done, none, hstore ▸ hs, hall, a, rfl⟩

/-- A call after changes to other parts of the server. -/
theorem Registering.of_same (h : Registering first s' r) (hstore : s'.store = s.store) :
    Registering first s r :=
  fun done hs => h done (hstore ▸ hs)

/-- A call goes on after another one. -/
theorem Registering.andThen {k : α → Server ι (Store κ V) ρ → Result ι (Store κ V) ρ β}
    (h : Registering first s r) (hk : ∀ a mid, Registering last mid (k a mid)) :
    Registering (first ++ last) s (r.andThen k) := by
  intro done hs
  obtain ⟨o, mid⟩ := r
  obtain ⟨reg, taken, hreg, hfill, hends⟩ := h done hs
  cases taken with
  | none =>
    obtain ⟨a, rfl⟩ := hends
    obtain ⟨reg', taken', hreg', hfill', hends'⟩ := hk a mid reg hreg
    exact ⟨reg', taken', hreg', hfill.append hfill', hends'⟩
  | some id =>
    cases hends
    exact ⟨reg, some id, hreg, hfill.stop, rfl⟩

/-- An effect that registers types. -/
theorem effect_registering {run : Effect (Store κ V) ρ} (h : run.Registers first) :
    Registering first s (Server.perform family (fuel + 1) (.effect run) s) := by
  intro done hs
  obtain ⟨reg, taken, hreg, hfill, hmessage⟩ := h.fill s.view hs
  rw [Server.perform, Server.performWith_effect]
  exact ⟨reg, taken, hreg, hfill, endsWith_ending hmessage⟩

/-- Effects that register types, one after another. -/
theorem runActions_registering {runs : List (Effect (Store κ V) ρ × List ObjectType)}
    (h : ∀ run ∈ runs, run.1.Registers run.2) :
    Registering (runs.flatMap (·.2)) s
      (Server.runActions (Server.perform family (fuel + 1)) .build p n (runs.map (.effect ·.1)) s) := by
  induction runs generalizing n s with
  | nil => exact .same rfl
  | cons run rest ih =>
    rw [List.forall_mem_cons] at h
    exact (effect_registering h.1).andThen fun _ mid => (ih h.2).of_same rfl

/-- A registrar's build registers its types. -/
theorem buildPlugin_registering (h : Registrar first (family p)) :
    Registering first s (Server.buildPlugin family (Server.perform family (fuel + 1)) p s) := by
  obtain ⟨runs, hcallback, hruns, rfl⟩ := h.build
  have hactions : Registering (runs.flatMap (·.2)) s
      (Server.runActions (Server.perform family (fuel + 1)) .build p 0 (runs.map (.effect ·.1))
        (s.note (.began .build p))) :=
    (runActions_registering hruns).of_same rfl
  have hcall : Registering (runs.flatMap (·.2) ++ []) s
      (Server.runCallback family (Server.perform family (fuel + 1)) .build p s) := by
    rw [Server.runCallback, hcallback]
    exact hactions.andThen fun _ mid => .same rfl
  have hlisted : Registering (runs.flatMap (·.2) ++ [] ++ []) s
      (Server.buildPlugin family (Server.perform family (fuel + 1)) p s) :=
    hcall.andThen fun _ mid => .same rfl
  rwa [List.append_nil, List.append_nil] at hlisted

/-- The builds of registrars register the types of all of them. -/
theorem buildAll_registering (h : ∀ p ∈ plugins, Registrar (types p) (family p)) :
    Registering (plugins.flatMap types) s
      (Server.buildAll family (Server.perform family (fuel + 1)) plugins s) := by
  induction plugins generalizing s with
  | nil => exact .same rfl
  | cons p rest ih =>
    rw [List.forall_mem_cons] at h
    have hfirst : Registering (types p) s (Server.buildPlugin family
        (Server.perform family (fuel + 1)) p (s.report (.buildingPlugin (family p).name))) :=
      (buildPlugin_registering h.1).of_same rfl
    exact hfirst.andThen fun _ mid => ih h.2

end Registering

/-! ### The provider -/

section Provider

variable {family : ι → Plugin ι (Store κ V) ρ} {types : ι → List ObjectType} {fuel : Nat}
  {plugins : List ι} {reg : List ObjectType} {p : ι} {s : Server ι (Store κ V) ρ}

theorem Registrar.unpublishing {first : List ObjectType} (h : Registrar first (family p)) :
    Unpublishing (family p) := by
  obtain ⟨runs, hcallback, hruns, -⟩ := h.build
  refine ⟨runs.map Prod.fst, by rw [hcallback, List.map_map]; rfl, fun run hrun view s => ?_⟩
  obtain ⟨⟨run, batch⟩, hmem, rfl⟩ := List.mem_map.mp hrun
  exact (hruns _ hmem view s).1

theorem unpublishing_of_provider (hp : family p = objectsPlugin) : Unpublishing (family p) := by
  obtain ⟨run, hrun, hspec⟩ := objectsPlugin_build (κ := κ) (V := V) (ι := ι) (ρ := ρ)
  refine ⟨[run], by rw [hp]; exact hrun, fun run' hmem view s => ?_⟩
  obtain rfl := List.mem_singleton.mp hmem
  exact (hspec view s).2.2

/-- The provider's build leaves an empty registry to fill. -/
theorem buildPlugin_provider (fuel : Nat) (s : Server ι (Store κ V) ρ) (hp : family p = objectsPlugin) :
    ∃ mid, Server.buildPlugin family (Server.perform family (fuel + 1)) p s = (.done (), mid) ∧
      mid.store.Holds [] := by
  obtain ⟨run, hrun, hspec⟩ := objectsPlugin_build (κ := κ) (V := V) (ι := ι) (ρ := ρ)
  obtain ⟨hreply, hholds, -⟩ := hspec s.view s.store
  have hcall := Server.runCallback_of_effect fuel (s := s) (hp ▸ hrun) hreply
  exact ⟨_, by rw [Server.buildPlugin, hcall]; rfl, hholds⟩

/-- The builds of the provider and then of registrars fill the registry with the types of all of
them. -/
theorem buildAll_fills (hp : family p = objectsPlugin)
    (hrest : ∀ q ∈ plugins, Registrar (types q) (family q)) {r : Result ι (Store κ V) ρ Unit}
    (hr : Server.buildAll family (Server.perform family (fuel + 1)) (p :: plugins) s = r) :
    ∃ reg taken, r.2.store.Holds reg ∧ Filled [] (plugins.flatMap types) reg taken ∧
      EndsWith taken r.1 := by
  obtain ⟨mid, hbuild, hholds⟩ :=
    buildPlugin_provider fuel (s.report (.buildingPlugin (family p).name)) hp
  rw [Server.buildAll, hbuild] at hr
  rw [← hr]
  exact buildAll_registering hrest [] hholds

/-- The provider, which gets ready first, publishes what the registry holds. -/
theorem ready_publishes (fuel : Nat) (s : Server ι (Store κ V) ρ) (hp : family p = objectsPlugin)
    (hrest : ∀ q ∈ plugins, (family q).callback .ready = []) (hs : s.store.Holds reg) :
    ∃ s', Server.runCallbacks family (Server.perform family (fuel + 1)) .ready (p :: plugins) s =
        (.done (), s') ∧
      s'.store.resources.cell? (.registry : Key κ) = none ∧
      s'.store.publishedRegistry? = some ⟨reg⟩ ∧ buildsBegun s'.trace = buildsBegun s.trace := by
  obtain ⟨run, hrun, hspec⟩ := objectsPlugin_ready (κ := κ) (V := V) (ι := ι) (ρ := ρ)
  obtain ⟨hreply, hgone, hpublished⟩ := hspec s.view s.store reg hs
  have hcall := Server.runCallback_of_effect fuel (s := s) (hp ▸ hrun) hreply
  have hphase : Phase.ready ≠ .build := by decide
  obtain ⟨s', hlater, hstore, -, hbegun⟩ :=
    Server.runCallbacks_of_nil (Server.perform family (fuel + 1))
      { s with
        store := (run s.view s.store).store, log := s.log ++ (run s.view s.store).log,
        trace := s.trace ++ [.began .ready p, .did .ready p 0 none, .ended .ready p] } hphase hrest
  refine ⟨s', ?_, hstore ▸ hgone, hstore ▸ hpublished, ?_⟩
  · rw [Server.runCallbacks, hcall]
    exact hlater
  · rw [hbegun, buildsBegun_append]
    exact List.append_nil _

end Provider

end ObjectAssembly
