import ObjectAssembly.Proofs.Plugin.Nesting
import ObjectAssembly.Proofs.Plugin.Stability

/-!
# Instances — a dependency on a type waits for all plugins of that type

The sort looks a dependency up by name and finds the last plugin of that name, so of several plugins of
one type only the last one has edges to the plugins that depend on the type.  The others are built
before these all the same, if plugins of one type have the same dependencies: such plugins stand in the
order of the sort as they were added, so all of them come before the last one.  But nothing comes of this
where the last plugin of that name is of another type.
-/

namespace ObjectAssembly

/-! ### Positions with the same dependencies -/

namespace Order

variable {dep : Nat → Nat → Prop} {order : List Nat} {i j size : Nat}

theorem BuildOrder.mem_iff (h : BuildOrder dep size order) : i ∈ order ↔ i < size :=
  h.perm.mem_iff.trans List.mem_range

theorem BuildOrder.depends_mem (h : BuildOrder dep size order) (hi : i < size) (hd : dep i j) :
    j ∈ order := by
  have hlt : order.idxOf j < order.idxOf i := h.after i j hd
  exact List.idxOf_lt_length_iff.mp (hlt.trans (List.idxOf_lt_length_iff.mpr (h.mem_iff.mpr hi)))

/-- Of two positions in the order, the first one precedes the second. -/
theorem BuildOrder.precedes_of_lt (h : BuildOrder dep size order) (hj : j < size)
    (hlt : order.idxOf i < order.idxOf j) : Precedes dep order i j := by
  have hjlt : order.idxOf j < order.length := List.idxOf_lt_length_iff.mpr (h.mem_iff.mpr hj)
  have hilt : order.idxOf i < order.length := hlt.trans hjlt
  have hprecedes := List.pairwise_iff_getElem.mp h.sorted _ _ hilt hjlt hlt
  rwa [List.getElem_idxOf, List.getElem_idxOf] at hprecedes

/-- Positions that depend on the same positions are put out as they were added. -/
theorem BuildOrder.idxOf_lt_of_same (h : BuildOrder dep size order) (hij : i < j) (hj : j < size)
    (hsame : ∀ k, dep i k ↔ dep j k) : order.idxOf i < order.idxOf j := by
  have hi : i < size := hij.trans hj
  have hprecedes : Precedes dep order i j := by
    by_cases hfree : Free dep i
    · exact .free hfree (fun k hk => hfree k ((hsame k).mpr hk)) hij
    · obtain ⟨k, hk⟩ := exists_lastDependency (fun _ => h.depends_mem hi) hfree
      exact .tied hk ⟨(hsame k).mp hk.depends, fun l hl => hk.last l ((hsame l).mpr hl)⟩ hij
  by_contra hle
  have hne : order.idxOf i ≠ order.idxOf j := fun heq =>
    hij.ne ((List.idxOf_inj (h.mem_iff.mpr hi)).mp heq)
  have hlt : order.idxOf j < order.idxOf i := lt_of_le_of_ne (not_lt.mp hle) hne.symm
  exact hprecedes.asymm (h.precedes_of_lt hi hlt)

end Order

/-! ### Plugins of one type -/

section Types

variable {ι σ ρ : Type} {family : ι → Plugin ι σ ρ} {plugins sorted first rest : List ι} {p q : ι}
  {d : PluginId} {name : String} {i j k : Nat}

/-- Plugins of one type have the same dependencies. -/
def SameDependencies (family : ι → Plugin ι σ ρ) (plugins : List ι) : Prop :=
  ∀ p ∈ plugins, ∀ q ∈ plugins, (family p).id = (family q).id →
    ∀ d, d ∈ (family p).dependencies ↔ d ∈ (family q).dependencies

theorem LastAt.le (h : LastAt family plugins name k) (hq : plugins[j]? = some q)
    (hname : (family q).name = name) : j ≤ k := by
  obtain ⟨before, x, after, rfl, rfl, -, hlast⟩ := h
  by_contra hlt
  obtain ⟨m, rfl⟩ := Nat.exists_eq_add_of_lt (not_le.mp hlt)
  rw [List.getElem?_append_right (by omega)] at hq
  have hafter : after[m]? = some q := by
    have hplace : before.length + m + 1 - before.length = m + 1 := by omega
    rwa [hplace, List.getElem?_cons_succ] at hq
  exact hlast q (List.mem_of_getElem? hafter) hname

/-- Sorting without built plugins finds all dependencies. -/
theorem matched_of_sortPlugins (h : Server.sortPlugins family plugins [] = .ok sorted) :
    Matched family plugins := by
  intro p hp d hd
  obtain ⟨first, rest, hs⟩ := List.append_of_mem ((Server.sortPlugins_perm h).mem_iff.mpr hp)
  rcases lastNamed_before_of_sortPlugins h hs hd with ⟨q, -, before, after, rfl, hname, -⟩ | ⟨q, hq, -⟩
  · exact ⟨q, by simp, hname⟩
  · cases hq

theorem dependsOn_congr (hsame : SameDependencies family plugins) (hp : plugins[i]? = some p)
    (hq : plugins[j]? = some q) (hid : (family p).id = (family q).id) :
    DependsOn family plugins i k ↔ DependsOn family plugins j k := by
  have hdeps := hsame p (List.mem_of_getElem? hp) q (List.mem_of_getElem? hq) hid
  unfold DependsOn
  simp only [hp, hq, Option.some.injEq, exists_eq_left', hdeps]

/-- All plugins of a type come before one that depends on the type and finds it. -/
theorem idxOf_lt_of_needs {order : List Nat} (hname : NamedByType family plugins)
    (hsame : SameDependencies family plugins)
    (horder : Order.BuildOrder (DependsOn family plugins) plugins.length order)
    (hp : plugins[i]? = some p) (hd : d ∈ (family p).dependencies)
    (hfound : ¬ Disguised family plugins d) (hq : plugins[j]? = some q) (hid : (family q).id = d) :
    order.idxOf j < order.idxOf i := by
  have hqname : (family q).name = d.typeName := by
    rw [hname q (List.mem_of_getElem? hq), hid]
  obtain ⟨k, hlast⟩ := exists_lastAt (List.mem_of_getElem? hq) hqname
  have hki : order.idxOf k < order.idxOf i := horder.after i k ⟨p, hp, d, hd, hlast⟩
  -- the last plugin of the type comes before the one that depends on it, and the others before the last
  rcases (hlast.le hq hqname).eq_or_lt with rfl | hjk
  · exact hki
  · obtain ⟨x, hx, hnamed⟩ := hlast.exists_getElem?
    have hxid : (family q).id = (family x).id := hid.trans (hnamed.id_eq hfound).symm
    have hk : k < plugins.length := (List.getElem?_eq_some_iff.mp hx).1
    have hjk := horder.idxOf_lt_of_same hjk hk fun _ => dependsOn_congr hsame hq hx hxid
    exact hjk.trans hki

/-- Behind a sorted plugin there are no plugins of the types that it depends on and finds. -/
theorem types_before_of_sortPlugins (hname : NamedByType family plugins)
    (hsame : SameDependencies family plugins)
    (h : Server.sortPlugins family plugins [] = .ok sorted) (hs : sorted = first ++ p :: rest)
    (hd : d ∈ (family p).dependencies) (hfound : ¬ Disguised family plugins d) :
    d ∈ types family first ∧ d ∉ types family (p :: rest) := by
  constructor
  · rcases lastNamed_before_of_sortPlugins h hs hd with ⟨q, hq, hnamed⟩ | ⟨q, hq, -⟩
    · exact List.mem_map.mpr ⟨q, hq, hnamed.id_eq hfound⟩
    · cases hq
  · obtain ⟨order, horder, rfl⟩ := (sortPlugins_ok_iff (matched_of_sortPlugins h)).mp h
    obtain ⟨l, l', rfl, -, htail⟩ := List.filterMap_eq_append_iff.mp hs
    obtain ⟨skipped, i, l'', rfl, hskip, hi, -⟩ := List.filterMap_eq_cons_iff.mp htail
    intro hmem
    obtain ⟨q, hq, hid⟩ := List.mem_map.mp hmem
    rw [← htail, List.mem_filterMap] at hq
    obtain ⟨j, hj, hjq⟩ := hq
    have hlt := idxOf_lt_of_needs hname hsame horder hi hd hfound hjq hid
    rw [← List.append_assoc] at horder hlt
    have hbefore : j ∈ l ++ skipped := (Order.idxOf_lt_iff horder.not_mem).mp hlt
    rcases List.mem_append.mp hj with hj | hj
    · rw [hskip j hj] at hjq
      cases hjq
    · exact List.disjoint_of_nodup_append horder.nodup hbefore hj

end Types

/-! ### Builds that are not inside another one -/

section Trace

variable {ι ρ : Type} {sorted stack : List ι} {trace steps more : List (TraceEntry ι ρ)}
  {e : TraceEntry ι ρ} {p : ι}

/-- The plugins whose builds end and leave no build under way, in order. -/
def outerBuilds (stack : List ι) : List (TraceEntry ι ρ) → List ι
  | [] => []
  | e :: rest =>
    (if (e.onBuilds stack).isEmpty then e.endedBuild?.toList else []) ++
      outerBuilds (e.onBuilds stack) rest

theorem outerBuilds_append : outerBuilds stack (steps ++ more) =
    outerBuilds stack steps ++ outerBuilds (underWay stack steps) more := by
  induction steps generalizing stack with
  | nil => rfl
  | cons e steps ih => rw [List.cons_append, outerBuilds, outerBuilds, ih, List.append_assoc]; rfl

theorem underWay_snoc : underWay stack (trace ++ [e]) = e.onBuilds (underWay stack trace) :=
  underWay_append

theorem underWay_snoc_began :
    underWay stack (trace ++ [.began .build p]) = p :: underWay stack trace := underWay_snoc

theorem underWay_snoc_ended :
    underWay stack (trace ++ [.ended .build p]) = (underWay stack trace).tail := underWay_snoc

theorem outerBuilds_snoc : outerBuilds stack (trace ++ [e]) = outerBuilds stack trace ++
    if (underWay stack (trace ++ [e])).isEmpty then e.endedBuild?.toList else [] := by
  rw [outerBuilds_append, underWay_snoc, outerBuilds, outerBuilds, List.append_nil]

theorem outerBuilds_snoc_of_inside (h : underWay stack (trace ++ [e]) ≠ []) :
    outerBuilds stack (trace ++ [e]) = outerBuilds stack trace := by
  rw [outerBuilds_snoc, if_neg (by simpa using h), List.append_nil]

theorem outerBuilds_snoc_of_quiet (h : e.endedBuild? = none) :
    outerBuilds stack (trace ++ [e]) = outerBuilds stack trace := by
  rw [outerBuilds_snoc, h, Option.toList_none, ite_self, List.append_nil]

theorem outerBuilds_snoc_ended (h : underWay stack (trace ++ [.ended .build p]) = []) :
    outerBuilds stack (trace ++ [.ended .build p]) = outerBuilds stack trace ++ [p] := by
  rw [outerBuilds_snoc, h]
  rfl

theorem TraceEntry.onBuilds_of_quiet (hbegun : e.begunBuild? = none) (hended : e.endedBuild? = none) :
    e.onBuilds stack = stack := by
  cases e with
  | began phase p =>
    cases phase with
    | build => cases hbegun
    | ready => rfl
    | cleanup => rfl
  | did phase p n reply => rfl
  | ended phase p =>
    cases phase with
    | build => cases hended
    | ready => rfl
    | cleanup => rfl

/-- Builds that are not inside another one begin in this order, each once those before it have ended. -/
def OuterOrder (sorted : List ι) (trace : List (TraceEntry ι ρ)) : Prop :=
  ∀ before p, Begins trace before p → underWay [] before = [] →
    ∃ rest, sorted = outerBuilds [] before ++ p :: rest

theorem OuterOrder.nil : OuterOrder sorted ([] : List (TraceEntry ι ρ)) := by
  rintro before p ⟨after, h⟩
  cases before <;> cases h

theorem OuterOrder.snoc (h : OuterOrder sorted trace)
    (he : ∀ p, e = .began .build p → underWay [] trace = [] →
      ∃ rest, sorted = outerBuilds [] trace ++ p :: rest) : OuterOrder sorted (trace ++ [e]) := by
  intro before p hb hout
  rcases hb.of_append with hb | ⟨mid, rfl, after, hmid⟩
  · exact h before p hb hout
  · rcases List.singleton_eq_append_iff.mp hmid with ⟨rfl, hmid⟩ | ⟨-, hmid⟩
    · rw [List.append_nil] at hout ⊢
      cases hmid
      exact he p rfl hout
    · cases hmid

end Trace

/-! ### Finishing -/

section Finish

variable {ι σ ρ : Type} {family : ι → Plugin ι σ ρ} {sorted todo first : List ι} {s : Server ι σ ρ}
  {n : Nat}

/-- While an outer build is under way, with so many builds inside each other in it. -/
structure Inside (sorted first : List ι) (n : Nat) (s : Server ι σ ρ) : Prop where
  state : s.state = .building
  depth : (underWay [] s.trace).length = n + 1
  ended : outerBuilds [] s.trace = first
  order : OuterOrder sorted s.trace

/-- Between outer builds, with these plugins still to build. -/
structure Between (sorted todo : List ι) (s : Server ι σ ρ) : Prop where
  state : s.state = .building
  idle : underWay [] s.trace = []
  ended : sorted = outerBuilds [] s.trace ++ todo
  order : OuterOrder sorted s.trace

theorem inside_lasting (family : ι → Plugin ι σ ρ) (sorted first : List ι) :
    Lasting family (Inside sorted first) where
  started h := by
    rw [h.state]
    exact BuildState.noConfusion
  change h hstate _ _ htrace := by
    obtain ⟨hs, hd, he, ho⟩ := h
    rw [← htrace] at hd he ho
    exact ⟨hstate.trans hs, hd, he, ho⟩
  note e h hbegun hended := by
    refine ⟨h.state, ?_, (outerBuilds_snoc_of_quiet hended).trans h.ended, h.order.snoc ?_⟩
    · rw [Server.note, underWay_snoc, TraceEntry.onBuilds_of_quiet hbegun hended, h.depth]
    · rintro p rfl
      cases hbegun
  wait h hs _ := absurd h.state hs
  enter h _ _ := by
    refine ⟨h.state, ?_, (outerBuilds_snoc_of_quiet rfl).trans h.ended, h.order.snoc ?_⟩
    · rw [Server.note, underWay_snoc_began, List.length_cons]
      exact congrArg (· + 1) h.depth
    · intro q _ hout
      have hdepth := h.depth
      rw [hout] at hdepth
      cases hdepth
  leave {n s p} h := by
    have hdepth : (underWay [] (s.trace ++ [.ended .build p])).length = n + 1 := by
      rw [underWay_snoc_ended, List.length_tail, h.depth, Nat.add_sub_cancel]
    refine ⟨h.state, hdepth, (outerBuilds_snoc_of_inside fun hnil => ?_).trans h.ended,
      h.order.snoc ?_⟩
    · rw [hnil] at hdepth
      cases hdepth
    · intro q hq
      cases hq

theorem outer_stages (family : ι → Plugin ι σ ρ) (sorted : List ι) :
    Stages family (Between sorted) fun s => OuterOrder sorted s.trace where
  build {p todo s} h := by
    refine ⟨Inside sorted (outerBuilds [] s.trace), inside_lasting family _ _, ?_,
      fun _ _ hmid => hmid.order, fun mid hmid => ?_⟩
    · refine ⟨h.state, ?_, outerBuilds_snoc_of_quiet rfl, h.order.snoc ?_⟩
      · show (underWay [] (s.trace ++ [.began .build p])).length = 1
        rw [underWay_snoc_began, h.idle, List.length_singleton]
      · intro q hq _
        cases hq
        exact ⟨todo, h.ended⟩
    · have hidle : underWay [] (mid.trace ++ [.ended .build p]) = [] := by
        rw [underWay_snoc_ended, ← List.length_eq_zero_iff, List.length_tail, hmid.depth]
      refine ⟨hmid.state, hidle, ?_, hmid.order.snoc ?_⟩
      · show sorted = outerBuilds [] (mid.trace ++ [.ended .build p]) ++ todo
        rw [outerBuilds_snoc_ended hidle, hmid.ended, List.append_assoc, List.singleton_append]
        exact h.ended
      · intro q hq
        cases hq
  ready h := by
    refine ⟨_, lasting_of_built (T := OuterOrder sorted) fun trace e hT hbegun => hT.snoc ?_,
      ⟨rfl, h.order⟩, fun _ _ hmid => hmid.2⟩
    rintro p rfl
    cases hbegun

/-- However `finish` ends, the outer builds have begun in the order of the sort. -/
theorem outerOrder_of_finish (hs : s.Fresh) (hstate : s.state = .notStarted)
    (hsort : Server.sortPlugins family s.pending s.built = .ok sorted) (fuel : Nat) :
    OuterOrder sorted (Server.perform family fuel .finish s).2.trace := by
  obtain ⟨htrace, -⟩ := hs hstate
  cases fuel with
  | zero =>
    show OuterOrder sorted s.trace
    rw [htrace]
    exact .nil
  | succ fuel =>
    have hbegun : Between sorted sorted s.begun := by
      refine ⟨rfl, ?_, ?_, ?_⟩ <;> rw [Server.begun, htrace]
      · rfl
      · rfl
      · exact .nil
    exact Result.andThen_snd (P := fun s => OuterOrder sorted s.trace)
      ((outer_stages family sorted).finish fuel hstate hsort hbegun) fun _ _ hmid => hmid

/-- **A dependency waits for all plugins of its type, if it is found.**  Plugins wait that bear the names
of their types, any number of them of one type, and those of one type have the same dependencies.  A
dependency is found unless the last plugin that bears the name of its type is of another type.  If the
plugins can be sorted, all plugins of a type stand before those that depend on the type and find it.
However `finish` ends, when a build begins that is not inside another one, there were plugins of the
types that it depends on and finds, and the builds of all of them have ended. -/
theorem instances_before_dependents (family : ι → Plugin ι σ ρ) (s : Server ι σ ρ)
    (hs : Reachable family s) (hstate : s.state = .notStarted)
    (hname : NamedByType family s.pending) (hsame : SameDependencies family s.pending) :
    (∀ sorted, Server.sortPlugins family s.pending s.built = .ok sorted →
      sorted.Perm s.pending ∧ ∀ first p rest, sorted = first ++ p :: rest →
        ∀ d ∈ (family p).dependencies, ¬ Disguised family s.pending d →
          d ∈ types family first ∧ d ∉ types family (p :: rest)) ∧
    ∀ fuel before p, Begins (Server.perform family fuel .finish s).2.trace before p →
      underWay [] before = [] → ∀ d ∈ (family p).dependencies, ¬ Disguised family s.pending d →
        d ∈ types family s.pending ∧
          ((outerBuilds [] before).filter fun q => (family q).id = d).Perm
            (s.pending.filter fun q => (family q).id = d) := by
  have hfresh := Server.fresh_of_reachable hs
  obtain ⟨htrace, hbuilt⟩ := hfresh hstate
  have hsorted : ∀ sorted, Server.sortPlugins family s.pending s.built = .ok sorted →
      ∀ first p rest, sorted = first ++ p :: rest → ∀ d ∈ (family p).dependencies,
        ¬ Disguised family s.pending d → d ∈ types family first ∧ d ∉ types family (p :: rest) := by
    intro sorted hsort first p rest hsplit d hd hfound
    rw [hbuilt] at hsort
    exact types_before_of_sortPlugins hname hsame hsort hsplit hd hfound
  refine ⟨fun sorted hsort => ⟨Server.sortPlugins_perm hsort, hsorted sorted hsort⟩, ?_⟩
  intro fuel before p hb hout d hd hfound
  cases hsort : Server.sortPlugins family s.pending s.built with
  | error e =>
    -- then nothing is built
    have hnone : (Server.perform family fuel .finish s).2.trace = [] := by
      cases fuel with
      | zero => exact htrace
      | succ fuel =>
        rw [Server.perform, Server.performWith, Server.finish_of_sort_error hstate hsort]
        exact htrace
    obtain ⟨after, hb⟩ := hb
    rw [hnone] at hb
    cases before <;> cases hb
  | ok sorted =>
    obtain ⟨rest, hsplit⟩ := outerOrder_of_finish hfresh hstate hsort fuel before p hb hout
    have hperm : (outerBuilds [] before ++ p :: rest).Perm s.pending :=
      hsplit ▸ Server.sortPlugins_perm hsort
    obtain ⟨hfirst, hlast⟩ := hsorted sorted hsort _ p rest hsplit d hd hfound
    have hnone : (p :: rest).filter (fun q => (family q).id = d) = [] := by
      rw [List.filter_eq_nil_iff]
      intro q hq hid
      exact hlast (List.mem_map.mpr ⟨q, hq, of_decide_eq_true hid⟩)
    refine ⟨(hperm.map _).mem_iff.mp ?_, ?_⟩
    · rw [List.map_append]
      exact List.mem_append_left _ hfirst
    · have hfilter := hperm.filter fun q => (family q).id = d
      rwa [List.filter_append, hnone, List.append_nil] at hfilter

end Finish

section Sample

/-- Two plugins of one type, two of another type that depends on it, and one that depends on the
latter. -/
def crewFamily (p : Fin 5) : Plugin (Fin 5) Unit Unit where
  id := match p with | 0 | 1 => ⟨0, "A"⟩ | 2 | 3 => ⟨1, "B"⟩ | 4 => ⟨2, "C"⟩
  name := match p with | 0 | 1 => "A" | 2 | 3 => "B" | 4 => "C"
  unique := false
  dependencies := match p with | 0 | 1 => [] | 2 | 3 => [⟨0, "A"⟩] | 4 => [⟨1, "B"⟩]
  callback _ := []

/-- The server to which they have been added, those with dependencies among the first. -/
def crewServer : Server (Fin 5) Unit Unit :=
  (Server.perform crewFamily 1 (.add [4, 2, 0, 3, 1]) (.new ())).2

theorem instances_before_dependents_crew :
    crewServer.state = .notStarted ∧ NamedByType crewFamily crewServer.pending ∧
      SameDependencies crewFamily crewServer.pending ∧
      Undisguised crewFamily crewServer.pending ∧
      Server.sortPlugins crewFamily crewServer.pending crewServer.built = .ok [0, 1, 2, 3, 4] ∧
      ∀ before p, Begins (Server.perform crewFamily 3 .finish crewServer).2.trace before p →
        underWay [] before = [] → ∀ d ∈ (crewFamily p).dependencies,
          ¬ Disguised crewFamily crewServer.pending d →
            d ∈ types crewFamily [4, 2, 0, 3, 1] ∧
            ((outerBuilds [] before).filter fun q => (crewFamily q).id = d).Perm
              ([4, 2, 0, 3, 1].filter fun q => (crewFamily q).id = d) := by
  have hname : NamedByType crewFamily crewServer.pending := by
    unfold NamedByType
    decide
  have hdeps : ∀ p q, (crewFamily p).id = (crewFamily q).id →
      (crewFamily p).dependencies = (crewFamily q).dependencies := by decide
  have hsame : SameDependencies crewFamily crewServer.pending :=
    fun p _ q _ hid d => by rw [hdeps p q hid]
  have htell : NamesTell crewFamily crewServer.pending := by
    unfold NamesTell
    decide
  have hall := instances_before_dependents crewFamily crewServer (.perform 1 _ (.new ())) rfl hname hsame
  exact ⟨rfl, hname, hsame, htell.undisguised, rfl, hall.2 3⟩

/-- A plugin, one of another type of the same name, one that depends on the type of the first, and one
that the first depends on. -/
def lookalikeFamily (p : Fin 4) : Plugin (Fin 4) Unit Unit where
  id := match p with | 0 => ⟨0, "A"⟩ | 1 => ⟨1, "A"⟩ | 2 => ⟨2, "B"⟩ | 3 => ⟨3, "C"⟩
  name := match p with | 0 | 1 => "A" | 2 => "B" | 3 => "C"
  unique := true
  dependencies := match p with | 0 => [⟨3, "C"⟩] | 1 => [] | 2 => [⟨0, "A"⟩] | 3 => []
  callback _ := []

/-- A plugin is built before the one whose type it depends on, since it finds the other one of that
name. -/
theorem dependent_before_instance :
    ∃ s, Server.perform lookalikeFamily 1 (.add [0, 1, 2, 3]) (.new ()) = (.done none, s) ∧
      NamedByType lookalikeFamily s.pending ∧ SameDependencies lookalikeFamily s.pending ∧
      Server.sortPlugins lookalikeFamily s.pending s.built = .ok [1, 3, 2, 0] ∧
      (lookalikeFamily 0).id ∈ (lookalikeFamily 2).dependencies ∧
      ∃ before, Begins (Server.perform lookalikeFamily 3 .finish s).2.trace before 2 ∧
        underWay [] before = [] ∧ outerBuilds [] before = [1, 3] := by
  have hadded : Server.perform lookalikeFamily 1 (.add [0, 1, 2, 3]) (.new ()) =
      (.done none, _) := rfl
  have hdeps : ∀ p q, (lookalikeFamily p).id = (lookalikeFamily q).id →
      (lookalikeFamily p).dependencies = (lookalikeFamily q).dependencies := by decide
  refine ⟨_, hadded, ?_, fun p _ q _ hid d => ?_, rfl, by decide, ?_⟩
  · unfold NamedByType
    decide
  · rw [hdeps p q hid]
  · exact ⟨[.began .build 1, .ended .build 1, .began .build 3, .ended .build 3], ⟨_, rfl⟩, rfl, rfl⟩

end Sample

end ObjectAssembly
