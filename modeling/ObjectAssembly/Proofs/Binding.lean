import ObjectAssembly.Binder
import Mathlib.Data.List.Forall2

/-!
# Binding — a log broadcast to many objects is a replay on each of them

`bindAll` goes through a log entry by entry and offers each entry to all targets.  `Object.replay`
takes one object alone through the whole log.  The two meet in `bindAll_ok_iff`: the broadcast
succeeds iff every entry is declared by some target and no target refuses its own replay, and then
each target is what its replay makes of it.  `bindAll_error_iff` finds the entry at which a broadcast
fails, and `bindOne_error_iff` says what has happened there.
-/

namespace ObjectAssembly

variable {a : Assignment} {o o' : Object} {name raw : String}

/-! ### One object -/

namespace Object

/-- The object accepts an assignment, or passes it over, and is then `o'`. -/
def Takes (a : Assignment) (o o' : Object) : Prop :=
  ∃ accepted, o.setOption a.name a.value = (o', .ok accepted)

/-- The object refuses an assignment. -/
def Refuses (a : Assignment) (o : Object) (reason : String) : Prop :=
  (o.setOption a.name a.value).2 = .error reason

/-- Replays assignments on the object alone, up to the first one that it refuses. -/
def replay (o : Object) : List Assignment → Except String Object
  | [] => .ok o
  | a :: rest =>
    match o.setOption a.name a.value with
    | (_, .error reason) => .error reason
    | (o', .ok _) => o'.replay rest

theorem declares_eq_isSome (o : Object) (name : String) :
    o.declares name = (o.cls.options.find? (·.name == name)).isSome := by
  rw [List.isSome_find?, declares, ObjectClass.infos, List.any_map]
  rfl

/-- What an object declares is a matter of its class. -/
theorem declares_congr (h : o'.cls = o.cls) (name : String) : o'.declares name = o.declares name := by
  unfold declares
  rw [h]

/-- An object passes over what it does not declare. -/
theorem setOption_of_not_declares (h : o.declares name = false) :
    o.setOption name raw = (o, .ok false) := by
  rw [declares_eq_isSome, Option.isSome_eq_false_iff, Option.isNone_iff_eq_none] at h
  simp [setOption, h]

/-- An object that does not refuse says whether it declares the option. -/
theorem accepted_eq {accepted : Bool} (h : o.setOption name raw = (o', .ok accepted)) :
    accepted = o.declares name := by
  rw [declares_eq_isSome]
  unfold setOption at h
  split at h
  · next hf => cases h; rw [hf]; rfl
  · next spec hf =>
    rw [hf]
    simp only [Prod.mk.injEq] at h
    obtain ⟨-, h⟩ := h
    split at h <;> cases h
    rfl

theorem Takes.cls (h : Takes a o o') : o'.cls = o.cls := by
  obtain ⟨accepted, h⟩ := h
  have := setOption_cls o a.name a.value
  rwa [h] at this

theorem Takes.eq (h : Takes a o o') :
    o.setOption a.name a.value = (o', .ok (o.declares a.name)) := by
  obtain ⟨accepted, h⟩ := h
  rw [h, accepted_eq h]

theorem Takes.declares (h : Takes a o o') (name : String) : o'.declares name = o.declares name :=
  declares_congr h.cls name

/-- An object takes an assignment or refuses it. -/
theorem takes_or_refuses (a : Assignment) (o : Object) :
    (∃ o', Takes a o o') ∨ ∃ reason, Refuses a o reason := by
  unfold Takes Refuses
  obtain ⟨o', outcome⟩ := o.setOption a.name a.value
  cases outcome with
  | error reason => exact .inr ⟨reason, rfl⟩
  | ok accepted => exact .inl ⟨o', accepted, rfl⟩

theorem Takes.not_refuses (h : Takes a o o') (reason : String) : ¬ Refuses a o reason := by
  intro hr
  unfold Refuses at hr
  rw [h.eq] at hr
  cases hr

/-- Only a declared option can be refused. -/
theorem Refuses.declares {reason : String} (h : Refuses a o reason) : o.declares a.name = true := by
  by_contra hd
  have hp : o.setOption a.name a.value = (o, .ok false) :=
    setOption_of_not_declares (Bool.not_eq_true _ ▸ hd)
  unfold Refuses at h
  rw [hp] at h
  cases h

theorem replay_cons_ok_iff {log : List Assignment} {o'' : Object} :
    o.replay (a :: log) = .ok o'' ↔ ∃ o', Takes a o o' ∧ o'.replay log = .ok o'' := by
  constructor
  · intro h
    unfold replay at h
    split at h
    · cases h
    · next o' accepted hs => exact ⟨o', ⟨accepted, hs⟩, h⟩
  · rintro ⟨o', ht, h⟩
    unfold replay
    rw [ht.eq]
    exact h

end Object

/-! ### One assignment -/

section Offer

open Object

variable {targets targets' rest : List Object} {n : Nat} {reason : String}

theorem offer_cons_of_takes (h : Takes a o o') :
    offer a (o :: rest) = (o' :: (offer a rest).1,
      (offer a rest).2.map (· + if o.declares a.name then 1 else 0)) := by
  rw [offer, h.eq]

theorem offer_cons_of_refuses (h : Refuses a o reason) :
    offer a (o :: rest) = ((o.setOption a.name a.value).1 :: rest,
      .error (.invalidValue a.name a.value o.typeName reason)) := by
  unfold Refuses at h
  rw [offer]
  split
  · next hs => rw [hs] at h ⊢; cases h; rfl
  · next hs => rw [hs] at h; cases h

/-- An offer succeeds iff every target takes it, and it counts the targets that declare the
option. -/
theorem offer_ok_iff :
    offer a targets = (targets', .ok n) ↔
      List.Forall₂ (Takes a) targets targets' ∧ n = targets.countP (·.declares a.name) := by
  induction targets generalizing targets' n with
  | nil =>
    simp only [offer, Prod.mk.injEq, Except.ok.injEq, List.forall₂_nil_left_iff, List.countP_nil]
    exact and_congr eq_comm eq_comm
  | cons o rest ih =>
    rcases takes_or_refuses a o with ⟨o', ht⟩ | ⟨reason, hr⟩
    · rw [offer_cons_of_takes ht, List.countP_cons, List.forall₂_cons_left_iff]
      constructor
      · intro h
        obtain ⟨rfl, h⟩ := Prod.mk.inj h
        cases hc : (offer a rest).2 with
        | error e => rw [hc] at h; cases h
        | ok m =>
          rw [hc] at h
          have hrest : offer a rest = ((offer a rest).1, .ok m) := by rw [← hc]
          obtain ⟨hf, rfl⟩ := ih.mp hrest
          cases h
          exact ⟨⟨o', _, ht, hf, rfl⟩, rfl⟩
      · rintro ⟨⟨o'', rest', ht', hf, rfl⟩, rfl⟩
        have heq : o'' = o' := by
          have := ht'.eq.symm.trans ht.eq
          exact (Prod.mk.inj this).1
        rw [ih.mpr ⟨hf, rfl⟩, heq]
        rfl
    · rw [offer_cons_of_refuses hr]
      constructor
      · intro h; cases h
      · rintro ⟨h, -⟩
        obtain ⟨o', -, ht, -, -⟩ := List.forall₂_cons_left_iff.mp h
        exact absurd hr (ht.not_refuses reason)

/-- An offer fails at the first target that refuses it. -/
theorem offer_error_iff {e : BindError} :
    (offer a targets).2 = .error e ↔
      ∃ before o after reason, targets = before ++ o :: after ∧ (∀ x ∈ before, ∃ x', Takes a x x') ∧
        Refuses a o reason ∧ e = .invalidValue a.name a.value o.typeName reason := by
  induction targets with
  | nil =>
    simp only [offer, reduceCtorEq, false_iff]
    rintro ⟨before, o, after, reason, h, -⟩
    cases before <;> cases h
  | cons o rest ih =>
    rcases takes_or_refuses a o with ⟨o', ht⟩ | ⟨reason, hr⟩
    · rw [offer_cons_of_takes ht]
      have hmap : ∀ r : Except BindError Nat, ∀ k, (r.map (· + k) = .error e ↔ r = .error e) := by
        rintro (_ | _) k <;> simp [Except.map]
      rw [hmap, ih]
      constructor
      · rintro ⟨before, x, after, reason, rfl, hb, hr, he⟩
        refine ⟨o :: before, x, after, reason, rfl, ?_, hr, he⟩
        intro y hy
        rcases List.mem_cons.mp hy with rfl | hy
        · exact ⟨o', ht⟩
        · exact hb y hy
      · rintro ⟨before, x, after, reason, heq, hb, hr, he⟩
        cases before with
        | nil =>
          obtain ⟨rfl, -⟩ := List.cons.inj heq
          exact absurd hr (ht.not_refuses reason)
        | cons y before =>
          obtain ⟨rfl, rfl⟩ := List.cons.inj heq
          exact ⟨before, x, after, reason, rfl, fun z hz => hb z (List.mem_cons_of_mem _ hz), hr, he⟩
    · rw [offer_cons_of_refuses hr]
      constructor
      · intro h
        cases h
        exact ⟨[], o, rest, reason, rfl, by simp, hr, rfl⟩
      · rintro ⟨before, x, after, reason', heq, hb, hr', rfl⟩
        cases before with
        | nil =>
          obtain ⟨rfl, -⟩ := List.cons.inj heq
          have : reason = reason' := by
            have := hr.symm.trans hr'
            exact Except.error.inj this
          rw [this]
        | cons y before =>
          obtain ⟨rfl, -⟩ := List.cons.inj heq
          obtain ⟨o', ht⟩ := hb o (by simp)
          exact absurd hr (ht.not_refuses reason)

/-- What is logged of an assignment that the targets have taken. -/
def applied (targets : List Object) (a : Assignment) : LogEntry :=
  .optionApplied a.name a.value (targets.countP (·.declares a.name))

/-- Binding one assignment succeeds iff every target takes it and some target declares it. -/
theorem bindOne_ok_iff {log : List LogEntry} :
    bindOne a targets = ⟨targets', log, .ok n⟩ ↔
      List.Forall₂ (Takes a) targets targets' ∧ (∃ o ∈ targets, o.declares a.name) ∧
        n = targets.countP (·.declares a.name) ∧ log = [applied targets a] := by
  rw [← List.countP_pos_iff]
  unfold bindOne
  split
  · next targets'' e h =>
    constructor
    · intro h'; cases h'
    · rintro ⟨hf, -, hn, -⟩
      rw [offer_ok_iff.mpr ⟨hf, hn⟩] at h
      cases h
  · next targets'' h =>
    obtain ⟨-, h0⟩ := offer_ok_iff.mp h
    constructor
    · intro h'; cases h'
    · rintro ⟨-, hpos, -⟩
      omega
  · next targets'' m h =>
    obtain ⟨hf, hm⟩ := offer_ok_iff.mp h
    unfold applied
    constructor
    · intro h'
      cases h'
      exact ⟨hf, by omega, hm, by rw [← hm]⟩
    · rintro ⟨hf', -, hn, rfl⟩
      rw [offer_ok_iff.mpr ⟨hf', hn⟩] at h
      cases h
      rw [← hn]

/-- Binding one assignment fails at the first target that refuses it, or else because no target
declares it. -/
theorem bindOne_error_iff {e : BindError} :
    (bindOne a targets).outcome = .error e ↔
      (∃ before o after reason, targets = before ++ o :: after ∧ (∀ x ∈ before, ∃ x', Takes a x x') ∧
        Refuses a o reason ∧ e = .invalidValue a.name a.value o.typeName reason) ∨
      ((∀ o ∈ targets, o.declares a.name = false) ∧ e = .unknownOption a.name) := by
  rw [← offer_error_iff]
  have hnone : (∀ o ∈ targets, o.declares a.name = false) ↔
      targets.countP (·.declares a.name) = 0 := by
    rw [List.countP_eq_zero]
    exact forall₂_congr fun o _ => (Bool.not_eq_true _).symm ▸ Iff.rfl
  rw [hnone]
  unfold bindOne
  split
  · next targets'' e' h =>
    rw [h]
    refine ⟨fun h' => .inl (by cases h'; rfl), ?_⟩
    rintro (h' | ⟨h0, -⟩)
    · cases h'; rfl
    · -- no target declares the option, so none can refuse it
      obtain ⟨before, o, after, reason, rfl, -, hr, -⟩ := offer_error_iff.mp (congrArg Prod.snd h)
      rw [List.countP_eq_zero] at h0
      exact absurd hr.declares (h0 o (by simp))
  · next targets'' h =>
    obtain ⟨-, h0⟩ := offer_ok_iff.mp h
    rw [h]
    refine ⟨fun h' => .inr ⟨h0.symm, by cases h'; rfl⟩, ?_⟩
    rintro (h' | ⟨-, rfl⟩)
    · cases h'
    · rfl
  · next targets'' m h =>
    obtain ⟨-, hm⟩ := offer_ok_iff.mp h
    rw [h]
    constructor
    · intro h'; cases h'
    · rintro (h' | ⟨h0, -⟩)
      · cases h'
      · omega

/-- Binding one assignment succeeds or fails. -/
theorem bindOne_cases (a : Assignment) (targets : List Object) :
    (∃ mid, List.Forall₂ (Takes a) targets mid ∧ (∃ o ∈ targets, o.declares a.name) ∧
      ∃ n, bindOne a targets = ⟨mid, [applied targets a], .ok n⟩) ∨
    ∃ mid entries e, bindOne a targets = ⟨mid, entries, .error e⟩ := by
  rcases h : bindOne a targets with ⟨mid, entries, e | n⟩
  · exact .inr ⟨mid, entries, e, rfl⟩
  · obtain ⟨hts, hd, -, rfl⟩ := bindOne_ok_iff.mp h
    exact .inl ⟨mid, hts, hd, n, rfl⟩

end Offer

/-! ### A whole log -/

section Log

open Object

variable {targets targets' : List Object} {log : List Assignment}

theorem declares_of_takes (h : List.Forall₂ (Takes a) targets targets') (name : String) :
    (∃ o ∈ targets', o.declares name) ↔ ∃ o ∈ targets, o.declares name := by
  induction h with
  | nil => rfl
  | cons h _ ih => simp only [List.exists_mem_cons_iff, ih, h.declares name]

theorem applied_of_takes (h : List.Forall₂ (Takes a) targets targets') :
    applied targets' = applied targets := by
  funext b
  unfold applied
  congr 1
  induction h with
  | nil => rfl
  | cons h _ ih => simp only [List.countP_cons, ih, h.declares]

theorem takes_unique {mid mid' : List Object} (h : List.Forall₂ (Takes a) targets mid)
    (h' : List.Forall₂ (Takes a) targets mid') : mid = mid' := by
  have := (offer_ok_iff.mpr ⟨h, rfl⟩).symm.trans (offer_ok_iff.mpr ⟨h', rfl⟩)
  exact (Prod.mk.inj this).1

theorem forall₂_replay_nil :
    List.Forall₂ (fun o o' => o.replay [] = .ok o') targets targets' ↔ targets = targets' := by
  simp [replay]

/-- Replaying a longer log is taking its first entry and replaying the rest, for all targets. -/
theorem forall₂_replay_cons :
    List.Forall₂ (fun o o' => o.replay (a :: log) = .ok o') targets targets' ↔
      ∃ mid, List.Forall₂ (Takes a) targets mid ∧
        List.Forall₂ (fun o o' => o.replay log = .ok o') mid targets' := by
  constructor
  · intro h
    induction h with
    | nil => exact ⟨[], .nil, .nil⟩
    | cons h _ ih =>
      obtain ⟨o', ht, h⟩ := replay_cons_ok_iff.mp h
      obtain ⟨mid, hts, hs⟩ := ih
      exact ⟨o' :: mid, .cons ht hts, .cons h hs⟩
  · rintro ⟨mid, hts, hs⟩
    induction hts generalizing targets' with
    | nil => cases hs; exact .nil
    | cons ht _ ih =>
      cases hs with
      | cons h hs => exact .cons (replay_cons_ok_iff.mpr ⟨_, ht, h⟩) (ih hs)

/-- Binding a longer log is binding its first part and then, if that succeeds, the second. -/
theorem bindAll_append (log more : List Assignment) (targets : List Object) :
    bindAll (log ++ more) targets =
      match bindAll log targets with
      | ⟨mid, entries, .error e⟩ => ⟨mid, entries, .error e⟩
      | ⟨mid, entries, .ok ()⟩ =>
        { bindAll more mid with log := entries ++ (bindAll more mid).log } := by
  induction log generalizing targets with
  | nil => rfl
  | cons a log ih =>
    rw [List.cons_append, bindAll, bindAll]
    rcases bindOne a targets with ⟨mid, entries, e | n⟩
    · rfl
    · simp only [ih]
      rcases bindAll log mid with ⟨last, entries', e | ⟨⟩⟩
      · rfl
      · simp only [List.append_assoc]

/-- **Broadcast is replay.**  Binding a log succeeds iff every entry is declared by some target and
every target replays the whole log alone; the targets are then what their replays make of them. -/
theorem bindAll_ok_iff {entries : List LogEntry} :
    bindAll log targets = ⟨targets', entries, .ok ()⟩ ↔
      List.Forall₂ (fun o o' => o.replay log = .ok o') targets targets' ∧
        (∀ a ∈ log, ∃ o ∈ targets, o.declares a.name) ∧ entries = log.map (applied targets) := by
  induction log generalizing targets entries with
  | nil =>
    rw [forall₂_replay_nil, bindAll, Bound.mk.injEq]
    constructor
    · rintro ⟨rfl, rfl, -⟩; exact ⟨rfl, by simp, rfl⟩
    · rintro ⟨rfl, -, rfl⟩; exact ⟨rfl, rfl, rfl⟩
  | cons a log ih =>
    rw [forall₂_replay_cons, List.forall_mem_cons, bindAll]
    rcases bindOne_cases a targets with ⟨mid, hts, hd, n, h⟩ | ⟨mid, l, e, h⟩
    · rw [h]
      simp only [Bound.mk.injEq]
      constructor
      · rintro ⟨ht, rfl, ho⟩
        have hb : bindAll log mid = ⟨targets', (bindAll log mid).log, .ok ()⟩ := by rw [← ht, ← ho]
        obtain ⟨hs, hds, he⟩ := ih.mp hb
        refine ⟨⟨mid, hts, hs⟩, ⟨hd, fun b hb => (declares_of_takes hts _).mp (hds b hb)⟩, ?_⟩
        rw [he, applied_of_takes hts]
        rfl
      · rintro ⟨⟨mid', hts', hs⟩, ⟨-, hds⟩, rfl⟩
        obtain rfl := takes_unique hts hts'
        have hds' := fun b hb => (declares_of_takes hts _).mpr (hds b hb)
        rw [ih.mpr ⟨hs, hds', rfl⟩, applied_of_takes hts]
        exact ⟨rfl, rfl, rfl⟩
    · rw [h]
      constructor
      · intro h'; cases h'
      · rintro ⟨⟨mid', hts, -⟩, ⟨hd, -⟩, -⟩
        rw [bindOne_ok_iff.mpr ⟨hts, hd, rfl, rfl⟩] at h
        cases h

/-- Binding a log fails at the first entry that cannot be bound after those before it. -/
theorem bindAll_error_iff {e : BindError} :
    (bindAll log targets).outcome = .error e ↔
      ∃ before a after mid, log = before ++ a :: after ∧
        List.Forall₂ (fun o o' => o.replay before = .ok o') targets mid ∧
        (∀ b ∈ before, ∃ o ∈ targets, o.declares b.name) ∧ (bindOne a mid).outcome = .error e := by
  induction log generalizing targets with
  | nil =>
    simp only [bindAll, reduceCtorEq, false_iff]
    rintro ⟨before, a, after, mid, h, -⟩
    cases before <;> cases h
  | cons a log ih =>
    rw [bindAll]
    rcases bindOne_cases a targets with ⟨mid, hts, hd, n, h⟩ | ⟨mid, l, e', h⟩
    · rw [h]
      show (bindAll log mid).outcome = _ ↔ _
      rw [ih]
      constructor
      · rintro ⟨before, b, after, mid', rfl, hs, hds, hb⟩
        refine ⟨a :: before, b, after, mid', rfl, forall₂_replay_cons.mpr ⟨mid, hts, hs⟩, ?_, hb⟩
        rw [List.forall_mem_cons]
        exact ⟨hd, fun c hc => (declares_of_takes hts _).mp (hds c hc)⟩
      · rintro ⟨before, b, after, mid', heq, hs, hds, hb⟩
        cases before with
        | nil =>
          obtain ⟨rfl, rfl⟩ := List.cons.inj heq
          obtain rfl := forall₂_replay_nil.mp hs
          rw [h] at hb
          cases hb
        | cons c before =>
          obtain ⟨rfl, rfl⟩ := List.cons.inj heq
          obtain ⟨mid'', hts', hs⟩ := forall₂_replay_cons.mp hs
          obtain rfl := takes_unique hts hts'
          rw [List.forall_mem_cons] at hds
          exact ⟨before, b, after, mid', rfl, hs,
            fun d hd' => (declares_of_takes hts _).mpr (hds.2 d hd'), hb⟩
    · rw [h]
      constructor
      · intro he
        refine ⟨[], a, log, targets, rfl, forall₂_replay_nil.mpr rfl, by simp, ?_⟩
        rw [h]
        exact congrArg Except.error (Except.error.inj he)
      · rintro ⟨before, b, after, mid', heq, hs, hds, hb⟩
        cases before with
        | nil =>
          obtain ⟨rfl, rfl⟩ := List.cons.inj heq
          obtain rfl := forall₂_replay_nil.mp hs
          rw [h] at hb
          exact congrArg Except.error (Except.error.inj hb)
        | cons c before =>
          obtain ⟨rfl, rfl⟩ := List.cons.inj heq
          obtain ⟨mid'', hts, -⟩ := forall₂_replay_cons.mp hs
          rw [bindOne_ok_iff.mpr ⟨hts, hds a (by simp), rfl, rfl⟩] at h
          cases h

end Log

end ObjectAssembly
