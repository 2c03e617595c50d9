import ReactorNet.Proofs.Enlistment

/-!
# `ReactorNet.Proofs.Grandmaster` · whose clock all others follow

`Program.Leader` says of a program, instance by instance, which federate is to be the grandmaster:

* the first member of the first instance that is declared to be it;
* if no instance is, and any clock is synchronized, the first federate of all;
* else no federate.

`grandmaster_of_resolve` says that a topology has this grandmaster and no other, that its clocks
differ from the declared ones in nothing but the mark, and that choosing again changes nothing.

Choosing a grandmaster reads and writes keys and clocks only, so it is described by what it does to
them (`Federate.clock`). Enlisting copies the clock of an instance to all its members, the mark
included: this is why a single marked bank already has marks to be cleared. Laying channels keeps all
clocks (`map_clock_layParts`).
-/

namespace ReactorNet

variable {p : Program} {n m : Network} {f : Federation} {fs earlier later : List Federate}
  {g : Federate}
  {i : Instance} {leader : Option FederateKey}

/-! ## Whose clock it is to be -/

/-- The clock synchronization of an instance, the default one if it declares none. -/
def Instance.clock (i : Instance) : ClockSync := i.clockSync.getD {}

/-- The key of the first member of an instance. -/
def Instance.firstKey (i : Instance) : FederateKey := ⟨i.name, i.bankWidth.map fun _ => 0⟩

/-- Which federate of a program is to be the grandmaster, if any is. -/
inductive Program.Leader (p : Program) : Option FederateKey → Prop where
  /-- The first member of the first instance that is declared to be it. -/
  | declared {earlier later : List Instance} {i : Instance}
      (split : p.instances = earlier ++ i :: later)
      (unmarked : ∀ j ∈ earlier, j.clock.grandmaster = false) (marked : i.clock.grandmaster = true) :
      p.Leader (some i.firstKey)
  /-- The first federate of all, if no instance is declared to be it but one synchronizes its
  clock. -/
  | assumed {later : List Instance} {i : Instance} (split : p.instances = i :: later)
      (unmarked : ∀ j ∈ p.instances, j.clock.grandmaster = false)
      (enabled : ∃ j ∈ p.instances, j.clock.enabled = true) : p.Leader (some i.firstKey)
  /-- None, if no instance synchronizes its clock. -/
  | absent (unmarked : ∀ j ∈ p.instances, j.clock.grandmaster = false)
      (disabled : ∀ j ∈ p.instances, j.clock.enabled = false) : p.Leader none

/-- Every program falls under one of the rules. -/
theorem Program.exists_leader (p : Program) : ∃ leader, p.Leader leader := by
  cases found : p.instances.find? fun i => i.clock.grandmaster with
  | some i =>
      obtain ⟨marked, earlier, later, split, unmarked⟩ := List.find?_eq_some_iff_append.mp found
      exact ⟨_, .declared split (fun j hj => by simpa using unmarked j hj) marked⟩
  | none =>
      have unmarked : ∀ j ∈ p.instances, j.clock.grandmaster = false := by
        simpa using List.find?_eq_none.mp found
      by_cases enabled : ∃ j ∈ p.instances, j.clock.enabled = true
      · have ⟨j, hj, _⟩ := enabled
        obtain ⟨i, later, split⟩ := List.exists_cons_of_ne_nil (List.ne_nil_of_mem hj)
        exact ⟨_, .assumed split unmarked enabled⟩
      · have disabled : ∀ j ∈ p.instances, j.clock.enabled = false := by
          intro j hj
          exact Bool.eq_false_iff.mpr fun on => enabled ⟨j, hj, on⟩
        exact ⟨_, .absent unmarked disabled⟩

/-! ## Choosing among federates -/

/-- The identity of a federate and its clock. -/
def Federate.clock (f : Federate) : FederateKey × ClockSync := (f.key, f.clockSync)

/-- A federate that has the mark it is given stays as it is. -/
theorem Federate.mark_self (f : Federate) : f.mark f.clockSync.grandmaster = f := rfl

/-- A federate without a mark stays as it is when marks are cleared. -/
theorem Federate.mark_false (unmarked : g.clockSync.grandmaster = false) : g.mark false = g := by
  rw [← unmarked, g.mark_self]

/-- The marks of all federates but the first that has one are cleared. -/
theorem keepFirstMark_append (unmarked : ∀ h ∈ earlier, h.clockSync.grandmaster = false)
    (marked : g.clockSync.grandmaster = true) :
    keepFirstMark (earlier ++ g :: later) = earlier ++ g :: later.map (·.mark false) := by
  induction earlier with
  | nil => rw [List.nil_append, keepFirstMark, if_pos marked, List.nil_append]
  | cons h earlier ih =>
      obtain ⟨first, others⟩ := List.forall_mem_cons.mp unmarked
      rw [List.cons_append, keepFirstMark, first, ih others]
      rfl

/-- Where federates have distinct keys, those before and behind one of them have other keys. -/
theorem key_ne_of_mem (distinct : ((earlier ++ g :: later).map (·.key)).Nodup) {h : Federate}
    (hh : h ∈ earlier ++ later) : g.key ≠ h.key := by
  rw [List.map_append, List.map_cons, List.nodup_middle, List.nodup_cons, ← List.map_append] at distinct
  intro same
  exact distinct.1 (same ▸ List.mem_map_of_mem hh)

/-- Where the federates have distinct keys, to mark the one with a given key is to mark it and to
clear the marks of those before and behind it. -/
theorem map_mark_append (distinct : ((earlier ++ g :: later).map (·.key)).Nodup) :
    (earlier ++ g :: later).map (fun h => h.mark (decide (some g.key = some h.key))) =
      earlier.map (·.mark false) ++ g.mark true :: later.map (·.mark false) := by
  have other : ∀ h ∈ earlier ++ later, decide (some g.key = some h.key) = false := by
    intro h hh
    exact decide_eq_false fun same => key_ne_of_mem distinct hh (Option.some.inj same)
  rw [List.map_append, List.map_cons, decide_eq_true rfl]
  congr 1
  · exact List.map_congr_left fun h hh => by rw [other h (List.mem_append_left _ hh)]
  · congr 1
    exact List.map_congr_left fun h hh => by rw [other h (List.mem_append_right _ hh)]

/-- Clearing marks where there are none changes nothing. -/
theorem map_mark_false (unmarked : ∀ h ∈ fs, h.clockSync.grandmaster = false) :
    fs.map (·.mark false) = fs :=
  (List.map_congr_left fun h hh => Federate.mark_false (unmarked h hh)).trans (List.map_id fs)

/-- The first marked federate is chosen. -/
theorem chooseGrandmaster_of_marked (distinct : ((earlier ++ g :: later).map (·.key)).Nodup)
    (unmarked : ∀ h ∈ earlier, h.clockSync.grandmaster = false)
    (marked : g.clockSync.grandmaster = true) :
    chooseGrandmaster (earlier ++ g :: later) =
      (earlier ++ g :: later).map fun h => h.mark (decide (some g.key = some h.key)) := by
  have any : (earlier ++ g :: later).any (fun h => h.clockSync.grandmaster) = true :=
    List.any_eq_true.mpr ⟨g, by simp, marked⟩
  unfold chooseGrandmaster
  rw [if_pos any, keepFirstMark_append unmarked marked, map_mark_append distinct,
    map_mark_false unmarked, ← marked, g.mark_self]

/-- Without a marked federate, the first is chosen if any clock is synchronized. -/
theorem chooseGrandmaster_of_enabled (distinct : ((g :: later).map (·.key)).Nodup)
    (unmarked : ∀ h ∈ g :: later, h.clockSync.grandmaster = false)
    (enabled : ∃ h ∈ g :: later, h.clockSync.enabled = true) :
    chooseGrandmaster (g :: later) =
      (g :: later).map fun h => h.mark (decide (some g.key = some h.key)) := by
  have none_marked : ¬ (g :: later).any (fun h => h.clockSync.grandmaster) = true := by
    simpa using unmarked
  unfold chooseGrandmaster
  rw [if_neg none_marked, if_pos (List.any_eq_true.mpr enabled)]
  show g.mark true :: later = _
  have marks : (g :: later).map _ = g.mark true :: later.map (·.mark false) :=
    @map_mark_append [] later g distinct
  rw [map_mark_false fun h hh => unmarked h (List.mem_cons_of_mem _ hh)] at marks
  exact marks.symm

/-- Without a marked federate and a synchronized clock, none is chosen. -/
theorem chooseGrandmaster_of_disabled (unmarked : ∀ h ∈ fs, h.clockSync.grandmaster = false)
    (disabled : ∀ h ∈ fs, h.clockSync.enabled = false) : chooseGrandmaster fs = fs := by
  have none_marked : ¬ fs.any (fun h => h.clockSync.grandmaster) = true := by
    simpa using unmarked
  have none_enabled : ¬ fs.any (fun h => h.clockSync.enabled) = true := by
    simpa using disabled
  unfold chooseGrandmaster
  rw [if_neg none_marked, if_neg none_enabled]

/-! ## Enlisting -/

/-- The members of an instance, all with its clock. -/
def Instance.clocks (i : Instance) : List (FederateKey × ClockSync) :=
  i.members.map fun bank => (⟨i.name, bank⟩, i.clock)

/-- The members of a program, with the clocks that their instances declare. -/
def Program.clocks (p : Program) : List (FederateKey × ClockSync) :=
  p.members.map fun x => (x.1, x.2.clock)

/-- The clocks of a program, instance by instance. -/
theorem Program.clocks_eq (p : Program) : p.clocks = p.instances.flatMap (·.clocks) := by
  rw [clocks, members, List.map_flatMap]
  simp only [List.map_map, Function.comp_def]
  rfl

/-- The clock of a member is that of its instance. -/
theorem exists_of_mem_clocks {is : List Instance} {x : FederateKey × ClockSync}
    (h : x ∈ is.flatMap (·.clocks)) : ∃ i ∈ is, x.2 = i.clock := by
  obtain ⟨i, hi, hx⟩ := List.mem_flatMap.mp h
  obtain ⟨bank, -, rfl⟩ := List.mem_map.mp hx
  exact ⟨i, hi, rfl⟩

/-- An instance that is no empty bank has a first member. -/
theorem Instance.exists_clocks (inhabited : i.bankWidth ≠ some 0) :
    ∃ others, i.clocks = (i.firstKey, i.clock) :: others := by
  unfold clocks members firstKey
  cases hw : i.bankWidth with
  | none => exact ⟨[], rfl⟩
  | some width =>
      cases width with
      | zero => exact absurd hw inhabited
      | succ width =>
          simp only [List.range_succ_eq_map, List.map_cons, Option.map_some]
          exact ⟨_, rfl⟩

/-- The first member of an instance is among the members. -/
theorem Instance.first_mem_clocks {is : List Instance} (hi : i ∈ is)
    (inhabited : i.bankWidth ≠ some 0) :
    (i.firstKey, i.clock) ∈ is.flatMap (·.clocks) := by
  obtain ⟨others, first⟩ := i.exists_clocks inhabited
  exact List.mem_flatMap.mpr ⟨i, hi, first ▸ List.mem_cons_self⟩

/-- Claiming the interfaces of federates gives each the clock that its instance declares. -/
theorem map_clock_claimFederates {members : List (FederateKey × Instance)} {s t : Allocation}
    (h : claimFederates members s = .ok (fs, t)) :
    fs.map (·.clock) = members.map fun x => (x.1, x.2.clock) := by
  induction members generalizing s fs with
  | nil =>
      cases h
      rfl
  | cons member members ih =>
      obtain ⟨is, u, rest, -, behind, rfl⟩ := claimFederates_cons_eq_ok_iff.mp h
      rw [List.map_cons, List.map_cons, ih behind]
      rfl

/-- Federates with the clocks of instances have no other clocks. -/
theorem exists_of_federate {is : List Instance} (clocks : fs.map (·.clock) = is.flatMap (·.clocks))
    (hg : g ∈ fs) : ∃ i ∈ is, g.clockSync = i.clock := by
  apply exists_of_mem_clocks (x := g.clock)
  rw [← clocks]
  exact List.mem_map_of_mem hg

/-- Of federates with the clocks of instances, one has the clock of a given instance. -/
theorem exists_of_instance {is : List Instance} (clocks : fs.map (·.clock) = is.flatMap (·.clocks))
    (hi : i ∈ is) (inhabited : i.bankWidth ≠ some 0) : ∃ g ∈ fs, g.clockSync = i.clock := by
  have mem : (i.firstKey, i.clock) ∈ fs.map (·.clock) := clocks ▸ i.first_mem_clocks hi inhabited
  obtain ⟨g, hg, same⟩ := List.mem_map.mp mem
  exact ⟨g, hg, congrArg Prod.snd same⟩

/-- Federates with the clocks that their instances declare choose the one that is to be the
grandmaster, and mark no other. -/
theorem chooseGrandmaster_eq (valid : p.validate = .ok ()) (chosen : p.Leader leader)
    (clocks : fs.map (·.clock) = p.clocks) (distinct : (fs.map (·.key)).Nodup) :
    chooseGrandmaster fs = fs.map fun h => h.mark (decide (leader = some h.key)) := by
  have sound := (validate_eq_ok_iff.mp valid).instances
  rw [p.clocks_eq] at clocks
  cases chosen with
  | @declared before behind i split unmarked marked =>
      obtain ⟨others, first⟩ := i.exists_clocks (sound i (by simp [split])).inhabited
      rw [split, List.flatMap_append, List.flatMap_cons, first] at clocks
      obtain ⟨earlier, rest, rfl, hearlier, hrest⟩ := List.map_eq_append_iff.mp clocks
      obtain ⟨g, later, rfl, hg, -⟩ := List.map_eq_cons_iff.mp hrest
      obtain ⟨key, clock⟩ := Prod.mk.inj hg
      rw [← key]
      refine chooseGrandmaster_of_marked distinct (fun h hh => ?_) ?_
      · obtain ⟨j, hj, same⟩ := exists_of_federate hearlier hh
        rw [same, unmarked j hj]
      · rw [clock, marked]
  | @assumed behind i split unmarked enabled =>
      have none_marked : ∀ h ∈ fs, h.clockSync.grandmaster = false := by
        intro h hh
        obtain ⟨j, hj, same⟩ := exists_of_federate clocks hh
        rw [same, unmarked j hj]
      have some_enabled : ∃ h ∈ fs, h.clockSync.enabled = true := by
        obtain ⟨j, hj, on⟩ := enabled
        obtain ⟨h, hh, same⟩ := exists_of_instance clocks hj (sound j hj).inhabited
        exact ⟨h, hh, same ▸ on⟩
      obtain ⟨others, first⟩ := i.exists_clocks (sound i (by simp [split])).inhabited
      rw [split, List.flatMap_cons, first] at clocks
      obtain ⟨g, later, rfl, hg, -⟩ := List.map_eq_cons_iff.mp clocks
      rw [← show g.key = i.firstKey from congrArg Prod.fst hg]
      exact chooseGrandmaster_of_enabled distinct none_marked some_enabled
  | absent unmarked disabled =>
      have none_marked : ∀ h ∈ fs, h.clockSync.grandmaster = false := by
        intro h hh
        obtain ⟨j, hj, same⟩ := exists_of_federate clocks hh
        rw [same, unmarked j hj]
      have none_enabled : ∀ h ∈ fs, h.clockSync.enabled = false := by
        intro h hh
        obtain ⟨j, hj, same⟩ := exists_of_federate clocks hh
        rw [same, disabled j hj]
      rw [chooseGrandmaster_of_disabled none_marked none_enabled]
      exact (map_mark_false none_marked).symm

/-! ## Topologies -/

/-- Other interfaces leave every federate its clock. -/
theorem map_clock_withInterfaces (n : Network) (k : Nat) (is : Interfaces) :
    (n.withInterfaces k is).federates.map (·.clock) = n.federates.map (·.clock) :=
  map_modify_eq fun _ _ => rfl

/-- A step keeps the clocks of all federates. -/
theorem map_clock_layBundle {groups : List Group} {part : Part} {b : Bundle}
    (h : layBundle groups part n = .ok (b, m)) :
    m.federates.map (·.clock) = n.federates.map (·.clock) := by
  obtain ⟨f, g, r, -, -, -, -, -, rfl⟩ := layBundle_eq_ok_iff.mp h
  exact (map_clock_withInterfaces _ _ _).trans (map_clock_withInterfaces _ _ _)

/-- Laying channels keeps the clocks of all federates. -/
theorem map_clock_layParts {groups : List Group} {parts : List Part} {bs : List Bundle}
    (h : layParts groups parts n = (.ok bs, m)) :
    m.federates.map (·.clock) = n.federates.map (·.clock) := by
  induction parts generalizing n bs with
  | nil =>
      cases h
      rfl
  | cons part parts ih =>
      obtain ⟨b, u, cs, first, rest, -⟩ := layParts_cons_ok.mp h
      exact (ih rest).trans (map_clock_layBundle first)

/-- The clocks of a topology are the declared ones, but for the mark of the grandmaster. -/
theorem map_clock_resolve (resolved : Federation.resolve p = .ok f) (federated : p.federated = true)
    (chosen : p.Leader leader) :
    f.federates.map (·.clock) =
      p.clocks.map fun x => (x.1, { x.2 with grandmaster := decide (leader = some x.1) }) := by
  obtain ⟨valid, n, enlisted, -, laid, -⟩ := resolve_eq_ok_iff.mp resolved
  have keys := map_key_enlist enlisted
  unfold Federation.enlist at enlisted
  rw [if_pos federated] at enlisted
  split at enlisted
  · rename_i federates allocation claimed
    cases enlisted
    have clocks : federates.map (·.clock) = p.clocks := map_clock_claimFederates claimed
    have distinct : (federates.map (·.key)).Nodup := by
      have stations := congrArg (List.map Prod.fst) (map_station_chooseGrandmaster federates)
      rw [List.map_map, List.map_map] at stations
      rw [show federates.map (·.key) = p.keys from stations.symm.trans keys]
      exact nodup_keys valid
    refine (map_clock_layParts laid).trans ?_
    rw [chooseGrandmaster_eq valid chosen clocks distinct, ← clocks, List.map_map, List.map_map]
    rfl
  · cases enlisted

/-- The clock of a federate is a declared one, with a mark if the federate is to be the
grandmaster. -/
theorem exists_declared {xs : List (FederateKey × ClockSync)}
    (clocks : fs.map (·.clock) =
      xs.map fun x => (x.1, { x.2 with grandmaster := decide (leader = some x.1) })) (hg : g ∈ fs) :
    ∃ x ∈ xs, { x.2 with grandmaster := decide (leader = some g.key) } = g.clockSync := by
  have mem : g.clock ∈ fs.map (·.clock) := List.mem_map_of_mem hg
  rw [clocks] at mem
  obtain ⟨x, hx, same⟩ := List.mem_map.mp mem
  obtain ⟨key, clock⟩ := Prod.mk.inj same
  exact ⟨x, hx, key ▸ clock⟩

/-- The grandmaster that is to be is a member of the program. -/
theorem Program.Leader.mem_clocks {key : FederateKey} (valid : p.validate = .ok ())
    (chosen : p.Leader (some key)) : ∃ x ∈ p.clocks, x.1 = key := by
  have first : ∀ i ∈ p.instances, ∃ x ∈ p.clocks, x.1 = i.firstKey := by
    intro i hi
    have inhabited := ((validate_eq_ok_iff.mp valid).instances i hi).inhabited
    exact ⟨_, p.clocks_eq ▸ i.first_mem_clocks hi inhabited, rfl⟩
  cases chosen with
  | declared split => exact first _ (by simp [split])
  | assumed split => exact first _ (by simp [split])

/-- Federates of which those are marked that are to be the grandmaster are not marked otherwise. -/
theorem map_mark_self (mark : ∀ g ∈ fs, g.clockSync.grandmaster = decide (leader = some g.key)) :
    fs.map (fun g => g.mark (decide (leader = some g.key))) = fs := by
  refine (List.map_congr_left fun g hg => ?_).trans (List.map_id fs)
  rw [← mark g hg, g.mark_self, id]

/-- The federate that is found to be the grandmaster is the one that is to be it. -/
theorem grandmaster?_eq (mem : ∀ key, leader = some key → ∃ g ∈ f.federates, g.key = key)
    (mark : ∀ g ∈ f.federates, g.clockSync.grandmaster = decide (leader = some g.key)) :
    f.grandmaster?.map (·.key) = leader := by
  cases found : f.grandmaster? with
  | some g =>
      have marked : g.clockSync.grandmaster = true := by
        simpa using List.find?_some (p := fun g : Federate => g.clockSync.grandmaster) found
      rw [mark g (List.mem_of_find?_eq_some found)] at marked
      exact (of_decide_eq_true marked).symm
  | none =>
      cases leader with
      | none => rfl
      | some key =>
          obtain ⟨g, hg, rfl⟩ := mem key rfl
          have unmarked := List.find?_eq_none.mp found g hg
          rw [mark g hg, decide_eq_true rfl] at unmarked
          exact absurd rfl unmarked

/-- Where exactly the grandmaster is marked, choosing again chooses it again. -/
theorem chooseGrandmaster_settled (distinct : (fs.map (·.key)).Nodup)
    (mark : ∀ g ∈ fs, g.clockSync.grandmaster = decide (leader = some g.key))
    (mem : ∀ key, leader = some key → ∃ g ∈ fs, g.key = key)
    (disabled : leader = none → ∀ g ∈ fs, g.clockSync.enabled = false) :
    chooseGrandmaster fs = fs := by
  cases leader with
  | none =>
      apply chooseGrandmaster_of_disabled
      · intro g hg
        rw [mark g hg]
        rfl
      · exact disabled rfl
  | some key =>
      obtain ⟨g, hg, rfl⟩ := mem key rfl
      obtain ⟨earlier, later, rfl⟩ := List.append_of_mem hg
      have unmarked : ∀ h ∈ earlier, h.clockSync.grandmaster = false := by
        intro h hh
        have other := key_ne_of_mem distinct (List.mem_append_left _ hh)
        rw [mark h (List.mem_append_left _ hh)]
        exact decide_eq_false fun same => other (Option.some.inj same)
      have marked : g.clockSync.grandmaster = true := by
        rw [mark g hg, decide_eq_true rfl]
      rw [chooseGrandmaster_of_marked distinct unmarked marked, map_mark_self mark]

/-- What the choice of a grandmaster leaves of the clocks of a program. -/
structure Federation.Led (f : Federation) (p : Program) : Prop where
  /-- The grandmaster is the federate that is to be it, and there is none if none is to be. -/
  leader : p.Leader (f.grandmaster?.map (·.key))
  /-- No two federates are marked. -/
  unique : ∀ {j k : Nat} {g h : Federate}, f.federates[j]? = some g → f.federates[k]? = some h →
    g.clockSync.grandmaster = true → h.clockSync.grandmaster = true → j = k
  /-- The federates are the members of the program, and their clocks are the declared ones, or the
  default one, but for the mark. -/
  clocks : f.federates.map (·.clock) = p.members.map fun x =>
    (x.1, { x.2.clock with grandmaster := decide (f.grandmaster?.map (·.key) = some x.1) })
  /-- Choosing again changes nothing. -/
  settled : chooseGrandmaster f.federates = f.federates

/-- **At most one clock is followed, and it is the one that the declarations say.** -/
theorem grandmaster_of_resolve (p : Program) (f : Federation) (resolved : Federation.resolve p = .ok f)
    (federated : p.federated = true) : f.Led p := by
  have valid := (resolve_eq_ok_iff.mp resolved).1
  obtain ⟨leader, chosen⟩ := p.exists_leader
  have clocks := map_clock_resolve resolved federated chosen
  have keys : f.federates.map (·.key) = p.clocks.map (·.1) := by
    have same := congrArg (List.map Prod.fst) clocks
    rwa [List.map_map, List.map_map] at same
  have distinct : (f.federates.map (·.key)).Nodup := map_key_resolve resolved ▸ nodup_keys valid
  have mark : ∀ g ∈ f.federates, g.clockSync.grandmaster = decide (leader = some g.key) := by
    intro g hg
    obtain ⟨x, -, clock⟩ := exists_declared clocks hg
    rw [← clock]
  have mem : ∀ key, leader = some key → ∃ g ∈ f.federates, g.key = key := by
    rintro key rfl
    obtain ⟨x, hx, rfl⟩ := chosen.mem_clocks valid
    exact List.mem_map.mp (keys ▸ List.mem_map_of_mem hx)
  have grandmaster := grandmaster?_eq mem mark
  refine ⟨grandmaster.symm ▸ chosen, ?_, ?_, ?_⟩
  · intro j k g h hj hk markedG markedH
    rw [mark g (List.mem_of_getElem? hj), decide_eq_true_eq] at markedG
    rw [mark h (List.mem_of_getElem? hk), decide_eq_true_eq, markedG] at markedH
    have same : (f.federates.map (·.key))[j]? = (f.federates.map (·.key))[k]? := by
      rw [List.getElem?_map, List.getElem?_map, hj, hk, Option.map_some, Option.map_some, markedH]
    obtain ⟨bound, -⟩ := List.getElem?_eq_some_iff.mp hj
    exact (List.getElem?_inj (by simpa using bound) distinct).mp same
  · rw [grandmaster, clocks, Program.clocks, List.map_map]
    rfl
  · refine chooseGrandmaster_settled distinct mark mem ?_
    rintro rfl g hg
    obtain ⟨x, hx, clock⟩ := exists_declared clocks hg
    cases chosen with
    | absent unmarked disabled =>
        obtain ⟨i, hi, same⟩ := exists_of_mem_clocks (p.clocks_eq ▸ hx)
        rw [← clock, ← disabled i hi, ← same]
        rfl

/-- An instance that keeps the default clock, and then a bank of two members and another instance
that are both declared to be the grandmaster. -/
def markedBank : Program where
  name := "marked_bank"
  federated := true
  instances := [{ name := "a" },
    { name := "b", bankWidth := some 2, clockSync := some { grandmaster := true, periodNs := 5 } },
    { name := "c", clockSync := some { grandmaster := true, disabled := true } }]

/-- The first member of the bank is the grandmaster, and the only one. -/
theorem markedBank_grandmaster : ∃ f, Federation.resolve markedBank = .ok f ∧
    markedBank.federated = true ∧ f.Led markedBank ∧
    f.grandmaster?.map (·.key) = some ⟨"b", some 0⟩ ∧
    f.federates.map (·.clockSync.grandmaster) = [false, true, false, false] ∧
    f.federates.map (·.clockSync.periodNs) = [1000000000, 5, 5, 1000000000] := by
  have outcome : (Federation.resolve markedBank).toOption.map (fun f =>
      (f.grandmaster?.map (·.key), f.federates.map (·.clockSync.grandmaster),
        f.federates.map (·.clockSync.periodNs))) =
      some (some ⟨"b", some 0⟩, [false, true, false, false], [1000000000, 5, 5, 1000000000]) := by
    decide +kernel
  obtain ⟨f, hf, values⟩ := Option.map_eq_some_iff.mp outcome
  obtain ⟨leader, rest⟩ := Prod.mk.inj values
  obtain ⟨marks, periods⟩ := Prod.mk.inj rest
  have resolved := eq_ok_of_toOption hf
  have led := grandmaster_of_resolve markedBank f resolved rfl
  exact ⟨f, resolved, rfl, led, leader, marks, periods⟩

end ReactorNet
