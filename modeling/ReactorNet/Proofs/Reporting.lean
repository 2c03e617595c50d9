import ReactorNet.Federation.Report
import ReactorNet.Proofs.Naming
import ReactorNet.Proofs.Views

/-!
# `ReactorNet.Proofs.Reporting` · what a report tells of connections

A report lists the connections of a program under names, and where it tells what bundles and
federates carry, it refers to connections by these names. `Json.listing?` reads both off a report,
and `resolve_listed` says that every reference leads to one connection, of the right kind, and that
every connection between federates is referred to once.

**Why names differ.** A name may contain underscores before its number, or nothing between two of
them. But the number stands behind the last underscore, and no two groups have the same.

**What a report leaves out.** Of a group it shows its name, its key, its size and its buffer. So
groups may be changed in anything else (`report_mapGroups`).
-/

namespace ReactorNet

variable {p : Program} {f : Federation} {g h : Group} {b : Bundle}

/-! ## Groups in a report -/

/-- A topology whose groups are changed. -/
def Federation.mapGroups (change : Group → Group) (f : Federation) : Federation :=
  { f with groups := f.groups.map change }

section

variable {change : Group → Group}

/-- What is written of groups that are changed in nothing that is written. -/
theorem ofList_map {write : Group → Json} (shown : ∀ g, write (change g) = write g) (gs : List Group) :
    Json.ofList write (gs.map change) = Json.ofList write gs := by
  unfold Json.ofList
  rw [List.map_map]
  exact congrArg Json.arr (List.map_congr_left fun g _ => shown g)

/-- A report about a federate shows keys and names of groups. -/
theorem federateReport_mapGroups (key : ∀ g, (change g).key = g.key)
    (name : ∀ g, (change g).name = g.name) (f : Federation) (i : Nat) (g : Federate) :
    (f.mapGroups change).federateReport i g = f.federateReport i g := by
  have localGroups : (f.mapGroups change).localGroups i = (f.localGroups i).map change := by
    unfold Federation.localGroups Federation.mapGroups Group.isFederated
    simp only [List.filter_map, Function.comp_def, key]
  unfold Federation.federateReport
  rw [localGroups, ofList_map fun g => congrArg Json.str (name g)]
  rfl

/-- A report about a bundle shows names of groups. -/
theorem bundleReport_mapGroups (name : ∀ g, (change g).name = g.name) (f : Federation) (b : Bundle) :
    (f.mapGroups change).bundleReport b = f.bundleReport b := by
  have groupsOf : (f.mapGroups change).groupsOf b = (f.groupsOf b).map change := by
    unfold Federation.groupsOf Federation.mapGroups
    rw [List.map_filterMap]
    simp only [List.getElem?_map]
  unfold Federation.bundleReport
  rw [groupsOf, ofList_map fun g => congrArg Json.str (name g)]
  rfl

/-- A report does not tell whether groups are changed in something that it does not show. -/
theorem report_mapGroups (key : ∀ g, (change g).key = g.key) (name : ∀ g, (change g).name = g.name)
    (shown : ∀ g, Federation.groupReport (change g) = Federation.groupReport g) (f : Federation) :
    (f.mapGroups change).report = f.report := by
  have federates : (f.mapGroups change).federateReport = f.federateReport :=
    funext fun i => funext fun g => federateReport_mapGroups key name f i g
  have bundles : (f.mapGroups change).bundleReport = f.bundleReport :=
    funext fun b => bundleReport_mapGroups name f b
  have groups : (f.mapGroups change).groups = f.groups.map change := rfl
  unfold Federation.report
  rw [federates, bundles, groups, ofList_map shown]
  rfl

end

/-! ## Reading a report -/

/-- The names of connections in a report. -/
structure Listing where
  /-- The connections: the name of each, and whether it crosses between federates. -/
  connections : List (String × Bool)
  /-- The names that stand under each bundle. -/
  bundles : List (List String)
  /-- The names that stand under each federate. -/
  federates : List (List String)

namespace Json

/-- The items of the array that is the member with the given name, each of them read. -/
def items? {α : Type} (name : String) (read : Json → Option α) (j : Json) : Option (List α) := do
  (← (← j.get? name).arr?).mapM read

/-- The name of a connection, and whether it crosses between federates. -/
def connection? (j : Json) : Option (String × Bool) := do
  return (← (← j.get? "name").str?, ← (← j.get? "federated").bool?)

/-- The names of connections in a report. -/
def listing? (report : Json) : Option Listing := do
  let connections ← report.items? "connections" connection?
  let bundles ← report.items? "bundles" (items? "connections" str?)
  let federates ← report.items? "federates" (items? "local_connections" str?)
  return ⟨connections, bundles, federates⟩

/-- The items of an array that is written from a list. -/
theorem items?_eq {α β : Type} {name : String} {read : Json → Option β} {j : Json} {xs : List α}
    {y : α → β} (write : α → Json) (member : j.get? name = some (ofList write xs))
    (reads : ∀ x, read (write x) = some (y x)) : j.items? name read = some (xs.map y) := by
  have all : read ∘ write = fun x => pure (y x) := funext reads
  unfold items?
  rw [member]
  show (xs.map write).mapM read = some (xs.map y)
  rw [List.mapM_map, all, List.mapM_pure]
  rfl

end Json

/-- The names in a report are those of the groups of a topology, of the groups of its bundles, and
of the groups that stay inside its federates. -/
theorem listing?_report (f : Federation) : f.report.listing? = some {
    connections := f.groups.map fun g => (g.name, g.isFederated)
    bundles := f.bundles.map fun b => (f.groupsOf b).map (·.name)
    federates := (List.range f.federates.length).map fun i => (f.localGroups i).map (·.name) } := by
  have connections : f.report.items? "connections" Json.connection? =
      some (f.groups.map fun g => (g.name, g.isFederated)) :=
    Json.items?_eq Federation.groupReport rfl fun _ => rfl
  have bundles : f.report.items? "bundles" (Json.items? "connections" Json.str?) =
      some (f.bundles.map fun b => (f.groupsOf b).map (·.name)) := by
    refine Json.items?_eq f.bundleReport rfl fun b => ?_
    exact Json.items?_eq (fun g : Group => .str g.name) rfl fun _ => rfl
  have federates : f.report.items? "federates" (Json.items? "local_connections" Json.str?) =
      some ((List.range f.federates.length).map fun i => (f.localGroups i).map (·.name)) := by
    have positions : List.range f.federates.length = f.federates.zipIdx.map (·.2) := by
      rw [List.zipIdx_map_snd, List.range_eq_range']
    rw [positions, List.map_map]
    refine Json.items?_eq (fun x : Federate × Nat => f.federateReport x.2 x.1) rfl fun x => ?_
    exact Json.items?_eq (fun g : Group => .str g.name) rfl fun _ => rfl
  unfold Json.listing?
  rw [connections, bundles, federates]
  rfl

/-! ## Names of groups -/

/-- The number of a group can be read off its name. -/
theorem uid_eq_of_name_eq (same : g.name = h.name) : g.uid = h.uid :=
  (append_index_inj same).2

/-- Groups of a topology with one name are the same. -/
theorem eq_of_name_eq (resolved : Federation.resolve p = .ok f) (hg : g ∈ f.groups)
    (hh : h ∈ f.groups) (same : g.name = h.name) : g = h := by
  have uid := (grouped_of_groupConnections (groups_resolve resolved)).uid
  obtain ⟨i, hi⟩ := List.mem_iff_getElem?.mp hg
  obtain ⟨j, hj⟩ := List.mem_iff_getElem?.mp hh
  -- groups are numbered by their positions
  have position : i = j := by
    rw [← uid i g hi, ← uid j h hj]
    exact uid_eq_of_name_eq same
  rw [position, hj] at hi
  exact (Option.some.inj hi).symm

/-- The groups of a topology have different names. -/
theorem nodup_group_names (resolved : Federation.resolve p = .ok f) :
    (f.groups.map (·.name)).Nodup := by
  rw [List.nodup_map_iff_inj_on (nodup_groups resolved)]
  intro g hg h hh same
  exact eq_of_name_eq resolved hg hh same

/-- A name leads to one entry of a report. -/
theorem filter_name (resolved : Federation.resolve p = .ok f) (hg : g ∈ f.groups) :
    (f.groups.map fun h => (h.name, h.isFederated)).filter (fun c => c.1 = g.name) =
      [(g.name, g.isFederated)] := by
  have only : f.groups.filter (fun h => h.name = g.name) = [g] := by
    have same : ∀ h ∈ f.groups, decide (h.name = g.name) = decide (h = g) := by
      intro h hh
      rw [decide_eq_decide]
      constructor
      · intro named
        exact eq_of_name_eq resolved hh hg named
      · intro equal
        rw [equal]
    rw [List.filter_congr same, List.filter_eq, List.count_eq_one_of_mem (nodup_groups resolved) hg]
    rfl
  have names := congrArg (List.map fun h : Group => (h.name, h.isFederated)) only
  rw [List.filter_map]
  exact names

/-! ## Topologies -/

/-- Whether every name that is referred to leads to one connection. -/
structure Listing.Unambiguous (l : Listing) : Prop where
  /-- No two connections have the same name. -/
  distinct : (l.connections.map (·.1)).Nodup
  /-- A name under a bundle is that of one connection, which crosses between federates. -/
  bundled : ∀ names ∈ l.bundles, ∀ name ∈ names,
    l.connections.filter (fun c => c.1 = name) = [(name, true)]
  /-- A name under a federate is that of one connection, which stays. -/
  kept : ∀ names ∈ l.federates, ∀ name ∈ names,
    l.connections.filter (fun c => c.1 = name) = [(name, false)]
  /-- A connection that crosses stands under one bundle, and once there. -/
  once : ∀ name, (name, true) ∈ l.connections → l.bundles.flatten.count name = 1

/-- **References in a report are unambiguous.** Whatever program resolves: the names in its report
are different, each reference leads to one connection of the right kind, every connection between
federates is referred to by one bundle, and no bundle refers to fewer connections than it has
groups. -/
theorem resolve_listed (p : Program) (f : Federation) (h : Federation.resolve p = .ok f) :
    ∃ l, f.report.listing? = some l ∧ l.Unambiguous ∧
      l.bundles.map (·.length) = f.bundles.map (·.groups.length) := by
  refine ⟨_, listing?_report f, ⟨?_, ?_, ?_, ?_⟩, ?_⟩
  · rw [List.map_map]
    exact nodup_group_names h
  · intro names hnames name hname
    obtain ⟨b, hb, rfl⟩ := List.mem_map.mp hnames
    obtain ⟨g, hg, rfl⟩ := List.mem_map.mp hname
    have mem := (perm_groupsOf h).subset (List.mem_flatMap.mpr ⟨b, hb, hg⟩)
    obtain ⟨there, crosses⟩ := List.mem_filter.mp mem
    rw [filter_name h there, crosses]
  · intro names hnames name hname
    obtain ⟨i, -, rfl⟩ := List.mem_map.mp hnames
    obtain ⟨g, hg, rfl⟩ := List.mem_map.mp hname
    obtain ⟨there, stays⟩ := List.mem_filter.mp hg
    have stays : g.isFederated = false := by
      simpa using (Bool.and_eq_true_iff.mp stays).1
    rw [filter_name h there, stays]
  · intro name hname
    obtain ⟨g, hg, entry⟩ := List.mem_map.mp hname
    obtain ⟨rfl, crosses⟩ := Prod.mk.inj entry
    have bundled : (f.bundles.map fun b => (f.groupsOf b).map (·.name)).flatten =
        (f.bundles.flatMap f.groupsOf).map (·.name) := by
      rw [List.map_flatMap, List.flatMap_def]
    have distinct : ((f.groups.filter (·.isFederated)).map (·.name)).Nodup :=
      (nodup_group_names h).sublist (List.filter_sublist.map _)
    rw [bundled, ((perm_groupsOf h).map _).count_eq]
    exact List.count_eq_one_of_mem distinct
      (List.mem_map.mpr ⟨g, List.mem_filter.mpr ⟨hg, crosses⟩, rfl⟩)
  · rw [List.map_map]
    refine List.map_congr_left fun b hb => ?_
    rw [Function.comp_apply, List.length_map, length_groupsOf h hb]

/-- An instance and a port, twice, that are split by different underscores but spelled alike in the
name of a connection; and a port of the program itself, which has no instance in front. -/
def underscores : Program where
  name := "underscores"
  federated := true
  ports := [{ name := "tick" }]
  instances := [
    { name := "a", ports := [{ name := "b_c" }] },
    { name := "a_b", ports := [{ name := "c" }] },
    { name := "sink", ports := [{ name := "in" }, { name := "out" }] }]
  statements := [
    { left := [.ofInstance "a" "b_c"], right := [.ofInstance "sink" "in"] },
    { left := [.ofInstance "a_b" "c"], right := [.ofInstance "sink" "in"] },
    { left := [.ofInstance "sink" "out"], right := [.ofInstance "sink" "in"] },
    { left := [.ofProgram "tick"], right := [.ofInstance "sink" "in"] }]

/-- Only the numbers tell its first two connections apart. -/
theorem underscores_listed : ∃ f l, Federation.resolve underscores = .ok f ∧
    f.report.listing? = some l ∧ l.Unambiguous ∧
    l.bundles.map (·.length) = f.bundles.map (·.groups.length) ∧
    l.connections = [("conn_a_b_c_0", true), ("conn_a_b_c_1", true), ("conn_sink_out_2", false),
      ("conn__tick_3", false)] ∧
    l.bundles = [["conn_a_b_c_0"], ["conn_a_b_c_1"]] ∧ l.federates = [[], [], ["conn_sink_out_2"]] := by
  have outcome : (Federation.resolve underscores).toOption.map (fun f =>
      f.report.listing?.map fun l => (l.connections, l.bundles, l.federates)) =
        some (some ([("conn_a_b_c_0", true), ("conn_a_b_c_1", true), ("conn_sink_out_2", false),
          ("conn__tick_3", false)], [["conn_a_b_c_0"], ["conn_a_b_c_1"]],
          [[], [], ["conn_sink_out_2"]])) := by
    decide +kernel
  obtain ⟨f, hf, listed⟩ := Option.map_eq_some_iff.mp outcome
  have hf := eq_ok_of_toOption hf
  obtain ⟨l, read, unambiguous, lengths⟩ := resolve_listed underscores f hf
  rw [read] at listed
  obtain ⟨connections, others⟩ := Prod.mk.inj (Option.some.inj listed)
  obtain ⟨bundles, federates⟩ := Prod.mk.inj others
  exact ⟨f, l, hf, read, unambiguous, lengths, connections, bundles, federates⟩

end ReactorNet
