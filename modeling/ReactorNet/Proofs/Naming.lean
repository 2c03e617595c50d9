import Mathlib.Data.List.Nodup
import ReactorNet.Proofs.Enlistment

/-!
# `ReactorNet.Proofs.Naming` · what the name of a federate tells

The name of a federate is that of its instance, and for the member of a bank the index behind it.
The checks compare the names of instances with each other only, so an instance may be called what a
member of a bank is called. `federate_names_iff` says that this is all that can go wrong: names tell
federates apart, and every federate is found by its name, exactly where no instance that stands
alone is named as a member of a bank.

**Why banks do not get into each other's way.** An index is written in digits, so the last
underscore in the name of a member is the one in front of its index (`append_index_inj`).
-/

namespace ReactorNet

variable {p : Program} {f : Federation} {a b : String} {i j : Nat} {key key' : FederateKey}

/-! ## Texts -/

/-- Two texts that are split at the last of their separators are split alike. -/
theorem append_cons_inj_of_not_mem {α : Type} {x : α} {xs ys us vs : List α} (hx : x ∉ us)
    (hy : x ∉ vs) (h : xs ++ x :: us = ys ++ x :: vs) : xs = ys ∧ us = vs := by
  rcases List.append_eq_append_iff.mp h with ⟨ds, hys, hus⟩ | ⟨ds, hxs, hvs⟩
  · cases ds with
    | nil => simp_all
    | cons d ds =>
        obtain ⟨-, rfl⟩ := List.cons.inj hus
        exact absurd (List.mem_append_right ds List.mem_cons_self) hx
  · cases ds with
    | nil => simp_all
    | cons d ds =>
        obtain ⟨-, rfl⟩ := List.cons.inj hvs
        exact absurd (List.mem_append_right ds List.mem_cons_self) hy

/-- The name of the bank and the index can be read off the name of a member. -/
theorem append_index_inj (h : a ++ "_" ++ toString i = b ++ "_" ++ toString j) :
    a = b ∧ i = j := by
  have chars := congrArg String.toList h
  simp only [String.toList_append, List.append_assoc, Nat.toString_eq_ofList_toDigits,
    String.toList_ofList] at chars
  obtain ⟨names, digits⟩ := append_cons_inj_of_not_mem Nat.underscore_not_in_toDigits
    Nat.underscore_not_in_toDigits chars
  refine ⟨String.toList_injective names, ?_⟩
  have numbers := congrArg (fun ds => Nat.ofDigitChars 10 ds 0) digits
  simpa using numbers

/-! ## Positions -/

/-- Every element of a list is the first of its kind if no element occurs twice. -/
theorem nodup_iff_idxOf? {α : Type} [DecidableEq α] {l : List α} :
    l.Nodup ↔ ∀ k a, l[k]? = some a → l.idxOf? a = some k := by
  constructor
  · intro distinct k a hk
    obtain ⟨hlt, rfl⟩ := List.getElem?_eq_some_iff.mp hk
    refine List.idxOf?_eq_some_iff.mpr ⟨hlt, rfl, ?_⟩
    intro j hj same
    have := (distinct.getElem_inj_iff).mp same
    omega
  · intro first
    rw [List.nodup_iff_getElem?_ne_getElem?]
    intro i j hij hj same
    have atJ : l[j]? = some l[j] := List.getElem?_eq_getElem hj
    -- the element is found where it stands first
    have foundI := first i l[j] (same.trans atJ)
    rw [first j l[j] atJ] at foundI
    have := Option.some.inj foundI
    omega

/-- The position of the first federate with a name is that of the name among all names. -/
theorem position?_eq (f : Federation) (name : String) :
    f.position? name = (f.federates.map (·.name)).idxOf? name := by
  unfold Federation.position? List.idxOf?
  rw [List.findIdx?_map]
  rfl

/-! ## Keys and names -/

/-- The federates of a program: the instances that are no banks, and the members of banks. -/
theorem mem_keys_iff : key ∈ p.keys ↔ p.federated = true ∧
    ∃ inst ∈ p.instances, key.instanceName = inst.name ∧ key.bankIndex ∈ inst.members := by
  unfold Program.keys
  split
  · rename_i federated
    rw [map_fst_members, List.mem_flatMap]
    simp only [federated, true_and]
    refine exists_congr fun inst => and_congr_right fun _ => ?_
    rw [List.mem_map]
    constructor
    · rintro ⟨bank, hbank, rfl⟩
      exact ⟨rfl, hbank⟩
    · rintro ⟨named, hbank⟩
      exact ⟨key.bankIndex, hbank, by rw [← named]⟩
  · rename_i unfederated
    simp [unfederated]

/-- Whether a federate of its own is named as a member of a bank. -/
def Program.NamesClash (p : Program) : Prop :=
  p.federated = true ∧ ∃ single ∈ p.instances, ∃ bank ∈ p.instances, ∃ width,
    single.bankWidth = none ∧ bank.bankWidth = some width ∧
      ∃ index < width, single.name = bank.name ++ "_" ++ toString index

/-- Two keys with one name are those of an instance that is no bank and of a member of a bank. -/
theorem text_eq_text_iff (different : key ≠ key') : key.text = key'.text ↔
    (∃ i, key.bankIndex = none ∧ key'.bankIndex = some i ∧
      key.instanceName = key'.instanceName ++ "_" ++ toString i) ∨
    (∃ i, key'.bankIndex = none ∧ key.bankIndex = some i ∧
      key'.instanceName = key.instanceName ++ "_" ++ toString i) := by
  obtain ⟨name, bank⟩ := key
  obtain ⟨name', bank'⟩ := key'
  cases bank with
  | none =>
      cases bank' with
      | none =>
          have : name ≠ name' := by simpa using different
          simpa [FederateKey.text] using this
      | some j => simp [FederateKey.text]
  | some i =>
      cases bank' with
      | none => simp [FederateKey.text, eq_comm]
      | some j =>
          simp only [FederateKey.text, reduceCtorEq, false_and, exists_false, or_false, iff_false]
          intro same
          obtain ⟨rfl, rfl⟩ := append_index_inj same
          exact different rfl

/-- A key without a bank index is that of an instance that is no bank. -/
theorem none_mem_members_iff {inst : Instance} : none ∈ inst.members ↔ inst.bankWidth = none := by
  unfold Instance.members
  cases inst.bankWidth with
  | none => simp
  | some width => simp

/-- A key with a bank index is that of a member of a bank. -/
theorem some_mem_members_iff {inst : Instance} :
    some i ∈ inst.members ↔ ∃ width, inst.bankWidth = some width ∧ i < width := by
  unfold Instance.members
  cases inst.bankWidth with
  | none => simp
  | some width => simp

/-- The names of a program clash if a federate of its own and a member of a bank have one name. -/
theorem namesClash_iff : p.NamesClash ↔ ∃ single ∈ p.keys, ∃ member ∈ p.keys, ∃ i,
    single.bankIndex = none ∧ member.bankIndex = some i ∧
      single.instanceName = member.instanceName ++ "_" ++ toString i := by
  constructor
  · rintro ⟨federated, single, hs, bank, hb, width, alone, many, i, hi, named⟩
    refine ⟨⟨single.name, none⟩, mem_keys_iff.mpr ⟨federated, single, hs, rfl, ?_⟩,
      ⟨bank.name, some i⟩, mem_keys_iff.mpr ⟨federated, bank, hb, rfl, ?_⟩, i, rfl, rfl, named⟩
    · exact none_mem_members_iff.mpr alone
    · exact some_mem_members_iff.mpr ⟨width, many, hi⟩
  · rintro ⟨key, hkey, key', hkey', i, noIndex, index, named⟩
    obtain ⟨federated, single, hs, hname, hbank⟩ := mem_keys_iff.mp hkey
    obtain ⟨-, bank, hb, hname', hbank'⟩ := mem_keys_iff.mp hkey'
    rw [noIndex] at hbank
    rw [index] at hbank'
    obtain ⟨width, many, hi⟩ := some_mem_members_iff.mp hbank'
    refine ⟨federated, single, hs, bank, hb, width, none_mem_members_iff.mp hbank, many, i, hi, ?_⟩
    rw [← hname, ← hname', named]

/-- The keys of a program that passes its checks have different names unless names clash. -/
theorem nodup_texts_iff (valid : p.validate = .ok ()) :
    (p.keys.map (·.text)).Nodup ↔ ¬ p.NamesClash := by
  rw [List.nodup_map_iff_inj_on (nodup_keys valid), namesClash_iff]
  constructor
  · rintro injective ⟨single, hs, member, hm, i, alone, index, named⟩
    have different : single ≠ member := by
      rintro rfl
      rw [alone] at index
      cases index
    exact different (injective single hs member hm
      ((text_eq_text_iff different).mpr (Or.inl ⟨i, alone, index, named⟩)))
  · intro clear key hkey key' hkey' same
    by_contra different
    rcases (text_eq_text_iff different).mp same with ⟨i, clash⟩ | ⟨i, clash⟩
    · exact clear ⟨key, hkey, key', hkey', i, clash⟩
    · exact clear ⟨key', hkey', key, hkey, i, clash⟩

/-- The names of the federates of a topology are those that the program says. -/
theorem map_name_resolve (h : Federation.resolve p = .ok f) :
    f.federates.map (·.name) = p.keys.map (·.text) := by
  rw [← map_key_resolve h, List.map_map]
  rfl

/-! ## Topologies -/

/-- **Names tell federates apart unless they clash.** Where a program resolves, its federates have
different names, and each of them is found by its name, exactly if no instance that is no bank is
named as a member of a bank. -/
theorem federate_names_iff (p : Program) (f : Federation) (h : Federation.resolve p = .ok f) :
    ((f.federates.map (·.name)).Nodup ↔ ¬ p.NamesClash) ∧
    ((∀ k g, f.federates[k]? = some g → f.position? g.name = some k) ↔ ¬ p.NamesClash) := by
  have valid := (resolve_eq_ok_iff.mp h).1
  have names : (f.federates.map (·.name)).Nodup ↔ ¬ p.NamesClash := by
    rw [map_name_resolve h]
    exact nodup_texts_iff valid
  refine ⟨names, ?_⟩
  rw [← names, nodup_iff_idxOf?]
  simp only [position?_eq]
  constructor
  · intro found k name hk
    rw [List.getElem?_map] at hk
    obtain ⟨g, hg, rfl⟩ := Option.map_eq_some_iff.mp hk
    exact found k g hg
  · intro found k g hg
    exact found k g.name (by rw [List.getElem?_map, hg]; rfl)

/-- The relay has a bank, but no instance is named as a member of it. -/
theorem relay_names : ∃ f, Federation.resolve relay = .ok f ∧
    (f.federates.map (·.name)).Nodup ∧
      ∀ k g, f.federates[k]? = some g → f.position? g.name = some k := by
  have resolves : (Federation.resolve relay).toOption.isSome = true := by decide +kernel
  obtain ⟨f, hf⟩ := exists_eq_ok resolves
  obtain ⟨distinct, found⟩ := federate_names_iff relay f hf
  have clear : ¬ relay.NamesClash := by
    rw [← distinct, map_name_resolve hf]
    decide +kernel
  exact ⟨f, hf, distinct.mpr clear, found.mpr clear⟩

/-- A bank of two members, and an instance that is named as the second of them. -/
def namesakes : Program where
  name := "namesakes"
  federated := true
  instances := [{ name := "a", bankWidth := some 2 }, { name := "a_1" }]

/-- The program is checked and resolved, although the name of its last federate is that of the one
before, which is found in its place. -/
theorem namesakes_clash : namesakes.validate = .ok () ∧
    ∃ f, Federation.resolve namesakes = .ok f ∧ f.federates.map (·.name) = ["a_0", "a_1", "a_1"] ∧
      ∃ g, f.federates[2]? = some g ∧ f.position? g.name = some 1 := by
  have outcome : (Federation.resolve namesakes).toOption.map (fun f =>
      (f.federates.map (·.name), f.federates[2]?.map fun g => f.position? g.name)) =
        some (["a_0", "a_1", "a_1"], some (some 1)) := by decide +kernel
  obtain ⟨f, hf, values⟩ := Option.map_eq_some_iff.mp outcome
  obtain ⟨names, last⟩ := Prod.mk.inj values
  obtain ⟨g, hg, found⟩ := Option.map_eq_some_iff.mp last
  exact ⟨by decide +kernel, f, eq_ok_of_toOption hf, names, g, hg, found⟩

end ReactorNet
