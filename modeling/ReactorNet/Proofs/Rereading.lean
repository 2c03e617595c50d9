import ReactorNet.Proofs.Acceptance
import ReactorNet.Proofs.MemberOrder

/-!
# `ReactorNet.Proofs.Rereading` · reading what was written

`ReadsBack read v a`: a reader reads the JSON value `v` as `a`, in whatever order the members of its
objects stand. The lemmas say so of every kind of value a schema consists of, for every format that
is `Faithful`, that is, reads JSON values as what they are; `Format.json` is one, and so is the
format of what stands besides a tag.

**Members and fields.** A record that was written has one member for each of its fields. That there
is one, and not another of the same name, is all that reading a field asks for, so the order does
not count.
-/

namespace ReactorNet.Schema

open Json (AlikeMembers)

variable {σ α : Type}

/-- A reader reads a value, whatever the order of its members, as the given one. -/
def ReadsBack (read : Datum → Decoded α) (v : Json) (a : α) : Prop :=
  ∀ w, v.Alike w → read (.ofJson w) = .ok a

/-! ## Records of members -/

namespace Fields

/-- The members of an object, as the fields of a record. -/
def ofMembers (members : List (String × Json)) : Fields Datum :=
  .named (members.map fun m => (.name m.1, .ofJson m.2))

/-- An object is no list of values. -/
theorem closed_ofMembers (members : List (String × Json)) (count : Nat) :
    (ofMembers members).Closed count := nofun

/-- The entries that give a field are those with its key, in their order. -/
theorem map_snd_given (entries : List (Key × σ)) (number : Nat) (name : String) :
    ((named entries).given number name).map (·.2) =
      (entries.filter fun e => e.1.names number name).map (·.2) := by
  unfold given
  -- Entries are numbered from any number on, for the sake of the induction.
  have shifted : ∀ k, ((entries.zipIdx k).filterMap fun e =>
      if e.1.1.names number name then some (e.2, e.1.2) else none).map (·.2) =
        (entries.filter fun e => e.1.names number name).map (·.2) := by
    induction entries with
    | nil => exact fun k => rfl
    | cons e entries ih =>
        intro k
        rw [List.zipIdx_cons, List.filterMap_cons, List.filter_cons]
        by_cases named : e.1.names number name = true
        · simp only [named, if_true, List.map_cons, ih]
        · simp only [named, if_false, Bool.false_eq_true, ih]
  exact shifted 0

/-- A field is read from the member of its name, if there is one such member. -/
theorem has_of_filter {members : List (String × Json)} {number : Nat} {name : String} {v : Json}
    {default? : Option α} {read : Datum → Decoded α} {a : α}
    (once : members.filter (fun m => m.1 == name) = [(name, v)]) (given : read (.ofJson v) = .ok a) :
    (ofMembers members).Has number name default? read a := by
  have values : ((ofMembers members).given number name).map (·.2) = [.ofJson v] := by
    rw [ofMembers, map_snd_given, List.filter_map]
    have same : ((fun e : Key × Datum => e.1.names number name) ∘
        fun m : String × Json => (Key.name m.1, Datum.ofJson m.2)) = fun m => m.1 == name := rfl
    rw [same, once]
    rfl
  unfold Has field
  rw [List.map_eq_singleton_iff] at values
  obtain ⟨⟨entry, w⟩, one, rfl⟩ := values
  rw [one]
  dsimp only
  rw [given]
  rfl

end Fields

/-- A field is read back from members that are alike to those that were written. -/
theorem ReadsBack.has {ms os : List (String × Json)} {number : Nat} {name : String} {v : Json}
    {default? : Option α} {read : Datum → Decoded α} {a : α} (reads : ReadsBack read v a)
    (alike : AlikeMembers ms os) (once : ms.filter (fun m => m.1 == name) = [(name, v)]) :
    (Fields.ofMembers os).Has number name default? read a := by
  have single := alike.filter (· == name)
  rw [once] at single
  obtain ⟨w, found, value⟩ := single.eq_singleton
  exact Fields.has_of_filter found (reads w value)

/-- An object is read back if it is, however its members are ordered. -/
theorem ReadsBack.of_members {ms : List (String × Json)} {read : Datum → Decoded α} {a : α}
    (reads : ∀ os, AlikeMembers ms os → read (.ofJson (.obj os)) = .ok a) :
    ReadsBack read (.obj ms) a := by
  intro w alike
  obtain ⟨os, rfl, members⟩ := alike.exists_members
  exact reads os members

/-! ## Formats that read JSON values as what they are -/

/-- The items of an array. -/
theorem ofItems_eq (items : List Json) : Datum.ofItems items = items.map .ofJson := by
  induction items with
  | nil => rfl
  | cons x items ih => rw [Datum.ofItems, List.map_cons, ih]

/-- The members of an object. -/
theorem ofMembers_eq (members : List (String × Json)) :
    Datum.ofMembers members = members.map fun m => (.text m.1, .ofJson m.2) := by
  induction members with
  | nil => rfl
  | cons m members ih => rw [Datum.ofMembers, List.map_cons, ih]

/-- An object is a record of its members in every format in which texts are keys. -/
theorem record?_ofJson {key? : Datum → Option Key} (exact : Bool)
    (texts : ∀ s, key? (.text s) = some (.name s)) (members : List (String × Json)) :
    Datum.record? key? exact (.ofJson (.obj members)) = some (.ofMembers members) := by
  have entries : (Datum.ofMembers members).mapM (fun e => (key? e.1).map (·, e.2)) =
      some (members.map fun m => (.name m.1, .ofJson m.2)) := by
    have each : (fun m : String × Json => (key? (.text m.1)).map (·, Datum.ofJson m.2)) =
        fun m => pure (.name m.1, .ofJson m.2) := by
      funext m
      rw [texts]
      rfl
    rw [ofMembers_eq, List.mapM_map]
    exact (congrArg (List.mapM · members) each).trans List.mapM_pure
  rw [Datum.ofJson, Datum.record?, entries]
  rfl

/-- An object with one member for the tag is the union that the tag says, with the other members. -/
theorem tagged?_ofJson {tag variant : String} {members : List (String × Json)}
    (once : members.filter (fun m => m.1 == tag) = [(tag, .str variant)]) :
    Datum.tagged? tag (.ofJson (.obj members)) =
      some (variant, .ofJson (.obj (members.filter fun m => m.1 != tag))) := by
  have isTag : ((fun e : Datum × Datum => e.1.text? == some tag) ∘
      fun m : String × Json => (Datum.text m.1, Datum.ofJson m.2)) = fun m => m.1 == tag := rfl
  have isOther : ((fun e : Datum × Datum => !(e.1.text? == some tag)) ∘
      fun m : String × Json => (Datum.text m.1, Datum.ofJson m.2)) = fun m => m.1 != tag := rfl
  rw [Datum.ofJson, Datum.ofJson, Datum.tagged?]
  simp only [ofMembers_eq, List.filter_map, isTag, isOther, once]
  rfl

/-- What is alike to a tagged union has its tag, and what stands besides the tag is alike. -/
theorem tagged?_of_alike {tag variant : String} {ms os : List (String × Json)}
    (alike : AlikeMembers ((tag, .str variant) :: ms) os) (other : ∀ m ∈ ms, m.1 ≠ tag) :
    ∃ rest, Datum.tagged? tag (.ofJson (.obj os)) = some (variant, .ofJson (.obj rest)) ∧
      AlikeMembers ms rest := by
  have once := alike.filter (· == tag)
  rw [List.filter_cons_of_pos (by simp), List.filter_eq_nil_iff.mpr (by simpa using other)] at once
  obtain ⟨_, found, ⟨⟩⟩ := once.eq_singleton
  have rest := alike.filter (· != tag)
  rw [List.filter_cons_of_neg (by simp), List.filter_eq_self.mpr (by simpa using other)] at rest
  exact ⟨_, tagged?_ofJson found, rest⟩

namespace Format

/-- Whether a format reads JSON values as what they are. -/
structure Faithful (f : Format Datum) : Prop where
  /-- Truth values. -/
  bool : ∀ b, f.bool? (.bool b) = some b
  /-- Natural numbers. -/
  nat : ∀ n : Nat, f.nat? (.int n) = some n
  /-- Whole numbers. -/
  int : ∀ n, f.int? (.int n) = some n
  /-- Doubles. -/
  float : ∀ x, f.float? (.float x) = some x
  /-- Texts. -/
  text : ∀ s, f.text? (.text s) = some s
  /-- Null is an absent part. -/
  absent : f.optional? .null = some none
  /-- Everything else is a part that is there. -/
  present : ∀ v, v.isNull = false → f.optional? v = some (some v)
  /-- Arrays are lists. -/
  list : ∀ items, f.list? (.list items) = some items
  /-- Objects are records of their members. -/
  record : ∀ members, f.record? (.ofJson (.obj members)) = some (.ofMembers members)
  /-- A text names a variant. -/
  variant : ∀ s, f.variant? (.text s) = some (.name s)
  /-- A union is told by its tag. -/
  tagged : f.tagged? = Datum.tagged?

/-- What is not null is there. -/
theorem nullable?_of_isNull {v : Datum} (h : v.isNull = false) : v.nullable? = some (some v) := by
  cases v with
  | null => cases h
  | _ => rfl

/-- A natural number is read as one. -/
theorem nat?_int (n : Nat) : (Datum.int n).nat? = some n := by
  rw [Datum.nat?, if_pos (Int.natCast_nonneg n), Int.toNat_natCast]

/-- The format of JSON values reads them as what they are. -/
theorem faithful_json : Faithful .json where
  bool _ := rfl
  nat := nat?_int
  int _ := rfl
  float _ := rfl
  text _ := rfl
  absent := rfl
  present _ := nullable?_of_isNull
  list _ := rfl
  record := record?_ofJson true fun _ => rfl
  variant _ := rfl
  tagged := rfl

/-- So does the format of what stands besides a tag. -/
theorem faithful_content : Faithful .content where
  bool _ := rfl
  nat := nat?_int
  int _ := rfl
  float _ := rfl
  text _ := rfl
  absent := rfl
  present _ := nullable?_of_isNull
  list _ := rfl
  record := record?_ofJson true fun _ => rfl
  variant _ := rfl
  tagged := rfl

/-! ## Values that are read back -/

section Rereading

variable {f : Format Datum} {bits : Nat} {write : α → Json} {read : Datum → Decoded α}

/-- Truth values are read back. -/
theorem Faithful.reads_bool (h : f.Faithful) (b : Bool) : ReadsBack f.bool (.bool b) b := by
  rintro _ ⟨⟩
  exact demand_eq_ok_iff.mpr (h.bool b)

/-- Words are read back. -/
theorem Faithful.reads_word (h : f.Faithful) {n : Nat} (small : n < 2 ^ bits) :
    ReadsBack (f.word bits) (.nat n) n := by
  rintro _ ⟨⟩
  apply demand_eq_ok_iff.mpr
  show (f.nat? (.int n)).filter _ = _
  rw [h.nat]
  exact Option.filter_eq_some_iff.mpr ⟨rfl, decide_eq_true (le_maxWord_iff.mpr small)⟩

/-- Signed words are read back. -/
theorem Faithful.reads_signed (h : f.Faithful) {x : Int} (bounds : IsSigned bits x) :
    ReadsBack (f.signed bits) (.int x) x := by
  rintro _ ⟨⟩
  apply demand_eq_ok_iff.mpr
  show (f.int? (.int x)).filter _ = _
  rw [h.int]
  exact Option.filter_eq_some_iff.mpr ⟨rfl, isSigned_iff.mpr bounds⟩

/-- Doubles are read back. -/
theorem Faithful.reads_float (h : f.Faithful) (x : Float) :
    ReadsBack f.float (.float x) x := by
  rintro _ ⟨⟩
  exact demand_eq_ok_iff.mpr (h.float x)

/-- Texts are read back. -/
theorem Faithful.reads_text (h : f.Faithful) (s : String) : ReadsBack f.text (.str s) s := by
  rintro _ ⟨⟩
  exact demand_eq_ok_iff.mpr (h.text s)

/-- Texts are converted back. -/
theorem Faithful.reads_converted (h : f.Faithful) {convert : String → Except Rejection α}
    {s : String} {a : α} (converts : convert s = .ok a) :
    ReadsBack (f.converted convert) (.str s) a := by
  rintro _ ⟨⟩
  unfold converted
  rw [show f.text? (.ofJson (.str s)) = some s from h.text s]
  show (convert s).mapError _ = _
  rw [converts]
  rfl

/-- Variants are read back from their names. -/
theorem Faithful.reads_variant (h : f.Faithful) {variants : List (String × α)} {s : String} {a : α}
    (named : variants.find? (fun w => w.1 == s) = some (s, a)) :
    ReadsBack (f.variant variants) (.str s) a := by
  rintro _ ⟨⟩
  unfold Format.variant
  rw [show f.variant? (.ofJson (.str s)) = some (.name s) from h.variant s]
  show demand ((variants.find? _).map _) = _
  rw [named]
  rfl

/-- A value that is alike to another is null if that one is. -/
theorem isNull_of_alike {v w : Json} (alike : v.Alike w) :
    (Datum.ofJson w).isNull = (Datum.ofJson v).isNull := by
  cases alike with
  | refl => rfl
  | arr => rw [Datum.ofJson, Datum.ofJson]; rfl
  | obj => rw [Datum.ofJson, Datum.ofJson]; rfl

/-- Optional parts are read back, if they are not written as null. -/
theorem Faithful.reads_optional (h : f.Faithful) {o : Option α}
    (some_read : ∀ a, o = some a →
      (Datum.ofJson (write a)).isNull = false ∧ ReadsBack read (write a) a) :
    ReadsBack (f.optional read) (.ofOption write o) o := by
  intro w alike
  unfold optional
  cases o with
  | none =>
      cases alike
      rw [show f.optional? (.ofJson (.ofOption write none)) = some none from h.absent]
  | some a =>
      obtain ⟨there, reads⟩ := some_read a rfl
      rw [h.present _ ((isNull_of_alike alike).trans there)]
      show (read (.ofJson w)).map some = _
      rw [reads w alike]
      rfl

/-- Lists are read back. -/
theorem Faithful.reads_list (h : f.Faithful) {as : List α}
    (all : ∀ a ∈ as, ReadsBack read (write a) a) :
    ReadsBack (f.list read) (.ofList write as) as := by
  intro w alike
  obtain ⟨items, rfl, same⟩ := alike.exists_items
  unfold Format.list
  rw [Datum.ofJson, h.list]
  dsimp only
  rw [ofItems_eq]
  clear alike
  induction as generalizing items with
  | nil =>
      cases same
      rfl
  | cons a as ih =>
      obtain ⟨first, rest⟩ := List.forall_mem_cons.mp all
      obtain ⟨x, xs, value, others, rfl⟩ := List.forall₂_cons_left_iff.mp same
      rw [List.map_cons, List.mapM_cons, first x value, ih rest xs others]
      rfl

end Rereading

end Format

end ReactorNet.Schema
