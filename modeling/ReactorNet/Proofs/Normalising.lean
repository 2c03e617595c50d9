import ReactorNet.Federation.Basic
import ReactorNet.Proofs.NormalForm

/-!
# `ReactorNet.Proofs.Normalising` · normalising a description

A JSON value that describes a program is normalised by writing the program out again.

* `normalises_of_program`: the program is read back from the normal form, so to normalise again
  changes nothing, and to validate or to resolve the one or the other is the same. None of it depends
  on the order in which the members of objects stand, as a text of the normal form is read with its
  members ordered by name.
* `normalise_eq_self_iff`: the normal forms are the values that normalising leaves as they are.

Texts are left out. Doubles are values here, so nothing is asked of how they are printed; whole
numbers given for the gains of a clock are doubles in the normal form.
-/

namespace ReactorNet.Description

open ReactorNet.Schema

variable {v : Json} {p : Program}

/-- The program that a JSON value describes. -/
def program (v : Json) : Decoded Program := Program.decode .json (.ofJson v)

/-- The normal form of a description: the program it describes, written out. -/
def normalise (v : Json) : Decoded Json := (program v).map Program.toJson

/-- Whether the program that a JSON value describes is valid. -/
def validate (v : Json) : Decoded (Except Rejection Unit) := (program v).map Program.validate

/-- The topology of the program that a JSON value describes. -/
def resolve (v : Json) : Decoded (Except ResolutionFault Federation) :=
  (program v).map Federation.resolve

/-- What becomes of the description `v` of the program `p` when it is normalised. -/
structure Normalises (v : Json) (p : Program) : Prop where
  /-- The outcome is what is written of the program. -/
  outcome : normalise v = .ok p.toJson
  /-- It is in normal form: every field is there, and nothing else. -/
  isProgram : IsProgram p.toJson
  /-- The program is read back from it, in whatever order the members of objects stand. -/
  again : ∀ w, p.toJson.Alike w → program w = .ok p
  /-- To normalise it again gives the same. -/
  idempotent : ∀ w, p.toJson.Alike w → normalise w = normalise v
  /-- It is valid if the description is, and rejected for the same reason if it is not. -/
  validates : ∀ w, p.toJson.Alike w → validate w = validate v
  /-- It has the same topology, or the same fault. -/
  resolves : ∀ w, p.toJson.Alike w → resolve w = resolve v

/-- A program that was read is read back from what is written of it. -/
theorem program_of_alike {w : Json} (h : program v = .ok p) (alike : p.toJson.Alike w) :
    program w = .ok p :=
  Program.readsBack Format.faithful_json (Program.describable_of_decode h) w alike

/-- Normalising keeps the program, its validity and its topology, and it is done after one time. -/
theorem normalises_of_program (h : program v = .ok p) : Normalises v p where
  outcome := by rw [normalise, h]; rfl
  isProgram := Description.isProgram.holds (Program.describable_of_decode h)
  again w := program_of_alike h
  idempotent w alike := by rw [normalise, normalise, h, program_of_alike h alike]
  validates w alike := by rw [validate, validate, h, program_of_alike h alike]
  resolves w alike := by rw [resolve, resolve, h, program_of_alike h alike]

/-- Two instances, one of them on a serial line, described as briefly as can be. -/
def bareLine : Json :=
  .obj [("connections", .arr [.obj [("right", .arr [.str " interleaved( b.in )"]), ("colour", .null),
      ("left", .arr [.str "a.out"])]]),
    ("instances", .arr [
      .obj [("name", .str "a"), ("ports", .arr [.obj [("name", .str "out")]]),
        ("interfaces", .arr [.obj [("device", .int 2), ("protocol", .str "uart")]]),
        ("clock_sync", .obj [("kp", .int 1)])],
      .obj [("name", .str "b"), ("ports", .arr [.obj [("name", .str "in")]])]]),
    ("name", .str "Line")]

/-- The program it describes. -/
def line : Program where
  name := "Line"
  instances := [
    { name := "a", ports := [⟨"out", 1⟩], interfaces := [⟨none, .uart (some 2) {}⟩],
      clockSync := some { kp := Float.ofNat 1 } },
    { name := "b", ports := [⟨"in", 1⟩] }]
  statements :=
    [{ left := [⟨⟨some "a", "out"⟩, false⟩], right := [⟨⟨some "b", "in"⟩, true⟩] }]

/-- The description is filled in with defaults, and what it says besides is left out. -/
theorem bareLine_normalises : program bareLine = .ok line ∧ Normalises bareLine line ∧
    normalise bareLine = .ok (.obj [("name", .str "Line"), ("federated", .bool false),
      ("ports", .arr []),
      ("instances", .arr [
        .obj [("name", .str "a"), ("bank_width", .null),
          ("ports", .arr [.obj [("name", .str "out"), ("width", .int 1)]]),
          ("interfaces", .arr [.obj [("protocol", .str "uart"), ("name", .null), ("device", .int 2),
            ("baud_rate", .int 115200), ("data_bits", .int 8), ("parity", .str "none"),
            ("stop_bits", .int 1), ("asynchronous", .bool false)]]),
          ("clock_sync", .obj [("disabled", .bool false), ("grandmaster", .bool false),
            ("period_ns", .int 1000000000), ("max_adj", .int 200000000), ("kp", .float (Float.ofNat 1)),
            ("ki", .float 0.3)]),
          ("joining_policy", .str "immediately")],
        .obj [("name", .str "b"), ("bank_width", .null),
          ("ports", .arr [.obj [("name", .str "in"), ("width", .int 1)]]), ("interfaces", .arr []),
          ("clock_sync", .null), ("joining_policy", .str "immediately")]]),
      ("connections", .arr [.obj [("left", .arr [.str "a.out"]),
        ("right", .arr [.str "interleaved(b.in)"]), ("delay_ns", .null), ("physical", .bool false),
        ("iterated", .bool false), ("buffer_size", .null), ("link", .null)]])]) := by
  have described : program bareLine = .ok line := rfl
  have normalised := normalises_of_program described
  exact ⟨described, normalised, normalised.outcome⟩

/-- Exactly the values in normal form are left as they are. -/
theorem normalise_eq_self_iff : normalise v = .ok v ↔ IsProgram v := by
  constructor
  · intro h
    obtain ⟨p, described, same⟩ := map_eq_ok_iff.mp h
    rw [← same]
    exact Description.isProgram.holds (Program.describable_of_decode described)
  · intro h
    obtain ⟨p, describable, rfl⟩ := Description.isProgram.exists_eq h
    have again := Program.readsBack Format.faithful_json describable p.toJson (.refl _)
    rw [normalise, program, again]
    rfl

end ReactorNet.Description
