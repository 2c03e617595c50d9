import ReactorNet.Address.Text
import ReactorNet.Proofs.Digits

/-!
# `ReactorNet.Proofs.AddressReading` · addresses are read back from their texts

Addresses of both families have a text from which they are read back, with any white space around
it. `read?_text` says this for every address; so no two addresses have the same text, and the text
alone tells the family.

**What has to be undone.** Four octets are written as they are read. Of eight segments, the longest
run of zeros is left out, and the reader puts back as many zeros as are missing. For this it does
not matter whether the run is the longest one, nor which one of several: all that is used of
`longestZeros` is that it finds zeros where it says (`zerosAt_longestZeros`). An address that maps
one of version 4 is written with octets at its end, which the reader takes for two segments.

**Where a segment ends.** The reader tries four octets before it reads a segment. It does not find
any in what is written for segments, since a colon follows each of them and not a dot
(`octets?_eq_none`).
-/

namespace ReactorNet.Address

open ReactorNet.Text

variable {a b c d : UInt8} {s : UInt16} {ss all : List UInt16} {cs ds more rest : List Char} {ch : Char}
  {room i start length : Nat} {run best : Nat × Nat} {x : Address}

/-! ## Octets -/

/-- The text of four octets. -/
theorem toList_octetText (a b c d : UInt8) : (octetText a b c d).toList =
    Nat.toDigits 10 a.toNat ++ '.' :: (Nat.toDigits 10 b.toNat ++ '.' ::
      (Nat.toDigits 10 c.toNat ++ '.' :: Nat.toDigits 10 d.toNat)) := by
  simp [octetText]

/-- An octet is read from its digits. -/
theorem octet?_toDigits (a : UInt8) (stop : ∀ ch ∈ rest.head?, isDigit ch = false) :
    octet? (Nat.toDigits 10 a.toNat ++ rest) = some (a, rest) := by
  have digits : ∀ ch ∈ Nat.toDigits 10 a.toNat, isDigit ch = true := by
    intro ch hch
    exact Nat.isDigit_of_mem_toDigits (by decide) (by decide) hch
  have short : (Nat.toDigits 10 a.toNat).length ≤ 3 := by
    apply (Nat.length_toDigits_le_iff (by decide) (by decide)).mpr
    exact Nat.lt_trans a.toNat_lt (by decide)
  -- a zero in front is the only digit
  have exact : (Nat.toDigits 10 a.toNat).head? = some '0' → (Nat.toDigits 10 a.toNat).length = 1 := by
    intro zero
    rw [zero_of_head_toDigits (by decide) (by decide) zero]
    rfl
  unfold octet?
  rw [takeWhile_digits digits stop, dropWhile_digits digits stop]
  dsimp only
  rw [numeral?_toDigits (by decide) (by decide), if_neg]
  · dsimp only
    rw [if_pos a.toNat_lt, UInt8.ofNat_toNat]
  · simp only [Bool.or_eq_true, decide_eq_true_eq, Bool.and_eq_true, beq_iff_eq]
    rintro (long | ⟨zero, several⟩)
    · exact absurd short (Nat.not_le_of_lt long)
    · exact absurd (exact zero) (Nat.ne_of_gt several)

/-- Four octets are read from their text. -/
theorem octets?_octetText (a b c d : UInt8) :
    octets? (octetText a b c d).toList = some ((a, b, c, d), []) := by
  have noDigit : ∀ cs : List Char, ∀ ch ∈ ('.' :: cs).head?, isDigit ch = false := by
    rintro cs ch ⟨⟩
    rfl
  have dot : ∀ (e : UInt8) (cs : List Char), (∀ ch ∈ cs.head?, isDigit ch = false) →
      dotOctet? ('.' :: (Nat.toDigits 10 e.toNat ++ cs)) = some (e, cs) := by
    intro e cs stop
    exact octet?_toDigits e stop
  have last : dotOctet? ('.' :: Nat.toDigits 10 d.toNat) = some (d, []) := by
    have read := dot d [] (fun ch hch => by cases hch)
    rwa [List.append_nil] at read
  rw [toList_octetText]
  unfold octets?
  rw [octet?_toDigits a (noDigit _)]
  simp only [Option.bind_eq_bind, Option.bind_some, dot _ _ (noDigit _), last]
  rfl

/-- What is left behind an octet is what follows its digits. -/
theorem eq_dropWhile_of_octet? {cs : List Char} (h : octet? cs = some (a, rest)) :
    rest = cs.dropWhile isDigit := by
  unfold octet? at h
  dsimp only at h
  split at h
  · cases h
  · split at h
    · rw [Option.ite_none_right_eq_some, Option.some.injEq, Prod.mk.injEq] at h
      exact h.2.2.symm
    · cases h

/-- A hexadecimal digit is no dot. -/
theorem ne_dot_of_isHexDigit (hex : isHexDigit ch = true) : ch ≠ '.' := by
  rintro rfl
  exact absurd hex (by decide)

/-- Where no dot follows the digits, there are no four octets. -/
theorem octets?_eq_none (hex : ∀ ch ∈ ds, isHexDigit ch = true)
    (colon : ∀ ch ∈ more.head?, ch = ':') :
    octets? (ds ++ more) = none := by
  have stop : ∀ ch ∈ more.head?, isDigit ch = false := by
    intro ch hch
    rw [colon ch hch]
    decide
  have noDot : ∀ ch ∈ ((ds ++ more).dropWhile isDigit).head?, ch ≠ '.' := by
    intro ch hch
    rcases mem_head?_dropWhile_append stop hch with inside | next
    · exact ne_dot_of_isHexDigit (hex ch inside)
    · rw [colon ch next]
      decide
  unfold octets?
  cases first : octet? (ds ++ more) with
  | none => rfl
  | some r =>
      obtain ⟨a, rest⟩ := r
      obtain rfl := eq_dropWhile_of_octet? first
      simp only [Option.bind_eq_bind, Option.bind_some]
      cases left : (ds ++ more).dropWhile isDigit with
      | nil => rfl
      | cons e es =>
          have other : e ≠ '.' := noDot e (by rw [left]; rfl)
          rw [dotOctet?]
          · rfl
          · rintro cs ⟨⟩
            exact other rfl

/-! ## Segments side by side -/

/-- The text of segments that stand behind others. -/
def behind (ss : List UInt16) : List Char := ss.flatMap fun s => ':' :: Nat.toDigits 16 s.toNat

/-- What may follow segments: nothing, or the gap where others are left out. -/
inductive Ends : List Char → Prop where
  /-- The text ends. -/
  | nothing : Ends []
  /-- There are two colons. -/
  | gap (cs : List Char) : Ends (':' :: ':' :: cs)

/-- The text of segments: the first one, and the others behind it. -/
theorem toList_segmentsText_cons (s : UInt16) (ss : List UInt16) :
    (segmentsText (s :: ss)).toList = Nat.toDigits 16 s.toNat ++ behind ss := by
  unfold segmentsText
  rw [String.toList_intercalate]
  induction ss generalizing s with
  | nil => simp [segmentText, behind]
  | cons t ss ih =>
      have others := ih t
      simp only [List.map_cons] at others ⊢
      rw [List.intercalate_cons_cons, others]
      simp [segmentText, behind]

/-- The digits of a segment. -/
theorem isHexDigit_of_mem (hch : ch ∈ Nat.toDigits 16 s.toNat) : isHexDigit ch = true :=
  isSome_digitValue?_of_mem (by decide) (by decide) hch

/-- A colon is no digit. -/
theorem isHexDigit_eq_false (colon : ∀ ch ∈ more.head?, ch = ':') :
    ∀ ch ∈ more.head?, isHexDigit ch = false := by
  intro ch hch
  rw [colon ch hch]
  decide

/-- A segment is read from its digits. -/
theorem segment?_toDigits (s : UInt16) (colon : ∀ ch ∈ more.head?, ch = ':') :
    segment? (Nat.toDigits 16 s.toNat ++ more) = some (s, more) := by
  have digits : ∀ ch ∈ Nat.toDigits 16 s.toNat, isHexDigit ch = true := fun ch => isHexDigit_of_mem
  have short : (Nat.toDigits 16 s.toNat).length ≤ 4 :=
    (Nat.length_toDigits_le_iff (by decide) (by decide)).mpr s.toNat_lt
  unfold segment?
  rw [takeWhile_digits digits (isHexDigit_eq_false colon),
    dropWhile_digits digits (isHexDigit_eq_false colon)]
  dsimp only
  rw [if_neg (Nat.not_lt_of_le short), numeral?_toDigits (by decide) (by decide), Option.map_some,
    UInt16.ofNat_toNat]

/-- A segment is read, and then those behind it. -/
theorem segments_succ (s : UInt16) (colon : ∀ ch ∈ more.head?, ch = ':') (room : Nat) (first : Bool) :
    segments (room + 1) first ((if first then [] else [':']) ++ (Nat.toDigits 16 s.toNat ++ more)) =
      ⟨s :: (segments room false more).values, (segments room false more).endsInOctets,
        (segments room false more).rest⟩ := by
  have inner : behindColon? first ((if first then [] else [':']) ++ (Nat.toDigits 16 s.toNat ++ more)) =
      some (Nat.toDigits 16 s.toNat ++ more) := by
    cases first <;> rfl
  have noOctets : (if room == 0 then none else octets? (Nat.toDigits 16 s.toNat ++ more)) = none := by
    rw [octets?_eq_none (fun ch => isHexDigit_of_mem) colon, ite_self]
  rw [segments, inner]
  dsimp only
  rw [noOctets]
  dsimp only
  rw [segment?_toDigits s colon]

/-- Where no digit is, there is neither a segment nor four octets. -/
theorem none_of_colon (colon : ∀ ch ∈ more.head?, ch = ':') :
    octets? more = none ∧ segment? more = none := by
  have noDigits : ∀ ch ∈ ([] : List Char), isHexDigit ch = true := by
    intro ch hch
    exact absurd hch List.not_mem_nil
  constructor
  · exact octets?_eq_none noDigits colon
  · unfold segment?
    have none := takeWhile_digits noDigits (isHexDigit_eq_false colon)
    rw [List.nil_append] at none
    rw [none]
    rfl

/-- Where segments end, none is read. -/
theorem segments_of_ends (ends : Ends rest) (room : Nat) (first : Bool) :
    segments room first rest = ⟨[], false, rest⟩ := by
  have colon : ∀ inner, behindColon? first rest = some inner → ∀ ch ∈ inner.head?, ch = ':' := by
    intro inner h ch hch
    cases ends with
    | nothing =>
        cases first with
        | true => cases h; cases hch
        | false => cases h
    | gap cs =>
        cases first with
        | true => cases h; exact (Option.some.inj hch).symm
        | false => cases h; exact (Option.some.inj hch).symm
  cases room with
  | zero => rw [segments]
  | succ room =>
      rw [segments]
      cases h : behindColon? first rest with
      | none => rfl
      | some inner =>
          obtain ⟨noOctets, noSegment⟩ := none_of_colon (colon inner h)
          simp only [noOctets, noSegment, ite_self]

/-- What follows a segment starts with a colon. -/
theorem colon_behind (ends : Ends rest) (ss : List UInt16) :
    ∀ ch ∈ (behind ss ++ rest).head?, ch = ':' := by
  intro ch hch
  cases ss with
  | nil =>
      cases ends with
      | nothing => cases hch
      | gap cs => exact (Option.some.inj hch).symm
  | cons s ss => exact (Option.some.inj hch).symm

/-- Segments behind others are read, if there is room for them. -/
theorem segments_behind (ends : Ends rest) (fits : ss.length ≤ room) :
    segments room false (behind ss ++ rest) = ⟨ss, false, rest⟩ := by
  induction ss generalizing room with
  | nil => exact segments_of_ends ends room false
  | cons s ss ih =>
      cases room with
      | zero => exact absurd fits (Nat.not_succ_le_zero _)
      | succ room =>
          have text : behind (s :: ss) ++ rest =
              (if false then [] else [':']) ++ (Nat.toDigits 16 s.toNat ++ (behind ss ++ rest)) := by
            simp [behind]
          rw [text, segments_succ s (colon_behind ends ss), ih (Nat.le_of_succ_le_succ fits)]

/-- Segments are read from their text, if there is room for them. -/
theorem segments_segmentsText (ends : Ends rest) (fits : ss.length ≤ room) :
    segments room true ((segmentsText ss).toList ++ rest) = ⟨ss, false, rest⟩ := by
  cases ss with
  | nil => exact segments_of_ends ends room true
  | cons s ss =>
      cases room with
      | zero => exact absurd fits (Nat.not_succ_le_zero _)
      | succ room =>
          have text : (segmentsText (s :: ss)).toList ++ rest =
              (if true then [] else [':']) ++ (Nat.toDigits 16 s.toNat ++ (behind ss ++ rest)) := by
            simp [toList_segmentsText_cons]
          rw [text, segments_succ s (colon_behind ends ss),
            segments_behind ends (Nat.le_of_succ_le_succ fits)]

/-! ## Runs of zeros -/

/-- Whether all segments of a run are zero. A run is given by its start and its length. -/
def ZerosAt (all : List UInt16) (run : Nat × Nat) : Prop :=
  ∀ k, run.1 ≤ k → k < run.1 + run.2 → all[k]? = some 0

/-- A run that goes up to a zero goes on. -/
theorem ZerosAt.succ (zeros : ZerosAt all run) (zero : all[run.1 + run.2]? = some 0) :
    ZerosAt all (run.1, run.2 + 1) := by
  intro k from_le lt_to
  rcases Nat.lt_or_eq_of_le (Nat.le_of_lt_succ lt_to) with before | rfl
  · exact zeros k from_le before
  · exact zero

/-- A run without segments has no others than zeros. -/
theorem zerosAt_empty (all : List UInt16) (i : Nat) : ZerosAt all (i, 0) := by
  intro k from_le lt_to
  exact absurd lt_to (Nat.not_lt_of_le from_le)

/-- At a zero, a run starts or goes on; either way it goes up to the segment behind the zero. -/
theorem ZerosAt.extended {run' : Nat × Nat} (zeros : ZerosAt all run)
    (adjacent : run.2 = 0 ∨ run.1 + run.2 = i)
    (zero : all[i]? = some 0) (h : (if run.2 == 0 then (i, 1) else (run.1, run.2 + 1)) = run') :
    ZerosAt all run' ∧ run'.1 + run'.2 = i + 1 := by
  by_cases starts : run.2 = 0
  · rw [if_pos (beq_iff_eq.mpr starts)] at h
    subst h
    exact ⟨(zerosAt_empty all i).succ zero, rfl⟩
  · obtain rfl := adjacent.resolve_left starts
    rw [if_neg (by simpa using starts)] at h
    subst h
    exact ⟨zeros.succ zero, (Nat.add_assoc _ _ _).symm⟩

/-- The run that is found consists of zeros, if the run at hand goes up to the segment at hand, and
if it and the longest one so far consist of zeros. -/
theorem zerosAt_longestZeros (here : all.drop i = ss) (zeros : ZerosAt all run)
    (adjacent : run.2 = 0 ∨ run.1 + run.2 = i) (zerosBest : ZerosAt all best) :
    ZerosAt all (longestZeros i run best ss) := by
  induction ss generalizing i run best with
  | nil => exact zerosBest
  | cons s ss ih =>
      have next : all.drop (i + 1) = ss := by
        rw [← List.drop_drop, here]
        rfl
      rw [longestZeros]
      split
      · rename_i zero
        have found : all[i]? = some 0 := by
          rw [← List.head?_drop, here, List.head?_cons, eq_of_beq zero]
        dsimp only
        generalize h : (if run.2 == 0 then (i, 1) else (run.1, run.2 + 1)) = run'
        obtain ⟨zeros', adjacent'⟩ := zeros.extended adjacent found h
        refine ih next zeros' (Or.inr adjacent') ?_
        split
        · exact zeros'
        · exact zerosBest
      · exact ih next (zerosAt_empty all 0) (Or.inl rfl) zerosBest

/-- Zeros that are left out can be put back. -/
theorem eq_of_zerosAt (zeros : ZerosAt ss (start, length)) (pos : 0 < length) :
    start + length ≤ ss.length ∧
      ss = ss.take start ++ List.replicate length 0 ++ ss.drop (start + length) := by
  have within : start + length ≤ ss.length := by
    have last := zeros (start + length - 1) (by omega) (by omega)
    have := (List.getElem?_eq_some_iff.mp last).1
    omega
  have middle : (ss.drop start).take length = List.replicate length 0 := by
    apply List.ext_getElem?
    intro k
    rw [List.getElem?_replicate, List.getElem?_take]
    split
    · rename_i inside
      rw [List.getElem?_drop]
      exact zeros _ (Nat.le_add_right _ _) (Nat.add_lt_add_left inside _)
    · rfl
  refine ⟨within, ?_⟩
  rw [← middle, List.append_assoc, ← List.drop_drop, List.take_append_drop, List.take_append_drop]

/-! ## Version 6 -/

/-- Eight segments are read from their text. -/
theorem readV6?_segmentsText (eight : ss.length = 8) :
    readV6? (segmentsText ss).toList = ofSegments? ss := by
  have head := segments_segmentsText Ends.nothing (Nat.le_of_eq eight)
  rw [List.append_nil] at head
  unfold readV6?
  rw [head]
  simp [eight]

/-- Where segments are left out, those in front of the gap and those behind it are read, and zeros
are put between them. -/
theorem readV6?_of_gap {front back : List UInt16} {octets : Bool} (few : front.length < 8)
    (head : segments 8 true cs = ⟨front, false, ':' :: ':' :: rest⟩)
    (tail : segments (7 - front.length) true rest = ⟨back, octets, []⟩) :
    readV6? cs = ofSegments? (front ++ List.replicate (8 - front.length - back.length) 0 ++ back) := by
  have notAll : (front.length == 8) = false := beq_eq_false_iff_ne.mpr (Nat.ne_of_lt few)
  unfold readV6?
  rw [head]
  simp only [notAll, Bool.false_eq_true, if_false, tail, List.isEmpty_nil, if_true]

/-- Segments are read of which some are left out. -/
theorem readV6?_gap {front back : List UInt16} (several : 1 < length)
    (eight : front.length + length + back.length = 8) :
    readV6? (segmentsText front ++ "::" ++ segmentsText back).toList =
      ofSegments? (front ++ List.replicate length 0 ++ back) := by
  have text : (segmentsText front ++ "::" ++ segmentsText back).toList =
      (segmentsText front).toList ++ (':' :: ':' :: (segmentsText back).toList) := by
    simp
  have few : front.length < 8 := by omega
  have fits : back.length ≤ 7 - front.length := by omega
  have head := segments_segmentsText (Ends.gap (segmentsText back).toList) (Nat.le_of_lt few)
  have tail := segments_segmentsText Ends.nothing fits
  have missing : 8 - front.length - back.length = length := by omega
  rw [List.append_nil] at tail
  rw [text, readV6?_of_gap few head tail, missing]

/-- Eight segments are read with the longest run of zeros left out. -/
theorem readV6?_compressed (eight : ss.length = 8) :
    readV6? (compressed ss).toList = ofSegments? ss := by
  have zeros : ZerosAt ss (longestZeros 0 (0, 0) (0, 0) ss) :=
    zerosAt_longestZeros rfl (zerosAt_empty ss 0) (Or.inl rfl) (zerosAt_empty ss 0)
  unfold compressed
  dsimp only
  generalize longestZeros 0 (0, 0) (0, 0) ss = run at zeros
  obtain ⟨start, length⟩ := run
  dsimp only
  split
  · rename_i several
    obtain ⟨within, parts⟩ := eq_of_zerosAt zeros (Nat.lt_trans Nat.one_pos several)
    rw [readV6?_gap several]
    · rw [← parts]
    · rw [List.length_take, List.length_drop]
      omega
  · exact readV6?_segmentsText eight

/-- A segment is made up of its two octets. -/
theorem segmentOf_octetsOf (s : UInt16) : segmentOf (octetsOf s).1 (octetsOf s).2 = s := by
  have bound := s.toNat_lt
  have high : s.toNat / 2 ^ 8 % 2 ^ 8 = s.toNat / 2 ^ 8 := Nat.mod_eq_of_lt (by omega)
  have low : s.toNat % 2 ^ 8 < 2 ^ 8 := Nat.mod_lt _ (by decide)
  have eight : UInt16.toNat 8 % 16 = 8 := rfl
  apply UInt16.toNat_inj.mp
  unfold segmentOf octetsOf
  simp only [UInt16.toNat_or, UInt16.toNat_shiftLeft, UInt8.toNat_toUInt16, UInt16.toNat_toUInt8,
    UInt16.toNat_shiftRight, eight]
  rw [Nat.shiftRight_eq_div_pow, high, Nat.mod_eq_of_lt, ← Nat.shiftLeft_add_eq_or_of_lt low,
    Nat.shiftLeft_eq, Nat.div_add_mod']
  rw [Nat.shiftLeft_eq]
  omega

/-- Octets behind a segment are read as two segments. -/
theorem segments_octetText (a b c d : UInt8) (h : 1 ≤ room) :
    segments (room + 1) false (':' :: (octetText a b c d).toList) =
      ⟨[segmentOf a b, segmentOf c d], true, []⟩ := by
  have here : (room == 0) = false := beq_eq_false_iff_ne.mpr (Nat.one_le_iff_ne_zero.mp h)
  rw [segments]
  simp only [behindColon?, here, Bool.false_eq_true, if_false, octets?_octetText]

/-- An address that maps one of version 4 is read from its octets. -/
theorem readV6?_mapped (a b c d : UInt8) : readV6? ("::ffff:" ++ octetText a b c d).toList =
    some (.v6 0 0 0 0 0 0xFFFF (segmentOf a b) (segmentOf c d)) := by
  have text : ("::ffff:" ++ octetText a b c d).toList = ':' :: ':' ::
      (Nat.toDigits 16 (0xFFFF : UInt16).toNat ++ ':' :: (octetText a b c d).toList) := by
    rw [String.toList_append]
    rfl
  have tail : segments 7 true
      (Nat.toDigits 16 (0xFFFF : UInt16).toNat ++ ':' :: (octetText a b c d).toList) =
      ⟨[0xFFFF, segmentOf a b, segmentOf c d], true, []⟩ := by
    have colon : ∀ ch ∈ (':' :: (octetText a b c d).toList).head?, ch = ':' := by
      rintro ch ⟨⟩
      rfl
    have read := segments_succ 0xFFFF colon 6 true
    rwa [segments_octetText a b c d (by decide)] at read
  have head := segments_of_ends (Ends.gap
    (Nat.toDigits 16 (0xFFFF : UInt16).toNat ++ ':' :: (octetText a b c d).toList)) 8 true
  rw [text, readV6?_of_gap (by decide) head tail]
  rfl

/-- Every address of version 6 is read from its text. -/
theorem readV6?_text (a b c d e f g h : UInt16) :
    readV6? (text (.v6 a b c d e f g h)).toList = some (.v6 a b c d e f g h) := by
  rw [text]
  split
  · rename_i mapped
    simp only [Bool.and_eq_true, beq_iff_eq, List.cons.injEq, and_true] at mapped
    obtain ⟨⟨rfl, rfl, rfl, rfl, rfl⟩, rfl⟩ := mapped
    dsimp only
    rw [readV6?_mapped, segmentOf_octetsOf, segmentOf_octetsOf]
  · rw [readV6?_compressed rfl]
    rfl

/-! ## Characters -/

/-- Four octets are written with digits and dots. -/
theorem char_octetText (hch : ch ∈ (octetText a b c d).toList) :
    (digitValue? 10 ch).isSome = true ∨ ch = '.' := by
  have digit : ∀ e : UInt8, ch ∈ Nat.toDigits 10 e.toNat → (digitValue? 10 ch).isSome = true := by
    intro e hch
    exact isSome_digitValue?_of_mem (by decide) (by decide) hch
  rw [toList_octetText] at hch
  simp only [List.mem_append, List.mem_cons] at hch
  rcases hch with hch | rfl | hch | rfl | hch | rfl | hch
  · exact Or.inl (digit a hch)
  · exact Or.inr rfl
  · exact Or.inl (digit b hch)
  · exact Or.inr rfl
  · exact Or.inl (digit c hch)
  · exact Or.inr rfl
  · exact Or.inl (digit d hch)

/-- Segments are written with digits and colons. -/
theorem char_segmentsText (hch : ch ∈ (segmentsText ss).toList) : isHexDigit ch = true ∨ ch = ':' := by
  cases ss with
  | nil => exact absurd hch List.not_mem_nil
  | cons s ss =>
      rw [toList_segmentsText_cons, List.mem_append, behind, List.mem_flatMap] at hch
      rcases hch with hch | ⟨t, -, hch⟩
      · exact Or.inl (isHexDigit_of_mem hch)
      · rcases List.mem_cons.mp hch with rfl | hch
        · exact Or.inr rfl
        · exact Or.inl (isHexDigit_of_mem hch)

/-- They still are if some of them are left out. -/
theorem char_compressed (hch : ch ∈ (compressed ss).toList) : isHexDigit ch = true ∨ ch = ':' := by
  unfold compressed at hch
  dsimp only at hch
  split at hch
  · rw [String.toList_append, String.toList_append, List.mem_append, List.mem_append] at hch
    rcases hch with (hch | hch) | hch
    · exact char_segmentsText hch
    · exact Or.inr (by simpa using hch)
    · exact char_segmentsText hch
  · exact char_segmentsText hch

/-- There are colons between segments, also if some of them are left out. -/
theorem colon_mem_compressed (several : 1 < ss.length) : ':' ∈ (compressed ss).toList := by
  unfold compressed
  dsimp only
  split
  · simp
  · match ss, several with
    | s :: t :: ss, _ =>
        rw [toList_segmentsText_cons]
        simp [behind]

/-- A digit is no white space. -/
theorem isBlank_eq_false_of_digit {radix : Nat} (digit : (digitValue? radix ch).isSome = true) :
    isBlank ch = false := by
  have ranges := code_of_isSome_digitValue? digit
  apply isBlank_eq_false_of_visible
  · omega
  · omega

/-- There is no white space in four octets. -/
theorem not_blank_octetText (hch : ch ∈ (octetText a b c d).toList) : isBlank ch = false := by
  rcases char_octetText hch with digit | rfl
  · exact isBlank_eq_false_of_digit digit
  · rfl

/-- There is no white space in the text of an address. -/
theorem not_blank_text (hch : ch ∈ x.text.toList) : isBlank ch = false := by
  cases x with
  | v4 a b c d => exact not_blank_octetText hch
  | v6 a b c d e f g h =>
      have mapping : ∀ ch ∈ "::ffff:".toList, isBlank ch = false := by simp [isBlank]
      rw [text] at hch
      split at hch
      · dsimp only at hch
        rw [String.toList_append, List.mem_append] at hch
        rcases hch with hch | hch
        · exact mapping ch hch
        · exact not_blank_octetText hch
      · rcases char_compressed hch with digit | rfl
        · exact isBlank_eq_false_of_digit digit
        · rfl

/-- Just the addresses of version 6 have a colon in their texts. -/
theorem colon_mem_text_iff : ':' ∈ x.text.toList ↔ x.family = .v6 := by
  cases x with
  | v4 a b c d =>
      constructor
      · intro hch
        rcases char_octetText hch with digit | dot
        · exact absurd digit (by decide)
        · exact absurd dot (by decide)
      · intro other
        cases other
  | v6 a b c d e f g h =>
      refine iff_of_true ?_ rfl
      rw [text]
      split
      · simp
      · exact colon_mem_compressed (by simp)

/-! ## Literals -/

/-- Every address of version 4 is read from its text. -/
theorem readV4?_text (a b c d : UInt8) : readV4? (text (.v4 a b c d)).toList = some (.v4 a b c d) := by
  rw [text, readV4?, octets?_octetText]

/-- The text of an address has no white space at its ends. -/
theorem trim_text (x : Address) : trim x.text.toList = x.text.toList := by
  apply trim_eq_self
  · intro ch hch
    exact not_blank_text (List.mem_of_mem_head? hch)
  · intro ch hch
    exact not_blank_text (List.mem_of_getLast? hch)

/-- White space has no colon, so it does not change the family of a literal. -/
theorem literalFamily_text (x : Address) {before after : String} (blankBefore : Blank before.toList)
    (blankAfter : Blank after.toList) : literalFamily (before ++ x.text ++ after) = x.family := by
  have noColon : ∀ cs : List Char, Blank cs → ':' ∉ cs := by
    intro cs blank hch
    exact absurd (blank ':' hch) (by decide)
  have colon : ':' ∈ (before ++ x.text ++ after).toList ↔ x.family = .v6 := by
    rw [String.toList_append, String.toList_append, List.mem_append, List.mem_append,
      or_iff_left (noColon _ blankAfter), or_iff_right (noColon _ blankBefore), colon_mem_text_iff]
  rw [← List.contains_iff_mem] at colon
  unfold literalFamily
  cases family : x.family with
  | v4 =>
      rw [if_neg]
      intro found
      rw [colon.mp found] at family
      cases family
  | v6 => rw [if_pos (colon.mpr family)]

/-- **Addresses are read back.** Whatever white space is around the text of an address, the address
is read from it, and its family is the one the text is written in. So no two addresses of either
family have the same text, and writing an address and reading what was written gives the address. -/
theorem read?_text :
    (∀ (x : Address) (before after : String), Blank before.toList → Blank after.toList →
      read? (before ++ x.text ++ after) = some x ∧
        literalFamily (before ++ x.text ++ after) = x.family) ∧
    Function.Injective text ∧
    (∀ x : Address, read? x.text = some x) := by
  have surrounded : ∀ (x : Address) (before after : String),
      Blank before.toList → Blank after.toList →
      read? (before ++ x.text ++ after) = some x := by
    intro x before after blankBefore blankAfter
    unfold read?
    rw [literalFamily_text x blankBefore blankAfter, String.toList_append, String.toList_append,
      trim_append _ blankBefore blankAfter, trim_text]
    cases x with
    | v4 a b c d => exact readV4?_text a b c d
    | v6 a b c d e f g h => exact readV6?_text a b c d e f g h
  have alone : ∀ x : Address, read? x.text = some x := by
    intro x
    have none : Blank "".toList := by
      intro ch hch
      exact absurd hch List.not_mem_nil
    simpa using surrounded x "" "" none none
  refine ⟨?_, ?_, alone⟩
  · intro x before after blankBefore blankAfter
    exact ⟨surrounded x before after blankBefore blankAfter,
      literalFamily_text x blankBefore blankAfter⟩
  · intro x y same
    apply Option.some.inj
    rw [← alone x, ← alone y, same]

/-- Of two runs of zeros that are equally long the first is left out, and the address is read back
from between white space of several kinds. -/
theorem tiedRuns_read : Blank "\t\u00a0".toList ∧ Blank "\u2003".toList ∧
    text (.v6 0x2001 0xdb8 0 0 1 0 0 1) = "2001:db8::1:0:0:1" ∧
    read? "\t\u00a02001:db8::1:0:0:1\u2003" = some (.v6 0x2001 0xdb8 0 0 1 0 0 1) ∧
    literalFamily "\t\u00a02001:db8::1:0:0:1\u2003" = .v6 := by
  have before : Blank "\t\u00a0".toList := by decide
  have after : Blank "\u2003".toList := by decide
  have written : text (.v6 0x2001 0xdb8 0 0 1 0 0 1) = "2001:db8::1:0:0:1" := by decide +kernel
  obtain ⟨readings, -, -⟩ := read?_text
  have reading := readings (.v6 0x2001 0xdb8 0 0 1 0 0 1) _ _ before after
  rw [written] at reading
  exact ⟨before, after, written, reading⟩

end ReactorNet.Address
