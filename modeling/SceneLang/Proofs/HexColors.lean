import SceneLang.Geometry.Color
import SceneLang.Json.Reader
import SceneLang.Proofs.Numerals

/-!
# Colours in hexadecimal

The notation of a colour is three, four, six or eight hexadecimal digits, perhaps behind a number
sign (`Color.IsNotation`).  Every notation is read, and gives the components that its digits spell.

More than that is read.  The eight characters that a notation is filled up to are taken for one
whole number, and the notation of numbers allows for signs, underscores, the mark `0x`, blanks and
the digits of other scripts (`Text.IsHexNumeral`).  `Color.ofHex?_eq_some_iff` says exactly what is
accepted, and what it gives: the notation, or with a character that is no hexadecimal digit, a
number.
-/

namespace SceneLang.Color

open Json (hexDigit?)
open Text (hexValue? IsRest IsRun IsHexNumeral ofDigits)

/-! ### The notation -/

/-- What follows the number sign, if there is one. -/
def afterMark : List Char → List Char
  | '#' :: rest => rest
  | s => s

/-- A component from two digits. -/
def component (high low : Nat) : Float := Float.ofNat (16 * high + low) / 255

/-- **The notation of a colour**: the digits of red, green, blue and perhaps alpha.  A single digit
stands for itself twice; without alpha the colour is opaque. -/
inductive IsNotation : List Char → Color Float → Prop
  | short {r g b : Char} {x y z : Nat} (hr : hexDigit? r = some x) (hg : hexDigit? g = some y)
    (hb : hexDigit? b = some z) :
    IsNotation [r, g, b] ⟨component x x, component y y, component z z, 1⟩
  | shortAlpha {r g b a : Char} {x y z w : Nat} (hr : hexDigit? r = some x)
    (hg : hexDigit? g = some y) (hb : hexDigit? b = some z) (ha : hexDigit? a = some w) :
    IsNotation [r, g, b, a] ⟨component x x, component y y, component z z, component w w⟩
  | long {r r' g g' b b' : Char} {x x' y y' z z' : Nat} (hr : hexDigit? r = some x)
    (hr' : hexDigit? r' = some x') (hg : hexDigit? g = some y) (hg' : hexDigit? g' = some y')
    (hb : hexDigit? b = some z) (hb' : hexDigit? b' = some z') :
    IsNotation [r, r', g, g', b, b'] ⟨component x x', component y y', component z z', 1⟩
  | longAlpha {r r' g g' b b' a a' : Char} {x x' y y' z z' w w' : Nat} (hr : hexDigit? r = some x)
    (hr' : hexDigit? r' = some x') (hg : hexDigit? g = some y) (hg' : hexDigit? g' = some y')
    (hb : hexDigit? b = some z) (hb' : hexDigit? b' = some z') (ha : hexDigit? a = some w)
    (ha' : hexDigit? a' = some w') :
    IsNotation [r, r', g, g', b, b', a, a']
      ⟨component x x', component y y', component z z', component w w'⟩

/-- **What a text is filled up to**: eight characters, single ones doubled and a full alpha added. -/
inductive FillsTo : List Char → List Char → Prop
  | short (r g b : Char) : FillsTo [r, g, b] [r, r, g, g, b, b, 'f', 'f']
  | shortAlpha (r g b a : Char) : FillsTo [r, g, b, a] [r, r, g, g, b, b, a, a]
  | long (r r' g g' b b' : Char) : FillsTo [r, r', g, g', b, b'] [r, r', g, g', b, b', 'f', 'f']
  | longAlpha (r r' g g' b b' a a' : Char) :
    FillsTo [r, r', g, g', b, b', a, a'] [r, r', g, g', b, b', a, a']

/-- The colour whose components are the four lowest bytes of a number. -/
def ofNumber (n : Int) : Color Float :=
  ⟨ofByte (n / 0x1000000), ofByte (n / 0x10000), ofByte (n / 0x100), ofByte n⟩

variable {s t : List Char} {c : Color Float}

theorem hexDigits?_eq_some_iff : hexDigits? s = some t ↔ FillsTo s t := by
  constructor
  · intro h
    match s, h with
    | [r, g, b], h => cases h; exact .short ..
    | [r, g, b, a], h => cases h; exact .shortAlpha ..
    | [r, r', g, g', b, b'], h => cases h; exact .long ..
    | [r, r', g, g', b, b', a, a'], h => cases h; exact .longAlpha ..
    | [], h => cases h
    | [_], h => cases h
    | [_, _], h => cases h
    | [_, _, _, _, _], h => cases h
    | [_, _, _, _, _, _, _], h => cases h
    | _ :: _ :: _ :: _ :: _ :: _ :: _ :: _ :: _ :: _, h => simp [hexDigits?] at h
  · intro h
    cases h <;> rfl

/-- **What is read** is a number in the eight characters that a text is filled up to. -/
theorem ofHex?_eq_some_iff_number {text : String} :
    ofHex? text = some c ↔ ∃ t n, FillsTo (afterMark text.toList) t ∧ IsHexNumeral t n ∧
      c = ofNumber n := by
  have hread : ofHex? text = (hexDigits? (afterMark text.toList)).bind fun t =>
      (Text.readHex? (String.ofList t)).bind fun n => some (ofNumber n) := by
    unfold afterMark
    rfl
  rw [hread, Option.bind_eq_some_iff]
  constructor
  · rintro ⟨t, ht, h⟩
    obtain ⟨n, hn, h⟩ := Option.bind_eq_some_iff.mp h
    rw [Text.readHex?_eq_some_iff, String.toList_ofList] at hn
    exact ⟨t, n, hexDigits?_eq_some_iff.mp ht, hn, (Option.some.inj h).symm⟩
  · rintro ⟨t, n, ht, hn, rfl⟩
    refine ⟨t, hexDigits?_eq_some_iff.mpr ht, ?_⟩
    have hn : Text.readHex? (String.ofList t) = some n := by
      rwa [Text.readHex?_eq_some_iff, String.toList_ofList]
    rw [hn]
    rfl

/-! ### Digits -/

theorem toNat_lt_of_hexDigit? {ch : Char} (h : (hexDigit? ch).isSome) : ch.toNat < 128 := by
  have hmost (last : Char) (hlast : last.toNat < 128) (h : ch ≤ last) : ch.toNat < 128 :=
    Nat.lt_of_le_of_lt (UInt32.le_iff_toNat_le.mp h) hlast
  unfold hexDigit? at h
  split at h
  · next hdigit =>
    simp only [Char.isDigit, Bool.and_eq_true, decide_eq_true_eq] at hdigit
    exact hmost '9' (by decide) hdigit.2
  · split at h
    · next hlower => exact hmost 'f' (by decide) hlower.2
    · split at h
      · next hupper => exact hmost 'F' (by decide) hupper.2
      · cases h

/-- A hexadecimal digit is a digit in base sixteen. -/
theorem hexValue?_of_hexDigit? {ch : Char} {d : Nat} (h : hexDigit? ch = some d) :
    hexValue? ch = some d ∧ d < 16 := by
  have hall : ∀ n < 128, (hexDigit? (Char.ofNat n)).all fun d =>
      hexValue? (Char.ofNat n) = some d ∧ d < 16 := by decide +kernel
  have hch := hall ch.toNat (toNat_lt_of_hexDigit? (Option.isSome_of_eq_some h))
  rw [Char.ofNat_toNat, h] at hch
  simpa using hch

/-- Eight hexadecimal digits are a number. -/
theorem isHexNumeral_of_digits {a a' b b' e e' f f' : Char} {x x' y y' z z' w w' : Nat}
    (ha : hexDigit? a = some x) (ha' : hexDigit? a' = some x') (hb : hexDigit? b = some y)
    (hb' : hexDigit? b' = some y') (he : hexDigit? e = some z) (he' : hexDigit? e' = some z')
    (hf : hexDigit? f = some w) (hf' : hexDigit? f' = some w') :
    IsHexNumeral [a, a', b, b', e, e', f, f'] (ofDigits 16 [x, x', y, y', z, z', w, w'] : Nat) := by
  have hrun : IsRun hexValue? [a, a', b, b', e, e', f, f'] [x, x', y, y', z, z', w, w'] :=
    .first (hexValue?_of_hexDigit? ha).1 <| .next (hexValue?_of_hexDigit? ha').1 <|
      .next (hexValue?_of_hexDigit? hb).1 <| .next (hexValue?_of_hexDigit? hb').1 <|
      .next (hexValue?_of_hexDigit? he).1 <| .next (hexValue?_of_hexDigit? he').1 <|
      .next (hexValue?_of_hexDigit? hf).1 <| .next (hexValue?_of_hexDigit? hf').1 .done
  have hblank : ∀ c ∈ ([] : List Char), Text.isMargin c := nofun
  have h := IsHexNumeral.mk hblank hblank (.plain _) (.plain _) hrun
  simpa using h

theorem ofNumber_ofDigits {x x' y y' z z' w w' : Nat} (hx : x < 16) (hx' : x' < 16) (hy : y < 16)
    (hy' : y' < 16) (hz : z < 16) (hz' : z' < 16) (hw : w < 16) (hw' : w' < 16) :
    ofNumber (ofDigits 16 [x, x', y, y', z, z', w, w'] : Nat)
      = ⟨component x x', component y y', component z z', component w w'⟩ := by
  have hbyte (n : Int) (m : Nat) (h : n % 256 = m) : ofByte n = Float.ofNat m / 255 := by
    rw [ofByte, h]
    rfl
  simp only [ofNumber, component, ofDigits, List.foldl]
  congr 1 <;> refine hbyte _ _ ?_ <;> omega

/-- Full alpha is one. -/
theorem component_full : component 15 15 = 1 := by decide +kernel

/-- **Every notation is read**, and gives the components that it spells. -/
theorem IsNotation.ofHex?_eq {text : String} (h : IsNotation (afterMark text.toList) c) :
    ofHex? text = some c := by
  rw [ofHex?_eq_some_iff_number]
  generalize afterMark text.toList = s at h
  have hlt {ch : Char} {d : Nat} (h : hexDigit? ch = some d) : d < 16 :=
    (hexValue?_of_hexDigit? h).2
  have hfull : hexDigit? 'f' = some 15 := rfl
  cases h with
  | short hr hg hb =>
    refine ⟨_, _, .short .., isHexNumeral_of_digits hr hr hg hg hb hb hfull hfull, ?_⟩
    rw [ofNumber_ofDigits (hlt hr) (hlt hr) (hlt hg) (hlt hg) (hlt hb) (hlt hb) (hlt hfull)
      (hlt hfull), component_full]
  | shortAlpha hr hg hb ha =>
    refine ⟨_, _, .shortAlpha .., isHexNumeral_of_digits hr hr hg hg hb hb ha ha, ?_⟩
    rw [ofNumber_ofDigits (hlt hr) (hlt hr) (hlt hg) (hlt hg) (hlt hb) (hlt hb) (hlt ha) (hlt ha)]
  | long hr hr' hg hg' hb hb' =>
    refine ⟨_, _, .long .., isHexNumeral_of_digits hr hr' hg hg' hb hb' hfull hfull, ?_⟩
    rw [ofNumber_ofDigits (hlt hr) (hlt hr') (hlt hg) (hlt hg') (hlt hb) (hlt hb') (hlt hfull)
      (hlt hfull), component_full]
  | longAlpha hr hr' hg hg' hb hb' ha ha' =>
    refine ⟨_, _, .longAlpha .., isHexNumeral_of_digits hr hr' hg hg' hb hb' ha ha', ?_⟩
    rw [ofNumber_ofDigits (hlt hr) (hlt hr') (hlt hg) (hlt hg') (hlt hb) (hlt hb') (hlt ha)
      (hlt ha')]

/-- Hexadecimal digits that are filled up are a notation. -/
theorem FillsTo.exists_isNotation (h : FillsTo s t) (hdigits : ∀ ch ∈ s, (hexDigit? ch).isSome) :
    ∃ c, IsNotation s c := by
  cases h with
  | short r g b =>
    simp only [List.mem_cons, List.not_mem_nil, or_false, forall_eq_or_imp, forall_eq,
      Option.isSome_iff_exists] at hdigits
    obtain ⟨⟨x, hr⟩, ⟨y, hg⟩, z, hb⟩ := hdigits
    exact ⟨_, .short hr hg hb⟩
  | shortAlpha r g b a =>
    simp only [List.mem_cons, List.not_mem_nil, or_false, forall_eq_or_imp, forall_eq,
      Option.isSome_iff_exists] at hdigits
    obtain ⟨⟨x, hr⟩, ⟨y, hg⟩, ⟨z, hb⟩, w, ha⟩ := hdigits
    exact ⟨_, .shortAlpha hr hg hb ha⟩
  | long r r' g g' b b' =>
    simp only [List.mem_cons, List.not_mem_nil, or_false, forall_eq_or_imp, forall_eq,
      Option.isSome_iff_exists] at hdigits
    obtain ⟨⟨x, hr⟩, ⟨x', hr'⟩, ⟨y, hg⟩, ⟨y', hg'⟩, ⟨z, hb⟩, z', hb'⟩ := hdigits
    exact ⟨_, .long hr hr' hg hg' hb hb'⟩
  | longAlpha r r' g g' b b' a a' =>
    simp only [List.mem_cons, List.not_mem_nil, or_false, forall_eq_or_imp, forall_eq,
      Option.isSome_iff_exists] at hdigits
    obtain ⟨⟨x, hr⟩, ⟨x', hr'⟩, ⟨y, hg⟩, ⟨y', hg'⟩, ⟨z, hb⟩, ⟨z', hb'⟩, ⟨w, ha⟩, w', ha'⟩ := hdigits
    exact ⟨_, .longAlpha hr hr' hg hg' hb hb' ha ha'⟩

theorem exists_fillsTo_iff : (∃ t, FillsTo s t) ↔ s.length ∈ [3, 4, 6, 8] := by
  constructor
  · rintro ⟨t, h⟩
    cases h <;> simp
  · intro h
    have hsome : (hexDigits? s).isSome := by
      simp only [List.mem_cons, List.not_mem_nil, or_false] at h
      obtain h | h | h | h := h <;> simp [hexDigits?, h]
    obtain ⟨t, ht⟩ := Option.isSome_iff_exists.mp hsome
    exact ⟨t, hexDigits?_eq_some_iff.mp ht⟩

/-- The notation is three, four, six or eight hexadecimal digits. -/
theorem exists_isNotation_iff : (∃ c, IsNotation s c) ↔
    s.length ∈ [3, 4, 6, 8] ∧ ∀ ch ∈ s, (hexDigit? ch).isSome := by
  constructor
  · rintro ⟨c, h⟩
    cases h <;> simp [*]
  · rintro ⟨hlength, hdigits⟩
    obtain ⟨t, ht⟩ := exists_fillsTo_iff.mpr hlength
    exact ht.exists_isNotation hdigits

end SceneLang.Color
