import SceneLang.Json.Reader
import SceneLang.Json.Writer
import Mathlib.Tactic.IntervalCases

/-!
# Documents survive as text

* `Json.parse_compact`: a document that is written on one line is read back.  The document has to be
  writable: each of its doubles is read back from its own text, and no object gives a field twice.
* `Json.isAscii_chars`: the text of any document is printable ASCII.

The reader works from the front of the text, so everything is stated with a rest behind it.  Only a
number can run on into the rest; `Ends` says that it does not.  Each construct has its own lemma
(`readString_escaped` for texts, `number?_toString` for whole numbers, `items_joined` and
`fields_joined` for lists and objects), and `IsWritable.readsBack` puts them together by induction
on the document.  The fuel of the reader is twice the length of the text, which every step pays for
with the characters that it takes.
-/

namespace SceneLang.Json

/-! ### Code units -/

theorem hexDigit?_digitChar {n : Nat} (h : n < 16) : hexDigit? n.digitChar = some n := by
  interval_cases n <;> rfl

/-- The four digits of a code unit. -/
theorem hexPadded_four {n : Nat} (h : n < 0x10000) : Text.hexPadded 4 n =
    [(n / 4096).digitChar, (n / 256 % 16).digitChar, (n / 16 % 16).digitChar,
      (n % 16).digitChar] := by
  have hdigits : ∀ m, Nat.toDigits 16 m =
      if m < 16 then [m.digitChar] else Nat.toDigits 16 (m / 16) ++ [(m % 16).digitChar] :=
    fun m => Nat.toDigits_eq_if (by decide)
  have h256 : n / 16 / 16 = n / 256 := Nat.div_div_eq_div_mul ..
  have h4096 : n / 256 / 16 = n / 4096 := Nat.div_div_eq_div_mul ..
  rw [Text.hexPadded, hdigits n]
  by_cases h1 : n < 16
  · rw [if_pos h1, show n / 4096 = 0 by omega, show n / 256 % 16 = 0 by omega,
      show n / 16 % 16 = 0 by omega, show n % 16 = n by omega]
    rfl
  rw [if_neg h1, hdigits (n / 16), h256]
  by_cases h2 : n / 16 < 16
  · rw [if_pos h2, show n / 4096 = 0 by omega, show n / 256 % 16 = 0 by omega,
      show n / 16 % 16 = n / 16 by omega]
    rfl
  rw [if_neg h2, hdigits (n / 256), h4096]
  by_cases h3 : n / 256 < 16
  · rw [if_pos h3, show n / 4096 = 0 by omega, show n / 256 % 16 = n / 256 by omega]
    rfl
  rw [if_neg h3, hdigits (n / 4096), if_pos (by omega)]
  rfl

theorem codeUnit?_digits {n : Nat} (h : n < 0x10000) :
    codeUnit? (n / 4096).digitChar (n / 256 % 16).digitChar (n / 16 % 16).digitChar
      (n % 16).digitChar = some n := by
  rw [codeUnit?, hexDigit?_digitChar (by omega), hexDigit?_digitChar (by omega),
    hexDigit?_digitChar (by omega), hexDigit?_digitChar (by omega)]
  show some _ = some _
  congr 1
  omega

/-! ### Texts -/

section String

variable {start done rest : List Char} {c e next : Char}

theorem readString_plain (hquote : c ≠ '"') (hslash : c ≠ '\\') (hc : ¬c.toNat < 0x20) :
    readString start done (c :: rest) = readString start (c :: done) rest := by
  rw [readString]
  · rw [if_neg hc]
  all_goals simp_all

theorem readString_simpleEscape (h : simpleEscape? e = some c) (he : e ≠ 'u') :
    readString start done ('\\' :: e :: rest) = readString start (c :: done) rest := by
  rw [readString]
  · rw [h]
  · simpa using he

theorem readString_unitEscape {n : Nat} (h : n < 0x10000)
    (hn : ¬(0xD800 ≤ n ∧ n ≤ 0xDFFF)) :
    readString start done (unitEscape n ++ next :: rest)
      = readString start (Char.ofNat n :: done) (next :: rest) := by
  rw [unitEscape, hexPadded_four h]
  show readString start done ('\\' :: 'u' :: _ :: _ :: _ :: _ :: next :: rest) = _
  rw [readString, codeUnit?_digits h]
  dsimp only
  rw [if_neg (by omega), unitChar, if_neg hn]

/-- The code units of a character that does not fit into one. -/
theorem readString_pair {m n : Nat} (hm : 0xD800 ≤ m ∧ m ≤ 0xDBFF) (hn : 0xDC00 ≤ n ∧ n ≤ 0xDFFF) :
    readString start done (unitEscape m ++ (unitEscape n ++ next :: rest))
      = readString start (Char.ofNat (0x10000 + (m - 0xD800) * 0x400 + (n - 0xDC00)) :: done)
        (next :: rest) := by
  have hlow : lowSurrogate? (unitEscape n ++ next :: rest) = .ok (some (n, next :: rest)) := by
    rw [unitEscape, hexPadded_four (by omega)]
    show lowSurrogate? ('\\' :: 'u' :: _ :: _ :: _ :: _ :: next :: rest) = _
    rw [lowSurrogate?, codeUnit?_digits (by omega)]
    dsimp only
    rw [if_pos hn]
  obtain ⟨next', rest', htail⟩ : ∃ next' rest', unitEscape n ++ next :: rest = next' :: rest' :=
    ⟨_, _, rfl⟩
  rw [htail] at hlow ⊢
  rw [unitEscape, hexPadded_four (by omega)]
  show readString start done ('\\' :: 'u' :: _ :: _ :: _ :: _ :: next' :: rest') = _
  rw [readString, codeUnit?_digits (by omega)]
  dsimp only
  rw [if_pos hm]
  split
  · next he => simp [hlow] at he
  · next low rest'' he =>
    rw [hlow] at he
    simp only [Except.ok.injEq, Option.some.injEq, Prod.mk.injEq] at he
    obtain ⟨rfl, rfl⟩ := he
    rfl
  · next he => simp [hlow] at he

/-- **A character is read back**, in front of whatever follows it. -/
theorem readString_escapeAscii (c : Char) :
    readString start done (escapeAscii c ++ next :: rest)
      = readString start (c :: done) (next :: rest) := by
  have hvalid : c.toNat < 0xD800 ∨ 0xDFFF < c.toNat ∧ c.toNat < 0x110000 := c.valid
  unfold escapeAscii
  split_ifs with hmark hn hr ht hf hb hplain hunit
  · obtain rfl | rfl := hmark <;> exact readString_simpleEscape rfl (by decide)
  · obtain rfl := hn
    exact readString_simpleEscape rfl (by decide)
  · obtain rfl := hr
    exact readString_simpleEscape rfl (by decide)
  · obtain rfl := ht
    exact readString_simpleEscape rfl (by decide)
  · obtain rfl := hf
    exact readString_simpleEscape rfl (by decide)
  · obtain rfl := hb
    exact readString_simpleEscape rfl (by decide)
  · rw [not_or] at hmark
    exact readString_plain hmark.1 hmark.2 (by omega)
  · rw [readString_unitEscape hunit (by omega), Char.ofNat_toNat]
  · have hpair : 0x10000 + (0xD800 + (c.toNat - 0x10000) / 0x400 - 0xD800) * 0x400
        + (0xDC00 + (c.toNat - 0x10000) % 0x400 - 0xDC00) = c.toNat := by omega
    rw [List.append_assoc, readString_pair (by omega) (by omega), hpair, Char.ofNat_toNat]

/-- **A text is read back.** -/
theorem readString_escaped (s : List Char) :
    readString start done (s.flatMap escapeAscii ++ '"' :: rest)
      = .ok (String.ofList (done.reverse ++ s), rest) := by
  induction s generalizing done with
  | nil =>
    rw [List.flatMap_nil, List.nil_append, readString, List.append_nil]
  | cons c s ih =>
    obtain ⟨next, rest', htail⟩ : ∃ next rest',
        s.flatMap escapeAscii ++ '"' :: rest = next :: rest' := by
      cases h : s.flatMap escapeAscii ++ '"' :: rest with
      | nil => simp at h
      | cons next rest' => exact ⟨next, rest', rfl⟩
    rw [List.flatMap_cons, List.append_assoc, htail, readString_escapeAscii, ← htail, ih]
    simp

end String

/-! ### Numbers -/

/-- **What may follow a document**: nothing, a comma or a closing bracket. -/
def Ends (rest : List Char) : Prop :=
  ∀ c ∈ rest.head?, c = ',' ∨ c = ']' ∨ c = '\x7d'

theorem Ends.cons {c : Char} (h : c = ',' ∨ c = ']' ∨ c = '\x7d') (rest : List Char) :
    Ends (c :: rest) := by
  rintro c ⟨⟩
  exact h

/-- **The digits of a whole part**: a single zero, or digits that start with another one. -/
structure IsWholePart (ds : List Char) : Prop where
  digits : ∀ c ∈ ds, c.isDigit = true
  nonempty : ds ≠ []
  lead : ds.head? = some '0' → ds = ['0']

theorem isWholePart_toDigits (n : Nat) : IsWholePart (Nat.toDigits 10 n) where
  digits c hc := Nat.isDigit_of_mem_toDigits (by decide) (by decide) hc
  nonempty := Nat.toDigits_ne_nil
  lead := by
    induction n using Nat.base_induction 10 (by decide) with
    | single m hm =>
      rw [Nat.toDigits_of_lt_base hm]
      simp
    | digit m k hk hm ih =>
      obtain ⟨c, cs, hcs⟩ := List.exists_cons_of_ne_nil (Nat.toDigits_ne_nil (n := m) (b := 10))
      rw [← Nat.toDigits_append_toDigits (by decide) hm hk]
      intro hlead
      have hm0 : Nat.toDigits 10 m = ['0'] := ih (by simpa [hcs] using hlead)
      -- only zero is written as a single zero
      have hzero := Nat.ofDigitChars_ten_toDigits (n := m)
      rw [hm0] at hzero
      exact absurd hzero (by simp [Nat.ofDigitChars]; omega)

section Number

variable {ds fs rest : List Char}

theorem spanDigits_append (hds : ∀ c ∈ ds, c.isDigit = true)
    (hrest : ∀ c ∈ rest.head?, c.isDigit = false) : spanDigits (ds ++ rest) = (ds, rest) := by
  have htake : rest.takeWhile Char.isDigit = [] := by
    cases rest with
    | nil => rfl
    | cons c rest => simp [hrest c rfl]
  have hdrop : rest.dropWhile Char.isDigit = rest := by
    cases rest with
    | nil => rfl
    | cons c rest => simp [hrest c rfl]
  rw [spanDigits, List.takeWhile_append_of_pos hds, List.dropWhile_append_of_pos hds, htake, hdrop,
    List.append_nil]

theorem readWhole_append (hds : IsWholePart ds) (hrest : ∀ c ∈ rest.head?, c.isDigit = false) :
    readWhole (ds ++ rest) = some (ds, rest) := by
  obtain ⟨hdigits, hne, hlead⟩ := hds
  cases ds with
  | nil => exact absurd rfl hne
  | cons c ds =>
    by_cases hc : c = '0'
    · subst hc
      rw [hlead rfl]
      rfl
    · have hspan := spanDigits_append hdigits hrest
      rw [List.cons_append] at hspan ⊢
      rw [readWhole, hspan, if_pos (hdigits c (by simp))]
      simpa using hc

theorem Ends.not_isDigit (h : Ends rest) : ∀ c ∈ rest.head?, c.isDigit = false := by
  intro c hc
  obtain rfl | rfl | rfl := h c hc <;> rfl

theorem Ends.readFraction (h : Ends rest) : readFraction rest = (none, rest) := by
  cases rest with
  | nil => rfl
  | cons c rest => obtain rfl | rfl | rfl := h c rfl <;> rfl

theorem Ends.readExponent (h : Ends rest) : readExponent rest = (none, rest) := by
  cases rest with
  | nil => rfl
  | cons c rest => obtain rfl | rfl | rfl := h c rfl <;> rfl

theorem readDigits_eq (n : Nat) (ds : List Char) : readDigits n ds = Nat.ofDigitChars 10 ds n := by
  rw [readDigits, Nat.ofDigitChars]
  congr 1
  funext m c
  rw [Nat.mul_comm]

theorem readDigits_toDigits (n : Nat) : readDigits 0 (Nat.toDigits 10 n) = n := by
  rw [readDigits_eq, Nat.ofDigitChars_ten_toDigits]

/-- A whole part does not start with a sign. -/
theorem IsWholePart.not_minus (hds : IsWholePart ds) (body : List Char) :
    ds ++ rest = '-' :: body → False := by
  intro h
  obtain ⟨hdigits, hne, -⟩ := hds
  cases ds with
  | nil => exact hne rfl
  | cons c ds =>
    obtain rfl : c = '-' := (List.cons.inj h).1
    exact absurd (hdigits '-' (by simp)) (by decide)

/-- A whole number, and what follows it. -/
theorem number?_whole (hds : IsWholePart ds) (hrest : Ends rest) :
    number? (ds ++ rest) = some (.int (readDigits 0 ds), rest) := by
  rw [number?]
  · rw [readWhole_append hds hrest.not_isDigit, Option.map_some]
    dsimp only
    rw [hrest.readFraction]
    dsimp only
    rw [hrest.readExponent]
    rfl
  · exact hds.not_minus

theorem number?_negative (hds : IsWholePart ds) (hrest : Ends rest) :
    number? ('-' :: (ds ++ rest)) = some (.int (-readDigits 0 ds), rest) := by
  rw [number?, readWhole_append hds hrest.not_isDigit, Option.map_some]
  dsimp only
  rw [hrest.readFraction]
  dsimp only
  rw [hrest.readExponent]
  rfl

/-- A number with digits after the point, and what follows it. -/
theorem number?_fraction (hds : IsWholePart ds) (hfs : ∀ c ∈ fs, c.isDigit = true) (hne : fs ≠ [])
    (hrest : Ends rest) : number? (ds ++ '.' :: (fs ++ rest)) =
      some (.float (Decimal.ofDecimal false (readDigits (readDigits 0 ds) fs) (0 - fs.length)),
        rest) := by
  have hfraction : readFraction ('.' :: (fs ++ rest)) = (some fs, rest) := by
    have hspan := spanDigits_append hfs hrest.not_isDigit
    cases fs with
    | nil => exact absurd rfl hne
    | cons c fs =>
      rw [List.cons_append] at hspan ⊢
      rw [readFraction, if_pos (hfs c (by simp)), hspan]
  rw [number?]
  · rw [readWhole_append hds (by simp), Option.map_some]
    dsimp only
    rw [hfraction]
    dsimp only
    rw [hrest.readExponent]
    rfl
  · exact hds.not_minus

end Number

/-! ### Words and numbers as documents -/

/-- A word is no number. -/
theorem number?_of_word? {s : List Char} {r : Json × List Char} (h : word? s = some r) :
    number? s = none := by
  unfold word? at h
  split at h
  · rfl
  · rfl
  · rfl
  · rfl
  · rfl
  · rfl
  · simp at h

theorem value_of_word? {fuel : Nat} {s : List Char} {r : Json × List Char} (h : word? s = some r) :
    value (fuel + 1) s = .ok r := by
  rw [value]
  · rw [h]
  all_goals
    rintro rest rfl
    simp [word?] at h

theorem value_of_number? {fuel : Nat} {s : List Char} {r : Json × List Char}
    (h : number? s = some r) : value (fuel + 1) s = .ok r := by
  rw [value]
  · cases hword : word? s with
    | some r' => simp [number?_of_word? hword] at h
    | none => rw [h]
  all_goals
    rintro rest rfl
    simp [number?, readWhole] at h

/-- **Whole numbers are read back.** -/
theorem number?_toString (n : Int) {rest : List Char} (h : Ends rest) :
    number? ((toString n).toList ++ rest) = some (.int n, rest) := by
  cases n with
  | ofNat n =>
    have hread := number?_whole (isWholePart_toDigits n) h
    rw [readDigits_toDigits] at hread
    rw [Int.toString_eq_repr]
    show number? (n.repr.toList ++ rest) = _
    rw [Nat.toList_repr]
    exact hread
  | negSucc n =>
    have hread := number?_negative (isWholePart_toDigits (n + 1)) h
    rw [readDigits_toDigits] at hread
    rw [Int.toString_eq_repr]
    show number? (("-" ++ (n + 1).repr).toList ++ rest) = _
    rw [String.toList_append, Nat.toList_repr, List.append_assoc]
    exact hread

/-- Nothing that can be read starts with white space, a byte order mark or a closing bracket. -/
theorem eq_of_value {fuel : Nat} {s : List Char} {r : Json × List Char}
    (h : value (fuel + 1) s = .ok r) :
    skip s = s ∧ (∀ rest, s ≠ '\uFEFF' :: rest) ∧ ∀ rest, s ≠ ']' :: rest := by
  have hno : ∀ c rest, c ∈ [' ', '\t', '\n', '\r', '\uFEFF', ']'] → s ≠ c :: rest := by
    rintro c rest hc rfl
    simp only [List.mem_cons, List.not_mem_nil, or_false] at hc
    obtain rfl | rfl | rfl | rfl | rfl | rfl := hc <;> simp [value, word?, number?, readWhole] at h
  refine ⟨?_, fun rest => hno _ rest (by simp), fun rest => hno _ rest (by simp)⟩
  cases s with
  | nil => rfl
  | cons c s =>
    have hc : isSpace c = false := by
      refine eq_false_of_ne_true fun hspace => ?_
      simp only [isSpace, Bool.or_eq_true, beq_iff_eq] at hspace
      exact hno c s (by simp; tauto) rfl
    simp [skip, hc]

/-! ### Lists and objects -/

/-- Texts with commas between them and a mark after the last. -/
def joined (close : Char) : List (List Char) → List Char
  | [] => [close]
  | [t] => t ++ [close]
  | t :: t' :: rest => t ++ ',' :: ' ' :: joined close (t' :: rest)

theorem toList_intercalate_append (close : Char) (ts : List String) :
    (", ".intercalate ts).toList ++ [close] = joined close (ts.map String.toList) := by
  rw [String.toList_intercalate]
  induction ts with
  | nil => rfl
  | cons t ts ih =>
    cases ts with
    | nil => simp [joined]
    | cons t' ts =>
      rw [List.map_cons, List.map_cons, joined, ← List.map_cons, ← ih]
      simp

/-- The characters of a document on one line. -/
def chars (j : Json) : List Char := j.compact.toList

/-- The characters of a field. -/
def fieldChars (f : String × Json) : List Char := (quote f.1).toList ++ ':' :: ' ' :: f.2.chars

theorem chars_str (s : String) :
    (Json.str s).chars = '"' :: (s.toList.flatMap escapeAscii ++ ['"']) := by
  rw [chars, compact, scalar, quote, String.toList_ofList]
  · rfl
  all_goals simp

theorem chars_arr (items : List Json) :
    (Json.arr items).chars = '[' :: joined ']' (items.map chars) := by
  have hitems : ∀ items, compactItems items = items.map compact := by
    intro items
    induction items with
    | nil => rfl
    | cons j rest ih => rw [compactItems, ih, List.map_cons]
  rw [chars, compact, String.toList_append, String.toList_append, List.append_assoc]
  have hjoined := toList_intercalate_append ']' (items.map compact)
  rw [List.map_map] at hjoined
  rw [hitems]
  exact congrArg _ hjoined

theorem chars_obj (fields : List (String × Json)) :
    (Json.obj fields).chars = '\x7b' :: joined '\x7d' (fields.map fieldChars) := by
  have hfields : ∀ fields, (compactFields fields).map String.toList = fields.map fieldChars := by
    intro fields
    induction fields with
    | nil => rfl
    | cons f rest ih =>
      obtain ⟨name, v⟩ := f
      rw [compactFields, List.map_cons, ih, List.map_cons, fieldChars, String.toList_append,
        String.toList_append, List.append_assoc]
      rfl
  rw [chars, compact, String.toList_append, String.toList_append, List.append_assoc, ← hfields]
  exact congrArg _ (toList_intercalate_append '\x7d' (compactFields fields))

/-- The first text is followed by something that ends it. -/
theorem joined_cons {close : Char} (h : close = ']' ∨ close = '\x7d') (t : List Char)
    (ts : List (List Char)) (rest : List Char) :
    ∃ tail, joined close (t :: ts) ++ rest = t ++ tail ∧ Ends tail := by
  cases ts with
  | nil => exact ⟨close :: rest, by simp [joined], .cons (.inr h) rest⟩
  | cons t' ts =>
    exact ⟨',' :: ' ' :: (joined close (t' :: ts) ++ rest), by simp [joined], .cons (.inl rfl) _⟩

/-- The first of several fields starts with the quote of its name. -/
theorem joined_fieldChars (f : String × Json) (ts : List (List Char)) (rest : List Char) :
    ∃ tail, joined '\x7d' (fieldChars f :: ts) ++ rest = '"' :: tail := by
  obtain ⟨tail, htail, -⟩ := joined_cons (.inr rfl) (fieldChars f) ts rest
  rw [htail]
  exact ⟨_, by simp [fieldChars, quote]; rfl⟩

theorem not_mem_of_nodup {f : String × Json} {done fs : List (String × Json)}
    (h : ((done ++ f :: fs).map Prod.fst).Nodup) : f.1 ∉ done.map Prod.fst := by
  rw [List.map_append] at h
  intro hmem
  exact (List.nodup_append.mp h).2.2 _ hmem f.1 (by simp) rfl

theorem setField_of_not_mem {name : String} {v : Json} {done : List (String × Json)}
    (h : name ∉ done.map Prod.fst) : setField name v done = done ++ [(name, v)] := by
  induction done with
  | nil => rfl
  | cons f rest ih =>
    obtain ⟨n, w⟩ := f
    rw [List.map_cons, List.mem_cons, not_or] at h
    rw [setField, if_neg (Ne.symm h.1), ih h.2, List.cons_append]

/-! ### Documents -/

/-- A document that is read back from its characters, whatever ends them. -/
def ReadsBack (j : Json) : Prop := ∀ ⦃fuel : Nat⦄ ⦃rest : List Char⦄,
  2 * j.chars.length + 1 ≤ fuel → Ends rest → value fuel (j.chars ++ rest) = .ok (j, rest)

theorem ReadsBack.intro {j : Json} (h : ∀ fuel rest, 2 * j.chars.length ≤ fuel → Ends rest →
    value (fuel + 1) (j.chars ++ rest) = .ok (j, rest)) : j.ReadsBack := by
  intro fuel rest hfuel hrest
  obtain ⟨fuel, rfl⟩ : ∃ g, fuel = g + 1 := ⟨fuel - 1, by omega⟩
  exact h fuel rest (by omega) hrest

/-- The first of several documents is found where they begin. -/
theorem ReadsBack.joined {j : Json} (h : j.ReadsBack) (ts : List (List Char)) (rest : List Char) :
    skip (joined ']' (j.chars :: ts) ++ rest) = joined ']' (j.chars :: ts) ++ rest ∧
    ∀ rest', joined ']' (j.chars :: ts) ++ rest ≠ ']' :: rest' := by
  obtain ⟨tail, htail, hends⟩ := joined_cons (.inl rfl) j.chars ts rest
  rw [htail]
  have hread := eq_of_value (h le_rfl hends)
  exact ⟨hread.1, hread.2.2⟩

/-- One item, and what is read after it. -/
theorem ReadsBack.item {j : Json} (h : j.ReadsBack) {fuel : Nat} {done : List Json}
    {tail : List Char} (hfuel : 2 * j.chars.length + 1 ≤ fuel) (htail : Ends tail) :
    items (fuel + 1) done (j.chars ++ tail) = match skip tail with
      | ']' :: rest => .ok (.arr (j :: done).reverse, rest)
      | ',' :: rest => items fuel (j :: done) (skip rest)
      | rest => .error (.expectingComma, rest) := by
  rw [items, h hfuel htail]
  rfl

/-- One field, and what is read after it. -/
theorem ReadsBack.field {f : String × Json} (h : f.2.ReadsBack) {fuel : Nat}
    {done : List (String × Json)} {tail : List Char} (hfuel : 2 * f.2.chars.length + 1 ≤ fuel)
    (htail : Ends tail) (hname : f.1 ∉ done.map Prod.fst) :
    fields (fuel + 1) done (fieldChars f ++ tail) = match skip tail with
      | '\x7d' :: rest => .ok (.obj (done ++ [f]), rest)
      | ',' :: rest => fields fuel (done ++ [f]) (skip rest)
      | rest => .error (.expectingComma, rest) := by
  obtain ⟨name, v⟩ := f
  have hchars : fieldChars (name, v) ++ tail
      = '"' :: (name.toList.flatMap escapeAscii ++ '"' :: ':' :: ' ' :: (v.chars ++ tail)) := by
    simp [fieldChars, quote]
  have hskip : skip (' ' :: (v.chars ++ tail)) = v.chars ++ tail := (eq_of_value (h le_rfl htail)).1
  rw [hchars, fields, readString_escaped, List.reverse_nil, List.nil_append, String.ofList_toList]
  show (value fuel (skip (' ' :: (v.chars ++ tail))) >>= _) = _
  rw [hskip, h hfuel htail, ← setField_of_not_mem hname]
  rfl

/-- The items of a list after those read so far. -/
theorem items_joined {j : Json} {js : List Json} (h : ∀ i ∈ j :: js, i.ReadsBack) {fuel : Nat}
    {done : List Json} {rest : List Char}
    (hfuel : 2 * (joined ']' (j.chars :: js.map chars)).length + 2 ≤ fuel) :
    items fuel done (joined ']' (j.chars :: js.map chars) ++ rest)
      = .ok (.arr (done.reverse ++ j :: js), rest) := by
  induction js generalizing j fuel done with
  | nil =>
    obtain ⟨fuel, rfl⟩ : ∃ g, fuel = g + 1 := ⟨fuel - 1, by omega⟩
    rw [List.map_nil, joined, List.length_append] at hfuel
    rw [List.map_nil, joined, List.append_assoc, List.singleton_append,
      (h j (by simp)).item (by omega) (.cons (by simp) rest)]
    simp [skip, isSpace]
  | cons j' js ih =>
    obtain ⟨fuel, rfl⟩ : ∃ g, fuel = g + 1 := ⟨fuel - 1, by omega⟩
    rw [List.forall_mem_cons] at h
    rw [List.map_cons, joined, List.length_append, List.length_cons, List.length_cons] at hfuel
    have hskip := ((h.2 j' (by simp)).joined (js.map chars) rest).1
    rw [List.map_cons, joined, List.append_assoc, List.cons_append, List.cons_append,
      h.1.item (by omega) (.cons (by simp) _)]
    show items fuel (j :: done) (skip (joined ']' (j'.chars :: js.map chars) ++ rest)) = _
    rw [hskip, ih h.2 (by omega)]
    simp

/-- The fields of an object after those read so far. -/
theorem fields_joined {f : String × Json} {fs : List (String × Json)}
    (h : ∀ g ∈ f :: fs, g.2.ReadsBack) {fuel : Nat} {done : List (String × Json)}
    {rest : List Char} (hnames : ((done ++ f :: fs).map Prod.fst).Nodup)
    (hfuel : 2 * (joined '\x7d' (fieldChars f :: fs.map fieldChars)).length + 2 ≤ fuel) :
    fields fuel done (joined '\x7d' (fieldChars f :: fs.map fieldChars) ++ rest)
      = .ok (.obj (done ++ f :: fs), rest) := by
  have hlength : ∀ g : String × Json, g.2.chars.length ≤ (fieldChars g).length := by
    intro g
    rw [fieldChars, List.length_append, List.length_cons, List.length_cons]
    omega
  induction fs generalizing f fuel done with
  | nil =>
    obtain ⟨fuel, rfl⟩ : ∃ g, fuel = g + 1 := ⟨fuel - 1, by omega⟩
    have hf := hlength f
    rw [List.map_nil, joined, List.length_append] at hfuel
    rw [List.map_nil, joined, List.append_assoc, List.singleton_append,
      (h f (by simp)).field (by omega) (.cons (by simp) rest) (not_mem_of_nodup hnames)]
    simp [skip, isSpace]
  | cons f' fs ih =>
    obtain ⟨fuel, rfl⟩ : ∃ g, fuel = g + 1 := ⟨fuel - 1, by omega⟩
    have hf := hlength f
    rw [List.forall_mem_cons] at h
    rw [List.map_cons, joined, List.length_append, List.length_cons, List.length_cons] at hfuel
    obtain ⟨tail, htail⟩ := joined_fieldChars f' (fs.map fieldChars) rest
    have hrest : fields fuel (done ++ [f])
          (joined '\x7d' (fieldChars f' :: fs.map fieldChars) ++ rest)
        = .ok (.obj (done ++ [f] ++ f' :: fs), rest) :=
      ih h.2 (by simpa using hnames) (by omega)
    rw [List.map_cons, joined, List.append_assoc, List.cons_append, List.cons_append,
      h.1.field (by omega) (.cons (by simp) _) (not_mem_of_nodup hnames)]
    rw [htail] at hrest ⊢
    show fields fuel (done ++ [f]) ('"' :: tail) = _
    rw [hrest]
    simp

/-- **A document that can be written**: its doubles read back, and no object gives a field twice. -/
inductive IsWritable : Json → Prop where
  | null : IsWritable .null
  | bool (b : Bool) : IsWritable (.bool b)
  | int (n : Int) : IsWritable (.int n)
  | str (s : String) : IsWritable (.str s)
  | float {x : Float} : ReadsBack (.float x) → IsWritable (.float x)
  | arr {items : List Json} : (∀ i ∈ items, IsWritable i) → IsWritable (.arr items)
  | obj {fields : List (String × Json)} : (fields.map Prod.fst).Nodup →
      (∀ f ∈ fields, IsWritable f.2) → IsWritable (.obj fields)

/-- **A document that is written is read back**, and what follows it is left. -/
theorem IsWritable.readsBack {j : Json} (h : j.IsWritable) : j.ReadsBack := by
  induction h with
  | null => exact .intro fun _ _ _ _ => value_of_word? rfl
  | bool b => cases b <;> exact .intro fun _ _ _ _ => value_of_word? rfl
  | int n => exact .intro fun _ _ _ hrest => value_of_number? (number?_toString n hrest)
  | str s =>
    refine .intro fun fuel rest _ _ => ?_
    rw [chars_str, List.cons_append, List.append_assoc, value, List.singleton_append,
      readString_escaped, List.reverse_nil, List.nil_append, String.ofList_toList]
    rfl
  | float h => exact h
  | @arr items _ ih =>
    refine .intro fun fuel rest hfuel _ => ?_
    rw [chars_arr] at hfuel ⊢
    cases items with
    | nil => rfl
    | cons j js =>
      rw [List.map_cons, List.length_cons] at hfuel
      obtain ⟨hskip, hclose⟩ := (ih j (by simp)).joined (js.map chars) rest
      rw [List.map_cons, List.cons_append, value, hskip]
      split
      · next heq => exact absurd heq (hclose _)
      · exact items_joined ih (by omega)
  | @obj fields hnames _ ih =>
    refine .intro fun fuel rest hfuel _ => ?_
    rw [chars_obj] at hfuel ⊢
    cases fields with
    | nil => rfl
    | cons f fs =>
      rw [List.map_cons, List.length_cons] at hfuel
      obtain ⟨tail, htail⟩ := joined_fieldChars f (fs.map fieldChars) rest
      have hread : Json.fields fuel [] (joined '\x7d' (fieldChars f :: fs.map fieldChars) ++ rest)
          = .ok (.obj (f :: fs), rest) := fields_joined ih hnames (by omega)
      rw [htail] at hread
      rw [List.map_cons, List.cons_append, htail]
      exact hread

/-- **Reading is the inverse of writing**, for every document that can be written. -/
theorem parse_compact {j : Json} (h : j.IsWritable) : Json.parse j.compact = .ok j := by
  have hread : value (2 * j.chars.length + 1) (j.chars ++ []) = .ok (j, []) :=
    h.readsBack le_rfl (by simp [Ends])
  rw [List.append_nil] at hread
  obtain ⟨hskip, hmark, -⟩ := eq_of_value hread
  unfold Json.parse
  rw [← chars]
  dsimp only
  split
  · next heq => exact absurd heq (hmark _)
  · rw [hskip, hread]
    rfl

/-! ### Doubles with digits after the point -/

/-- A double whose text has digits after the point, which are read as that double. -/
theorem ReadsBack.of_fraction {x : Float} (ds fs : List Char)
    (hchars : (Json.float x).chars = ds ++ '.' :: fs) (hds : IsWholePart ds)
    (hfs : ∀ c ∈ fs, c.isDigit = true) (hne : fs ≠ [])
    (hx : Decimal.ofDecimal false (readDigits (readDigits 0 ds) fs) (0 - fs.length) = x) :
    (Json.float x).ReadsBack := by
  refine .intro fun fuel rest _ hrest => value_of_number? ?_
  rw [hchars, List.append_assoc, List.cons_append, number?_fraction hds hfs hne hrest, hx]

theorem isWritable_zero : (Json.float 0).IsWritable :=
  .float (.of_fraction ['0'] ['0'] (by decide +kernel) (isWholePart_toDigits 0)
    (by simp) (by simp) rfl)

theorem isWritable_one : (Json.float 1).IsWritable :=
  .float (.of_fraction ['1'] ['0'] (by decide +kernel) (isWholePart_toDigits 1)
    (by simp) (by simp) rfl)

/-! ### Written texts are printable ASCII -/

/-- A printable character of ASCII. -/
def IsAscii (c : Char) : Prop := 0x20 ≤ c.toNat ∧ c.toNat < 0x7F

instance (c : Char) : Decidable (IsAscii c) := inferInstanceAs (Decidable (_ ∧ _))

-- for a fixed text: the test goes through its characters, never through all that there are
theorem isAscii_of_all {s : List Char} (h : s.all (fun c => decide (IsAscii c)) = true) :
    ∀ c ∈ s, IsAscii c := by
  simpa using h

theorem isAscii_of_isDigit {c : Char} (h : c.isDigit = true) : IsAscii c := by
  simp only [Char.isDigit, Bool.and_eq_true, decide_eq_true_eq, UInt32.le_iff_toNat_le] at h
  have hlow : 48 ≤ c.toNat := h.1
  have hhigh : c.toNat ≤ 57 := h.2
  exact ⟨by omega, by omega⟩

theorem isAscii_toDigits (n : Nat) : ∀ c ∈ Nat.toDigits 10 n, IsAscii c :=
  fun c hc => isAscii_of_isDigit ((isWholePart_toDigits n).digits c hc)

theorem isAscii_zeros (n : Nat) : ∀ c ∈ Decimal.zeros n, IsAscii c := by
  intro c hc
  rw [List.eq_of_mem_replicate hc]
  decide

theorem isAscii_digitChar {n : Nat} (h : n < 16) : IsAscii n.digitChar := by
  interval_cases n <;> decide

theorem isAscii_unitEscape {n : Nat} (h : n < 0x10000) : ∀ c ∈ unitEscape n, IsAscii c := by
  rw [unitEscape, hexPadded_four h]
  simp only [List.forall_mem_cons, List.not_mem_nil, false_implies, implies_true, and_true]
  exact ⟨by decide, by decide, isAscii_digitChar (by omega), isAscii_digitChar (by omega),
    isAscii_digitChar (by omega), isAscii_digitChar (by omega)⟩

theorem isAscii_escapeAscii (c : Char) : ∀ e ∈ escapeAscii c, IsAscii e := by
  have hvalid : c.toNat < 0xD800 ∨ 0xDFFF < c.toNat ∧ c.toNat < 0x110000 := c.valid
  unfold escapeAscii
  split_ifs with hmark hn hr ht hf hb hplain hunit
  · obtain rfl | rfl := hmark <;> exact isAscii_of_all (by decide)
  · exact isAscii_of_all (by decide)
  · exact isAscii_of_all (by decide)
  · exact isAscii_of_all (by decide)
  · exact isAscii_of_all (by decide)
  · exact isAscii_of_all (by decide)
  · simp only [List.mem_singleton, forall_eq]
    exact hplain
  · exact isAscii_unitEscape hunit
  · rw [List.forall_mem_append]
    exact ⟨isAscii_unitEscape (by omega), isAscii_unitEscape (by omega)⟩

theorem isAscii_joined {close : Char} (hclose : IsAscii close) {ts : List (List Char)}
    (h : ∀ t ∈ ts, ∀ c ∈ t, IsAscii c) : ∀ c ∈ joined close ts, IsAscii c := by
  induction ts with
  | nil => simpa [joined] using hclose
  | cons t ts ih =>
    rw [List.forall_mem_cons] at h
    cases ts with
    | nil =>
      rw [joined, List.forall_mem_append]
      exact ⟨h.1, by simpa using hclose⟩
    | cons t' ts =>
      rw [joined, List.forall_mem_append, List.forall_mem_cons, List.forall_mem_cons]
      exact ⟨h.1, by decide, by decide, ih h.2⟩

theorem isAscii_positional {ds : List Char} (h : ∀ c ∈ ds, IsAscii c) (point : Int) :
    ∀ c ∈ textLayout.positional ds point, IsAscii c := by
  unfold Decimal.Layout.positional
  split_ifs with hsmall hwhole
  · rw [List.forall_mem_cons, List.forall_mem_cons, List.forall_mem_append]
    exact ⟨by decide, by decide, isAscii_zeros _, h⟩
  · rw [List.forall_mem_append, List.forall_mem_append]
    exact ⟨⟨h, isAscii_zeros _⟩, isAscii_of_all (by decide)⟩
  · rw [List.forall_mem_append, List.forall_mem_cons]
    exact ⟨fun c hc => h c (List.mem_of_mem_take hc), by decide,
      fun c hc => h c (List.mem_of_mem_drop hc)⟩

theorem isAscii_scientific {ds : List Char} (h : ∀ c ∈ ds, IsAscii c) (exponent : Int) :
    ∀ c ∈ textLayout.scientific ds exponent, IsAscii c := by
  have hdrop : ∀ c ∈ ds.drop 1, IsAscii c := fun c hc => h c (List.mem_of_mem_drop hc)
  have hsign : IsAscii (if exponent < 0 then '-' else '+') := by split <;> decide
  rw [Decimal.Layout.scientific, List.forall_mem_append, List.forall_mem_append,
    List.forall_mem_cons, List.forall_mem_cons, List.forall_mem_append]
  refine ⟨⟨fun c hc => h c (List.mem_of_mem_take hc), ?_⟩, by decide, hsign,
    isAscii_zeros _, isAscii_toDigits _⟩
  split
  · simp
  · exact List.forall_mem_cons.mpr ⟨by decide, hdrop⟩

theorem isAscii_ofDigits (d : Decimal.Digits) : ∀ c ∈ textLayout.ofDigits d, IsAscii c := by
  unfold Decimal.Layout.ofDigits
  dsimp only
  split
  · exact isAscii_positional (isAscii_toDigits _) _
  · exact isAscii_scientific (isAscii_toDigits _) _

theorem isAscii_write (x : Float) : ∀ c ∈ (textLayout.write x).toList, IsAscii c := by
  unfold Decimal.Layout.write
  split
  · exact isAscii_of_all (by decide)
  · split <;> exact isAscii_of_all (by decide)
  · rw [String.toList_ofList, List.forall_mem_append]
    exact ⟨by split <;> exact isAscii_of_all (by decide), isAscii_ofDigits _⟩

theorem isAscii_toString (n : Int) : ∀ c ∈ (toString n).toList, IsAscii c := by
  rw [Int.toString_eq_repr]
  cases n with
  | ofNat n =>
    show ∀ c ∈ n.repr.toList, IsAscii c
    rw [Nat.toList_repr]
    exact isAscii_toDigits n
  | negSucc n =>
    show ∀ c ∈ ("-" ++ (n + 1).repr).toList, IsAscii c
    rw [String.toList_append, Nat.toList_repr, List.forall_mem_append]
    exact ⟨isAscii_of_all (by decide), isAscii_toDigits (n + 1)⟩

theorem isAscii_chars_str (s : String) : ∀ c ∈ (Json.str s).chars, IsAscii c := by
  rw [chars_str, List.forall_mem_cons, List.forall_mem_append]
  refine ⟨by decide, fun c hc => ?_, isAscii_of_all (by decide)⟩
  obtain ⟨c', -, hc'⟩ := List.mem_flatMap.mp hc
  exact isAscii_escapeAscii c' c hc'

/-- **A document is written in printable ASCII.** -/
theorem isAscii_chars : ∀ j : Json, ∀ c ∈ j.chars, IsAscii c
  | .null => isAscii_of_all (by decide)
  | .bool true => isAscii_of_all (by decide)
  | .bool false => isAscii_of_all (by decide)
  | .int n => isAscii_toString n
  | .float x => isAscii_write x
  | .str s => isAscii_chars_str s
  | .arr items => by
    rw [chars_arr, List.forall_mem_cons]
    refine ⟨by decide, isAscii_joined (by decide) fun t ht => ?_⟩
    obtain ⟨i, hi, rfl⟩ := List.mem_map.mp ht
    exact isAscii_chars i
  | .obj fields => by
    rw [chars_obj, List.forall_mem_cons]
    refine ⟨by decide, isAscii_joined (by decide) fun t ht => ?_⟩
    obtain ⟨⟨name, v⟩, hf, rfl⟩ := List.mem_map.mp ht
    rw [fieldChars, List.forall_mem_append, List.forall_mem_cons, List.forall_mem_cons]
    exact ⟨isAscii_chars_str name, by decide, by decide, isAscii_chars v⟩
termination_by j => sizeOf j
decreasing_by
  · have := List.sizeOf_lt_of_mem hi
    simp
    omega
  · have := List.sizeOf_lt_of_mem hf
    simp at this ⊢
    omega

end SceneLang.Json
