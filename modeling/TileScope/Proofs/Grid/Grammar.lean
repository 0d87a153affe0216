import TileScope.Proofs.Grid.Key
import TileScope.Proofs.Grid.Notation
import TileScope.Proofs.Text.Blank
import TileScope.Proofs.Text.Numeral

/-!
# What is read as a key

A text names a tile if three numbers stand in it with slashes between them and blanks around
(`Named`), and the grid has their tile. All other texts are refused, each for one reason
(`TileKey.Refused`):

| text | refused as |
| --- | --- |
| no three numbers, or one too large for its word | malformed |
| three numbers, a zoom above 30 | zoom |
| three numbers, a column or a row off the grid of the zoom | off the grid |

Reading is exact in both directions, and takes back the written form of a key
(`TileKey.parse_exact`).
-/

namespace TileScope

open Text

/-- Three numbers with slashes between them and blanks around. -/
inductive Named (zoom x y : Nat) : List Char → Prop
  | mk {front zs xs ys back : List Char} (hfront : ∀ c ∈ front, isBlank c = true)
    (hzoom : Numeral zoom zs) (hx : Numeral x xs) (hy : Numeral y ys)
    (hback : ∀ c ∈ back, isBlank c = true) :
    Named zoom x y (front ++ (zs ++ '/' :: (xs ++ '/' :: ys)) ++ back)

/-- Three numbers stand in a text just if they are its pieces at the slashes. -/
theorem named_iff {zoom x y : Nat} {cs : List Char} : Named zoom x y cs ↔
    ∃ zs xs ys, pieces '/' (trimChars cs) = [zs, xs, ys] ∧
      Numeral zoom zs ∧ Numeral x xs ∧ Numeral y ys := by
  constructor
  · rintro ⟨hfront, hzoom, hx, hy, hback⟩
    rename_i front zs xs ys back
    have hblank : ∀ c ∈ zs ++ '/' :: (xs ++ '/' :: ys), isBlank c = false := by
      intro c hc
      simp only [List.mem_append, List.mem_cons] at hc
      rcases hc with hc | rfl | hc | rfl | hc
      · exact (hzoom.of_mem hc).1
      · decide
      · exact (hx.of_mem hc).1
      · decide
      · exact (hy.of_mem hc).1
    have hslash {n : Nat} {ds : List Char} (h : Numeral n ds) : '/' ∉ ds := fun hmem =>
      (h.of_mem hmem).2 rfl
    refine ⟨zs, xs, ys, ?_, hzoom, hx, hy⟩
    rw [trimChars_append hfront hback (fun c hc => hblank c (List.mem_of_mem_head? hc))
        (fun c hc => hblank c (List.mem_of_mem_getLast? hc)),
      pieces_append (hslash hzoom), pieces_append (hslash hx), pieces_of_not_mem (hslash hy)]
  · rintro ⟨zs, xs, ys, hpieces, hzoom, hx, hy⟩
    obtain ⟨front, back, hcs, hfront, hback⟩ := exists_trimChars cs
    rw [← joined_pieces '/' (trimChars cs), hpieces] at hcs
    rw [hcs]
    exact .mk hfront hzoom hx hy hback

namespace TileKey

variable {text : String} {k : TileKey} {e : AddressError}

/-- Why a text is not read as a key. -/
inductive Refused (text : String) : AddressError → Prop
  | malformed (h : ∀ zoom x y : Nat, Named zoom x y text.toList →
      ¬(zoom < 2 ^ 8 ∧ x < 2 ^ 32 ∧ y < 2 ^ 32)) : Refused text (.malformed text)
  | zoom {zoom : UInt8} {x y : UInt32} (h : Named zoom.toNat x.toNat y.toNat text.toList)
    (hzoom : 30 < zoom.toNat) : Refused text (.zoom zoom)
  | offGrid {zoom : UInt8} {x y : UInt32} (h : Named zoom.toNat x.toNat y.toNat text.toList)
    (hzoom : zoom.toNat ≤ 30) (hoff : ¬(x.toNat < 2 ^ zoom.toNat ∧ y.toNat < 2 ^ zoom.toNat)) :
    Refused text (.offGrid zoom x y)

/-- Three numbers in a text are read, and then it is the grid that decides. -/
theorem parse_of_named {zoom : UInt8} {x y : UInt32}
    (h : Named zoom.toNat x.toNat y.toNat text.toList) : parse text = make? zoom x y := by
  obtain ⟨zs, xs, ys, hpieces, hzoom, hx, hy⟩ := named_iff.1 h
  rw [parse, hpieces]
  dsimp only
  rw [unsigned?_eq_some_iff.2 ⟨hzoom, zoom.toNat_lt⟩, unsigned?_eq_some_iff.2 ⟨hx, x.toNat_lt⟩,
    unsigned?_eq_some_iff.2 ⟨hy, y.toNat_lt⟩]
  simp

/-- Numbers below the bounds of the words are those of words. -/
theorem exists_words {zoom x y : Nat} (hzoom : zoom < 2 ^ 8) (hx : x < 2 ^ 32) (hy : y < 2 ^ 32) :
    ∃ (z : UInt8) (c r : UInt32), z.toNat = zoom ∧ c.toNat = x ∧ r.toNat = y :=
  ⟨zoom.toUInt8, x.toUInt32, y.toUInt32, UInt8.toNat_ofNat_of_lt' hzoom,
    UInt32.toNat_ofNat_of_lt' hx, UInt32.toNat_ofNat_of_lt' hy⟩

/-- Three numbers that are words stand in a text, or it is malformed. -/
theorem exists_named_or_malformed (text : String) :
    (∃ (zoom : UInt8) (x y : UInt32), Named zoom.toNat x.toNat y.toNat text.toList) ∨
      parse text = .error (.malformed text) := by
  rw [parse]
  split
  · next zs xs ys hpieces =>
    split
    · next zoom x y hz hx hy =>
      obtain ⟨hz, hzoom⟩ := unsigned?_eq_some_iff.1 hz
      obtain ⟨hx, hcolumn⟩ := unsigned?_eq_some_iff.1 hx
      obtain ⟨hy, hrow⟩ := unsigned?_eq_some_iff.1 hy
      obtain ⟨z, c, r, rfl, rfl, rfl⟩ := exists_words hzoom hcolumn hrow
      exact .inl ⟨z, c, r, named_iff.2 ⟨zs, xs, ys, hpieces, hz, hx, hy⟩⟩
    · exact .inr rfl
  · exact .inr rfl

/-- A text that names no three numbers in range is malformed. -/
theorem parse_eq_malformed (h : ∀ zoom x y : Nat, Named zoom x y text.toList →
    ¬(zoom < 2 ^ 8 ∧ x < 2 ^ 32 ∧ y < 2 ^ 32)) : parse text = .error (.malformed text) := by
  rcases exists_named_or_malformed text with ⟨zoom, x, y, hnamed⟩ | h'
  · exact absurd ⟨zoom.toNat_lt, x.toNat_lt, y.toNat_lt⟩ (h _ _ _ hnamed)
  · exact h'

/-- A key is parsed from the texts that name its numbers. -/
theorem parse_eq_ok_iff :
    parse text = .ok k ↔ Named k.zoom.toNat k.x.toNat k.y.toNat text.toList := by
  constructor
  · intro h
    rcases exists_named_or_malformed text with ⟨zoom, x, y, hnamed⟩ | hmalformed
    · rw [parse_of_named hnamed] at h
      obtain ⟨rfl, rfl, rfl⟩ := make?_eq_ok_iff.1 h
      exact hnamed
    · rw [hmalformed] at h
      cases h
  · intro h
    rw [parse_of_named h, make?_self]

/-- A text is refused with the error that it is refused with by the grammar. -/
theorem parse_eq_error_iff : parse text = .error e ↔ Refused text e := by
  constructor
  · intro h
    by_cases hnamed : ∃ (zoom : UInt8) (x y : UInt32),
        Named zoom.toNat x.toNat y.toNat text.toList
    · obtain ⟨zoom, x, y, hnamed⟩ := hnamed
      rw [parse_of_named hnamed, make?_eq_error_iff] at h
      rcases h with ⟨hzoom, rfl⟩ | ⟨hzoom, hoff, rfl⟩
      · exact .zoom hnamed hzoom
      · exact .offGrid hnamed hzoom hoff
    · have hnone : ∀ zoom x y : Nat, Named zoom x y text.toList →
          ¬(zoom < 2 ^ 8 ∧ x < 2 ^ 32 ∧ y < 2 ^ 32) := by
        rintro zoom x y h ⟨hzoom, hx, hy⟩
        obtain ⟨z, c, r, rfl, rfl, rfl⟩ := exists_words hzoom hx hy
        exact hnamed ⟨z, c, r, h⟩
      rw [parse_eq_malformed hnone] at h
      cases h
      exact .malformed hnone
  · rintro (h | ⟨h, hzoom⟩ | ⟨h, hzoom, hoff⟩)
    · exact parse_eq_malformed h
    · rw [parse_of_named h, make?_eq_error_iff]
      exact .inl ⟨hzoom, rfl⟩
    · rw [parse_of_named h, make?_eq_error_iff]
      exact .inr ⟨hzoom, hoff, rfl⟩

/-- The written form of a key with something around, and zeros in front of its numbers. -/
def padded (k : TileKey) (front : List Char) (zeros : Nat × Nat × Nat) (back : List Char) :
    String :=
  let number (zeros n : Nat) := List.replicate zeros '0' ++ Nat.toDigits 10 n
  .ofList (front ++ (number zeros.1 k.zoom.toNat ++ '/' ::
    (number zeros.2.1 k.x.toNat ++ '/' :: number zeros.2.2 k.y.toNat)) ++ back)

/-- Without blanks and zeros a padded key is the rendered one. -/
theorem padded_nil (k : TileKey) : k.padded [] (0, 0, 0) [] = k.render := by
  rw [← String.toList_inj, padded, String.toList_ofList, toList_render]
  simp

/-- A padded key names the numbers of the key. -/
theorem named_padded {front back : List Char} (hfront : ∀ c ∈ front, isBlank c = true)
    (hback : ∀ c ∈ back, isBlank c = true) (k : TileKey) (zeros : Nat × Nat × Nat) :
    Named k.zoom.toNat k.x.toNat k.y.toNat (k.padded front zeros back).toList := by
  rw [padded, String.toList_ofList]
  exact .mk hfront (.plain (digits_padded _ _)) (.plain (digits_padded _ _))
    (.plain (digits_padded _ _)) hback

/-- **Keys are read exactly, and written keys are read back.** A text is read as a key just if it
has the key's three numbers with slashes between them, each with a plus sign in front or not, and
blanks around; and it is read at all just if its numbers are those of a tile of the grid. Any other
text is refused for the one reason there is: as malformed, with the whole text, if it has no three
numbers that are words; else for the zoom, if that is too high; else for being off the grid. The
written form of a key is read back, also with blanks around and zeros before its numbers. -/
theorem parse_exact :
    (∀ (text : String) (k : TileKey),
      parse text = .ok k ↔ Named k.zoom.toNat k.x.toNat k.y.toNat text.toList) ∧
    (∀ text : String, (∃ k, parse text = .ok k) ↔ ∃ zoom x y : Nat,
      Named zoom x y text.toList ∧ zoom ≤ 30 ∧ x < 2 ^ zoom ∧ y < 2 ^ zoom) ∧
    (∀ (text : String) (e : AddressError), parse text = .error e ↔ Refused text e) ∧
    (∀ k : TileKey, parse k.render = .ok k ∧ k.padded [] (0, 0, 0) [] = k.render) ∧
    ∀ (k : TileKey) (front : List Char) (zeros : Nat × Nat × Nat) (back : List Char),
      (∀ c ∈ front, isBlank c = true) → (∀ c ∈ back, isBlank c = true) →
        parse (k.padded front zeros back) = .ok k := by
  refine ⟨fun text k => parse_eq_ok_iff, fun text => ?_, fun text e => parse_eq_error_iff,
    fun k => ⟨?_, k.padded_nil⟩, fun k front zeros back hfront hback =>
      parse_eq_ok_iff.2 (named_padded hfront hback k zeros)⟩
  · constructor
    · rintro ⟨k, hk⟩
      exact ⟨_, _, _, parse_eq_ok_iff.1 hk, k.onGrid.zoom_le, k.onGrid.x_lt, k.onGrid.y_lt⟩
    · rintro ⟨zoom, x, y, hnamed, hzoom, hx, hy⟩
      have hpow : 2 ^ zoom ≤ 2 ^ 32 := Nat.pow_le_pow_right (by decide) (by omega)
      have hbyte : zoom < 2 ^ 8 := by omega
      obtain ⟨z, c, r, rfl, rfl, rfl⟩ := exists_words hbyte (Nat.lt_of_lt_of_le hx hpow)
        (Nat.lt_of_lt_of_le hy hpow)
      rw [parse_of_named hnamed, exists_make?_iff]
      exact ⟨hzoom, hx, hy⟩
  · rw [← k.padded_nil]
    exact parse_eq_ok_iff.2 (named_padded (List.forall_mem_nil _) (List.forall_mem_nil _) k _)

/-- A key with a wide and a narrow space in front, zeros before two of its numbers and a line end
behind. -/
theorem parse_exact_spaced :
    let k : TileKey := ⟨14, 9579, 4762, by decide, by decide, by decide⟩
    let text := k.padded ['\u2003', ' '] (1, 0, 3) ['\n']
    (∀ c ∈ ['\u2003', ' '], isBlank c = true) ∧ (∀ c ∈ ['\n'], isBlank c = true) ∧
      text = "\u2003 014/9579/0004762\n" ∧ parse text = .ok k := by
  intro k text
  have hfront : ∀ c ∈ ['\u2003', ' '], isBlank c = true := by simp [isBlank]
  have hback : ∀ c ∈ ['\n'], isBlank c = true := by simp [isBlank]
  obtain ⟨-, -, -, -, hpadded⟩ := parse_exact
  exact ⟨hfront, hback, by decide, hpadded k _ _ _ hfront hback⟩

end TileKey

end TileScope
