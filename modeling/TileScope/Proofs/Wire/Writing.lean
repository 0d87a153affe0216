import TileScope.Proofs.Wire.Skip

/-!
# Writing fields

The written forms that readers take back: a key, numbers of a fixed size, values with a length in
front, and rows of optional or repeated fields. A length has to fit 64 bits.
-/

namespace TileScope.Wire

open Read

/-- A number in `n` bytes, low byte first. -/
def writeFixed : (n : Nat) → Nat → List UInt8
  | 0, _ => []
  | n + 1, v => v.toUInt8 :: writeFixed n (v / 256)

/-- The key of a field. -/
def writeKey (tag : Nat) (wire : WireType) : List UInt8 := writeVarint (8 * tag + wire.toNat)

/-- A value with its length in front. -/
def writeBlock (body : List UInt8) : List UInt8 := writeVarint body.length ++ body

/-- A field with a varint. -/
def varintField (tag n : Nat) : List UInt8 := writeKey tag .varint ++ writeVarint n

/-- A field with a length and that many bytes. -/
def blockField (tag : Nat) (body : List UInt8) : List UInt8 :=
  writeKey tag .delimited ++ writeBlock body

/-- A field with a text. -/
def textField (tag : Nat) (s : String) : List UInt8 := blockField tag (octets s.toByteArray)

/-- The fields of a list of values. -/
def repeated {α : Type} (write : α → List UInt8) (l : List α) : List UInt8 := l.flatMap write

/-- The field of a value that may be missing. -/
def ifThere {α : Type} (write : α → List UInt8) : Option α → List UInt8
  | none => []
  | some a => write a

/-- The varints of a list of numbers. -/
def writeVarints (l : List UInt32) : List UInt8 := repeated (fun n => writeVarint n.toNat) l

/-- A field with a block of numbers; there is no field without numbers. -/
def packedField (tag : Nat) (l : List UInt32) : List UInt8 :=
  if l.isEmpty then [] else blockField tag (writeVarints l)

/-! ## Forms -/

section Forms

variable {σ α : Type} {tag : Nat} {wire : WireType} {body value : List UInt8}

/-- A number of fixed size has that many bytes. -/
theorem length_writeFixed (n v : Nat) : (writeFixed n v).length = n := by
  induction n generalizing v with
  | zero => rfl
  | succ n ih => rw [writeFixed, List.length_cons, ih]

/-- A number that fits is made again by the bytes it is written in. -/
theorem littleEndian_writeFixed (n v : Nat) (h : v < 256 ^ n) :
    littleEndian (writeFixed n v) = v := by
  induction n generalizing v with
  | zero => rw [Nat.pow_zero] at h; exact (Nat.lt_one_iff.1 h).symm
  | succ n ih =>
    rw [Nat.pow_succ] at h
    rw [writeFixed, littleEndian, ih _ (Nat.div_lt_of_lt_mul (by omega))]
    show v % 256 + 256 * (v / 256) = v
    omega

/-- Bytes are written again from the number they make. -/
theorem writeFixed_littleEndian (bytes : List UInt8) :
    writeFixed bytes.length (littleEndian bytes) = bytes := by
  induction bytes with
  | nil => rfl
  | cons b bytes ih =>
    have hb := b.toNat_lt
    have hdiv : (b.toNat + 256 * littleEndian bytes) / 256 = littleEndian bytes := by omega
    have hlow : (b.toNat + 256 * littleEndian bytes).toUInt8 = b := by
      refine UInt8.toNat_inj.1 (show (b.toNat + 256 * littleEndian bytes) % 256 = b.toNat from ?_)
      omega
    rw [List.length_cons, littleEndian, writeFixed, hdiv, hlow, ih]

/-- Bytes are the form of the one number that they make. -/
theorem littleEndian_eq_iff {n v : Nat} {bytes : List UInt8} (hlength : bytes.length = n)
    (h : v < 256 ^ n) : littleEndian bytes = v ↔ bytes = writeFixed n v := by
  constructor
  · rintro rfl
    rw [← hlength, writeFixed_littleEndian]
  · rintro rfl
    exact littleEndian_writeFixed n v h

/-- A number that fits is read from the bytes it is written in. -/
theorem forms_writeFixed {n v : Nat} (h : v < 256 ^ (n + 1)) :
    (fixed n).Forms (writeFixed (n + 1) v) v :=
  forms_fixed_iff.2 ⟨length_writeFixed _ _, littleEndian_writeFixed _ _ h⟩

/-- A key with a field number in range is read from its written form. -/
theorem forms_writeKey (tag : Nat) (wire : WireType) (h : 0 < tag) (h' : tag < 2 ^ 29) :
    key.Forms (writeKey tag wire) ⟨tag, wire⟩ := by
  have hw : wire.toNat < 8 := by cases wire <;> decide
  refine (forms_writeVarint (by omega)).check ?_
  have hn : (8 * tag + wire.toNat).toUInt64.toNat = 8 * tag + wire.toNat :=
    UInt64.toNat_ofNat_of_lt' (show _ < 2 ^ 64 by omega)
  have hmod : (8 * tag + wire.toNat) % 8 = wire.toNat := by omega
  have hdiv : (8 * tag + wire.toNat) / 8 = tag := by omega
  have hfit : ¬UInt32.size ≤ 8 * tag + wire.toNat :=
    Nat.not_le.2 (show _ < 2 ^ 32 by omega)
  rw [hn, if_neg hfit, hmod, hdiv, WireType.ofNat?_toNat]
  exact if_neg (by omega)

/-- Bytes are read from behind their length, if that fits 64 bits. -/
theorem forms_writeBlock (h : body.length < 2 ^ 64) : delimited.Forms (writeBlock body) body :=
  forms_delimited (forms_writeVarint h) (UInt64.toNat_ofNat_of_lt' h).symm

/-- A text is read from its written form, if its length fits 64 bits. -/
theorem forms_text (s : String) (h : (octets s.toByteArray).length < 2 ^ 64) :
    text.Forms (writeBlock (octets s.toByteArray)) s := by
  refine (forms_writeBlock h).check ?_
  rw [ofOctets_octets, String.fromUTF8?, dif_pos s.isValidUTF8]
  rfl

/-- A value in the layout that is expected is read as it is. -/
theorem typed_self (wire : WireType) (p : Read α) : typed wire wire p = p := if_pos rfl

/-- A field that a message knows: its key and a form of its value. -/
theorem forms_field {merge : Key → σ → Read σ} {s t : σ} {p : Read α} {f : α → σ}
    {name : FieldName} {a : α} (htag : 0 < tag ∧ tag < 2 ^ 29)
    (hm : merge ⟨tag, wire⟩ s = (p.map f).inField name) (h : p.Forms value a) (hf : f a = t) :
    (field merge s).Forms (writeKey tag wire ++ value) t :=
  (forms_writeKey tag wire htag.1 htag.2).andThen (hm ▸ hf ▸ (h.map f).inField name)

/-- A field with a length is at least as long as its bytes. -/
theorem length_le_blockField (tag : Nat) (body : List UInt8) :
    body.length ≤ (blockField tag body).length := by
  rw [blockField, writeBlock, List.length_append, List.length_append]
  omega

/-- Repeated fields are together at least as long as each of them. -/
theorem length_le_repeated (write : α → List UInt8) {l : List α} {a : α} (h : a ∈ l) :
    (write a).length ≤ (repeated write l).length := by
  obtain ⟨s, t, rfl⟩ := List.append_of_mem h
  rw [repeated, List.flatMap_append, List.flatMap_cons, List.length_append, List.length_append]
  omega

/-- A message is read from a row of its fields, if its length fits 64 bits. -/
theorem forms_message {merge : Key → σ → Read σ} {start t : σ} (h : body.length < 2 ^ 64)
    (hrow : Row (field merge) start body t) :
    (message merge start .delimited).Forms (writeBlock body) t := by
  rw [message, typed_self]
  exact forms_block (forms_writeVarint h) (UInt64.toNat_ofNat_of_lt' h).symm hrow

/-- Optional fields make a row: none of them, or the one. -/
theorem row_ifThere (step : σ → Read σ) (write : α → List UInt8) (g : Option α → σ) (x : Option α)
    (h : ∀ a, x = some a → (step (g none)).Forms (write a) (g (some a))) :
    Row step (g none) (ifThere write x) (g x) := by
  cases x with
  | none => exact .nil _
  | some a => exact .single (h a rfl)

/-- Repeated fields make a row, one after the other. -/
theorem row_repeated (step : σ → Read σ) (write : α → List UInt8) (g : List α → σ) (l : List α)
    (h : ∀ done, ∀ a ∈ l, (step (g done)).Forms (write a) (g (done ++ [a]))) :
    Row step (g []) (repeated write l) (g l) := by
  have go : ∀ done, Row step (g done) (l.flatMap write) (g (done ++ l)) := by
    induction l with
    | nil =>
      intro done
      rw [List.append_nil]
      exact .nil _
    | cons a l ih =>
      intro done
      rw [List.flatMap_cons, show done ++ a :: l = done ++ [a] ++ l by simp]
      exact .cons (h done a List.mem_cons_self)
        (ih (fun done b hb => h done b (List.mem_cons_of_mem _ hb)) _)
  exact go []

/-- A number of 64 bits is read from its shortest varint. -/
theorem forms_varint64 (n : UInt64) : varint.Forms (writeVarint n.toNat) n := by
  have h := forms_writeVarint n.toNat_lt
  rwa [show n.toNat.toUInt64 = n from UInt64.toNat_inj.1 (UInt64.toNat_ofNat_of_lt' n.toNat_lt)]
    at h

/-- A number of 32 bits is read from its shortest varint. -/
theorem forms_varint32 (n : UInt32) : varint.Forms (writeVarint n.toNat) n.toUInt64 :=
  forms_varint64 n.toUInt64

/-- Packed numbers are read from their block, if its length fits 64 bits. -/
theorem forms_packed {l : List UInt32} (h : (writeVarints l).length < 2 ^ 64) :
    (packed .delimited #[]).Forms (writeBlock (writeVarints l)) l.toArray := by
  have hrow : Row (fun values : Array UInt32 => varint.map fun n => values.push n.toUInt32) #[]
      (writeVarints l) l.toArray := by
    refine row_repeated _ _ List.toArray l fun done n _ => ?_
    have hn := (forms_varint32 n).map fun n => done.toArray.push n.toUInt32
    rwa [UInt32.toUInt32_toUInt64, List.push_toArray] at hn
  unfold packed
  rw [if_pos rfl]
  exact forms_block (forms_writeVarint h) (UInt64.toNat_ofNat_of_lt' h).symm hrow

/-- A field with a block of numbers makes a row, also when it is not there. -/
theorem row_packedField (merge : Key → σ → Read σ) (g : Array UInt32 → σ) (tag : Nat)
    {name : FieldName} (l : List UInt32) (htag : 0 < tag ∧ tag < 2 ^ 29)
    (hm : merge ⟨tag, .delimited⟩ (g #[]) = ((packed .delimited #[]).map g).inField name)
    (h : (packedField tag l).length < 2 ^ 64) :
    Row (field merge) (g #[]) (packedField tag l) (g l.toArray) := by
  unfold packedField at h ⊢
  cases l with
  | nil => exact .nil _
  | cons n l =>
    have hlen := length_le_blockField tag (writeVarints (n :: l))
    rw [List.isEmpty_cons, if_neg Bool.false_ne_true] at h ⊢
    exact .single (forms_field htag hm (forms_packed (Nat.lt_of_le_of_lt hlen h)) rfl)

end Forms

end TileScope.Wire
