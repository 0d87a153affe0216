/-!
# Bytes as a list

Payloads are stored packed and read as lists. `octets` and `ofOctets` go from the one form to the
other and are each other's inverse. Numbers of a fixed size stand in them low byte first, in fields
of messages and in the header and the trailer of a gzip member.
-/

namespace TileScope

/-- The first `n` bytes in front of a list. -/
def octetsOnto (bytes : ByteArray) : (n : Nat) → List UInt8 → List UInt8
  | 0, tail => tail
  | n + 1, tail => octetsOnto bytes n (bytes[n]?.getD 0 :: tail)

/-- The bytes as a list. -/
def octets (bytes : ByteArray) : List UInt8 := octetsOnto bytes bytes.size []

/-- The packed form of a list of bytes. -/
def ofOctets (l : List UInt8) : ByteArray := l.foldl ByteArray.push .empty

/-- A number in bytes, low byte first. -/
def littleEndian : List UInt8 → Nat
  | [] => 0
  | b :: rest => b.toNat + 256 * littleEndian rest

/-- The loop puts the first `n` bytes in front of what it is given. -/
theorem octetsOnto_eq (bytes : ByteArray) (n : Nat) (tail : List UInt8) (h : n ≤ bytes.size) :
    octetsOnto bytes n tail = bytes.data.toList.take n ++ tail := by
  induction n generalizing tail with
  | zero => rfl
  | succ n ih =>
    have hn : n < bytes.data.toList.length := by rw [Array.length_toList]; exact h
    have hget : bytes[n]?.getD 0 = bytes.data.toList[n] := by
      rw [getElem?_pos bytes n h]
      rfl
    rw [octetsOnto, ih _ (Nat.le_of_succ_le h), hget, List.take_succ_eq_append_getElem hn,
      List.append_assoc, List.singleton_append]

/-- The list is that of the packed bytes. -/
theorem octets_eq (bytes : ByteArray) : octets bytes = bytes.data.toList := by
  have h : bytes.data.toList.length = bytes.size := Array.length_toList
  rw [octets, octetsOnto_eq _ _ _ (Nat.le_refl _), List.append_nil, ← h, List.take_length]

/-- A byte pushed is one more at the end. -/
@[simp] theorem octets_push (bytes : ByteArray) (b : UInt8) :
    octets (bytes.push b) = octets bytes ++ [b] := by
  rw [octets_eq, octets_eq]
  exact Array.toList_push

/-- No bytes are the empty list. -/
@[simp] theorem octets_empty : octets .empty = [] := rfl

/-- Bytes pushed one after the other stand behind those that were there. -/
theorem octets_foldl_push (l : List UInt8) (out : ByteArray) :
    octets (l.foldl ByteArray.push out) = octets out ++ l := by
  induction l generalizing out with
  | nil => exact (List.append_nil _).symm
  | cons b rest ih => rw [List.foldl_cons, ih, octets_push, List.append_assoc, List.singleton_append]

/-- Packing a list and listing it again changes nothing. -/
@[simp] theorem octets_ofOctets (l : List UInt8) : octets (ofOctets l) = l := by
  rw [ofOctets, octets_foldl_push, octets_empty, List.nil_append]

/-- The list is as long as the packed bytes. -/
theorem length_octets (bytes : ByteArray) : (octets bytes).length = bytes.size := by
  rw [octets_eq, Array.length_toList]
  rfl

/-- The list and the packed bytes have the same byte at each place. -/
theorem getElem?_octets (bytes : ByteArray) (i : Nat) : bytes[i]? = (octets bytes)[i]? := by
  rw [octets_eq, Array.getElem?_toList]
  by_cases h : i < bytes.size
  · rw [getElem?_pos bytes i h, getElem?_pos bytes.data i h]
    rfl
  · rw [getElem?_neg bytes i h, getElem?_neg bytes.data i h]

/-- Packed bytes with one list are one. -/
theorem octets_injective {a b : ByteArray} (h : octets a = octets b) : a = b := by
  rw [octets_eq, octets_eq] at h
  exact ByteArray.ext (Array.toList_inj.1 h)

/-- Listing packed bytes and packing the list changes nothing. -/
@[simp] theorem ofOctets_octets (bytes : ByteArray) : ofOctets (octets bytes) = bytes :=
  octets_injective (octets_ofOctets _)

/-- The packed form is as long as the list. -/
theorem size_ofOctets (l : List UInt8) : (ofOctets l).size = l.length := by
  rw [← length_octets, octets_ofOctets]

/-- Pushing a byte packs the list with that byte at its end. -/
theorem push_ofOctets (l : List UInt8) (b : UInt8) : (ofOctets l).push b = ofOctets (l ++ [b]) :=
  octets_injective (by rw [octets_push, octets_ofOctets, octets_ofOctets])

end TileScope
