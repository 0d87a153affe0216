import TileScope.Proofs.Deflate.Bits
import TileScope.Proofs.Ordered.Lookup

/-!
# Codes from lengths

The format gives a code by the length of each symbol's word and by two rules: shorter words come
before longer ones, and words of one length come in the order of their symbols. As a tree, the
leaves from left to right are the symbols in that order, each as deep as its word is long, and no
place is left free (`CodeTree.IsCodeOf`). A sparse code, of no word or of one word of one bit,
leaves places free.

The tree that is filled from the lengths is the code of the lengths (`ofLengths?_eq_some`), and
reading from a code takes the word of a symbol off the bits (`Word.reads`).
-/

namespace TileScope.Deflate.CodeTree

/-- The leaves from left to right, each with its depth in front of its symbol, of a subtree at a
depth. -/
def leaves (depth : Nat) : CodeTree → List (Nat × Nat)
  | free => []
  | leaf symbol => [(depth, symbol)]
  | fork zero one => zero.leaves (depth + 1) ++ one.leaves (depth + 1)

/-- No place is free. -/
def IsFull : CodeTree → Prop
  | free => False
  | leaf _ => True
  | fork zero one => zero.IsFull ∧ one.IsFull

/-- There is no word, or one of one bit. -/
def IsSparse (t : CodeTree) : Prop := t = fork free free ∨ ∃ symbol, t = fork (leaf symbol) free

/-- The order of words: by length, then by symbol. -/
def Before (a b : Nat × Nat) : Prop := a.1 < b.1 ∨ a.1 = b.1 ∧ a.2 < b.2

/-- The tree is the code in which symbol `i` has a word of the `i`-th length, or no word if that is
zero. -/
structure IsCodeOf (sparse : Bool) (lengths : List Nat) (t : CodeTree) : Prop where
  mem_leaves : ∀ length symbol,
    (length, symbol) ∈ t.leaves 0 ↔ 0 < length ∧ lengths[symbol]? = some length
  ascending : (t.leaves 0).Pairwise Before
  isFull : t.IsFull ∨ sparse = true ∧ t.IsSparse

/-- The way down to a symbol. -/
inductive Path : CodeTree → List Bool → Nat → Prop
  | leaf (symbol : Nat) : Path (leaf symbol) [] symbol
  | zero {zero one : CodeTree} {way : List Bool} {symbol : Nat} (h : Path zero way symbol) :
    Path (fork zero one) (false :: way) symbol
  | one {zero one : CodeTree} {way : List Bool} {symbol : Nat} (h : Path one way symbol) :
    Path (fork zero one) (true :: way) symbol

/-- The symbol at the end of a way down. -/
def follow? : CodeTree → List Bool → Option Nat
  | leaf symbol, [] => some symbol
  | fork zero one, bit :: way => if bit then one.follow? way else zero.follow? way
  | _, _ => none

/-- The ways down to symbols are the ways that can be followed. -/
theorem path_iff_follow? {t : CodeTree} {way : List Bool} {symbol : Nat} :
    t.Path way symbol ↔ t.follow? way = some symbol := by
  constructor
  · intro h
    induction h with
    | leaf => rfl
    | zero _ ih => exact ih
    | one _ ih => exact ih
  · intro h
    induction t generalizing way with
    | free => cases way <;> cases h
    | leaf =>
      cases way with
      | nil => exact Option.some.inj h ▸ .leaf _
      | cons => cases h
    | fork zero one ihz iho =>
      cases way with
      | nil => cases h
      | cons bit way =>
        cases bit with
        | false => exact .zero (ihz h)
        | true => exact .one (iho h)

/-- A symbol's word, which is at least one bit. -/
def Word (t : CodeTree) (word : List Bool) (symbol : Nat) : Prop := word ≠ [] ∧ t.Path word symbol

/-! ## The code of lengths -/

section Leaves

variable {t : CodeTree} {depth : Nat}

/-- No leaf is above the root. -/
theorem le_of_mem_leaves {e : Nat × Nat} (h : e ∈ t.leaves depth) : depth ≤ e.1 := by
  induction t generalizing depth with
  | free => exact absurd h List.not_mem_nil
  | leaf symbol =>
    rw [leaves, List.mem_singleton] at h
    exact h ▸ Nat.le_refl _
  | fork zero one ihz iho =>
    rw [leaves, List.mem_append] at h
    exact Nat.le_of_succ_le (h.elim ihz iho)

/-- A full tree has a leaf. -/
theorem exists_leaves_cons (h : t.IsFull) (depth : Nat) : ∃ e rest, t.leaves depth = e :: rest := by
  induction t generalizing depth with
  | free => exact h.elim
  | leaf symbol => exact ⟨_, _, rfl⟩
  | fork zero one ihz _ =>
    obtain ⟨e, rest, hz⟩ := ihz h.1 (depth + 1)
    exact ⟨e, rest ++ one.leaves (depth + 1), by rw [leaves, hz, List.cons_append]⟩

/-- **Filling gives the tree whose leaves are given**, and the list behind its leaves. -/
theorem fill_leaves (h : t.IsFull) {levels : Nat}
    (hlevels : ∀ e ∈ t.leaves depth, e.1 < depth + levels) (rest : List (Nat × Nat)) :
    fill depth levels (t.leaves depth ++ rest) = (t, rest) := by
  induction t generalizing depth levels rest with
  | free => exact h.elim
  | leaf symbol =>
    have hlt := hlevels _ (List.mem_singleton.2 rfl)
    obtain ⟨levels, rfl⟩ := Nat.exists_eq_add_of_le' (show 1 ≤ levels by omega)
    exact if_pos rfl
  | fork zero one ihz iho =>
    rw [leaves] at hlevels ⊢
    obtain ⟨⟨length, symbol⟩, more, hcons⟩ := exists_leaves_cons h.1 (depth + 1)
    have hmem : (length, symbol) ∈ zero.leaves (depth + 1) := hcons ▸ List.mem_cons_self
    have hdeeper : depth + 1 ≤ length := le_of_mem_leaves hmem
    have hlt := hlevels _ (List.mem_append_left _ hmem)
    obtain ⟨levels, rfl⟩ := Nat.exists_eq_add_of_le' (show 1 ≤ levels by omega)
    have hz : fill (depth + 1) levels (zero.leaves (depth + 1) ++ (one.leaves (depth + 1) ++ rest))
        = (zero, one.leaves (depth + 1) ++ rest) :=
      ihz h.1 (fun e he => by have := hlevels e (List.mem_append_left _ he); omega) _
    have ho : fill (depth + 1) levels (one.leaves (depth + 1) ++ rest) = (one, rest) :=
      iho h.2 (fun e he => by have := hlevels e (List.mem_append_right _ he); omega) _
    rw [List.append_assoc]
    rw [hcons, List.cons_append] at hz ⊢
    rw [fill, if_neg (by omega), hz]
    dsimp only
    rw [ho]

/-- What words take up, with what has been taken up before. -/
theorem foldl_weight (words : List (Nat × Nat)) (total : Nat) :
    words.foldl (fun total e => total + (1 <<< (maxLength - e.1))) total =
      total + weight words := by
  induction words generalizing total with
  | nil => rfl
  | cons e words ih => rw [weight, List.foldl_cons, List.foldl_cons, ih, ih]; omega

/-- Words in two lists weigh the sum of both. -/
theorem weight_append (words more : List (Nat × Nat)) :
    weight (words ++ more) = weight words + weight more := by
  rw [weight, List.foldl_append, foldl_weight]
  rfl

/-- A place in the tree is two places one level down. -/
theorem two_pow_depth (h : depth < maxLength) :
    2 ^ (maxLength - depth) = 2 ^ (maxLength - (depth + 1)) + 2 ^ (maxLength - (depth + 1)) := by
  rw [← Nat.two_mul, ← Nat.pow_succ']
  congr 1
  omega

/-- A full tree takes up all that is below its depth. -/
theorem weight_leaves (h : t.IsFull) (hmax : ∀ e ∈ t.leaves depth, e.1 ≤ maxLength) :
    weight (t.leaves depth) = 2 ^ (maxLength - depth) := by
  induction t generalizing depth with
  | free => exact h.elim
  | leaf symbol => simp [leaves, weight, Nat.one_shiftLeft]
  | fork zero one ihz iho =>
    rw [leaves] at hmax ⊢
    obtain ⟨e, more, hcons⟩ := exists_leaves_cons h.1 (depth + 1)
    have hmem : e ∈ zero.leaves (depth + 1) := hcons ▸ List.mem_cons_self
    have hdeeper := le_of_mem_leaves hmem
    have hle := hmax e (List.mem_append_left _ hmem)
    have hhalf := two_pow_depth (show depth < maxLength by omega)
    rw [weight_append, ihz h.1 fun e he => hmax e (List.mem_append_left _ he),
      iho h.2 fun e he => hmax e (List.mem_append_right _ he), hhalf]

/-- **Words that take up enough fill a full tree**, the first of them its leaves. -/
theorem leaves_fill {levels : Nat} {words : List (Nat × Nat)}
    (hlevels : depth + levels = maxLength + 1) (hsorted : words.Pairwise fun a b => a.1 ≤ b.1)
    (hwords : ∀ e ∈ words, depth ≤ e.1 ∧ e.1 ≤ maxLength)
    (hweight : 2 ^ (maxLength - depth) ≤ weight words) :
    ∃ t rest, fill depth levels words = (t, rest) ∧ t.IsFull ∧ t.leaves depth ++ rest = words := by
  induction levels generalizing depth words with
  | zero =>
    cases words with
    | nil => exact absurd hweight (Nat.not_le.2 (Nat.two_pow_pos _))
    | cons e words =>
      have := hwords e List.mem_cons_self
      omega
  | succ levels ih =>
    cases words with
    | nil => exact absurd hweight (Nat.not_le.2 (Nat.two_pow_pos _))
    | cons e words =>
      obtain ⟨length, symbol⟩ := e
      by_cases hlength : length = depth
      · exact ⟨leaf symbol, words, if_pos hlength, trivial, by rw [hlength]; rfl⟩
      · obtain ⟨hhead, hmax⟩ : depth ≤ length ∧ length ≤ maxLength := hwords _ List.mem_cons_self
        have hdeeper : ∀ e ∈ (length, symbol) :: words, depth + 1 ≤ e.1 ∧ e.1 ≤ maxLength := by
          intro e he
          refine ⟨?_, (hwords e he).2⟩
          rcases List.mem_cons.1 he with rfl | he
          · show depth + 1 ≤ length
            omega
          · have hle : length ≤ e.1 := (List.pairwise_cons.1 hsorted).1 e he
            omega
        have hhalf := two_pow_depth (show depth < maxLength by omega)
        -- The words fill the zero side first, and what is left of them fills the one side.
        obtain ⟨zero, more, hzero, hfull, hleaves⟩ := ih (by omega) hsorted hdeeper (by omega)
        rw [← hleaves] at hsorted hdeeper hweight
        have htaken := weight_leaves hfull fun e he => (hdeeper e (List.mem_append_left _ he)).2
        rw [weight_append, htaken] at hweight
        obtain ⟨one, rest, hone, hfull', hleaves'⟩ := ih (by omega)
          (List.pairwise_append.1 hsorted).2.1 (fun e he => hdeeper e (List.mem_append_right _ he))
          (by omega)
        refine ⟨fork zero one, rest, ?_, ⟨hfull, hfull'⟩, ?_⟩
        · rw [fill, if_neg hlength, hzero]
          dsimp only
          rw [hone]
        · rw [leaves, List.append_assoc, hleaves', hleaves]

end Leaves

/-- The ordered words are those of the symbols with a length within the largest one. -/
theorem mem_ordered {lengths : List Nat} {length symbol : Nat} :
    (length, symbol) ∈ ordered lengths ↔
      (0 < length ∧ length ≤ maxLength) ∧ lengths[symbol]? = some length := by
  simp only [ordered, List.mem_flatMap, List.mem_range'_1, List.mem_filter,
    List.mem_zipIdx_iff_getElem?, decide_eq_true_eq]
  constructor
  · rintro ⟨_, hrange, hget, rfl⟩
    exact ⟨⟨hrange.1, by omega⟩, hget⟩
  · rintro ⟨hrange, hget⟩
    exact ⟨length, ⟨hrange.1, by omega⟩, hget, rfl⟩

/-- The ordered words stand in their order. -/
theorem pairwise_ordered (lengths : List Nat) : (ordered lengths).Pairwise Before := by
  refine List.pairwise_flatMap.2 ⟨fun length _ => ?_, ?_⟩
  · refine ((pairwise_zipIdx lengths).filter _).imp_of_mem fun ha hb hab => ?_
    have ha := of_decide_eq_true (List.mem_filter.1 ha).2
    have hb := of_decide_eq_true (List.mem_filter.1 hb).2
    exact .inr ⟨ha.trans hb.symm, hab⟩
  · have hlengths : (List.range' 1 maxLength).Pairwise (· < ·) := List.pairwise_lt_range'
    refine hlengths.imp fun hlt a ha b hb => ?_
    have ha := of_decide_eq_true (List.mem_filter.1 ha).2
    have hb := of_decide_eq_true (List.mem_filter.1 hb).2
    exact .inl (by rw [ha, hb]; exact hlt)

namespace IsCodeOf

variable {sparse : Bool} {lengths : List Nat} {t : CodeTree}

/-- The leaves of a code are the ordered words of its lengths. -/
theorem leaves_eq (h : t.IsCodeOf sparse lengths) (hmax : ∀ length ∈ lengths, length ≤ maxLength) :
    ordered lengths = t.leaves 0 := by
  refine eq_of_pairwise_of_mem_iff (fun a b hab hba => ?_) (pairwise_ordered lengths) h.ascending
    fun ⟨length, symbol⟩ => ?_
  · unfold Before at hab hba
    omega
  · rw [mem_ordered, h.mem_leaves]
    constructor
    · exact fun ⟨hrange, hget⟩ => ⟨hrange.1, hget⟩
    · exact fun ⟨hpos, hget⟩ => ⟨⟨hpos, hmax _ (List.mem_of_getElem? hget)⟩, hget⟩

/-- **The tree that is filled from lengths is their code.** -/
theorem ofLengths?_eq_some (h : t.IsCodeOf sparse lengths)
    (hmax : ∀ length ∈ lengths, length ≤ maxLength) : ofLengths? sparse lengths = some t := by
  rw [ofLengths?, h.leaves_eq hmax]
  rcases h.isFull with hfull | ⟨rfl, hsparse⟩
  · have hdepth : ∀ e ∈ t.leaves 0, e.1 ≤ maxLength := fun e he =>
      hmax _ (List.mem_of_getElem? ((h.mem_leaves e.1 e.2).1 he).2)
    have hweight : weight (t.leaves 0) = 1 <<< maxLength := by
      rw [weight_leaves hfull hdepth, Nat.one_shiftLeft, Nat.sub_zero]
    have hfill : fill 0 (maxLength + 1) (t.leaves 0) = (t, []) := by
      have hlevels : ∀ e ∈ t.leaves 0, e.1 < 0 + (maxLength + 1) := fun e he => by
        have := hdepth e he
        omega
      have := fill_leaves hfull hlevels []
      rwa [List.append_nil] at this
    obtain ⟨e, more, hcons⟩ := exists_leaves_cons hfull 0
    have hsome : (t.leaves 0).isEmpty = false := by rw [hcons]; rfl
    simp only [hweight, true_or, if_true, hsome, Bool.false_eq_true, if_false, hfill]
  · rcases hsparse with rfl | ⟨symbol, rfl⟩ <;> rfl

/-- A tree whose leaves are the ordered words of some lengths is their code. -/
theorem of_leaves_eq (h : t.leaves 0 = ordered lengths)
    (hmax : ∀ length ∈ lengths, length ≤ maxLength)
    (hfull : t.IsFull ∨ sparse = true ∧ t.IsSparse) : t.IsCodeOf sparse lengths where
  mem_leaves length symbol := by
    rw [h, mem_ordered]
    constructor
    · exact fun ⟨hrange, hget⟩ => ⟨hrange.1, hget⟩
    · exact fun ⟨hpos, hget⟩ => ⟨⟨hpos, hmax _ (List.mem_of_getElem? hget)⟩, hget⟩
  ascending := h ▸ pairwise_ordered lengths
  isFull := hfull

end IsCodeOf

/-- Only no words weigh nothing. -/
theorem weight_eq_zero {words : List (Nat × Nat)} (h : weight words = 0) : words = [] := by
  cases words with
  | nil => rfl
  | cons e words =>
    have hpos : 0 < weight [e] := by
      rw [weight, List.foldl_cons, List.foldl_nil, Nat.one_shiftLeft]
      exact Nat.lt_of_lt_of_eq (Nat.two_pow_pos _) (Nat.zero_add _).symm
    have := weight_append [e] words
    rw [List.singleton_append, h] at this
    omega

/-- **The tree that is filled from lengths is their code**, and no other tree is. -/
theorem ofLengths?_eq_some_iff {sparse : Bool} {lengths : List Nat} {t : CodeTree}
    (hmax : ∀ length ∈ lengths, length ≤ maxLength) :
    ofLengths? sparse lengths = some t ↔ t.IsCodeOf sparse lengths := by
  refine ⟨fun h => ?_, fun h => h.ofLengths?_eq_some hmax⟩
  have hsorted : (ordered lengths).Pairwise fun a b => a.1 ≤ b.1 :=
    (pairwise_ordered lengths).imp fun hab => by
      unfold Before at hab
      omega
  have hwords : ∀ e ∈ ordered lengths, 0 < e.1 ∧ e.1 ≤ maxLength := fun e he =>
    (mem_ordered.1 he).1
  rw [ofLengths?] at h
  obtain ⟨hplaces, htree⟩ := Option.ite_none_right_eq_some.1 h
  have htree := Option.some.inj htree
  generalize hordered : ordered lengths = words at *
  -- The words take up the whole tree, or they are those of a sparse code.
  rcases hplaces with hweight | ⟨rfl, hsparse⟩
  · rw [Nat.one_shiftLeft] at hweight
    obtain ⟨u, rest, hfill, hfull, hleaves⟩ := leaves_fill (Nat.zero_add _) hsorted
      (fun e he => ⟨Nat.zero_le _, (hwords e he).2⟩) (Nat.le_of_eq hweight.symm)
    have hrest : rest = [] := by
      have htaken := weight_leaves hfull fun e he =>
        (hwords e (hleaves ▸ List.mem_append_left _ he)).2
      rw [← hleaves, weight_append, htaken, Nat.sub_zero] at hweight
      exact weight_eq_zero (Nat.left_eq_add.1 hweight.symm)
    rw [hrest, List.append_nil] at hleaves
    have hsome : words.isEmpty = false := by
      obtain ⟨e, more, hcons⟩ := exists_leaves_cons hfull 0
      rw [← hleaves, hcons]
      rfl
    rw [hsome, if_neg Bool.false_ne_true, hfill] at htree
    subst htree
    exact .of_leaves_eq (hleaves.trans hordered.symm) hmax (.inl hfull)
  · rw [isSparse, Bool.or_eq_true, beq_iff_eq, List.isEmpty_iff] at hsparse
    rcases hsparse with rfl | hone
    · exact .of_leaves_eq (htree ▸ hordered.symm) hmax (.inr ⟨rfl, .inl htree.symm⟩)
    · obtain ⟨e, rfl, hlength⟩ := List.map_eq_singleton_iff.1 hone
      obtain ⟨length, symbol⟩ := e
      obtain rfl : length = 1 := hlength
      have htree : fork (leaf symbol) free = t := htree
      exact .of_leaves_eq (htree ▸ hordered.symm) hmax (.inr ⟨rfl, .inr ⟨symbol, htree.symm⟩⟩)

/-! ## Reading symbols -/

/-- Walking down a way takes its bits off a source. -/
theorem reads_walk {t : CodeTree} {word : List Bool} {symbol : Nat} (h : t.Path word symbol) :
    Reads t.walk word (.symbol symbol) .starved := by
  induction h with
  | leaf symbol => exact fun s _ _ h => .inl ⟨s, rfl, h⟩
  | zero _ ih =>
    intro s gone rest hs
    rcases reads_next false hs with ⟨u, hnext, hu⟩ | ⟨hnext, hgone⟩
    · simp only [walk, hnext]
      exact ih hu
    · exact .inr ⟨by simp only [walk, hnext], hgone⟩
  | one _ ih =>
    intro s gone rest hs
    rcases reads_next true hs with ⟨u, hnext, hu⟩ | ⟨hnext, hgone⟩
    · simp only [walk, hnext]
      exact ih hu
    · exact .inr ⟨by simp only [walk, hnext], hgone⟩

/-- **Reading from a code takes a word off the bits.** -/
theorem Word.reads {t : CodeTree} {word : List Bool} {symbol : Nat} (h : t.Word word symbol) :
    Reads (readSymbol t) word (fun s => .ok (symbol, s)) (.error .incomplete) := by
  obtain ⟨hword, hpath⟩ := h
  have hread : t.read = t.walk := by
    cases hpath with
    | leaf => exact absurd rfl hword
    | zero h => rfl
    | one h => rfl
  intro s gone rest hs
  rcases reads_walk hpath hs with ⟨u, hwalk, hu⟩ | ⟨hwalk, hgone⟩
  · exact .inl ⟨u, by simp only [readSymbol, hread, hwalk], hu⟩
  · exact .inr ⟨by simp only [readSymbol, hread, hwalk], hgone⟩

end TileScope.Deflate.CodeTree
