import Mathlib
import TileScope.Text.Casing
import TileScope.Text.Fragment

/-!
# Lower case of fragments

The lower-case form of a character does not depend on its neighbours, except for the capital sigma,
which is final at the end of a word. So a fragment of a text has its own lower-case form there just
if each of its capital sigmas is final where it stands just if it is final in the fragment alone
(`lowerWithin_eq_iff`).

Whether a sigma is final is settled by the nearest characters that are not skipped over. If they are
in the fragment on both sides, or one side alone says that the sigma is not final, then the sigma is
the same wherever the fragment stands; otherwise one cased neighbour of the fragment changes it.
Hence a fragment is found in lower case in every text that has it just if all its capital sigmas are
settled (`occursIn_lower_iff_settled`).
-/

namespace TileScope.Text

namespace Casing

/-- A word ends between what is in front, nearest first, and what is behind. -/
def endsWord (before behind : List Char) : Bool := startsCased before && !startsCased behind

/-- The lower-case form of a capital sigma. -/
def sigma (final : Bool) : Char := if final then 'ς' else 'σ'

/-- The capital sigmas of a text, each with what is in front of it, nearest first, and what is
behind it, where `before` is in front of the text. -/
def sigmasAfter (before : List Char) : List Char → List (List Char × List Char)
  | [] => []
  | c :: rest =>
    if c = 'Σ' then (before, rest) :: sigmasAfter (c :: before) rest
    else sigmasAfter (c :: before) rest

/-- The capital sigmas of a text on its own. -/
def sigmas (cs : List Char) : List (List Char × List Char) := sigmasAfter [] cs

/-- Each capital sigma of the text is final between `before` and `behind` just if it is final in the
text alone. -/
def KeepsSigmas (before behind cs : List Char) : Prop :=
  ∀ s ∈ sigmas cs, endsWord (s.1 ++ before) (s.2 ++ behind) = endsWord s.1 s.2

instance (before behind cs : List Char) : Decidable (KeepsSigmas before behind cs) :=
  inferInstanceAs (Decidable (∀ s ∈ sigmas cs, _))

/-- No neighbours of the text have a say in its capital sigmas: one that only skipped characters
part from the front of the text has a cased character behind it, and one that only skipped
characters part from the end has none in front of it. -/
def Settled (cs : List Char) : Prop :=
  ∀ s ∈ sigmas cs, (s.1.all isIgnorable = true → startsCased s.2 = true) ∧
    (s.2.all isIgnorable = true → startsCased s.1 = false)

instance (cs : List Char) : Decidable (Settled cs) :=
  inferInstanceAs (Decidable (∀ s ∈ sigmas cs, _))

end Casing

open Casing

/-- The lower-case form that a text has between `before`, nearest first, and `behind`. -/
def lowerWithin (before behind : List Char) : List Char → List Char
  | [] => []
  | c :: rest =>
    (if c = 'Σ' then [sigma (endsWord before (rest ++ behind))] else lowerOne c)
      ++ lowerWithin (c :: before) behind rest

variable {before behind cs : List Char}

/-- The lower-case form of a text is that of a part of it between the rest. -/
theorem lowerAfter_append (before cs behind : List Char) : lowerAfter before (cs ++ behind)
    = lowerWithin before behind cs ++ lowerAfter (cs.reverse ++ before) behind := by
  induction cs generalizing before with
  | nil => rfl
  | cons c cs ih =>
    rw [List.cons_append, lowerAfter, lowerWithin, ih, List.append_assoc, List.reverse_cons,
      List.append_assoc, List.singleton_append]
    rfl

/-- A text with nothing behind it is put in lower case by what is in front. -/
theorem lowerAfter_eq (before cs : List Char) : lowerAfter before cs = lowerWithin before [] cs := by
  have h := lowerAfter_append before cs []
  rwa [List.append_nil, lowerAfter, List.append_nil] at h

/-- The lower-case form of a text with all its parts. -/
theorem lowerAfter_parts (before cs behind : List Char) :
    lowerAfter [] (before ++ cs ++ behind) = lowerWithin [] (cs ++ behind) before ++
      lowerWithin before.reverse behind cs ++ lowerAfter (before ++ cs).reverse behind := by
  rw [List.append_assoc, lowerAfter_append, lowerAfter_append, List.append_nil, List.append_assoc,
    List.reverse_append]

/-- Two surroundings give one lower-case form just if they agree on every capital sigma. -/
theorem lowerWithin_append_eq_iff (p q p' q' before cs : List Char) :
    lowerWithin (before ++ p) q cs = lowerWithin (before ++ p') q' cs ↔
      ∀ s ∈ sigmasAfter before cs,
        endsWord (s.1 ++ p) (s.2 ++ q) = endsWord (s.1 ++ p') (s.2 ++ q') := by
  induction cs generalizing before with
  | nil => simp [lowerWithin, sigmasAfter]
  | cons c cs ih =>
    have hrest := ih (c :: before)
    rw [List.cons_append, List.cons_append] at hrest
    rw [lowerWithin, lowerWithin, sigmasAfter]
    by_cases hc : c = 'Σ'
    · have hsigma : ∀ a b : Bool, sigma a = sigma b ↔ a = b := by decide
      rw [if_pos hc, if_pos hc, if_pos hc, List.forall_mem_cons, ← hrest, List.singleton_append,
        List.singleton_append, List.cons.injEq, hsigma]
    · rw [if_neg hc, if_neg hc, if_neg hc, List.append_cancel_left_eq, hrest]

/-- **A fragment has its own lower-case form in place just if it keeps its sigmas there.** -/
theorem lowerWithin_eq_iff :
    lowerWithin before behind cs = lowerAfter [] cs ↔ KeepsSigmas before behind cs := by
  have h := lowerWithin_append_eq_iff before behind [] [] [] cs
  simp only [List.nil_append, List.append_nil] at h
  rw [lowerAfter_eq, h, KeepsSigmas, sigmas]

/-- How often a form of the sigma comes: what other characters bring, and the sigmas that have it. -/
theorem count_lowerWithin (final : Bool) (before p q cs : List Char) :
    (lowerWithin (before ++ p) q cs).count (sigma final)
      = ((cs.filter (· ≠ 'Σ')).flatMap lowerOne).count (sigma final)
        + (sigmasAfter before cs).countP fun s => endsWord (s.1 ++ p) (s.2 ++ q) = final := by
  induction cs generalizing before with
  | nil => rfl
  | cons c cs ih =>
    have hrest := ih (c :: before)
    rw [List.cons_append] at hrest
    rw [lowerWithin, sigmasAfter, List.count_append, hrest]
    by_cases hc : c = 'Σ'
    · have hsigma : ∀ a b : Bool, [sigma a].count (sigma b) = if a = b then 1 else 0 := by decide
      rw [if_pos hc, if_pos hc, List.filter_cons_of_neg (by simp [hc]), List.countP_cons, hsigma]
      simp only [decide_eq_true_eq]
      omega
    · rw [if_neg hc, if_neg hc, List.filter_cons_of_pos (by simp [hc]), List.flatMap_cons,
        List.count_append, Nat.add_assoc]

/-! ## Settled sigmas -/

/-- Characters that are skipped over let those behind them decide. -/
theorem startsCased_append (front back : List Char) : startsCased (front ++ back)
    = if front.all isIgnorable then startsCased back else startsCased front := by
  induction front with
  | nil => rfl
  | cons c front ih =>
    rw [startsCased, startsCased.eq_def (c :: front), List.cons_append, List.dropWhile_cons,
      List.dropWhile_cons, List.all_cons]
    by_cases hc : isIgnorable c = true
    · rw [if_pos hc, if_pos hc, hc, Bool.true_and]
      exact ih
    · rw [if_neg hc, if_neg hc, Bool.eq_false_iff.2 hc, Bool.false_and]
      rfl

/-- Characters that are all skipped over have no case. -/
theorem startsCased_of_all {front : List Char} (h : front.all isIgnorable = true) :
    startsCased front = false := by
  rw [startsCased, List.dropWhile_eq_nil_iff.2 (List.all_eq_true.1 h)]

/-- The sigmas of a settled text are the same wherever it stands. -/
theorem keepsSigmas_of_settled (h : Settled cs) (before behind : List Char) :
    KeepsSigmas before behind cs := by
  intro s hs
  obtain ⟨hfront, hback⟩ := h s hs
  rw [endsWord, endsWord, startsCased_append, startsCased_append]
  by_cases hf : s.1.all isIgnorable = true
  · -- A cased character behind: not final, whatever is in front.
    have hcased := hfront hf
    have hb : s.2.all isIgnorable ≠ true := fun hb => by
      rw [startsCased_of_all hb] at hcased
      cases hcased
    rw [if_pos hf, if_neg hb, hcased, Bool.not_true, Bool.and_false, Bool.and_false]
  · rw [if_neg hf]
    by_cases hb : s.2.all isIgnorable = true
    · rw [hback hb, Bool.false_and, Bool.false_and]
    · rw [if_neg hb]

/-- A test that holds wherever another one does, and somewhere else, holds more often. -/
theorem countP_lt_countP {α : Type} {l : List α} {p q : α → Bool}
    (hle : ∀ a ∈ l, p a = true → q a = true) {a : α} (ha : a ∈ l) (hp : p a = false)
    (hq : q a = true) : l.countP p < l.countP q := by
  obtain ⟨front, back, rfl⟩ := List.append_of_mem ha
  have hfront : front.countP p ≤ front.countP q := List.countP_mono_left fun b hb =>
    hle b (List.mem_append_left _ hb)
  have hback : back.countP p ≤ back.countP q := List.countP_mono_left fun b hb =>
    hle b (List.mem_append_right _ (List.mem_cons_of_mem _ hb))
  simp only [List.countP_append, List.countP_cons, hp, hq, if_true, Bool.false_eq_true, if_false]
  omega

/-- Surroundings that only take a form away from the sigmas of a text, and do so from one, leave too
few of that form for the text's own lower-case form. -/
theorem count_lowerWithin_lt {final : Bool} {s : List Char × List Char} (hs : s ∈ sigmas cs)
    (hle : ∀ s ∈ sigmas cs,
      endsWord (s.1 ++ before) (s.2 ++ behind) = final → endsWord s.1 s.2 = final)
    (hplace : endsWord (s.1 ++ before) (s.2 ++ behind) ≠ final) (halone : endsWord s.1 s.2 = final) :
    (lowerWithin before behind cs).count (sigma final)
      < (lowerAfter [] cs).count (sigma final) := by
  have hin := count_lowerWithin final [] before behind cs
  have hown := count_lowerWithin final [] [] [] cs
  simp only [List.nil_append, List.append_nil] at hin hown
  rw [lowerAfter_eq, hin, hown]
  refine Nat.add_lt_add_left (countP_lt_countP (fun s hs h => ?_) hs ?_ ?_) _
  · exact decide_eq_true (hle s hs (of_decide_eq_true h))
  · exact decide_eq_false hplace
  · exact decide_eq_true halone

/-- A text does not occur in one that has fewer of some character. -/
theorem not_occursIn_of_count_lt {part whole : List Char} {c : Char}
    (h : whole.count c < part.count c) : occursIn part whole = false := by
  rw [Bool.eq_false_iff, Ne, occursIn_iff]
  exact fun hpart => absurd (hpart.count_le c) (Nat.not_le.2 h)

/-- A cased neighbour is seen through skipped characters only. -/
theorem startsCased_append_cased (front : List Char) :
    startsCased (front ++ ['a']) = (front.all isIgnorable || startsCased front) := by
  have hcased : startsCased ['a'] = true := by decide +kernel
  rw [startsCased_append, hcased]
  cases front.all isIgnorable <;> rfl

/-- With a cased character in front, a sigma that only skipped characters part from it becomes
final, and none ceases to be: there are too few other sigmas left. -/
theorem not_occursIn_of_front {s : List Char × List Char} (hs : s ∈ sigmas cs)
    (hall : s.1.all isIgnorable = true) (hbehind : startsCased s.2 = false) :
    occursIn (lowerAfter [] cs) (lowerAfter [] ('a' :: cs)) = false := by
  have hlower : lowerAfter [] ('a' :: cs) = 'a' :: lowerWithin ['a'] [] cs := by
    rw [← lowerAfter_eq]
    rfl
  have hplace : ∀ s : List Char × List Char, endsWord (s.1 ++ ['a']) (s.2 ++ [])
      = ((s.1.all isIgnorable || startsCased s.1) && !startsCased s.2) := fun s => by
    rw [endsWord, startsCased_append_cased, List.append_nil]
  refine not_occursIn_of_count_lt (c := sigma false) ?_
  rw [hlower, List.count_cons_of_ne (by decide)]
  refine count_lowerWithin_lt hs (fun s _ => ?_) ?_ ?_
  · rw [hplace, endsWord]
    cases s.1.all isIgnorable <;> cases startsCased s.1 <;> simp
  · rw [hplace, hall, hbehind, Bool.true_or, Bool.not_false]
    decide
  · rw [endsWord, startsCased_of_all hall, Bool.false_and]

/-- With a cased character behind, a final sigma that only skipped characters part from it ceases to
be final, and none becomes so: there are too few final sigmas left. -/
theorem not_occursIn_of_back {s : List Char × List Char} (hs : s ∈ sigmas cs)
    (hall : s.2.all isIgnorable = true) (hbefore : startsCased s.1 = true) :
    occursIn (lowerAfter [] cs) (lowerAfter [] (cs ++ ['a'])) = false := by
  have hlower : lowerAfter [] (cs ++ ['a']) = lowerWithin [] ['a'] cs ++ ['a'] := by
    rw [lowerAfter_append]
    rfl
  have hplace : ∀ s : List Char × List Char, endsWord (s.1 ++ []) (s.2 ++ ['a'])
      = (startsCased s.1 && !(s.2.all isIgnorable || startsCased s.2)) := fun s => by
    rw [endsWord, startsCased_append_cased, List.append_nil]
  have hother : ['a'].count (sigma true) = 0 := by decide
  refine not_occursIn_of_count_lt (c := sigma true) ?_
  rw [hlower, List.count_append, hother, Nat.add_zero]
  refine count_lowerWithin_lt hs (fun s _ => ?_) ?_ ?_
  · rw [hplace, endsWord]
    cases s.2.all isIgnorable <;> cases startsCased s.2 <;> simp
  · rw [hplace, hall, Bool.true_or, Bool.not_true, Bool.and_false]
    decide
  · rw [endsWord, hbefore, startsCased_of_all hall, Bool.not_false, Bool.and_self]

/-- A fragment that keeps its sigmas in place is found in lower case. -/
theorem occursIn_lower_of_keepsSigmas {front back : List Char}
    (h : KeepsSigmas front.reverse back cs) :
    occursIn (lowerAfter [] cs) (lowerAfter [] (front ++ cs ++ back)) = true := by
  rw [occursIn_iff, lowerAfter_parts, lowerWithin_eq_iff.2 h]
  exact List.infix_append _ _ _

/-- **A fragment is found in lower case wherever it stands just if its sigmas are settled.** -/
theorem occursIn_lower_iff_settled :
    (∀ n, cs <:+: n → occursIn (lowerAfter [] cs) (lowerAfter [] n) = true) ↔ Settled cs := by
  constructor
  · intro h s hs
    refine ⟨fun hall => ?_, fun hall => ?_⟩
    · have hfound := h ('a' :: cs) (List.infix_cons (List.infix_refl cs))
      by_contra hbehind
      rw [not_occursIn_of_front hs hall (Bool.eq_false_iff.2 hbehind)] at hfound
      cases hfound
    · have hfound := h (cs ++ ['a']) (List.infix_append [] cs ['a'])
      by_contra hbefore
      rw [not_occursIn_of_back hs hall (by simpa using hbefore)] at hfound
      cases hfound
  · rintro h n ⟨front, back, rfl⟩
    exact occursIn_lower_of_keepsSigmas (keepsSigmas_of_settled h _ _)

end TileScope.Text
