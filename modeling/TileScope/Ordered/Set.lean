import TileScope.Ordered.Map

/-!
# Sets in order

A finite set kept as the strictly ascending list of its members. The list is determined by the
set, so equal members mean equal sets, and a listing is sorted and free of repeats.
-/

namespace TileScope

/-- A finite set, listed in strictly ascending order. -/
structure OrderedSet (κ : Type) [Ord κ] where
  toList : List κ
  ascending : toList.Pairwise fun a b => compare a b = .lt

namespace OrderedSet

variable {κ : Type} [Ord κ]

/-- Sets with the same list of elements are the same. -/
@[ext] theorem ext {a b : OrderedSet κ} (h : a.toList = b.toList) : a = b := by
  cases a; cases b; cases h; rfl

instance [DecidableEq κ] : DecidableEq (OrderedSet κ) := fun a b =>
  if h : a.toList = b.toList then isTrue (ext h) else isFalse fun e => h (e ▸ rfl)

instance [Repr κ] : Repr (OrderedSet κ) := ⟨fun s => reprPrec s.toList⟩

/-- The set without members. -/
def empty : OrderedSet κ := ⟨[], .nil⟩

/-- Puts `k` at its place in an ascending list, unless it is there already. -/
def place (k : κ) : List κ → List κ
  | [] => [k]
  | e :: rest =>
    match compare k e with
    | .lt => k :: e :: rest
    | .eq => e :: rest
    | .gt => e :: place k rest

/-- Placing a key adds that one and keeps the others. -/
theorem mem_place [Std.LawfulEqOrd κ] {k j : κ} {l : List κ} : j ∈ place k l ↔ j = k ∨ j ∈ l := by
  induction l with
  | nil => simp [place]
  | cons e rest ih =>
    rw [place]
    split
    · simp
    · next heq =>
      have hke : k = e := Std.LawfulEqCmp.eq_of_compare heq
      subst hke
      simp
    · simp only [List.mem_cons, ih]
      grind

/-- Placing a key keeps the list ascending. -/
theorem ascending_place [Std.TransOrd κ] [Std.LawfulEqOrd κ] (k : κ) {l : List κ}
    (h : l.Pairwise fun a b => compare a b = .lt) :
    (place k l).Pairwise fun a b => compare a b = .lt := by
  induction l with
  | nil => exact List.pairwise_singleton _ _
  | cons e rest ih =>
    obtain ⟨he, hrest⟩ := List.pairwise_cons.1 h
    rw [place]
    split
    · next hlt =>
      refine List.pairwise_cons.2 ⟨fun j hj => ?_, h⟩
      rcases List.mem_cons.1 hj with rfl | hj
      · exact hlt
      · exact Std.TransCmp.lt_trans hlt (he j hj)
    · exact h
    · next hgt =>
      refine List.pairwise_cons.2 ⟨fun j hj => ?_, ih hrest⟩
      rcases mem_place.1 hj with rfl | hj
      · exact Std.OrientedCmp.lt_of_gt hgt
      · exact he j hj

/-- Adds a member. -/
def insert [Std.TransOrd κ] [Std.LawfulEqOrd κ] (s : OrderedSet κ) (k : κ) : OrderedSet κ :=
  ⟨place k s.toList, ascending_place k s.ascending⟩

/-- The set of the members of a list, in whatever order and however often they come. -/
def ofList [Std.TransOrd κ] [Std.LawfulEqOrd κ] (l : List κ) : OrderedSet κ :=
  l.foldl insert empty

instance : Membership κ (OrderedSet κ) := ⟨fun s k => k ∈ s.toList⟩

/-- Whether `k` is a member. -/
def contains [DecidableEq κ] (s : OrderedSet κ) (k : κ) : Bool := decide (k ∈ s.toList)

/-- Whether there are no members. -/
def isEmpty (s : OrderedSet κ) : Bool := s.toList.isEmpty

/-- The elements are those of the list. -/
theorem mem_def {s : OrderedSet κ} {k : κ} : k ∈ s ↔ k ∈ s.toList := Iff.rfl

/-- The test tells whether a key is an element. -/
@[simp] theorem contains_iff_mem [DecidableEq κ] {s : OrderedSet κ} {k : κ} :
    s.contains k = true ↔ k ∈ s := by simp [contains, mem_def]

/-- An insertion adds its key and keeps the others. -/
theorem mem_insert [Std.TransOrd κ] [Std.LawfulEqOrd κ] {s : OrderedSet κ} {k j : κ} :
    j ∈ s.insert k ↔ j = k ∨ j ∈ s := mem_place

/-- The set of a list has the elements of that list. -/
theorem mem_ofList [Std.TransOrd κ] [Std.LawfulEqOrd κ] {l : List κ} {k : κ} :
    k ∈ ofList l ↔ k ∈ l := by
  have step : ∀ (l : List κ) (s : OrderedSet κ), k ∈ l.foldl insert s ↔ k ∈ l ∨ k ∈ s := by
    intro l
    induction l with
    | nil => simp
    | cons e rest ih =>
      intro s
      rw [List.foldl_cons, ih, mem_insert, List.mem_cons]
      grind
  rw [ofList, step]
  simp [mem_def, empty]

/-- The map that gives every member the value of a function. -/
def mapTo {α : Type} (s : OrderedSet κ) (f : κ → α) : OrderedMap κ α :=
  ⟨s.toList.map fun k => (k, f k), List.Pairwise.map _ (fun _ _ h => h) s.ascending⟩

end OrderedSet

end TileScope
