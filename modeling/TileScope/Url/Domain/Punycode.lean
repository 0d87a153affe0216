/-!
# Names in ASCII

A label with characters outside ASCII is written in ASCII: first its ASCII characters, then `-` if
there are any, and then where the others stand. These are put in one after the other, from the
lowest code point on and from left to right. From one to the next, the number of places passed is
written: the places of the name so far, over and over for every code point.

A number is written with the digits `a` to `z` and `0` to `9`, the lowest place first. A digit below
the threshold of its place is the last. The thresholds follow from the place and from a bias, which
adapts to the numbers before.
-/

namespace TileScope.Url.Domain.Punycode

/-- The digit for a value below 36. -/
def digit (n : Nat) : Char := Char.ofNat (if n < 26 then 'a'.toNat + n else '0'.toNat + (n - 26))

/-- The value of a digit. -/
def value? (c : Char) : Option Nat :=
  if 'a' ≤ c ∧ c ≤ 'z' then some (c.toNat - 'a'.toNat)
  else if c.isDigit then some (c.toNat - '0'.toNat + 26)
  else none

/-- The threshold of a place. -/
def threshold (bias place : Nat) : Nat := max 1 (min 26 (36 * place - bias))

/-- A threshold is at least one. -/
theorem threshold_pos (bias place : Nat) : 0 < threshold bias place := by
  simp only [threshold]
  omega

/-- How often a number is divided by 35 until it is at most 455, and what is left. -/
def reduced (n : Nat) : Nat × Nat :=
  if 455 < n then
    let (times, left) := reduced (n / 35)
    (times + 1, left)
  else (0, n)
termination_by n
decreasing_by exact Nat.div_lt_self (by omega) (by omega)

/-- The bias behind a number, with so many characters written. The first number says least about
those to come. -/
def adapted (n written : Nat) (isFirst : Bool) : Nat :=
  let n := if isFirst then n / 700 else n / 2
  let (times, left) := reduced (n + n / written)
  36 * times + 36 * left / (left + 38)

/-- The digits of a number, from a place on. -/
def number (bias place n : Nat) : List Char :=
  let t := threshold bias place
  if n < t then [digit n]
  else digit (t + (n - t) % (36 - t)) :: number bias (place + 1) ((n - t) / (36 - t))
termination_by n
decreasing_by
  have h := threshold_pos bias place
  calc (n - threshold bias place) / (36 - threshold bias place)
      ≤ n - threshold bias place := Nat.div_le_self ..
    _ < n := by omega

/-- A number written on. -/
structure Progress where
  digits : List Char
  /-- The places passed since the last number. -/
  passed : Nat
  bias : Nat
  /-- The characters written so far. -/
  written : Nat

/-- Passes a character while those of the code point `code` are put in. -/
def Progress.pass (plain code : Nat) (p : Progress) (c : Char) : Progress :=
  if c.toNat < code then { p with passed := p.passed + 1 }
  else if c.toNat = code then
    { digits := p.digits ++ number p.bias 1 p.passed
      passed := 0
      bias := adapted p.passed (p.written + 1) (p.written = plain)
      written := p.written + 1 }
  else p

/-- Puts in the characters of the code points given, from `code` on. -/
def Progress.run (cs : List Char) (plain : Nat) : (code : Nat) → List Nat → Progress → Progress
  | _, [], p => p
  | code, next :: more, p =>
    let p := { p with passed := p.passed + (next - code) * (p.written + 1) }
    let p := cs.foldl (Progress.pass plain next) p
    run cs plain (next + 1) more { p with passed := p.passed + 1 }

/-- Puts a number into an ascending list that does not have it yet. -/
def insert (n : Nat) : List Nat → List Nat
  | [] => [n]
  | m :: rest => if n < m then n :: m :: rest else if n = m then m :: rest else m :: insert n rest

/-- A name in ASCII. -/
def encode (cs : List Char) : List Char :=
  let plain := cs.filter (·.toNat < 0x80)
  let codes := ((cs.map Char.toNat).filter (0x80 ≤ ·)).foldr insert []
  plain ++ (if plain = [] then [] else ['-'])
    ++ (Progress.run cs plain.length 0x80 codes ⟨[], 0, 72, plain.length⟩).digits

/-- Reads a number from a place on, with the weight of the place, and what is behind it. -/
def number? (bias : Nat) : (place weight : Nat) → List Char → Option (Nat × List Char)
  | _, _, [] => none
  | place, weight, c :: rest => do
    let n ← value? c
    let t := threshold bias place
    if n < t then return (n * weight, rest)
    else
      let (more, rest) ← number? bias (place + 1) (weight * (36 - t)) rest
      return (n * weight + more, rest)

/-- A number has at least one digit. -/
theorem length_lt_of_number?_eq_some {bias place weight n : Nat} {cs rest : List Char}
    (h : number? bias place weight cs = some (n, rest)) : rest.length < cs.length := by
  induction cs generalizing place weight n rest with
  | nil => simp [number?] at h
  | cons c cs ih =>
    simp only [number?, Option.bind_eq_bind, Option.bind_eq_some_iff, Option.pure_def] at h
    obtain ⟨v, _, h⟩ := h
    split at h
    · obtain ⟨_, rfl⟩ := Prod.mk.inj (Option.some.inj h)
      simp
    · obtain ⟨⟨m, more⟩, hm, h⟩ := Option.bind_eq_some_iff.1 h
      obtain ⟨_, rfl⟩ := Prod.mk.inj (Option.some.inj h)
      have := ih hm
      simp only [List.length_cons]
      omega

/-- Puts characters into a name, from the place `index` and the code point `code` on. -/
def putIn? (name : List Char) (code index bias : Nat) (isFirst : Bool) (cs : List Char) :
    Option (List Char) :=
  match cs with
  | [] => some name
  | c :: rest =>
    match _h : number? bias 1 1 (c :: rest) with
    | none => none
    | some (n, rest) =>
      let length := name.length + 1
      let code := code + (index + n) / length
      let index := (index + n) % length
      if code.isValidChar then
        putIn? (name.insertIdx index (Char.ofNat code)) code (index + 1)
          (adapted n length isFirst) false rest
      else none
termination_by cs.length
decreasing_by exact length_lt_of_number?_eq_some _h

/-- The name that ASCII characters write. -/
def decode? (cs : List Char) : Option (List Char) :=
  let front := (cs.reverse.dropWhile (· ≠ '-')).reverse
  if front.length ≤ 1 then putIn? [] 0x80 0 72 true cs
  else putIn? front.dropLast 0x80 0 72 true (cs.drop front.length)

end TileScope.Url.Domain.Punycode
