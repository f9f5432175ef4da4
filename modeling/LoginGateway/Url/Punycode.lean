namespace LoginGateway.Url.Punycode

def digitChar (d : Nat) : Char := if d < 26 then Char.ofNat (97 + d) else Char.ofNat (22 + d)

def digit? (c : Char) : Option Nat :=
  if c.isLower then some (c.toNat - 97)
  else if c.isUpper then some (c.toNat - 65)
  else if c.isDigit then some (c.toNat - 22)
  else none

/-- A digit below the threshold of its place is the last of its number. -/
def threshold (bias place : Nat) : Nat :=
  if place ≤ bias + 1 then 1 else if bias + 26 ≤ place then 26 else place - bias

theorem threshold_pos (bias place : Nat) : 1 ≤ threshold bias place := by
  unfold threshold
  split
  · omega
  · split <;> omega

def scaleDown (delta k : Nat) : Nat :=
  if 455 < delta then scaleDown (delta / 35) (k + 36) else k + 36 * delta / (delta + 38)
  termination_by delta

/-- The bias after the distance `delta`, when `points` characters are in place. -/
def adapt (delta points : Nat) (first : Bool) : Nat :=
  let delta := if first then delta / 700 else delta / 2
  scaleDown (delta + delta / points) 0

def writeDistance (bias place q : Nat) : List Char :=
  let t := threshold bias place
  if q < t then [digitChar q]
  else digitChar (t + (q - t) % (36 - t)) :: writeDistance bias (place + 36) ((q - t) / (36 - t))
  termination_by q
  decreasing_by
    have := threshold_pos bias place
    have : (q - threshold bias place) / (36 - threshold bias place) ≤ q - threshold bias place :=
      Nat.div_le_self _ _
    omega

structure Writer where
  out : List Char
  n : Nat := 128
  delta : Nat := 0
  bias : Nat := 72
  done : Nat
  first : Bool := true

/-- Places every occurrence of the code point `m`, the smallest one left. -/
def Writer.place (points : List Nat) (w : Writer) (m : Nat) : Writer :=
  let start := { w with delta := w.delta + (m - w.n) * (w.done + 1), n := m }
  let after := points.foldl (fun w c =>
    if c < m then { w with delta := w.delta + 1 }
    else if c = m then
      { w with
        out := w.out ++ writeDistance w.bias 36 w.delta
        bias := adapt w.delta (w.done + 1) w.first
        delta := 0
        done := w.done + 1
        first := false }
    else w) start
  { after with delta := after.delta + 1, n := m + 1 }

def encode (cs : List Char) : List Char :=
  let basic := cs.filter (·.toNat < 128)
  let points := cs.map Char.toNat
  let others := ((points.filter (128 ≤ ·)).mergeSort (· ≤ ·)).eraseDups
  let front := if basic.isEmpty then [] else basic ++ ['-']
  (others.foldl (Writer.place points) ⟨front, 128, 0, 72, basic.length, true⟩).out

structure Reader where
  out : List Nat
  n : Nat := 128
  i : Nat := 0
  bias : Nat := 72
  weight : Nat := 1
  place : Nat := 36
  start : Nat := 0

def Reader.step (r : Reader) (c : Char) : Option Reader := do
  let d ← digit? c
  let i := r.i + d * r.weight
  let t := threshold r.bias r.place
  if d < t then
    let points := r.out.length + 1
    let n := r.n + i / points
    if 0x10FFFF < n || (0xD800 ≤ n && n ≤ 0xDFFF) then none
    else
      let spot := i % points
      let out := r.out.take spot ++ n :: r.out.drop spot
      some ⟨out, n, spot + 1, adapt (i - r.start) points (r.start == 0), 1, 36, spot + 1⟩
  else some { r with i := i, weight := r.weight * (36 - t), place := r.place + 36 }

def decode? (cs : List Char) : Option (List Char) := do
  let digits := (cs.reverse.takeWhile (· != '-')).reverse
  let basic := cs.take (cs.length - digits.length - 1)
  let r ← digits.foldlM Reader.step ⟨basic.map Char.toNat, 128, 0, 72, 1, 36, 0⟩
  if r.weight == 1 && r.place == 36 then some (r.out.map Char.ofNat) else none

example : encode "bücher".toList = "bcher-kva".toList := by decide +kernel

example : decode? "bcher-kva".toList = some "bücher".toList := by decide +kernel

end LoginGateway.Url.Punycode
