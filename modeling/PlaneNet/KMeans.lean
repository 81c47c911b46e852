import PlaneNet.Cluster
import PlaneNet.Dataset
import PlaneNet.Event

set_option autoImplicit false

namespace PlaneNet

structure KMeans where
  k : Nat
  maxUpdates : Option Nat
  deriving Repr, DecidableEq

section

variable {W R : Type} [Scalar R] [Storage W R]

open Scalar (zero lt belowInfinity)

-- Added to every fitted variance, so that no Gaussian collapses to a point.
def varianceSmoothing : R := Scalar.decimal 1 2

def nearer (d : R) : Option R → Bool
  | none => belowInfinity d
  | some best => lt d best

def nearestFrom (x y : R) : Nat → Nat → Option R → List (Cluster R) → Nat
  | _, best, _, [] => best
  | i, best, distance, c :: cs =>
      let d := c.distanceSq x y
      if nearer d distance then nearestFrom x y (i + 1) i (some d) cs
      else nearestFrom x y (i + 1) best distance cs

def nearest (clusters : List (Cluster R)) (x y : R) : Nat := nearestFrom x y 0 0 none clusters

def Sample.nearest (clusters : List (Cluster R)) (s : Sample W) : Nat :=
  PlaneNet.nearest clusters (widen s.x) (widen s.y)

def assign (samples : List (Sample W)) (clusters : List (Cluster R)) : List Nat :=
  samples.map (·.nearest clusters)

def reassign (clusters : List (Cluster R)) : List (Sample W) → List Nat → List Nat × Nat
  | s :: ss, held :: rest =>
      let now := s.nearest clusters
      let (rest, moved) := reassign clusters ss rest
      (now :: rest, if held = now then moved else moved + 1)
  | _, held => (held, 0)

structure Tally (R : Type) where
  sumX : R
  sumY : R
  count : Nat
  deriving Repr

def Tally.add (t : Tally R) (x y : R) : Tally R := ⟨t.sumX + x, t.sumY + y, t.count + 1⟩

def modifyAt {α : Type} (i : Nat) (f : α → α) (xs : List α) : Except Error (List α) :=
  if i < xs.length then .ok (xs.modify i f) else .error (.fault .outOfBounds)

def tally (k : Nat) (samples : List (Sample W)) (assignment : List Nat) :
    Except Error (List (Tally R)) :=
  (samples.zip assignment).foldlM
    (fun tallies (s, i) => modifyAt i (·.add (widen s.x) (widen s.y)) tallies)
    (List.replicate k ⟨zero, zero, 0⟩)

def fitEach (f : Cluster R → Tally R → Cluster R) :
    Nat → List (Cluster R) → List (Tally R) → Except Error (List (Cluster R))
  | i, c :: cs, t :: ts => do
      if t.count = 0 then .error (.emptyCluster i) else
      return f c t :: (← fitEach f (i + 1) cs ts)
  | _, _, _ => .ok []

def toMean (c : Cluster R) (t : Tally R) : Cluster R :=
  { c with meanX := t.sumX / nat t.count, meanY := t.sumY / nat t.count }

def recenter (samples : List (Sample W)) (assignment : List Nat) (clusters : List (Cluster R)) :
    Except Error (List (Cluster R)) := do
  fitEach toMean 0 clusters (← tally clusters.length samples assignment)

def addSpread (clusters : List (Cluster R)) (tallies : List (Tally R)) (s : Sample W) (i : Nat) :
    Except Error (List (Tally R)) :=
  match clusters[i]? with
  | none => .error (.fault .outOfBounds)
  | some c => modifyAt i (·.add (c.distanceSq (widen s.x) (widen s.y)) zero) tallies

def toVariance (c : Cluster R) (t : Tally R) : Cluster R :=
  { c with variance := t.sumX / nat t.count + varianceSmoothing }

def fitVariances (samples : List (Sample W)) (assignment : List Nat) (clusters : List (Cluster R)) :
    Except Error (List (Cluster R)) := do
  let tallies ← (samples.zip assignment).foldlM (fun tallies (s, i) => addSpread clusters tallies s i)
    (List.replicate clusters.length ⟨zero, zero, 0⟩)
  fitEach toVariance 0 clusters tallies

structure Settled (R : Type) where
  updates : Nat
  assignment : List Nat
  clusters : List (Cluster R)

namespace KMeans

def ofCount (k : Nat) (maxUpdates : Option Nat) : Except Error KMeans :=
  if k = 0 then .error (.invalidConfig .noCenters) else .ok ⟨k, maxUpdates⟩

def capped (m : KMeans) (n : Nat) : KMeans := { m with maxUpdates := some n }

def exhausted (m : KMeans) (updates : Nat) : Bool :=
  match m.maxUpdates with
  | none => false
  | some n => n ≤ updates

def settle (m : KMeans) (samples : List (Sample W)) :
    Nat → Nat → List Nat → List (Cluster R) → Reported (Except Error (Settled R))
  | 0, _, _, _ => ⟨[], .error .endless⟩
  | passes + 1, updates, assignment, clusters =>
      let (assignment, moved) := reassign clusters samples assignment
      let seen := Event.pass updates moved
      if moved = 0 then ⟨[seen], .ok ⟨updates, assignment, clusters⟩⟩
      else if m.exhausted updates then ⟨[seen], .error (.notConverged updates)⟩
      else match recenter samples assignment clusters with
        | .error e => ⟨[seen], .error e⟩
        | .ok clusters =>
          let later := m.settle samples passes (updates + 1) assignment clusters
          ⟨seen :: later.events, later.value⟩

/--
More passes than this only repeat. An assignment determines the centers and so the next assignment, and
there are `k ^ n` of them.
-/
def passLimit (m : KMeans) (samples : Nat) : Nat :=
  match m.maxUpdates with
  | none => Nat.pow m.k samples + 1
  | some n => n + 1

def fitFrom (m : KMeans) (samples : List (Sample W)) (clusters : List (Cluster R)) :
    Reported (Except Error (List (Cluster R))) :=
  if clusters.length ≠ m.k then
    ⟨[], .error (.invalidConfig (.startingCenters m.k clusters.length))⟩
  else
    let run := m.settle samples (m.passLimit samples.length) 0
      (List.replicate samples.length m.k) clusters
    match run.value with
    | .error e => ⟨run.events, .error e⟩
    | .ok settled =>
      match fitVariances samples settled.assignment settled.clusters with
      | .error e => ⟨run.events, .error e⟩
      | .ok clusters => ⟨run.events ++ [.converged settled.updates m.k], .ok clusters⟩

def seedAt (d : Dataset W) (position : Nat) : Except Error (Cluster R) := do
  let s ← d.visited position
  return ⟨widen s.x, widen s.y, zero⟩

structure Fit (W R G : Type) where
  data : Dataset W
  words : G
  result : Reported (Except Error (List (Cluster R)))

def fit {G : Type} [Random.Source G] (m : KMeans) (d : Dataset W) (words : G) : Fit W R G :=
  if d.size < m.k then
    ⟨d, words, [], .error (.invalidConfig (.fewSamples m.k d.size))⟩
  else
    let (d, words) := d.shuffle words
    match (List.range m.k).mapM (seedAt d) with
    | .error e => ⟨d, words, [], .error e⟩
    | .ok seeds => ⟨d, words, m.fitFrom d.samples.toList seeds⟩

end KMeans

end

end PlaneNet
