import RequestBinding.Regex.Program

/-!
# Where expressions stop

The meaning of an expression at a place is the list of the places where a match can stop, the
preferred one first: of two alternatives the left one is preferred, and a greedy repetition prefers
more iterations while a reluctant one prefers fewer. A place occurs at most once in the list, with
the captures of the most preferred way to it; this keeps matching polynomial.

## Main definitions

* `Regex.stops` - the meaning
* `Regex.find` - the first match in a text
-/

namespace RequestBinding.Regex

/-- Keeps the first stop at each place. -/
def firsts (ss : List Stop) : List Stop := (ss.foldl Found.add .none).toList

/-- Continues at each of a list of stops. -/
def follow (ss : List Stop) (next : Cursor → List Stop) : List Stop :=
  firsts (ss.flatMap fun s => (next s.cursor).map (Stop.after s.captures))

/-- Either the stops of a body or the place itself, in the order that the body's greed says. -/
def optionally (body : Cursor → List Stop) (greedy : Bool) (c : Cursor) : List Stop :=
  let here : Stop := ⟨[], c⟩
  firsts (if greedy then body c ++ [here] else here :: body c)

/-- The stops of exactly `n` further iterations from each of a list of stops. -/
def iterated (body : Cursor → List Stop) : Nat → List Stop → List Stop
  | 0, ss => ss
  | n + 1, ss =>
    match ss with
    | [] => []
    | ss => iterated body n (follow ss body)

/-- Adds the stops of all further iterations from `s`, each of which takes at least one
character. -/
def iterate (body : Cursor → List Stop) (greedy : Bool) (s : Stop) (f : Found) : Found :=
  if f.has s.cursor then f
  else
    let again := fun f =>
      (body s.cursor).foldl (fun f e =>
        if _h : e.cursor.left < s.cursor.left then
          iterate body greedy (e.after s.captures) f
        else f) f
    if greedy then (again f).add s else again (f.add s)
  termination_by s.cursor.left

/-- The stops of any number of iterations, each of which takes at least one character. -/
def anyNumber (body : Cursor → List Stop) (greedy : Bool) (c : Cursor) : List Stop :=
  (iterate body greedy ⟨[], c⟩ .none).toList

/-- The stops of a repetition of `r`. A repetition that may go round without taking anything, one
with a range of counts, and one of a body that has loops itself are left to a program. -/
def repeated (r : Regex) (body : Cursor → List Stop) (greedy : Bool) (low : Nat)
    (high : Option Nat) (c : Cursor) : List Stop :=
  if low == 0 && high == some 1 then optionally body greedy c
  else if r.hasLoop then searched (.rep greedy low high r) c
  else
    match high with
    | some n =>
      let start := iterated body low [⟨[], c⟩]
      if n ≤ low then start else follow start (searched (.rep greedy 0 (some (n - low)) r))
    | none =>
      if r.takesSome then follow (iterated body low [⟨[], c⟩]) (anyNumber body greedy)
      else
        follow (iterated body (low - 1) [⟨[], c⟩]) (searched (.rep greedy (min low 1) none r))

/-- The places where a match from a place can stop, the preferred one first. -/
def stops : Regex → Cursor → List Stop
  | .empty, c => [⟨[], c⟩]
  | .literal text, c =>
    match c.skip? text with
    | some d => [⟨[], d⟩]
    | none => []
  | .set s, c =>
    match c.next? with
    | some (x, d) => if s.mem x.toNat then [⟨[], d⟩] else []
    | none => []
  | .look l, c => if l.holds c then [⟨[], c⟩] else []
  | .seq r s, c => follow (r.stops c) s.stops
  | .alt r s, c => firsts (r.stops c ++ s.stops c)
  | .rep greedy low high r, c => repeated r r.stops greedy low high c
  | .group name r, c =>
    (r.stops c).map fun s => ⟨s.captures ++ captured name c s.cursor, s.cursor⟩

/-- The preferred match that starts at a place, or else at the first place behind it where one
starts. -/
def findFrom (r : Regex) (c : Cursor) : Option Stop :=
  match (r.stops c).head? with
  | some s => some s
  | none =>
    match _h : c.next? with
    | some (_, d) => findFrom r d
    | none => none
  termination_by c.left
  decreasing_by exact Cursor.left_lt_of_next? (by assumption)

/-- The preferred one of the matches that start first in a text. -/
def find (r : Regex) (cs : List Char) : Option Stop := r.findFrom (Cursor.start cs)

end RequestBinding.Regex
